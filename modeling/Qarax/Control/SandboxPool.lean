import Qarax.Core.Interleave
import Qarax.Core.Records
import Qarax.Control.Vms

/-!
# Prewarmed sandboxes

A sandbox pool keeps VMs running so that a sandbox is there at once.  Creating a sandbox claims a
ready member in one transaction: it locks the member's row, writes the sandbox, and deletes the
row.  The pool manager lists members and then destroys those that are too many or have failed, one
after the other, and deleting a pool destroys all of them.  It does not look at a row again between
listing it and destroying the VM, and marking a row that is gone is no error.

Statements of all of them interleave.  `FOR UPDATE SKIP LOCKED` locks a row until its transaction
ends, and other statements that write the row wait.  `claimed` and `victims` are kept for the
property only: the VMs of committed claims, and those of them that `destroy_vm` was called on
afterwards.

* `destroyNext` — the statements of `destroy_member`, over a list.
* `syncNext`, `deleteNext`, `claimNext` — `sync_pool`, the deletion of a pool, and a claim.
* `Effect` — what a statement can do.
* `unlisted` — a claim commits while nobody has the member on a list.
-/

namespace Qarax

namespace Sandboxes

open Interleave Machine

/-! ## Tables -/

inductive MemberStatus where
  | provisioning
  | ready
  | error
  | destroying
  deriving DecidableEq

structure SandboxPool where
  id : Uuid
  vmTemplateId : Uuid
  minReady : ℕ

structure Member where
  id : Uuid
  sandboxPoolId : Uuid
  vmId : Uuid
  status : MemberStatus
  errorMessage : Option String

structure Sandbox where
  id : Uuid
  vmId : Uuid
  vmTemplateId : Uuid
  name : String

structure PoolDb where
  pools : List SandboxPool
  /-- In the order of `created_at`. -/
  members : List Member
  sandboxes : List Sandbox
  vms : List Uuid
  /-- Locked rows of `sandbox_pool_members`. -/
  locks : List Uuid
  /-- The ids that VMs were given so far. -/
  drawn : List Uuid
  claimed : List Uuid
  victims : List Uuid

namespace PoolDb

/-- `list_error_by_pool`, `list_ready_by_pool` -/
def listByStatus (db : PoolDb) (poolId : Uuid) (status : MemberStatus) : List Member :=
  db.members.filter fun m => m.sandboxPoolId = poolId && m.status = status

def listByPool (db : PoolDb) (poolId : Uuid) : List Member :=
  db.members.filter (·.sandboxPoolId = poolId)

/-- `update_status`, which waits for a lock. -/
def updateStatus (db : PoolDb) (id : Uuid) (status : MemberStatus) (errorMessage : Option String) :
    Option PoolDb :=
  if id ∈ db.locks then none
  else some { db with
    members := Rows.update Member.id id (fun m => { m with status, errorMessage }) db.members }

def deleteMember (db : PoolDb) (id : Uuid) : Option PoolDb :=
  if id ∈ db.locks then none else some { db with members := db.members.filter (·.id ≠ id) }

/-- `vms::delete`; the rows of the VM go with it. -/
def deleteVm (db : PoolDb) (vmId : Uuid) : Option PoolDb :=
  if db.members.any fun m => m.vmId = vmId && m.id ∈ db.locks then none
  else some { db with
    vms := db.vms.filter (· ≠ vmId)
    members := db.members.filter (·.vmId ≠ vmId)
    sandboxes := db.sandboxes.filter (·.vmId ≠ vmId) }

/-- `sandbox_pools::delete_tx`; the members of the pool go with it. -/
def deletePool (db : PoolDb) (vmTemplateId : Uuid) : Option PoolDb :=
  let gone := (db.pools.filter (·.vmTemplateId = vmTemplateId)).map (·.id)
  if db.members.any fun m => m.sandboxPoolId ∈ gone && m.id ∈ db.locks then none
  else some { db with
    pools := db.pools.filter (·.vmTemplateId ≠ vmTemplateId)
    members := db.members.filter (·.sandboxPoolId ∉ gone) }

/-- `sandbox_pool_members::create` with the constraints of the table. -/
def createMember (db : PoolDb) (m : Member) : Option PoolDb :=
  if m.id ∈ db.members.map Member.id ∨ m.vmId ∈ db.members.map Member.vmId ∨ m.vmId ∉ db.vms ∨
    m.sandboxPoolId ∉ db.pools.map SandboxPool.id then none
  else some { db with members := db.members ++ [m] }

/-- `claim_ready_for_template_tx` -/
def claimable (db : PoolDb) (vmTemplateId : Uuid) : Option Member :=
  db.members.find? fun m => m.status = .ready && m.id ∉ db.locks &&
    db.pools.any fun p => p.id = m.sandboxPoolId && p.vmTemplateId = vmTemplateId

/-- `destroy_vm` is called. -/
def callDestroy (db : PoolDb) (vmId : Uuid) : PoolDb :=
  { db with victims := if vmId ∈ db.claimed then vmId :: db.victims else db.victims }

def unlock (db : PoolDb) (id : Uuid) : PoolDb := { db with locks := db.locks.filter (· ≠ id) }

/-- What a claim has written is there when it commits. -/
def commitClaim (db : PoolDb) (m : Member) (sandbox : Sandbox) : PoolDb :=
  { db with
    members := db.members.filter (·.id ≠ m.id)
    sandboxes := sandbox :: db.sandboxes
    locks := db.locks.filter (· ≠ m.id)
    claimed := m.vmId :: db.claimed }

end PoolDb

/-- What comes of a statement or a call. -/
inductive Outcome where
  | ok
  | fail (message : String)
  /-- It succeeds with this new id. -/
  | drew (id : Uuid)
  deriving DecidableEq

/-! ## `destroy_member` -/

inductive Stage where
  | mark
  | call
  | deleteVm
  | deleteRow

/-- A loop of `destroy_member` over a list. -/
structure Loop where
  stage : Stage
  member : Member
  rest : List Member

def Loop.start : List Member → Option Loop
  | [] => none
  | member :: rest => some ⟨.mark, member, rest⟩

/-- What fails in between is logged. -/
def destroyNext (db : PoolDb) (o : Outcome) (l : Loop) : Option (Option Loop × PoolDb) :=
  match l.stage with
  | .mark =>
    let l := { l with stage := .call }
    if o = .ok then
      (db.updateStatus l.member.id .destroying l.member.errorMessage).map fun db => (some l, db)
    else some (some l, db)
  | .call => some (some { l with stage := .deleteVm }, db.callDestroy l.member.vmId)
  | .deleteVm =>
    let l := { l with stage := .deleteRow }
    if o = .ok then (db.deleteVm l.member.vmId).map fun db => (some l, db) else some (some l, db)
  | .deleteRow =>
    if o = .ok then (db.deleteMember l.member.id).map fun db => (Loop.start l.rest, db)
    else some (Loop.start l.rest, db)

/-- The VMs that `destroy_vm` is still to be called on. -/
def Loop.pending (l : Loop) : List Uuid :=
  match l.stage with
  | .mark | .call => l.member.vmId :: l.rest.map Member.vmId
  | .deleteVm | .deleteRow => l.rest.map Member.vmId

/-! ## `sync_pool` -/

inductive SyncPc where
  | listErrors
  | errors (loop : Loop)
  | listReady
  | surplus (loop : Loop)
  | countReady
  | countProvisioning (ready : ℕ)
  /-- So many members are to be provisioned. -/
  | provision (deficit : ℕ)
  /-- `create_vm_internal` has made a VM. -/
  | create (vmId : Uuid) (deficit : ℕ)
  | get (memberId : Uuid) (deficit : ℕ)
  | start (memberId : Uuid) (deficit : ℕ)
  | markError (memberId : Uuid) (message : String) (deficit : ℕ)
  | done

def syncNext (pool : SandboxPool) (db : PoolDb) (o : Outcome) : SyncPc → Option (SyncPc × PoolDb)
  | .listErrors =>
    if o = .ok then
      some ((Loop.start (db.listByStatus pool.id .error)).elim .listReady .errors, db)
    else some (.done, db)
  | .errors loop => (destroyNext db o loop).map fun (loop, db) => (loop.elim .listReady .errors, db)
  | .listReady =>
    let ready := db.listByStatus pool.id .ready
    if o = .ok then
      let surplus := ready.take (ready.length - pool.minReady)
      some ((Loop.start surplus).elim .countReady .surplus, db)
    else some (.done, db)
  | .surplus loop =>
    (destroyNext db o loop).map fun (loop, db) => (loop.elim .countReady .surplus, db)
  | .countReady =>
    let ready := (db.listByStatus pool.id .ready).length
    some (if o = .ok then .countProvisioning ready else .done, db)
  | .countProvisioning ready =>
    let provisioning := (db.listByStatus pool.id .provisioning).length
    some (if o = .ok then .provision (pool.minReady - (ready + provisioning)) else .done, db)
  | .provision 0 => none
  | .provision (n + 1) =>
    match o with
    | .drew vmId =>
      if vmId ∈ db.drawn then none
      else some (.create vmId n, { db with vms := vmId :: db.vms, drawn := vmId :: db.drawn })
    | _ => some (.provision n, db)
  | .create vmId n =>
    match o with
    | .drew id =>
      match db.createMember ⟨id, pool.id, vmId, .provisioning, none⟩ with
      | some db => some (.get id n, db)
      | none => some (.provision n, db)
    | _ => some (.provision n, db)
  | .get memberId n => some (if o = .ok then .start memberId n else .provision n, db)
  | .start memberId n =>
    -- a watcher of the member begins when the VM has been started
    match o with
    | .fail message => some (.markError memberId message n, db)
    | _ => some (.provision n, db)
  | .markError memberId message n =>
    if o = .ok then
      (db.updateStatus memberId .error (some message)).map fun db => (.provision n, db)
    else some (.provision n, db)
  | .done => none

/-! ## Deleting a pool -/

inductive DeletePc where
  | getConfig
  | list (poolId : Uuid)
  | destroy (loop : Loop)
  | deletePool
  | done

def deleteNext (vmTemplateId : Uuid) (db : PoolDb) (o : Outcome) :
    DeletePc → Option (DeletePc × PoolDb)
  | .getConfig =>
    if o = .ok then
      some (((db.pools.find? (·.vmTemplateId = vmTemplateId)).map (·.id)).elim .done .list, db)
    else some (.done, db)
  | .list poolId =>
    if o = .ok then some ((Loop.start (db.listByPool poolId)).elim .deletePool .destroy, db)
    else some (.done, db)
  | .destroy loop =>
    (destroyNext db o loop).map fun (loop, db) => (loop.elim .deletePool .destroy, db)
  | .deletePool =>
    if o = .ok then (db.deletePool vmTemplateId).map fun db => (.done, db) else some (.done, db)
  | .done => none

/-! ## Claims and watchers -/

structure NewSandbox where
  name : String
  vmTemplateId : Uuid
  instanceTypeId : Option Uuid
  networkId : Option Uuid

/-- Where `try_claim_prewarmed_sandbox` is. -/
inductive ClaimPc where
  | select
  | createJob (member : Member)
  | updateName (member : Member)
  | createSandbox (member : Member)
  | deleteRow (member : Member) (sandbox : Sandbox)
  | commit (member : Member) (sandbox : Sandbox)
  | done

def claimNext (req : NewSandbox) (db : PoolDb) (o : Outcome) : ClaimPc → Option (ClaimPc × PoolDb)
  | .select =>
    if req.instanceTypeId.isSome ∨ req.networkId.isSome ∨ o ≠ .ok then some (.done, db)
    else match db.claimable req.vmTemplateId with
      | none => some (.done, db)
      | some m => some (.createJob m, { db with locks := m.id :: db.locks })
  | .createJob m => some (if o = .ok then (.updateName m, db) else (.done, db.unlock m.id))
  | .updateName m => some (if o = .ok then (.createSandbox m, db) else (.done, db.unlock m.id))
  | .createSandbox m =>
    match o with
    | .drew id => some (.deleteRow m ⟨id, m.vmId, req.vmTemplateId, req.name⟩, db)
    | _ => some (.done, db.unlock m.id)
  | .deleteRow m sandbox =>
    some (if o = .ok then (.commit m sandbox, db) else (.done, db.unlock m.id))
  | .commit m sandbox =>
    some (.done, if o = .ok then db.commitClaim m sandbox else db.unlock m.id)
  | .done => none

/-- `ReadyOutcome` of a watched member. -/
inductive ReadyOutcome where
  | ready
  | failed (message : String)
  | timedOut
  | gone

def reportReady (memberId : Uuid) (db : PoolDb) : ReadyOutcome → Option PoolDb
  | .ready => db.updateStatus memberId .ready none
  | .failed message => db.updateStatus memberId .error (some message)
  | .timedOut => db.updateStatus memberId .error (some "timed out waiting for VM to start")
  | .gone => some db

inductive PoolTask where
  | sync (pool : SandboxPool) (pc : SyncPc)
  | delete (vmTemplateId : Uuid) (pc : DeletePc)
  | claim (req : NewSandbox) (pc : ClaimPc)
  | watch (memberId : Uuid) (outcome : ReadyOutcome)
  | watched

namespace PoolTask

/-- A sync begins with the pool as it was read, and a watcher with what it will find. -/
def begins : PoolTask → Bool
  | .sync _ .listErrors | .delete _ .getConfig | .claim _ .select | .watch _ _ => true
  | _ => false

/-- **One statement.** -/
def next (db : PoolDb) (task : PoolTask) (o : Outcome) : Option (PoolTask × PoolDb) :=
  match task with
  | .sync pool pc => (syncNext pool db o pc).map fun (pc, db) => (.sync pool pc, db)
  | .delete template pc =>
    (deleteNext template db o pc).map fun (pc, db) => (.delete template pc, db)
  | .claim req pc => (claimNext req db o pc).map fun (pc, db) => (.claim req pc, db)
  | .watch memberId outcome =>
    if o = .ok then (reportReady memberId db outcome).map fun db => (.watched, db)
    else some (.watched, db)
  | .watched => none

end PoolTask

abbrev Service := Pool PoolDb PoolTask

abbrev serviceStep : Service → Act PoolTask Outcome → Option Service :=
  step PoolTask.begins PoolTask.next

/-! ## What a statement can do -/

namespace PoolTask

/-- The VMs the task has on a list, to be destroyed. -/
def pending : PoolTask → List Uuid
  | .sync _ (.errors loop) | .sync _ (.surplus loop) | .delete _ (.destroy loop) => loop.pending
  | _ => []

/-- The VM the task has made and has no row for yet. -/
def fresh : PoolTask → Option Uuid
  | .sync _ (.create vmId _) => some vmId
  | _ => none

/-- The member whose row the task has locked. -/
def holds : PoolTask → Option Member
  | .claim _ (.createJob m) | .claim _ (.updateName m) | .claim _ (.createSandbox m)
  | .claim _ (.deleteRow m _) | .claim _ (.commit m _) => some m
  | _ => none

/-- Nothing listed, made or locked. -/
structure Idle (t : PoolTask) : Prop where
  pending : t.pending = []
  fresh : t.fresh = none
  holds : t.holds = none

end PoolTask

def Member.key (m : Member) : Uuid × Uuid := (m.id, m.vmId)

/-- Rows are written or deleted, but no locked one is deleted. -/
structure Trims (db db' : PoolDb) : Prop where
  keys : (db'.members.map Member.key).Sublist (db.members.map Member.key)
  locked : ∀ k ∈ db.members.map Member.key, k.1 ∈ db.locks → k ∈ db'.members.map Member.key
  locks : db'.locks = db.locks
  drawn : db'.drawn = db.drawn
  claimed : db'.claimed = db.claimed
  victims : db'.victims = db.victims

/-- **What a statement of `t` can do.** -/
inductive Effect (db : PoolDb) (t t' : PoolTask) (o : Outcome) : PoolDb → Prop
  | write (db' : PoolDb) : Trims db db' →
      (∀ v ∈ t'.pending, v ∈ t.pending ∨ v ∈ db.members.map Member.vmId) → t'.fresh = none →
      t'.holds = t.holds → Effect db t t' o db'
  | call (v : Uuid) : v ∈ t.pending → (∀ w ∈ t'.pending, w ∈ t.pending) → t'.fresh = none →
      t'.holds = t.holds → Effect db t t' o (db.callDestroy v)
  | draw (v : Uuid) : v ∉ db.drawn → t'.pending = [] → t'.fresh = some v → t'.holds = none →
      Effect db t t' o { db with vms := v :: db.vms, drawn := v :: db.drawn }
  | create (m : Member) : t.fresh = some m.vmId → t'.Idle →
      Effect db t t' o { db with members := db.members ++ [m] }
  | select (m : Member) : m ∈ db.members → m.id ∉ db.locks → t'.pending = [] → t'.fresh = none →
      t'.holds = some m → Effect db t t' o { db with locks := m.id :: db.locks }
  | release (m : Member) : t.holds = some m → t'.Idle → Effect db t t' o (db.unlock m.id)
  | commit (req : NewSandbox) (m : Member) (sandbox : Sandbox) :
      t = .claim req (.commit m sandbox) → o = .ok → t'.Idle →
      Effect db t t' o (db.commitClaim m sandbox)

section Effects

variable {db db' : PoolDb} {o : Outcome} {t t' : PoolTask}

lemma Trims.refl (db : PoolDb) : Trims db db :=
  ⟨.refl _, fun _ hk _ => hk, rfl, rfl, rfl, rfl⟩

lemma trims_updateStatus {id : Uuid} {status : MemberStatus} {message : Option String}
    (h : db.updateStatus id status message = some db') : Trims db db' := by
  unfold PoolDb.updateStatus at h
  split_ifs at h
  cases h
  have hkeys : (Rows.update Member.id id (fun m => { m with status, errorMessage := message })
      db.members).map Member.key = db.members.map Member.key := Rows.map_update fun _ => rfl
  exact ⟨by rw [hkeys], fun k hk _ => by rwa [hkeys], rfl, rfl, rfl, rfl⟩

/-- Deleting rows none of which is locked. -/
lemma trims_filter {p : Member → Bool} (hp : ∀ m ∈ db.members, m.id ∈ db.locks → p m = true)
    (pools : List SandboxPool) (sandboxes : List Sandbox) (vms : List Uuid) :
    Trims db { db with members := db.members.filter p, pools, sandboxes, vms } := by
  refine ⟨List.filter_sublist.map _, fun k hk hlocked => ?_, rfl, rfl, rfl, rfl⟩
  obtain ⟨m, hm, rfl⟩ := List.mem_map.1 hk
  exact List.mem_map_of_mem (List.mem_filter.2 ⟨hm, hp m hm hlocked⟩)

lemma trims_deleteMember {id : Uuid} (h : db.deleteMember id = some db') : Trims db db' := by
  unfold PoolDb.deleteMember at h
  split_ifs at h with hid
  cases h
  refine trims_filter (fun m _ hlocked => ?_) db.pools db.sandboxes db.vms
  exact decide_eq_true fun heq => hid (heq ▸ hlocked)

lemma trims_deleteVm {vmId : Uuid} (h : db.deleteVm vmId = some db') : Trims db db' := by
  unfold PoolDb.deleteVm at h
  split_ifs at h with hid
  cases h
  refine trims_filter (fun m hm hlocked => ?_) db.pools _ _
  refine decide_eq_true fun heq => hid (List.any_eq_true.2 ⟨m, hm, ?_⟩)
  simp [heq, hlocked]

variable {vmTemplateId : Uuid}

lemma trims_deletePool (h : db.deletePool vmTemplateId = some db') :
    Trims db db' := by
  unfold PoolDb.deletePool at h
  dsimp only at h
  split_ifs at h with hid
  cases h
  refine trims_filter (fun m hm hlocked => ?_) _ db.sandboxes db.vms
  refine decide_eq_true fun hgone => hid (List.any_eq_true.2 ⟨m, hm, ?_⟩)
  simp only [hgone, hlocked, decide_true, Bool.and_self]

/-- Nothing is listed anew, and nothing is locked. -/
lemma Effect.quiet (htrims : Trims db db') (hpending : ∀ v ∈ t'.pending, v ∈ t.pending)
    (hfresh : t'.fresh = none) (hholds : t'.holds = t.holds) : Effect db t t' o db' :=
  .write db' htrims (fun v hv => .inl (hpending v hv)) hfresh hholds

lemma Effect.idle (htrims : Trims db db') (h : t'.Idle) (hholds : t.holds = none) :
    Effect db t t' o db' :=
  .quiet htrims (by simp [h.pending]) h.fresh (h.holds.trans hholds.symm)

lemma pending_start (members : List Member) :
    (Loop.start members).elim [] Loop.pending = members.map Member.vmId := by
  cases members <;> rfl

lemma listByStatus_subset (poolId : Uuid) (status : MemberStatus) :
    db.listByStatus poolId status ⊆ db.members := List.filter_sublist.subset

/-- A list is read, and its members will be destroyed. -/
lemma effect_list {members : List Member} (hmembers : members ⊆ db.members)
    (hpending : t'.pending = (Loop.start members).elim [] Loop.pending) (hfresh : t'.fresh = none)
    (hholds : t'.holds = t.holds) : Effect db t t' o db := by
  refine .write db (.refl db) (fun v hv => .inr ?_) hfresh hholds
  rw [hpending, pending_start] at hv
  exact List.map_subset _ hmembers hv

/-- The statements of `destroy_member` within a task. -/
lemma effect_destroy {l : Loop} {l' : Option Loop} (h : destroyNext db o l = some (l', db'))
    (hpending : t.pending = l.pending) (hholds : t.holds = none)
    (hpending' : t'.pending = l'.elim [] Loop.pending) (hfresh' : t'.fresh = none)
    (hholds' : t'.holds = none) : Effect db t t' o db' := by
  have hquiet (htrims : Trims db db') (hsub : l'.elim [] Loop.pending ⊆ l.pending) :
      Effect db t t' o db' :=
    .quiet htrims (by rw [hpending, hpending']; exact hsub) hfresh' (hholds'.trans hholds.symm)
  obtain ⟨stage, member, rest⟩ := l
  cases stage with
  | mark =>
    simp only [destroyNext] at h
    split_ifs at h
    · obtain ⟨db₁, hupdate, h⟩ := Option.map_eq_some_iff.1 h
      cases h
      exact hquiet (trims_updateStatus hupdate) (List.Subset.refl _)
    · cases h
      exact hquiet (.refl db) (List.Subset.refl _)
  | call =>
    cases h
    refine .call member.vmId ?_ ?_ hfresh' (hholds'.trans hholds.symm)
    · simp [hpending, Loop.pending]
    · intro w hw
      rw [hpending'] at hw
      rw [hpending]
      exact List.mem_cons_of_mem _ hw
  | deleteVm =>
    simp only [destroyNext] at h
    split_ifs at h
    · obtain ⟨db₁, hdelete, h⟩ := Option.map_eq_some_iff.1 h
      cases h
      exact hquiet (trims_deleteVm hdelete) (List.Subset.refl _)
    · cases h
      exact hquiet (.refl db) (List.Subset.refl _)
  | deleteRow =>
    have hsub : (Loop.start rest).elim [] Loop.pending ⊆ rest.map Member.vmId := by
      rw [pending_start]
      exact List.Subset.refl _
    simp only [destroyNext] at h
    split_ifs at h
    · obtain ⟨db₁, hdelete, h⟩ := Option.map_eq_some_iff.1 h
      cases h
      exact hquiet (trims_deleteMember hdelete) hsub
    · cases h
      exact hquiet (.refl db) hsub

lemma effect_sync {pool : SandboxPool} {pc pc' : SyncPc}
    (h : syncNext pool db o pc = some (pc', db')) :
    Effect db (.sync pool pc) (.sync pool pc') o db' := by
  cases pc with
  | listErrors =>
    simp only [syncNext] at h
    split_ifs at h <;> cases h
    · refine effect_list (listByStatus_subset pool.id .error) ?_ ?_ ?_ <;>
        cases Loop.start (db.listByStatus pool.id .error) <;> rfl
    · exact .idle (.refl db) ⟨rfl, rfl, rfl⟩ rfl
  | errors loop | surplus loop =>
    obtain ⟨⟨loop', db₁⟩, hnext, h⟩ := Option.map_eq_some_iff.1 h
    cases h
    refine effect_destroy hnext rfl rfl ?_ ?_ ?_ <;> cases loop' <;> rfl
  | listReady =>
    simp only [syncNext] at h
    split_ifs at h <;> cases h
    · have hsurplus : (db.listByStatus pool.id .ready).take
          ((db.listByStatus pool.id .ready).length - pool.minReady) ⊆ db.members :=
        List.Subset.trans (List.take_subset _ _) (listByStatus_subset pool.id .ready)
      revert hsurplus
      generalize (db.listByStatus pool.id .ready).take _ = members
      intro hsurplus
      refine effect_list hsurplus ?_ ?_ ?_ <;> cases Loop.start members <;> rfl
    · exact .idle (.refl db) ⟨rfl, rfl, rfl⟩ rfl
  | countReady | countProvisioning ready | get memberId n =>
    cases h
    refine .idle (.refl db) ?_ rfl
    split_ifs <;> exact ⟨rfl, rfl, rfl⟩
  | provision deficit =>
    cases deficit with
    | zero => cases h
    | succ n =>
      simp only [syncNext] at h
      split at h
      · rename_i vmId
        split_ifs at h with hdrawn
        cases h
        exact .draw vmId hdrawn rfl rfl rfl
      · cases h
        exact .idle (.refl db) ⟨rfl, rfl, rfl⟩ rfl
  | create vmId n =>
    simp only [syncNext] at h
    split at h
    · rename_i id
      unfold PoolDb.createMember at h
      split_ifs at h <;> cases h
      · exact .idle (.refl db) ⟨rfl, rfl, rfl⟩ rfl
      · exact .create _ rfl ⟨rfl, rfl, rfl⟩
    · cases h
      exact .idle (.refl db) ⟨rfl, rfl, rfl⟩ rfl
  | start memberId n =>
    simp only [syncNext] at h
    split at h <;> cases h <;> exact .idle (.refl db) ⟨rfl, rfl, rfl⟩ rfl
  | markError memberId message n =>
    simp only [syncNext] at h
    split_ifs at h
    · obtain ⟨db₁, hupdate, h⟩ := Option.map_eq_some_iff.1 h
      cases h
      exact .idle (trims_updateStatus hupdate) ⟨rfl, rfl, rfl⟩ rfl
    · cases h
      exact .idle (.refl db) ⟨rfl, rfl, rfl⟩ rfl
  | done => cases h

lemma effect_delete {pc pc' : DeletePc}
    (h : deleteNext vmTemplateId db o pc = some (pc', db')) :
    Effect db (.delete vmTemplateId pc) (.delete vmTemplateId pc') o db' := by
  cases pc with
  | getConfig =>
    simp only [deleteNext] at h
    split_ifs at h <;> cases h
    · refine .idle (.refl db) ?_ rfl
      cases db.pools.find? (·.vmTemplateId = vmTemplateId) <;> exact ⟨rfl, rfl, rfl⟩
    · exact .idle (.refl db) ⟨rfl, rfl, rfl⟩ rfl
  | list poolId =>
    simp only [deleteNext] at h
    split_ifs at h <;> cases h
    · have hmembers : db.listByPool poolId ⊆ db.members := List.filter_sublist.subset
      refine effect_list hmembers ?_ ?_ ?_ <;> cases Loop.start (db.listByPool poolId) <;> rfl
    · exact .idle (.refl db) ⟨rfl, rfl, rfl⟩ rfl
  | destroy loop =>
    obtain ⟨⟨loop', db₁⟩, hnext, h⟩ := Option.map_eq_some_iff.1 h
    cases h
    refine effect_destroy hnext rfl rfl ?_ ?_ ?_ <;> cases loop' <;> rfl
  | deletePool =>
    simp only [deleteNext] at h
    split_ifs at h
    · obtain ⟨db₁, hdelete, h⟩ := Option.map_eq_some_iff.1 h
      cases h
      exact .idle (trims_deletePool hdelete) ⟨rfl, rfl, rfl⟩ rfl
    · cases h
      exact .idle (.refl db) ⟨rfl, rfl, rfl⟩ rfl
  | done => cases h

lemma effect_claim {req : NewSandbox} {pc pc' : ClaimPc}
    (h : claimNext req db o pc = some (pc', db')) :
    Effect db (.claim req pc) (.claim req pc') o db' := by
  cases pc with
  | select =>
    simp only [claimNext] at h
    split_ifs at h
    · cases h
      exact .idle (.refl db) ⟨rfl, rfl, rfl⟩ rfl
    · split at h
      · cases h
        exact .idle (.refl db) ⟨rfl, rfl, rfl⟩ rfl
      · rename_i m hm
        cases h
        have hready := List.find?_some hm
        simp only [Bool.and_eq_true, decide_eq_true_eq] at hready
        exact .select m (List.mem_of_find?_eq_some hm) hready.1.2 rfl rfl rfl
  | createJob m =>
    simp only [claimNext] at h
    split_ifs at h <;> cases h
    · exact .quiet (.refl db) (fun _ hv => hv) rfl rfl
    · exact .release m rfl ⟨rfl, rfl, rfl⟩
  | updateName m =>
    simp only [claimNext] at h
    split_ifs at h <;> cases h
    · exact .quiet (.refl db) (fun _ hv => hv) rfl rfl
    · exact .release m rfl ⟨rfl, rfl, rfl⟩
  | createSandbox m =>
    simp only [claimNext] at h
    split at h <;> cases h
    · exact .quiet (.refl db) (fun _ hv => hv) rfl rfl
    · exact .release m rfl ⟨rfl, rfl, rfl⟩
  | deleteRow m sandbox =>
    simp only [claimNext] at h
    split_ifs at h <;> cases h
    · exact .quiet (.refl db) (fun _ hv => hv) rfl rfl
    · exact .release m rfl ⟨rfl, rfl, rfl⟩
  | commit m sandbox =>
    simp only [claimNext] at h
    split_ifs at h with ho <;> cases h
    · exact .commit req m sandbox rfl ho ⟨rfl, rfl, rfl⟩
    · exact .release m rfl ⟨rfl, rfl, rfl⟩
  | done => cases h

lemma trims_reportReady {memberId : Uuid} {outcome : ReadyOutcome}
    (h : reportReady memberId db outcome = some db') : Trims db db' := by
  cases outcome with
  | ready | failed message | timedOut => exact trims_updateStatus h
  | gone =>
    cases h
    exact .refl db

lemma next_effect (h : PoolTask.next db t o = some (t', db')) : Effect db t t' o db' := by
  cases t with
  | sync pool pc =>
    obtain ⟨⟨pc', db₁⟩, hnext, h⟩ := Option.map_eq_some_iff.1 h
    cases h
    exact effect_sync hnext
  | delete template pc =>
    obtain ⟨⟨pc', db₁⟩, hnext, h⟩ := Option.map_eq_some_iff.1 h
    cases h
    exact effect_delete hnext
  | claim req pc =>
    obtain ⟨⟨pc', db₁⟩, hnext, h⟩ := Option.map_eq_some_iff.1 h
    cases h
    exact effect_claim hnext
  | watch memberId outcome =>
    simp only [PoolTask.next] at h
    split_ifs at h
    · obtain ⟨db₁, hreport, h⟩ := Option.map_eq_some_iff.1 h
      cases h
      exact .idle (trims_reportReady hreport) ⟨rfl, rfl, rfl⟩ rfl
    · cases h
      exact .idle (.refl db) ⟨rfl, rfl, rfl⟩ rfl
  | watched => cases h

end Effects

/-! ## Claimed sandboxes -/

/-- No claimed VM is a member, and none was destroyed. -/
structure Sound (db : PoolDb) : Prop where
  victims : db.victims = []
  vmIds : (db.members.map Member.vmId).Nodup
  claimed : ∀ v ∈ db.claimed, v ∈ db.drawn
  members : ∀ m ∈ db.members, m.vmId ∈ db.drawn ∧ m.vmId ∉ db.claimed

/-- What a task relies on. -/
structure Relies (db : PoolDb) (t : PoolTask) : Prop where
  pending : ∀ v ∈ t.pending, v ∈ db.drawn ∧ v ∉ db.claimed
  fresh : ∀ v ∈ t.fresh, v ∈ db.drawn ∧ v ∉ db.claimed ∧ v ∉ db.members.map Member.vmId
  holds : ∀ m ∈ t.holds, m.id ∈ db.locks ∧ m.key ∈ db.members.map Member.key

/-- Two tasks have different VMs made, and different rows locked. -/
structure Apart (t u : PoolTask) : Prop where
  fresh : ∀ v ∈ t.fresh, ∀ w ∈ u.fresh, v ≠ w
  holds : ∀ m ∈ t.holds, ∀ n ∈ u.holds, m.id ≠ n.id

/-- **A claim commits only while its VM is on nobody's list.** -/
def unlisted (p : Service) : Act PoolTask Outcome → Bool
  | .run i .ok =>
    match p.tasks[i]? with
    | some (.claim _ (.commit m _)) => p.tasks.all fun u => m.vmId ∉ u.pending
    | _ => true
  | _ => true

section Claims

variable {db db' : PoolDb} {o : Outcome} {t t' u : PoolTask}

lemma Apart.symm (h : Apart t u) : Apart u t :=
  ⟨fun v hv w hw => (h.fresh w hw v hv).symm, fun m hm n hn => (h.holds n hn m hm).symm⟩

lemma PoolTask.Idle.relies (h : t.Idle) : Relies db t :=
  ⟨by simp [h.pending], by simp [h.fresh], by simp [h.holds]⟩

lemma PoolTask.Idle.apart (h : t.Idle) : Apart t u := ⟨by simp [h.fresh], by simp [h.holds]⟩

lemma Trims.sound (h : Trims db db') (hs : Sound db) : Sound db' := by
  have hmap (l : List Member) : l.map Member.vmId = (l.map Member.key).map Prod.snd :=
    by rw [List.map_map]; rfl
  refine ⟨h.victims.trans hs.victims, ?_, by rw [h.claimed, h.drawn]; exact hs.claimed, ?_⟩
  · rw [hmap]
    refine List.Nodup.sublist (h.keys.map _) ?_
    rw [← hmap]
    exact hs.vmIds
  · intro m hm
    obtain ⟨r, hr, hkey⟩ := List.mem_map.1 (h.keys.subset (List.mem_map_of_mem hm))
    have hvm : r.vmId = m.vmId := congrArg Prod.snd hkey
    rw [h.drawn, h.claimed, ← hvm]
    exact hs.members r hr

lemma vmId_of_key {k : Uuid × Uuid} {l : List Member} (h : k ∈ l.map Member.key) :
    k.2 ∈ l.map Member.vmId := by
  obtain ⟨m, hm, rfl⟩ := List.mem_map.1 h
  exact List.mem_map_of_mem hm

lemma Trims.relies (h : Trims db db') (hu : Relies db u) : Relies db' u := by
  refine ⟨fun v hv => ?_, fun v hv => ?_, fun m hm => ?_⟩
  · rw [h.drawn, h.claimed]
    exact hu.pending v hv
  · obtain ⟨hdrawn, hclaimed, hmem⟩ := hu.fresh v hv
    refine ⟨h.drawn ▸ hdrawn, h.claimed ▸ hclaimed, fun hv => hmem ?_⟩
    obtain ⟨m, hm, rfl⟩ := List.mem_map.1 hv
    exact vmId_of_key (h.keys.subset (List.mem_map_of_mem hm))
  · obtain ⟨hlocked, hkey⟩ := hu.holds m hm
    exact ⟨h.locks ▸ hlocked, h.locked _ hkey hlocked⟩

/-- The invariants of a statement: of the database, of its task, and of the others. -/
structure Keeps (db db' : PoolDb) (t t' : PoolTask) (spared : PoolTask → Prop) : Prop where
  sound : Sound db'
  relies : Relies db' t'
  others : ∀ u, Relies db u → Apart t u → spared u → Relies db' u ∧ Apart t' u

variable {spared : PoolTask → Prop}

lemma keeps_write (hs : Sound db) (ht : Relies db t) (htrims : Trims db db')
    (hpending : ∀ v ∈ t'.pending, v ∈ t.pending ∨ v ∈ db.members.map Member.vmId)
    (hfresh : t'.fresh = none) (hholds : t'.holds = t.holds) : Keeps db db' t t' spared := by
  refine ⟨htrims.sound hs, ⟨fun v hv => ?_, by simp [hfresh], ?_⟩, fun u hu hapart _ => ?_⟩
  · rw [htrims.drawn, htrims.claimed]
    rcases hpending v hv with hv | hv
    · exact ht.pending v hv
    · obtain ⟨m, hm, rfl⟩ := List.mem_map.1 hv
      exact hs.members m hm
  · rw [hholds]
    exact (htrims.relies ht).holds
  · exact ⟨htrims.relies hu, by simp [hfresh], by rw [hholds]; exact hapart.holds⟩

variable {v : Uuid} {m : Member}

lemma callDestroy_of_not_claimed (h : v ∉ db.claimed) : db.callDestroy v = db := by
  rw [PoolDb.callDestroy, if_neg h]

lemma keeps_draw (hs : Sound db) (hv : v ∉ db.drawn) (hpending : t'.pending = [])
    (hfresh : t'.fresh = some v) (hholds : t'.holds = none) :
    Keeps db { db with vms := v :: db.vms, drawn := v :: db.drawn } t t' spared := by
  have hmem : v ∉ db.members.map Member.vmId := fun h => by
    obtain ⟨m, hm, rfl⟩ := List.mem_map.1 h
    exact hv (hs.members m hm).1
  refine ⟨⟨hs.victims, hs.vmIds, fun w hw => .tail _ (hs.claimed w hw), fun m hm => ?_⟩,
    ⟨by simp [hpending], ?_, by simp [hholds]⟩, fun u hu _ _ => ⟨⟨?_, ?_, hu.holds⟩, ?_, ?_⟩⟩
  · exact ⟨.tail _ (hs.members m hm).1, (hs.members m hm).2⟩
  · rw [hfresh]
    rintro w ⟨⟩
    exact ⟨.head _, fun hw => hv (hs.claimed _ hw), hmem⟩
  · exact fun w hw => ⟨.tail _ (hu.pending w hw).1, (hu.pending w hw).2⟩
  · exact fun w hw => ⟨.tail _ (hu.fresh w hw).1, (hu.fresh w hw).2⟩
  · rw [hfresh]
    rintro w ⟨⟩ w' hw' rfl
    exact hv (hu.fresh _ hw').1
  · simp [hholds]

lemma keeps_create (hs : Sound db) (ht : Relies db t) (hm : t.fresh = some m.vmId)
    (hidle : t'.Idle) : Keeps db { db with members := db.members ++ [m] } t t' spared := by
  obtain ⟨hdrawn, hclaimed, hnew⟩ := ht.fresh _ hm
  refine ⟨⟨hs.victims, ?_, hs.claimed, ?_⟩, hidle.relies,
    fun u hu hapart _ => ⟨⟨hu.pending, fun v hv => ?_, fun n hn => ?_⟩, hidle.apart⟩⟩
  · rw [List.map_append]
    exact hs.vmIds.append (List.nodup_singleton _) (by simpa using hnew)
  · intro r hr
    rcases List.mem_append.1 hr with hr | hr
    · exact hs.members r hr
    · obtain rfl := List.mem_singleton.1 hr
      exact ⟨hdrawn, hclaimed⟩
  · obtain ⟨hd, hc, hv'⟩ := hu.fresh v hv
    refine ⟨hd, hc, ?_⟩
    rw [List.map_append, List.mem_append, List.map_singleton, List.mem_singleton]
    rintro (h | h)
    · exact hv' h
    · exact hapart.fresh _ hm v hv h.symm
  · obtain ⟨hlocked, hkey⟩ := hu.holds n hn
    rw [List.map_append]
    exact ⟨hlocked, List.mem_append_left _ hkey⟩

lemma keeps_select (hs : Sound db) (hm : m ∈ db.members) (hfree : m.id ∉ db.locks)
    (hpending : t'.pending = []) (hfresh : t'.fresh = none) (hholds : t'.holds = some m) :
    Keeps db { db with locks := m.id :: db.locks } t t' spared := by
  refine ⟨⟨hs.victims, hs.vmIds, hs.claimed, hs.members⟩,
    ⟨by simp [hpending], by simp [hfresh], ?_⟩, fun u hu _ _ =>
      ⟨⟨hu.pending, hu.fresh, fun n hn => ⟨.tail _ (hu.holds n hn).1, (hu.holds n hn).2⟩⟩,
        by simp [hfresh], ?_⟩⟩
  · rw [hholds]
    rintro n ⟨⟩
    exact ⟨.head _, List.mem_map_of_mem hm⟩
  · rw [hholds]
    rintro n ⟨⟩ n' hn' heq
    exact hfree (heq ▸ (hu.holds n' hn').1)

/-- A lock that another task holds stays when `m` is unlocked. -/
lemma mem_unlock {n : Member} (hm : t.holds = some m) (hn : u.holds = some n)
    (hu : Relies db u) (hapart : Apart t u) : n.id ∈ db.locks.filter (· ≠ m.id) :=
  List.mem_filter.2 ⟨(hu.holds n hn).1, decide_eq_true (hapart.holds m hm n hn).symm⟩

lemma keeps_release (hs : Sound db) (hm : t.holds = some m) (hidle : t'.Idle) :
    Keeps db (db.unlock m.id) t t' spared :=
  ⟨⟨hs.victims, hs.vmIds, hs.claimed, hs.members⟩, hidle.relies, fun _ hu hapart _ =>
    ⟨⟨hu.pending, hu.fresh, fun n hn => ⟨mem_unlock hm hn hu hapart, (hu.holds n hn).2⟩⟩,
      hidle.apart⟩⟩

/-- **A claim commits**: its VM leaves the members, and no other task has it. -/
lemma keeps_commit {sandbox : Sandbox} (hs : Sound db) (ht : Relies db t)
    (hm : t.holds = some m) (hidle : t'.Idle) (hspared : ∀ u, spared u → m.vmId ∉ u.pending) :
    Keeps db (db.commitClaim m sandbox) t t' spared := by
  obtain ⟨r, hr, hkey⟩ := List.mem_map.1 (ht.holds m hm).2
  have hid : r.id = m.id := congrArg Prod.fst hkey
  have hvm : r.vmId = m.vmId := congrArg Prod.snd hkey
  have hclaimed {v : Uuid} (hv : v ∉ db.claimed) (hne : v ≠ m.vmId) : v ∉ m.vmId :: db.claimed :=
    List.not_mem_cons_of_ne_of_not_mem hne hv
  refine ⟨⟨hs.victims, ?_, ?_, fun q hq => ?_⟩, hidle.relies, fun u hu hapart hsp =>
    ⟨⟨fun v hv => ?_, fun v hv => ?_, fun n hn => ⟨mem_unlock hm hn hu hapart, ?_⟩⟩, hidle.apart⟩⟩
  · exact hs.vmIds.sublist (List.filter_sublist.map _)
  · exact List.forall_mem_cons.2 ⟨hvm ▸ (hs.members r hr).1, hs.claimed⟩
  · obtain ⟨hq, hne⟩ := List.mem_filter.1 hq
    obtain ⟨hdrawn, hq'⟩ := hs.members q hq
    refine ⟨hdrawn, hclaimed hq' fun heq => of_decide_eq_true hne ?_⟩
    rw [List.inj_on_of_nodup_map hs.vmIds hq hr (heq.trans hvm.symm), hid]
  · obtain ⟨hdrawn, hv'⟩ := hu.pending v hv
    exact ⟨hdrawn, hclaimed hv' fun heq => hspared u hsp (heq ▸ hv)⟩
  · obtain ⟨hdrawn, hv', hnew⟩ := hu.fresh v hv
    refine ⟨hdrawn, hclaimed hv' fun heq => hnew ?_, fun h => hnew ?_⟩
    · rw [heq, ← hvm]
      exact List.mem_map_of_mem hr
    · exact (List.filter_sublist.map _).subset h
  · obtain ⟨q, hq, hqn⟩ := List.mem_map.1 (hu.holds n hn).2
    have hqid : q.id = n.id := congrArg Prod.fst hqn
    refine List.mem_map.2 ⟨q, List.mem_filter.2 ⟨hq, decide_eq_true ?_⟩, hqn⟩
    rw [hqid]
    exact (hapart.holds m hm n hn).symm

lemma keeps_of_effect (hs : Sound db) (ht : Relies db t) (h : Effect db t t' o db')
    (hspared : ∀ req m sandbox, t = .claim req (.commit m sandbox) → o = .ok →
      ∀ u, spared u → m.vmId ∉ u.pending) : Keeps db db' t t' spared := by
  cases h with
  | write db' htrims hpending hfresh hholds =>
    exact keeps_write hs ht htrims hpending hfresh hholds
  | call v hv hpending hfresh hholds =>
    rw [callDestroy_of_not_claimed (ht.pending v hv).2]
    exact keeps_write hs ht (.refl db) (fun w hw => .inl (hpending w hw)) hfresh hholds
  | draw v hv hpending hfresh hholds => exact keeps_draw hs hv hpending hfresh hholds
  | create m hm hidle => exact keeps_create hs ht hm hidle
  | select m hm hfree hpending hfresh hholds =>
    exact keeps_select hs hm hfree hpending hfresh hholds
  | release m hm hidle => exact keeps_release hs hm hidle
  | commit req m sandbox htask ho hidle =>
    exact keeps_commit hs ht (htask ▸ rfl) hidle (hspared req m sandbox htask ho)

lemma idle_of_begins (h : t.begins = true) : t.Idle := by
  unfold PoolTask.begins at h
  split at h <;> first | exact ⟨rfl, rfl, rfl⟩ | cases h

/-- A service with no task yet. -/
def Starts (p : Service) : Prop := p.tasks = [] ∧ Sound p.shared

/-- **A claimed sandbox is never destroyed by its pool**, in every run in which a claim commits only
while its VM is on nobody's list. -/
theorem claimed_never_destroyed {p : Service}
    (h : Reach serviceStep (fun p a => unlisted p a = true) Starts p) : p.shared.victims = [] := by
  have hinv : Inv Sound Relies Apart p := by
    refine reach_inv (fun _ _ => Apart.symm) ?_ ?_ ?_ h
    · rintro p ⟨htasks, hs⟩
      exact inv_nil htasks hs
    · intro p t _ hbegins _
      exact ⟨(idle_of_begins hbegins).relies, fun u _ => (idle_of_begins hbegins).apart⟩
    · intro p i o t t' db' hinv hok ht hnext
      have hspared : ∀ req m sandbox, t = .claim req (.commit m sandbox) → o = .ok →
          ∀ u ∈ p.tasks, m.vmId ∉ u.pending := by
        rintro req m sandbox rfl rfl u hu
        simp only [unlisted, ht, List.all_eq_true, decide_eq_true_eq] at hok
        exact hok u hu
      have hkeeps : Keeps p.shared db' t t' (· ∈ p.tasks) :=
        keeps_of_effect hinv.shared (hinv.each i t ht) (next_effect hnext) hspared
      exact ⟨hkeeps.sound, hkeeps.relies, fun u hu hrelies hapart =>
        hkeeps.others u hrelies hapart (List.mem_of_mem_eraseIdx hu)⟩
  exact hinv.shared.victims

end Claims

/-! ## One sandbox for a VM

The lists of VMs to be destroyed play no part in who gets a VM: a statement does to tasks without
their lists what it does to them. -/

section Blind

variable {db db' : PoolDb} {o : Outcome} {t t' : PoolTask}

/-- The task without its list. -/
def PoolTask.blind : PoolTask → PoolTask
  | .sync pool (.create vmId deficit) => .sync pool (.create vmId deficit)
  | .claim req pc => .claim req pc
  | _ => .watched

def PoolDb.blind (db : PoolDb) : PoolDb := { db with victims := [] }

lemma blind_task (t : PoolTask) :
    t.blind.pending = [] ∧ t.blind.fresh = t.fresh ∧ t.blind.holds = t.holds := by
  cases t with
  | sync pool pc => cases pc <;> exact ⟨rfl, rfl, rfl⟩
  | _ => exact ⟨rfl, rfl, rfl⟩

lemma PoolTask.Idle.blind (h : t.Idle) : t.blind.Idle := by
  obtain ⟨hpending, hfresh, hholds⟩ := blind_task t
  exact ⟨hpending, hfresh.trans h.fresh, hholds.trans h.holds⟩

lemma Effect.blind (h : Effect db t t' o db') :
    Effect db.blind t.blind t'.blind o db'.blind := by
  obtain ⟨-, hfresh, hholds⟩ := blind_task t
  obtain ⟨hpending', hfresh', hholds'⟩ := blind_task t'
  cases h with
  | write db' htrims _ hnone hsame =>
    exact .write _ { htrims with victims := rfl } (by simp [hpending']) (hfresh'.trans hnone)
      (by rw [hholds', hholds, hsame])
  | call v _ _ hnone hsame =>
    exact .write _ (Trims.refl db.blind) (by simp [hpending']) (hfresh'.trans hnone)
      (by rw [hholds', hholds, hsame])
  | draw v hv _ hsome hnone =>
    exact .draw v hv hpending' (hfresh'.trans hsome) (hholds'.trans hnone)
  | create m hm hidle => exact .create m (hfresh.trans hm) hidle.blind
  | select m hm hfree _ hnone hsome =>
    exact .select m hm hfree hpending' (hfresh'.trans hnone) (hholds'.trans hsome)
  | release m hm hidle => exact .release m (hholds.trans hm) hidle.blind
  | commit req m sandbox htask ho hidle =>
    exact .commit req m sandbox (by rw [htask]; rfl) ho hidle.blind

/-- A VM is claimed by the commit of a claim only, which has its row locked. -/
lemma Effect.claimed_nodup (h : Effect db t t' o db') (hs : Sound db.blind)
    (ht : Relies db.blind t.blind) (hnodup : db.claimed.Nodup) : db'.claimed.Nodup := by
  cases h with
  | write db' htrims => exact htrims.claimed ▸ hnodup
  | commit req m sandbox htask =>
    have hm : t.blind.holds = some m := htask ▸ rfl
    obtain ⟨r, hr, hkey⟩ := List.mem_map.1 (ht.holds m hm).2
    have hvm : r.vmId = m.vmId := congrArg Prod.snd hkey
    exact List.nodup_cons.2 ⟨hvm ▸ (hs.members r hr).2, hnodup⟩
  | _ => exact hnodup

/-- **No VM is claimed twice**, however the manager, claims, watchers and deletions of pools
interleave and whatever fails. -/
theorem claimed_once {p : Service}
    (h : Reach serviceStep (fun _ _ => True) (fun p => Starts p ∧ p.shared.claimed = []) p) :
    p.shared.claimed.Nodup := by
  refine (reach_inv (J := fun db => Sound db.blind ∧ db.claimed.Nodup)
    (L := fun db t => Relies db.blind t.blind) (R := fun t u => Apart t.blind u.blind)
    (fun _ _ => Apart.symm) ?_ ?_ ?_ h).shared.2
  · rintro p ⟨⟨htasks, hs⟩, hclaimed⟩
    exact inv_nil htasks ⟨{ hs with victims := rfl }, hclaimed ▸ List.nodup_nil⟩
  · intro p t _ hbegins _
    have hidle := (idle_of_begins hbegins).blind
    exact ⟨hidle.relies, fun u _ => hidle.apart⟩
  · intro p i o t t' db' hinv _ ht hnext
    have heffect := next_effect hnext
    obtain ⟨hs, hnodup⟩ := hinv.shared
    have hrelies := hinv.each i t ht
    have hkeeps : Keeps p.shared.blind db'.blind t.blind t'.blind (·.pending = []) :=
      keeps_of_effect hs hrelies heffect.blind fun _ _ _ _ _ u hu => by simp [hu]
    exact ⟨⟨hkeeps.sound, heffect.claimed_nodup hs hrelies hnodup⟩, hkeeps.relies,
      fun u _ hu hapart => hkeeps.others u.blind hu hapart (blind_task u).1⟩

end Blind

/-! ## A small service -/

/-- A pool with two ready members. -/
def labDb (minReady : ℕ) : PoolDb where
  pools := [⟨⟨"p"⟩, ⟨"t"⟩, minReady⟩]
  members := [⟨⟨"m1"⟩, ⟨"p"⟩, ⟨"v1"⟩, .ready, none⟩, ⟨⟨"m2"⟩, ⟨"p"⟩, ⟨"v2"⟩, .ready, none⟩]
  sandboxes := []
  vms := [⟨"v1"⟩, ⟨"v2"⟩]
  locks := []
  drawn := [⟨"v1"⟩, ⟨"v2"⟩]
  claimed := []
  victims := []

lemma labDb_starts (minReady : ℕ) : Starts ⟨labDb minReady, []⟩ :=
  ⟨rfl, rfl, by simp [labDb], by simp [labDb], by simp [labDb]⟩

/-- The statements of a claim, by the task at that index. -/
def claimActs (i : ℕ) : List (Act PoolTask Outcome) :=
  [.run i .ok, .run i .ok, .run i .ok, .run i (.drew ⟨"s1"⟩), .run i .ok, .run i .ok]

def labClaim : PoolTask := .claim ⟨"box", ⟨"t"⟩, none, none⟩ .select

/-- A sandbox is claimed, the pool is refilled, and then it is deleted. -/
def claimRun : List (Act PoolTask Outcome) :=
  [.spawn labClaim] ++ claimActs 0 ++
  [.spawn (.sync ⟨⟨"p"⟩, ⟨"t"⟩, 2⟩ .listErrors)] ++ List.replicate 4 (.run 1 .ok) ++
  [.run 1 (.drew ⟨"v3"⟩), .run 1 (.drew ⟨"m3"⟩), .run 1 .ok, .run 1 .ok,
   .spawn (.watch ⟨"m3"⟩ .ready), .run 2 .ok,
   .spawn (.delete ⟨"t"⟩ .getConfig)] ++ List.replicate 11 (.run 3 .ok)

theorem claimRun_spares : ∃ p ∈ run serviceStep ⟨labDb 2, []⟩ claimRun,
    p.shared.vms = [⟨"v1"⟩] ∧ p.shared.pools = [] ∧ p.shared.claimed = [⟨"v1"⟩] ∧
    p.shared.victims = [] := by
  refine (exists_reach (P := fun p => p.shared.vms = [⟨"v1"⟩] ∧ p.shared.pools = [] ∧
      p.shared.claimed = [⟨"v1"⟩]) (labDb_starts 2) ?_).imp
    fun p h => ⟨h.1, h.2.1.1, h.2.1.2.1, h.2.1.2.2, claimed_never_destroyed h.2.2⟩
  decide +kernel

/-- **Claimed between the list and the destroying.**  The manager has the oldest ready member on its
list of surplus members when a claim takes it; it then marks no row and destroys the VM. -/
theorem claimed_while_listed :
    ∃ p ∈ run serviceStep ⟨labDb 1, []⟩
      ([.spawn (.sync ⟨⟨"p"⟩, ⟨"t"⟩, 1⟩ .listErrors), .run 0 .ok, .run 0 .ok, .spawn labClaim] ++
        claimActs 1 ++ [.run 0 .ok, .run 0 .ok]),
      p.shared.sandboxes.map (·.vmId) = [⟨"v1"⟩] ∧ p.shared.claimed = [⟨"v1"⟩] ∧
      p.shared.victims = [⟨"v1"⟩] := by
  decide +kernel

/-- Two claims at a time, and one of them is slower. -/
theorem claims_at_a_time : ∃ p ∈ run serviceStep ⟨labDb 2, []⟩
    ([.spawn labClaim, .spawn labClaim, .run 0 .ok] ++ claimActs 1 ++ (claimActs 0).tail),
    p.shared.claimed.length = 2 ∧ p.shared.claimed.Nodup := by
  refine (exists_reach (P := fun p => p.shared.claimed.length = 2) ⟨labDb_starts 2, rfl⟩ ?_).imp
    fun p h => ⟨h.1, h.2.1, claimed_once h.2.2⟩
  decide +kernel

end Sandboxes

end Qarax
