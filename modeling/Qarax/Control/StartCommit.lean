import Qarax.Control.VmTasks

/-!
# One operation at a time

`start_vm_internal` sets `Pending` "to prevent double-start", and `try_set_committing` makes a
commit exclusive.  The column `status` is the lock of both, and of a restore: an operation holds it
between its transitional write and its last one.  But only the commit takes it with a
compare-and-set.  The others read the status, check it and write later, and a failover writes as it
goes.

`VmPool.guarded` says that these writes find the column free, or that a start finds the status it
has read.  Along such runs there is one holder at most.
-/

namespace Qarax.Tasks

open Interleave Machine

/-- A start between its write of `Pending` and its last write. -/
def Task.starting : Task → Bool
  | .start _ pc _ _ => pc ≠ .check && pc ≠ .setPending
  | _ => false

/-- A commit between `try_set_committing` and its last write. -/
def Task.committing : Task → Bool
  | .commit _ _ _ => true
  | _ => false

/-- About to call `create_vm` or `start_vm` on the node. -/
def Task.callsNode : Task → Bool
  | .start _ pc _ _ => pc = .createVm || pc = .startVm
  | _ => false

/-- The transitional status that a task relies on. -/
def Task.heldStatus : Task → Option VmStatus
  | .start _ pc _ _ => if pc = .check ∨ pc = .setPending then none else some .pending
  | .restore pc _ => if pc = .lookup ∨ pc = .setPending then none else some .pending
  | .commit _ _ _ => some .committing
  | _ => none

/-- Starts, commits, restores and failovers.  A start has read a status that it may start from. -/
def Task.exclusive : Task → Bool
  | .start _ _ original _ => original.startable
  | .startGet _ | .commitGet | .commitSet _ | .commit _ _ _ | .restoreGet | .restore _ _
  | .failoverGet _ | .failover _ _ _ _ | .ended => true
  | _ => false

/-- No operation holds the column. -/
def VmShared.free (s : VmShared) : Bool :=
  s.status ≠ some .pending && s.status ≠ some .committing

/-- The writes that are made without looking at what they replace. -/
def Task.writesBlindly : Task → Bool
  | .start _ .setPending _ _ | .restore .setPending _ | .failover .setCreated _ _ _
  | .failover .revertStatus _ _ _ => true
  | _ => false

/-- A start whose next write finds the status that it has read. -/
def Task.finds (s : VmShared) : Task → Bool
  | .start _ _ original _ => s.status = some original
  | _ => false

/-- **Blind writes find the column free**, or as it was read.  Other operations than the four are
not begun. -/
def VmPool.guarded (p : VmPool) : Act Task Outcome → Bool
  | .spawn t => t.exclusive
  | .run i o => p.tasks[i]?.all fun t =>
      !t.writesBlindly || o ≠ .ok || p.shared.free || t.finds p.shared

variable {done failed : Task} {status : VmStatus} {hostId : Uuid}

section Statements

variable {s s' : VmShared} {t t' : Task} {o : Outcome}

/-- What a statement does to the column.  `quiet`: it stays.  `leaves`: its holder writes for the
last time.  `takes`: it was free. -/
inductive Effect (s : VmShared) (t : Task) (t' : Task) (s' : VmShared) : Prop
  | quiet : s'.status = s.status → (t'.heldStatus = t.heldStatus ∨ t'.heldStatus = none) →
      Effect s t t' s'
  | leaves : t.heldStatus ≠ none → t'.heldStatus = none → Effect s t t' s'
  | takes : t.heldStatus = none → s.free = true →
      (t'.heldStatus = none ∨ t'.heldStatus = s'.status) → Effect s t t' s'

/-- A statement of the four operations: its effect, and that it leads to one of them again. -/
structure Kept (s : VmShared) (t : Task) (t' : Task) (s' : VmShared) : Prop where
  effect : Effect s t t' s'
  exclusive : t'.exclusive = true
  row : s'.row.isSome = true

/-- Where a statement may lead without touching the column. -/
structure After (t t' : Task) : Prop where
  held : t'.heldStatus = t.heldStatus ∨ t'.heldStatus = none
  exclusive : t'.exclusive = true

lemma Kept.of_query (h : query s o (done, s) failed = some (t', s')) (hrow : s.row.isSome = true)
    (hdone : After t done) (hfailed : After t failed) : Kept s t t' s' := by
  exact query_ind h (fun _ => ⟨.quiet rfl hdone.held, hdone.exclusive, hrow⟩)
    fun _ => ⟨.quiet rfl hfailed.held, hfailed.exclusive, hrow⟩

lemma Kept.of_nodeCall {effect : Option VmShared}
    (h : nodeCall s o effect done failed = some (t', s')) (hrow : s.row.isSome = true)
    (heffect : ∀ s', effect = some s' → s'.row = s.row) (hdone : After t done)
    (hfailed : After t failed) : Kept s t t' s' := by
  have keep {u : Task} {s₁ : VmShared} (hu : After t u) (hs : s₁.row = s.row) : Kept s t u s₁ :=
    ⟨.quiet (by simp only [VmShared.status, hs]) hu.held, hu.exclusive, by rwa [hs]⟩
  exact nodeCall_ind h (fun s₁ he _ => keep hdone (heffect s₁ he)) (fun _ => keep hfailed rfl)
    fun s₁ he _ => keep hfailed (heffect s₁ he)

/-- The last write of a holder. -/
lemma Kept.of_last (h : query s o (done, s.writeStatus status) failed = some (t', s'))
    (hrow : s.row.isSome = true) (ht : t.heldStatus ≠ none)
    (hdone : done.heldStatus = none ∧ done.exclusive = true)
    (hfailed : failed.heldStatus = none ∧ failed.exclusive = true) : Kept s t t' s' := by
  exact query_ind h (fun _ => ⟨.leaves ht hdone.1, hdone.2, by simpa using hrow⟩)
    fun _ => ⟨.leaves ht hfailed.1, hfailed.2, hrow⟩

/-- A write by a task that holds nothing. -/
lemma Kept.of_blind (h : query s o (done, s.writeStatus status) failed = some (t', s'))
    (hrow : s.row.isSome = true) (hfree : o = .ok → s.free = true) (ht : t.heldStatus = none)
    (hdone : done.heldStatus = none ∨ done.heldStatus = some status)
    (hexclusive : done.exclusive = true) (hfailed : After t failed) : Kept s t t' s' := by
  refine query_ind h (fun ho => ⟨.takes ht (hfree ho) ?_, hexclusive, by simpa using hrow⟩)
    fun _ => ⟨.quiet rfl hfailed.held, hfailed.exclusive, hrow⟩
  rwa [status_writeStatus _ hrow]

/-- The host of the row changes. -/
lemma Kept.of_writeHostId (h : query s o (done, s.writeHostId hostId) failed = some (t', s'))
    (hrow : s.row.isSome = true) (hdone : After t done) (hfailed : After t failed) :
    Kept s t t' s' := by
  refine query_ind h (fun _ => ?_) fun _ => ⟨.quiet rfl hfailed.held, hfailed.exclusive, hrow⟩
  exact ⟨.quiet (status_writeHostId _) hdone.held, hdone.exclusive, by simpa using hrow⟩

lemma onError_holds_nothing (caller : Caller) :
    caller.onError.heldStatus = none ∧ caller.onError.exclusive = true := by
  cases caller <;> exact ⟨rfl, rfl⟩

lemma After.onError (t : Task) (caller : Caller) : After t caller.onError :=
  ⟨.inr (onError_holds_nothing caller).1, (onError_holds_nothing caller).2⟩

/-- The check of the status is made on what was read. -/
lemma free_of_finds {caller : Caller} {pc : StartPc} {original : VmStatus}
    (hst : original.startable = true)
    (h : s.free = true ∨ (Task.start caller pc original hostId).finds s = true) :
    s.free = true := by
  refine h.elim id fun hfinds => ?_
  have hstatus : s.status = some original := by simpa [Task.finds] using hfinds
  cases original <;> simp_all [VmShared.free, VmStatus.startable]

lemma kept_start {caller : Caller} {pc : StartPc} {original : VmStatus}
    (h : startNext s caller pc original hostId o = some (t', s')) (hrow : s.row.isSome = true)
    (hst : original.startable = true) (hfree : pc = .setPending → o = .ok → s.free = true) :
    Kept s (.start caller pc original hostId) t' s' := by
  obtain ⟨r, hr⟩ := Option.isSome_iff_exists.1 hrow
  have hended : After (.start caller pc original hostId) .ended := ⟨.inr rfl, rfl⟩
  cases pc with
  | check => exact .of_query h hrow ⟨.inl rfl, hst⟩ (.onError _ caller)
  | setPending => exact .of_blind h hrow (hfree rfl) rfl (.inr rfl) hst (.onError _ caller)
  | setup | firewall => exact .of_query h hrow ⟨.inl rfl, hst⟩ ⟨.inl rfl, hst⟩
  | revert =>
    exact .of_last h hrow (by simp [Task.heldStatus]) (onError_holds_nothing caller)
      (onError_holds_nothing caller)
  | markRunning => exact .of_query h hrow ⟨.inl rfl, hst⟩ hended
  | firstCheck =>
    simp only [startNext, hr] at h
    refine .of_query h hrow ⟨.inl ?_, hst⟩ hended
    split_ifs <;> rfl
  | createVm => exact .of_nodeCall h hrow (fun _ => row_register) ⟨.inl rfl, hst⟩ ⟨.inl rfl, hst⟩
  | secondCheck | thirdCheck =>
    simp only [startNext, hr] at h
    exact .of_query h hrow ⟨.inl rfl, hst⟩ ⟨.inl rfl, hst⟩
  | cleanup => exact .of_nodeCall h hrow (fun _ => row_unregister) ⟨.inl rfl, hst⟩ ⟨.inl rfl, hst⟩
  | startVm | forceStop =>
    exact .of_nodeCall h hrow (fun _ => row_registered) ⟨.inl rfl, hst⟩ ⟨.inl rfl, hst⟩
  | restore | setRunning => exact .of_last h hrow (by simp [Task.heldStatus]) ⟨rfl, rfl⟩ ⟨rfl, rfl⟩

lemma kept_restore {pc : RestorePc} (h : restoreNext s pc hostId o = some (t', s'))
    (hrow : s.row.isSome = true) (hfree : pc = .setPending → o = .ok → s.free = true) :
    Kept s (.restore pc hostId) t' s' := by
  cases pc with
  | lookup | object => exact .of_query h hrow ⟨.inl rfl, rfl⟩ ⟨.inr rfl, rfl⟩
  | setPending => exact .of_blind h hrow (hfree rfl) rfl (.inr rfl) rfl ⟨.inr rfl, rfl⟩
  | restoreVm =>
    refine .of_nodeCall h hrow (fun s' hs => ?_) ⟨.inl rfl, rfl⟩ ⟨.inl rfl, rfl⟩
    cases hs
    rfl
  | setUnknown | setRunning =>
    exact .of_last h hrow (by simp [Task.heldStatus]) ⟨rfl, rfl⟩ ⟨rfl, rfl⟩

lemma kept_commit {pc : CommitPc} {previous replaced : VmStatus}
    (h : commitNext s pc previous replaced o = some (t', s')) (hrow : s.row.isSome = true) :
    Kept s (.commit pc previous replaced) t' s' := by
  cases pc with
  | checks | createJob => exact .of_query h hrow ⟨.inl rfl, rfl⟩ ⟨.inr rfl, rfl⟩
  | markRunning | copyAndSwap => exact .of_query h hrow ⟨.inl rfl, rfl⟩ ⟨.inl rfl, rfl⟩
  | restore => exact .of_last h hrow (by simp [Task.heldStatus]) ⟨rfl, rfl⟩ ⟨rfl, rfl⟩

/-- The compare-and-set looks at the column itself. -/
lemma kept_commitSet {previous : VmStatus} (h : commitSet s previous o = some (t', s'))
    (hrow : s.row.isSome = true) : Kept s (.commitSet previous) t' s' := by
  obtain ⟨r, hr⟩ := Option.isSome_iff_exists.1 hrow
  simp only [commitSet, hr] at h
  split_ifs at h with hst
  · refine .of_blind h hrow (fun _ => ?_) rfl (.inr rfl) rfl ⟨.inr rfl, rfl⟩
    rcases hst with hst | hst <;> simp [VmShared.free, VmShared.status, hr, hst]
  · exact .of_query h hrow ⟨.inr rfl, rfl⟩ ⟨.inr rfl, rfl⟩

lemma kept_failover {pc : FailoverPc} {dead target : Uuid}
    (h : failoverNext s pc status dead target o = some (t', s')) (hrow : s.row.isSome = true)
    (hfree : pc = .setCreated ∨ pc = .revertStatus → o = .ok → s.free = true) :
    Kept s (.failover pc status dead target) t' s' := by
  cases pc with
  | pickHost =>
    simp only [failoverNext] at h
    split_ifs at h <;> exact .of_query h hrow ⟨.inr rfl, rfl⟩ ⟨.inr rfl, rfl⟩
  | deleteOld => exact .of_nodeCall h hrow (fun _ => row_unregister) ⟨.inr rfl, rfl⟩ ⟨.inr rfl, rfl⟩
  | setConfig | gpus | revertConfig => exact .of_query h hrow ⟨.inr rfl, rfl⟩ ⟨.inr rfl, rfl⟩
  | setHost | revertHost => exact .of_writeHostId h hrow ⟨.inr rfl, rfl⟩ ⟨.inr rfl, rfl⟩
  | setCreated => exact .of_blind h hrow (hfree (.inl rfl)) rfl (.inl rfl) rfl ⟨.inr rfl, rfl⟩
  | revertStatus => exact .of_blind h hrow (hfree (.inr rfl)) rfl (.inl rfl) rfl ⟨.inr rfl, rfl⟩

/-- **What every statement of the four operations does to the column.** -/
lemma kept_next (ht : t.exclusive = true) (hrow : s.row.isSome = true)
    (hguard : t.writesBlindly = true → o = .ok → s.free = true ∨ t.finds s = true)
    (h : t.next s o = some (t', s')) : Kept s t t' s' := by
  obtain ⟨r, hr⟩ := Option.isSome_iff_exists.1 hrow
  cases t with
  | startGet caller =>
    simp only [Task.next, startGet, hr] at h
    refine .of_query h hrow ?_ (.onError _ caller)
    split_ifs with hst
    · exact ⟨.inr rfl, hst⟩
    · exact .onError _ caller
  | start caller pc original hostId =>
    exact kept_start h hrow ht fun hpc ho => free_of_finds ht (hguard (by rw [hpc]; rfl) ho)
  | commitGet =>
    simp only [Task.next, commitGet, hr] at h
    refine .of_query h hrow ?_ ⟨.inr rfl, rfl⟩
    split_ifs <;> exact ⟨.inr rfl, rfl⟩
  | commitSet previous => exact kept_commitSet h hrow
  | commit pc previous replaced => exact kept_commit h hrow
  | restoreGet =>
    simp only [Task.next, restoreGet, hr] at h
    refine .of_query h hrow ?_ ⟨.inr rfl, rfl⟩
    split_ifs <;> exact ⟨.inr rfl, rfl⟩
  | restore pc hostId =>
    exact kept_restore h hrow fun hpc ho => (hguard (by rw [hpc]; rfl) ho).resolve_right nofun
  | failoverGet target =>
    simp only [Task.next, failoverGet, hr] at h
    refine .of_query h hrow ?_ ⟨.inr rfl, rfl⟩
    split_ifs <;> exact ⟨.inr rfl, rfl⟩
  | failover pc status dead target =>
    exact kept_failover h hrow fun hpc ho =>
      (hguard (by rcases hpc with rfl | rfl <;> rfl) ho).resolve_right nofun
  | ended => cases h
  | _ => cases ht

end Statements

/-! ## One holder -/

/-- What a task relies on: the column has the status it has written. -/
def Task.Relies (s : VmShared) (t : Task) : Prop :=
  t.exclusive = true ∧ (t.heldStatus ≠ none → s.status = t.heldStatus)

/-- Not both hold the column. -/
def Task.Apart (t u : Task) : Prop := t.heldStatus = none ∨ u.heldStatus = none

variable {s : VmShared} {t : Task}

lemma heldStatus_not_free (ht : t.heldStatus ≠ none) (hs : s.status = t.heldStatus) :
    s.free = false := by
  have hcases : t.heldStatus = some .pending ∨ t.heldStatus = some .committing := by
    cases t <;> simp_all [Task.heldStatus]
  rcases hcases with h | h <;> simp [VmShared.free, hs, h]

/-- A statement keeps what the other tasks rely on. -/
lemma Effect.others {s' : VmShared} {t' u : Task} (he : Effect s t t' s') (hu : u.Relies s)
    (hapart : t.Apart u) : u.Relies s' ∧ t'.Apart u := by
  cases he with
  | quiet hs ht =>
    refine ⟨⟨hu.1, fun hheld => hs.trans (hu.2 hheld)⟩, ?_⟩
    rcases ht with ht | ht
    · rwa [Task.Apart, ht]
    · exact .inl ht
  | leaves ht ht' =>
    exact ⟨⟨hu.1, fun hheld => (hapart.resolve_left ht ▸ hheld).elim rfl⟩, .inl ht'⟩
  | takes _ hfree _ =>
    -- the column was free, so nobody else holds it
    have hnone : u.heldStatus = none := by
      by_contra hheld
      simp [heldStatus_not_free hheld (hu.2 hheld)] at hfree
    exact ⟨⟨hu.1, fun hheld => absurd hnone hheld⟩, .inr hnone⟩

lemma Effect.own {s' : VmShared} {t' : Task} (he : Effect s t t' s')
    (hexclusive : t'.exclusive = true) (ht : t.Relies s) : t'.Relies s' := by
  refine ⟨hexclusive, fun hheld => ?_⟩
  cases he with
  | quiet hs ht' =>
    have hsame := ht'.resolve_right hheld
    rw [hs, hsame]
    exact ht.2 (hsame ▸ hheld)
  | leaves _ ht' => exact absurd ht' hheld
  | takes _ _ ht' => exact (ht'.resolve_left hheld).symm

/-- No operation is under way. -/
def AtRest (p : VmPool) : Prop := p.tasks = [] ∧ p.shared.row.isSome = true

lemma inv_of_reach {p : VmPool}
    (h : Reach VmPool.step (fun p a => VmPool.guarded p a = true) AtRest p) :
    Inv (fun s => s.row.isSome = true) (fun s t => t.Relies s) Task.Apart p := by
  refine reach_inv (fun _ _ => Or.symm) (fun p hp => ?_) (fun p t hok hb hinv => ?_)
    (fun p i o t t' s' hinv hok ht hn => ?_) h
  · exact inv_nil hp.1 hp.2
  · have hnone : t.heldStatus = none := by
      cases t <;> simp_all [Task.begins, Task.heldStatus]
    exact ⟨⟨hok, fun hheld => absurd hnone hheld⟩, fun u _ => .inl hnone⟩
  · simp only [VmPool.guarded, ht, Option.all_some] at hok
    have hrelies := hinv.each i t ht
    have hkept := kept_next hrelies.1 hinv.shared (fun hb ho => by simpa [hb, ho] using hok) hn
    exact ⟨hkept.row, hkept.effect.own hkept.exclusive hrelies, fun u _ => hkept.effect.others⟩

lemma heldStatus_of_starting (h : t.starting = true) : t.heldStatus = some .pending := by
  cases t <;> simp_all [Task.starting, Task.heldStatus]

lemma starting_of_callsNode (h : t.callsNode = true) : t.starting = true := by
  cases t with
  | start caller pc original hostId => cases pc <;> simp_all [Task.callsNode, Task.starting]
  | _ => cases h

lemma heldStatus_of_committing (h : t.committing = true) : t.heldStatus = some .committing := by
  cases t <;> simp_all [Task.committing, Task.heldStatus]

/-- **Start and commit exclude each other**, and there is one start at a time, along runs in which
the writes made without a compare-and-set find the column free or as it was read. -/
theorem start_and_commit_exclusive {p : VmPool}
    (h : Reach VmPool.step (fun p a => VmPool.guarded p a = true) AtRest p) :
    (∀ (i j : Nat) (t u : Task), p.tasks[i]? = some t → p.tasks[j]? = some u →
      t.starting = true → u.starting = true → i = j) ∧
    ∀ t ∈ p.tasks, ∀ u ∈ p.tasks, t.callsNode = true → u.committing = false := by
  have hinv := inv_of_reach h
  constructor
  · intro i j t u ht hu hstart hstart'
    by_contra hij
    have hapart := hinv.apart i j t u hij ht hu
    simp [Task.Apart, heldStatus_of_starting hstart, heldStatus_of_starting hstart'] at hapart
  · intro t ht u hu hcalls
    rw [← Bool.not_eq_true]
    intro hcommit
    obtain ⟨i, ht⟩ := List.mem_iff_getElem?.1 ht
    obtain ⟨j, hu⟩ := List.mem_iff_getElem?.1 hu
    have hstart := heldStatus_of_starting (starting_of_callsNode hcalls)
    have hheld := heldStatus_of_committing hcommit
    have hij : i ≠ j := by
      rintro rfl
      cases ht.symm.trans hu
      rw [hstart] at hheld
      cases hheld
    have hapart := hinv.apart i j t u hij ht hu
    simp [Task.Apart, hstart, hheld] at hapart

section Runs

/-- A start comes to `create_vm`; a commit and a second start are refused meanwhile. -/
def refusedMeanwhile : List (Act Task Outcome) :=
  [.spawn (.startGet .request), .run 0 .ok, .run 0 .ok, .run 0 .ok, .run 0 .ok, .run 0 .ok,
    .run 0 .ok, .spawn .commitGet, .run 1 .ok, .run 1 .ok, .spawn (.startGet .request), .run 2 .ok]

theorem refusedMeanwhile_exclusive :
    ∃ p : VmPool, run VmPool.step createdVm refusedMeanwhile = some p ∧
      p.tasks = [.start .request .createVm .created ⟨"host-a"⟩, .ended, .ended] ∧
      (∀ (i j : Nat) (t u : Task), p.tasks[i]? = some t → p.tasks[j]? = some u →
        t.starting = true → u.starting = true → i = j) ∧
      ∀ t ∈ p.tasks, ∀ u ∈ p.tasks, t.callsNode = true → u.committing = false := by
  refine (exists_reach ⟨rfl, rfl⟩ ?_).imp fun p h =>
    ⟨h.1, h.2.1, start_and_commit_exclusive h.2.2⟩
  decide +kernel

/-- Two starts read the row before either writes. -/
def doubleStart : List (Act Task Outcome) :=
  [.spawn (.startGet .request), .spawn (.startGet .request), .run 0 .ok, .run 1 .ok, .run 0 .ok,
    .run 1 .ok, .run 0 .ok, .run 1 .ok]

/-- A commit takes the column after a start has read the row. -/
def startInCommit : List (Act Task Outcome) :=
  [.spawn (.startGet .request), .run 0 .ok, .run 0 .ok, .spawn .commitGet, .run 1 .ok, .run 1 .ok,
    .run 0 .ok, .run 0 .ok, .run 0 .ok, .run 0 .ok]

/-- **Neither holds without the check**: two starts of one VM are under way, and a start is about to
create the VM on the node while a commit of it is under way. -/
theorem start_overtakes :
    (run VmPool.step createdVm doubleStart).map (·.tasks)
      = some [.start .request .setup .created ⟨"host-a"⟩,
        .start .request .setup .created ⟨"host-a"⟩] ∧
    (run VmPool.step createdVm startInCommit).map (·.tasks)
      = some [.start .request .createVm .created ⟨"host-a"⟩,
        .commit .checks .created .created] := by
  decide +kernel

end Runs

end Qarax.Tasks
