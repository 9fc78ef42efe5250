import Qarax.Core.Interleave
import Qarax.Control.Vms

/-!
# Handlers and jobs at work on one VM

Requests about a VM, the jobs they leave behind and the monitors all write the one column `status`
of its row, and some of them register or remove the VM on nodes.  This is each of them as a task
whose statements are atomic:

* `start_vm_internal` and its job, `commit` and its job, `restore_vm_from_snapshot`, `migrate` and
  its job, `create_vm_with_image_internal` and its job, `stop`, `delete` (`handlers/vm/handler.rs`);
* `execute_failover` (`ha_monitor.rs`), which goes on as a start;
* a cycle of `start_vm_monitor` (`vm_monitor.rs`) for the VM.

Queries fail without effect.  A call to a node fails without effect, or its answer is lost.  What a
check finds in tables that are not here is an outcome as well.
-/

namespace Qarax

/-- Valid states to start from. -/
def VmStatus.startable : VmStatus → Bool
  | .created | .shutdown | .unknown => true
  | _ => false

def VmStatus.restorable : VmStatus → Bool
  | .shutdown | .created | .unknown | .migrating => true
  | _ => false

/-- The states of a VM that is to be failed over. -/
def VmStatus.failoverable : VmStatus → Bool
  | .running | .paused | .unknown => true
  | _ => false

/-- An operation is under way. -/
def VmStatus.transitional : VmStatus → Bool
  | .pending | .migrating | .committing => true
  | _ => false

/-- `list_active` -/
def VmStatus.listed : VmStatus → Bool
  | .shutdown | .unknown | .pending => false
  | _ => true

namespace Tasks

open Interleave

/-! ## What is shared -/

/-- The row of the VM. -/
structure TaskRow where
  status : VmStatus
  hostId : Uuid
  imageRef : Option String
  deriving DecidableEq

structure VmShared where
  row : Option TaskRow
  /-- How often the column `status` was written. -/
  writes : Nat
  /-- The hosts whose nodes have registered the VM. -/
  instances : List Uuid
  /-- The hosts that are `Down`. -/
  down : List Uuid

namespace VmShared

def status (s : VmShared) : Option VmStatus := s.row.map (·.status)

/-- `update_status`; no row, no effect. -/
def writeStatus (s : VmShared) (status : VmStatus) : VmShared :=
  { s with row := s.row.map fun r => { r with status }, writes := s.writes + 1 }

def writeHostId (s : VmShared) (hostId : Uuid) : VmShared :=
  { s with row := s.row.map fun r => { r with hostId } }

/-- `create_vm`, `receive_migration` on a node: refused if the VM is registered. -/
def register (s : VmShared) (hostId : Uuid) : Option VmShared :=
  if hostId ∈ s.instances then none else some { s with instances := hostId :: s.instances }

/-- `restore_vm` on a node: whatever was there is replaced. -/
def replace (s : VmShared) (hostId : Uuid) : VmShared :=
  { s with instances := hostId :: s.instances.filter (· ≠ hostId) }

/-- `start_vm`, `send_migration` on a node: refused if the VM is not registered. -/
def registered (s : VmShared) (hostId : Uuid) : Option VmShared :=
  if hostId ∈ s.instances then some s else none

/-- `delete_vm` on a node: refused if the VM is not registered. -/
def unregister (s : VmShared) (hostId : Uuid) : Option VmShared :=
  if hostId ∈ s.instances then some { s with instances := s.instances.filter (· ≠ hostId) }
  else none

end VmShared

/-- What a node says about the VM. -/
inductive NodeReply where
  /-- A status of the protocol. -/
  | status (code : Int)
  | notFound
  | error
  deriving DecidableEq

inductive Outcome where
  | ok
  | fails
  | unanswered
  | reply (r : NodeReply)
  deriving DecidableEq

/-! ## Tasks -/

/-- Where `start_vm_internal` is after it has read the row: up to `revert` in the handler, then in
the job. -/
inductive StartPc where
  | check
  | setPending
  | setup
  | revert
  | markRunning
  | firstCheck
  | createVm
  | secondCheck
  | cleanup
  | thirdCheck
  | startVm
  | firewall
  | forceStop
  | restore
  | setRunning
  deriving DecidableEq

inductive CommitPc where
  | checks
  | createJob
  | markRunning
  | copyAndSwap
  | restore
  deriving DecidableEq

inductive RestorePc where
  | lookup
  | setPending
  | object
  | restoreVm
  | setUnknown
  | setRunning
  deriving DecidableEq

inductive FailoverPc where
  | pickHost
  | deleteOld
  | setConfig
  | setHost
  | setCreated
  | gpus
  | revertHost
  | revertStatus
  | revertConfig
  deriving DecidableEq

inductive MigratePc where
  | checks
  | setMigrating
  | createJob
  | markRunning
  | receive
  | send
  | setHost
  | setOriginal
  | deleteSource
  | restore
  deriving DecidableEq

inductive ImagePc where
  | insert
  | createJob
  | markRunning
  | pull
  | setCreated
  | setUnknown
  deriving DecidableEq

/-- Who called `start_vm_internal`.  A failover remembers the row it has read and its target. -/
inductive Caller where
  | request
  | failover (status : VmStatus) (dead target : Uuid)
  deriving DecidableEq

inductive Task where
  | startGet (caller : Caller)
  | start (caller : Caller) (pc : StartPc) (original : VmStatus) (hostId : Uuid)
  | commitGet
  /-- At `try_set_committing`, with the status read before. -/
  | commitSet (previous : VmStatus)
  /-- After it; `replaced` is the status that it has replaced, which the code does not know. -/
  | commit (pc : CommitPc) (previous replaced : VmStatus)
  | restoreGet
  | restore (pc : RestorePc) (hostId : Uuid)
  | failoverGet (target : Uuid)
  | failover (pc : FailoverPc) (status : VmStatus) (dead target : Uuid)
  | migrateGet (target : Uuid)
  | migrate (pc : MigratePc) (original : VmStatus) (source target : Uuid)
  | createImage (pc : ImagePc) (hostId : Uuid) (imageRef : String)
  | stop
  | stopWrite
  | deleteGet
  | deleteNode (status : VmStatus)
  | deleteRow
  | monitorList
  /-- The status and the count of writes in the snapshot. -/
  | monitorAsk (status : VmStatus) (seen : Nat)
  | monitorWrite (status : VmStatus) (snapshot : VmStatus) (seen : Nat)
  | ended
  deriving DecidableEq

def Task.begins : Task → Bool
  | .startGet .request | .commitGet | .restoreGet | .failoverGet _ | .migrateGet _
  | .createImage .insert _ _ | .stop | .deleteGet | .monitorList => true
  | _ => false

/-! ## Statements -/

/-- A query: done, or failed without effect. -/
def query (s : VmShared) (o : Outcome) (done : Task × VmShared) (failed : Task) :
    Option (Task × VmShared) :=
  match o with
  | .ok => some done
  | .fails => some (failed, s)
  | _ => none

/-- A query whose failure is ignored. -/
def ignored (s : VmShared) (o : Outcome) (done : VmShared) (after : Task) :
    Option (Task × VmShared) :=
  query s o (after, done) after

/-- A call to a node, which may refuse it. -/
def nodeCall (s : VmShared) (o : Outcome) (effect : Option VmShared) (done failed : Task) :
    Option (Task × VmShared) :=
  match o with
  | .ok => effect.map (done, ·)
  | .fails => some (failed, s)
  | .unanswered => effect.map (failed, ·)
  | .reply _ => none

/-- What a failed start returns to. -/
def Caller.onError : Caller → Task
  | .request => .ended
  | .failover status dead target => .failover .revertHost status dead target

def startGet (s : VmShared) (caller : Caller) (o : Outcome) : Option (Task × VmShared) :=
  let task := match s.row with
    | some r => if r.status.startable then .start caller .check r.status r.hostId
        else caller.onError
    | none => caller.onError
  query s o (task, s) caller.onError

/-- A start after it has read the row.  The row must be there for `ensure_vm_start_allowed`. -/
def startNext (s : VmShared) (caller : Caller) (pc : StartPc) (original : VmStatus)
    (hostId : Uuid) (o : Outcome) : Option (Task × VmShared) :=
  let at_ (pc : StartPc) : Task := .start caller pc original hostId
  let allowed (next failed : Task) := match s.row with
    | some _ => query s o (next, s) failed
    | none => query s o (failed, s) failed
  match pc with
  | .check => query s o (at_ .setPending, s) caller.onError
  | .setPending => query s o (at_ .setup, s.writeStatus .pending) caller.onError
  | .setup => query s o (at_ .markRunning, s) (at_ .revert)
  | .revert => ignored s o (s.writeStatus original) caller.onError
  | .markRunning => query s o (at_ .firstCheck, s) .ended
  | .firstCheck => allowed (at_ (if original = .created then .createVm else .thirdCheck)) .ended
  | .createVm => nodeCall s o (s.register hostId) (at_ .secondCheck) (at_ .restore)
  | .secondCheck => allowed (at_ .thirdCheck) (at_ .cleanup)
  | .cleanup => nodeCall s o (s.unregister hostId) (at_ .restore) (at_ .restore)
  | .thirdCheck => allowed (at_ .startVm) (at_ .restore)
  | .startVm => nodeCall s o (s.registered hostId) (at_ .firewall) (at_ .restore)
  | .firewall => query s o (at_ .setRunning, s) (at_ .forceStop)
  | .forceStop => nodeCall s o (s.registered hostId) (at_ .restore) (at_ .restore)
  | .restore => ignored s o (s.writeStatus original) .ended
  | .setRunning => ignored s o (s.writeStatus .running) .ended

def commitGet (s : VmShared) (o : Outcome) : Option (Task × VmShared) :=
  let task := match s.row with
    | some r => if r.imageRef.isSome then .commitSet r.status else .ended
    | none => .ended
  query s o (task, s) .ended

/-- `try_set_committing` -/
def commitSet (s : VmShared) (previous : VmStatus) (o : Outcome) : Option (Task × VmShared) :=
  let done := match s.row with
    | some r =>
      if r.status = .created ∨ r.status = .shutdown then
        (.commit .checks previous r.status, s.writeStatus .committing)
      else (.ended, s)
    | none => (.ended, s)
  query s o done .ended

def commitNext (s : VmShared) (pc : CommitPc) (previous replaced : VmStatus) (o : Outcome) :
    Option (Task × VmShared) :=
  let at_ (pc : CommitPc) : Task := .commit pc previous replaced
  match pc with
  | .checks => query s o (at_ .createJob, s) .ended
  | .createJob => query s o (at_ .markRunning, s) .ended
  | .markRunning => query s o (at_ .copyAndSwap, s) (at_ .restore)
  | .copyAndSwap => query s o (at_ .restore, s) (at_ .restore)
  | .restore => ignored s o (s.writeStatus previous) .ended

def restoreGet (s : VmShared) (o : Outcome) : Option (Task × VmShared) :=
  let task := match s.row with
    | some r => if r.status.restorable then .restore .lookup r.hostId else .ended
    | none => .ended
  query s o (task, s) .ended

def restoreNext (s : VmShared) (pc : RestorePc) (hostId : Uuid) (o : Outcome) :
    Option (Task × VmShared) :=
  match pc with
  | .lookup => query s o (.restore .setPending hostId, s) .ended
  | .setPending => query s o (.restore .object hostId, s.writeStatus .pending) .ended
  | .object => query s o (.restore .restoreVm hostId, s) .ended
  | .restoreVm => nodeCall s o (some (s.replace hostId)) (.restore .setRunning hostId)
      (.restore .setUnknown hostId)
  | .setUnknown => ignored s o (s.writeStatus .unknown) .ended
  | .setRunning => query s o (.ended, s.writeStatus .running) .ended

/-- The VM is listed among those of its host, which is down. -/
def failoverGet (s : VmShared) (target : Uuid) (o : Outcome) : Option (Task × VmShared) :=
  let task := match s.row with
    | some r =>
      if r.status.failoverable ∧ r.hostId ∈ s.down then
        .failover .pickHost r.status r.hostId target
      else .ended
    | none => .ended
  query s o (task, s) .ended

def failoverNext (s : VmShared) (pc : FailoverPc) (status : VmStatus) (dead target : Uuid)
    (o : Outcome) : Option (Task × VmShared) :=
  let at_ (pc : FailoverPc) : Task := .failover pc status dead target
  match pc with
  | .pickHost =>
    -- the target is up, and it is not the dead host
    if target ∈ s.down then query s o (.ended, s) .ended else query s o (at_ .deleteOld, s) .ended
  | .deleteOld => nodeCall s o (s.unregister dead) (at_ .setConfig) (at_ .setConfig)
  | .setConfig => query s o (at_ .setHost, s) .ended
  | .setHost => query s o (at_ .setCreated, s.writeHostId target) .ended
  | .setCreated => query s o (at_ .gpus, s.writeStatus .created) .ended
  | .gpus => query s o (.startGet (.failover status dead target), s) (at_ .revertHost)
  | .revertHost => ignored s o (s.writeHostId dead) (at_ .revertStatus)
  | .revertStatus => ignored s o (s.writeStatus status) (at_ .revertConfig)
  | .revertConfig => ignored s o s .ended

def migrateGet (s : VmShared) (target : Uuid) (o : Outcome) : Option (Task × VmShared) :=
  let task := match s.row with
    | some r =>
      if r.status = .running ∨ r.status = .paused then .migrate .checks r.status r.hostId target
      else .ended
    | none => .ended
  query s o (task, s) .ended

def migrateNext (s : VmShared) (pc : MigratePc) (original : VmStatus) (source target : Uuid)
    (o : Outcome) : Option (Task × VmShared) :=
  let at_ (pc : MigratePc) : Task := .migrate pc original source target
  match pc with
  | .checks => query s o (at_ .setMigrating, s) .ended
  | .setMigrating => query s o (at_ .createJob, s.writeStatus .migrating) .ended
  | .createJob => query s o (at_ .markRunning, s) .ended
  | .markRunning => query s o (at_ .receive, s) .ended
  | .receive => nodeCall s o (s.register target) (at_ .send) (at_ .restore)
  | .send => nodeCall s o (s.registered source) (at_ .setHost) (at_ .restore)
  | .setHost => ignored s o (s.writeHostId target) (at_ .setOriginal)
  | .setOriginal => ignored s o (s.writeStatus original) (at_ .deleteSource)
  | .deleteSource => nodeCall s o (s.unregister source) .ended .ended
  | .restore => ignored s o (s.writeStatus original) .ended

/-- The row is inserted as `Pending`; `pull` is `run_overlaybd_create` up to its last write. -/
def imageNext (s : VmShared) (pc : ImagePc) (hostId : Uuid) (imageRef : String) (o : Outcome) :
    Option (Task × VmShared) :=
  let at_ (pc : ImagePc) : Task := .createImage pc hostId imageRef
  match pc with
  | .insert =>
    if s.row.isSome then none
    else query s o (at_ .createJob,
      { s with row := some ⟨.pending, hostId, some imageRef⟩, writes := s.writes + 1 }) .ended
  | .createJob => query s o (at_ .markRunning, s) .ended
  | .markRunning => query s o (at_ .pull, s) .ended
  | .pull => query s o (at_ .setCreated, s) (at_ .setUnknown)
  | .setCreated => ignored s o (s.writeStatus .created) .ended
  | .setUnknown => ignored s o (s.writeStatus .unknown) .ended

/-- `delete` after it has read the row: the node is not asked if the VM is `Created` or
`Pending`. -/
def deleteGet (s : VmShared) (o : Outcome) : Option (Task × VmShared) :=
  let task := match s.row with
    | some r =>
      if r.status ≠ .created ∧ r.status ≠ .pending then .deleteNode r.status else .deleteRow
    | none => .ended
  query s o (task, s) .ended

/-- Errors of the node are tolerated. -/
def deleteNode (s : VmShared) (o : Outcome) : Option (Task × VmShared) :=
  match s.row with
  | some r => nodeCall s o (s.unregister r.hostId) .deleteRow .deleteRow
  | none => query s o (.deleteRow, s) .deleteRow

def statusWhenMissingOnNode : VmStatus → Option VmStatus
  | .created => none
  | _ => some .unknown

def protoStatusToDb (status : Int) (previous : VmStatus) : VmStatus :=
  match status with
  | 1 => if previous = .running ∨ previous = .paused ∨ previous = .shutdown then .shutdown
      else .created
  | 2 => .running
  | 3 => .paused
  | 4 => .shutdown
  | _ => .unknown

/-- The status that the monitor writes, if it writes one. -/
def monitorVerdict (status : VmStatus) : NodeReply → Option VmStatus
  | .status code =>
    let live := protoStatusToDb code status
    if live ≠ status then some live else none
  | .notFound => statusWhenMissingOnNode status
  | .error => none

def monitorList (s : VmShared) (o : Outcome) : Option (Task × VmShared) :=
  let task := match s.row with
    | some r => if r.status.listed then .monitorAsk r.status s.writes else .ended
    | none => .ended
  query s o (task, s) .ended

def monitorAsk (s : VmShared) (status : VmStatus) (seen : Nat) (o : Outcome) :
    Option (Task × VmShared) :=
  match o with
  | .reply r => match monitorVerdict status r with
      | some live => some (.monitorWrite live status seen, s)
      | none => some (.ended, s)
  | _ => none

/-- **The next statement of a task.** -/
def Task.next (s : VmShared) (task : Task) (o : Outcome) : Option (Task × VmShared) :=
  match task with
  | .startGet caller => Tasks.startGet s caller o
  | .start caller pc original hostId => startNext s caller pc original hostId o
  | .commitGet => Tasks.commitGet s o
  | .commitSet previous => Tasks.commitSet s previous o
  | .commit pc previous replaced => commitNext s pc previous replaced o
  | .restoreGet => Tasks.restoreGet s o
  | .restore pc hostId => restoreNext s pc hostId o
  | .failoverGet target => Tasks.failoverGet s target o
  | .failover pc status dead target => failoverNext s pc status dead target o
  | .migrateGet target => Tasks.migrateGet s target o
  | .migrate pc original source target => migrateNext s pc original source target o
  | .createImage pc hostId imageRef => imageNext s pc hostId imageRef o
  | .stop => query s o (.stopWrite, s) .ended
  | .stopWrite => query s o (.ended, s.writeStatus .shutdown) .ended
  | .deleteGet => Tasks.deleteGet s o
  | .deleteNode _ => Tasks.deleteNode s o
  | .deleteRow => query s o (.ended, { s with row := none }) .ended
  | .monitorList => Tasks.monitorList s o
  | .monitorAsk status seen => Tasks.monitorAsk s status seen o
  | .monitorWrite status _ _ => ignored s o (s.writeStatus status) .ended
  | .ended => none

/-- The next statement of a task when nobody else makes one. -/
def alone (c : Task × VmShared) (o : Outcome) : Option (Task × VmShared) := c.1.next c.2 o

abbrev VmPool := Pool VmShared Task

abbrev VmPool.step : VmPool → Act Task Outcome → Option VmPool :=
  Interleave.step Task.begins Task.next

/-- A VM with an image that was never started. -/
def createdVm : VmPool := ⟨⟨some ⟨.created, ⟨"host-a"⟩, some "app:1"⟩, 0, [], []⟩, []⟩

/-- A VM that runs on its host. -/
def runningVm : VmPool :=
  ⟨⟨some ⟨.running, ⟨"host-a"⟩, some "app:1"⟩, 0, [⟨"host-a"⟩], []⟩, []⟩

/-- A VM that has been stopped; its node keeps its instance. -/
def stoppedVm : VmPool :=
  ⟨⟨some ⟨.shutdown, ⟨"host-a"⟩, some "app:1"⟩, 0, [⟨"host-a"⟩], []⟩, []⟩

/-! ## What statements do -/

section Statements

variable {s s' : VmShared} {t' : Task} {o : Outcome} {hostId : Uuid}

@[simp] lemma status_writeStatus (status : VmStatus) (h : s.row.isSome = true) :
    (s.writeStatus status).status = some status := by
  obtain ⟨r, hr⟩ := Option.isSome_iff_exists.1 h
  simp [VmShared.status, VmShared.writeStatus, hr]

@[simp] lemma status_writeHostId (hostId : Uuid) :
    (s.writeHostId hostId).status = s.status := by
  simp [VmShared.status, VmShared.writeHostId, Function.comp_def]

@[simp] lemma isSome_row_writeStatus (status : VmStatus) :
    (s.writeStatus status).row.isSome = s.row.isSome := by
  simp [VmShared.writeStatus]

@[simp] lemma isSome_row_writeHostId (hostId : Uuid) :
    (s.writeHostId hostId).row.isSome = s.row.isSome := by
  simp [VmShared.writeHostId]

lemma register_eq (h : s.register hostId = some s') :
    hostId ∉ s.instances ∧ s' = { s with instances := hostId :: s.instances } := by
  unfold VmShared.register at h
  split_ifs at h with hmem
  cases h
  exact ⟨hmem, rfl⟩

lemma registered_eq (h : s.registered hostId = some s') : hostId ∈ s.instances ∧ s' = s := by
  unfold VmShared.registered at h
  split_ifs at h with hmem
  cases h
  exact ⟨hmem, rfl⟩

lemma unregister_eq (h : s.unregister hostId = some s') :
    hostId ∈ s.instances ∧ s' = { s with instances := s.instances.filter (· ≠ hostId) } := by
  unfold VmShared.unregister at h
  split_ifs at h with hmem
  cases h
  exact ⟨hmem, rfl⟩

lemma row_register (h : s.register hostId = some s') : s'.row = s.row := by
  rw [(register_eq h).2]

lemma row_registered (h : s.registered hostId = some s') : s'.row = s.row := by
  rw [(registered_eq h).2]

lemma row_unregister (h : s.unregister hostId = some s') : s'.row = s.row := by
  rw [(unregister_eq h).2]

/-- **Queries.** -/
lemma query_ind {Q : Task → VmShared → Prop} {done : Task × VmShared} {failed : Task}
    (h : query s o done failed = some (t', s')) (hdone : o = .ok → Q done.1 done.2)
    (hfailed : o = .fails → Q failed s) : Q t' s' := by
  cases o <;> simp_all [query]

/-- **Calls to a node**, whose answer may be lost. -/
lemma nodeCall_ind {Q : Task → VmShared → Prop} {effect : Option VmShared} {done failed : Task}
    (h : nodeCall s o effect done failed = some (t', s'))
    (hdone : ∀ s₁, effect = some s₁ → o = .ok → Q done s₁) (hfailed : o = .fails → Q failed s)
    (hlost : ∀ s₁, effect = some s₁ → o = .unanswered → Q failed s₁) : Q t' s' := by
  cases o <;> simp_all [nodeCall]

end Statements

end Tasks

end Qarax
