import Qarax.Control.Vms
import Qarax.Core.Machine

/-!
# `ha_monitor.rs`

The monitor is one task that goes through the `Down` hosts again and again, one database write or
node call at a time, while API handlers and other tasks go on beside it.  `World.step` is all of
them together: an action is one atomic effect of one of them, and what a call or a write comes to is
part of the action.

The position of the monitor is a `Monitor`.  It keeps the rows it read (`vm`, `todo`) and the hosts
of the cycle that are left (`down`), as the source keeps them in local variables; they may be out of
date.

`World.copies` is not in the source: the VMs that a failover moved away from a host without an
answer that the old instance is gone.
-/

namespace Qarax

/-- Where the loop over stale copies stands. -/
inductive CleanupPc where
  | forceStop
  | delete
  | clear

/-- Where `execute_failover` stands.  `target` is the host picked, `deleted` whether the best-effort
deletion on the dead host was answered. -/
inductive FailoverPc where
  | pick
  | stopOld (target : Uuid)
  | tag (target : Uuid) (deleted : Bool)
  | place (target : Uuid) (deleted : Bool)
  | activate
  | launch
  | revertHost
  | revertStatus
  | revertConfig

inductive Monitor where
  | idle
  /-- In `run_cycle`, before the next host. -/
  | cycle (down : List Uuid)
  /-- In `cleanup_stale_copies`. -/
  | cleanup (host : Uuid) (pc : CleanupPc) (vm : Vm) (todo : List Vm) (down : List Uuid)
  /-- In `failover_host`, before the next candidate. -/
  | candidates (host : Uuid) (todo : List Vm) (down : List Uuid)
  /-- In `execute_failover`. -/
  | failover (host : Uuid) (pc : FailoverPc) (vm : Vm) (todo : List Vm) (down : List Uuid)

/-- A migration between `plan_vm_migration` and its last effect. -/
structure PlannedVmMigration where
  vmId : Uuid
  target : Uuid
  originalStatus : VmStatus
  deriving DecidableEq

structure World where
  hosts : List Host
  vms : List Vm
  templates : List VmTemplate
  migrations : List PlannedVmMigration
  /-- The nodes that answer. -/
  reachable : List Uuid
  monitor : Monitor
  copies : List (Uuid × Uuid)

/-- How `execute_planned_vm_migration` ends. -/
inductive MigrationEnd where
  /-- It returns an error. -/
  | failed
  /-- It returns, and `update_host_id` took effect. -/
  | moved
  /-- It returns, and `update_host_id` failed, which is only logged. -/
  | hostNotWritten
  deriving DecidableEq

inductive Action where
  /-- A node starts or stops answering. -/
  | node (host : Uuid) (answers : Bool)
  /-- The resource monitor's probe fails. -/
  | probeFailed (host : Uuid)
  /-- The handler of `PATCH /hosts`. -/
  | update (host : Uuid) (status : HostStatus)
  /-- `deploy` and the end of its background task. -/
  | deploy (host : Uuid)
  | deployed (host : Uuid) (ok : Bool)
  /-- The handler of `POST /hosts/…/init`. -/
  | init (host : Uuid)
  /-- `create_from_vm`. -/
  | createTemplate (id vmId : Uuid)
  /-- `create_vm_internal`, with the host that was picked. -/
  | createVm (id host : Uuid) (request : NewVm) (data : SchedulingMetadata)
  /-- Any of the handlers and monitors that only write the status of a VM. -/
  | vmStatus (id : Uuid) (status : VmStatus)
  | planMigration (id target : Uuid)
  | endMigration (migration : PlannedVmMigration) (result : MigrationEnd)
  /-- `run_cycle` lists the hosts that are down. -/
  | listDown
  /-- It goes to the next host; `grace` says that the grace period is over, `listed` that the query
  for rows succeeds. -/
  | nextHost (grace listed : Bool)
  /-- One call or write of `cleanup_stale_copies`. -/
  | cleanup (ok : Bool)
  /-- `failover_host` goes to the next candidate; `skip` when it is not tried. -/
  | candidate (skip : Bool)
  /-- `execute_failover` has found no target, or one. -/
  | picked (target : Option Uuid)
  /-- One further call or write of `execute_failover`. -/
  | failover (ok : Bool)

/-! ## Steps -/

def World.hostIs (w : World) (host : Uuid) (status : HostStatus) : Bool :=
  w.hosts.any fun h => h.id = host && h.status = status

def World.setHost (w : World) (host : Uuid) (status : HostStatus) : World :=
  { w with hosts := Rows.update Host.id host (fun h => { h with status }) w.hosts }

def listDown (hosts : List Host) : List Uuid :=
  (hosts.filter fun h => h.status = .down).map Host.id

/-- `collect_failover_candidates`. -/
def collectFailoverCandidates (host : Uuid) (vms : List Vm) : List Vm :=
  (listByHost host vms).filter fun vm =>
    haEnabled vm.config && (vm.status = .running || vm.status = .paused || vm.status = .unknown)

/-- The next stale copy, or the next host when there is none. -/
def Monitor.nextCopy (host : Uuid) (todo : List Vm) (down : List Uuid) : Monitor :=
  match todo with
  | [] => .cycle down
  | vm :: todo => .cleanup host .forceStop vm todo down

/-- Ids of new rows are random: none is in use. -/
def World.unused (w : World) (id : Uuid) : Bool :=
  w.vms.all (·.id ≠ id) && w.copies.all (·.1 ≠ id) &&
    match w.monitor with
    | .cleanup _ _ vm todo _ | .failover _ _ vm todo _ => (vm :: todo).all (·.id ≠ id)
    | .candidates _ todo _ => todo.all (·.id ≠ id)
    | _ => true

/-- The `config` that `create_vm_internal` stores. -/
def World.newConfig (w : World) (request : NewVm) (data : SchedulingMetadata) : Json :=
  let template := request.vmTemplateId.bind fun id => w.templates.find? (·.id = id)
  persistVmSchedulingMetadata (resolveConfig (template.map (·.config)) request) data

/-- The part of a step that is the monitor's. -/
def World.cleanupStep (w : World) (ok : Bool) : Option World :=
  match w.monitor with
  | .cleanup host .forceStop vm todo down =>
    -- the answer is not looked at
    some { w with monitor := .cleanup host .delete vm todo down }
  | .cleanup host .delete vm todo down =>
    if ok then
      some { w with
        monitor := .cleanup host .clear vm todo down
        copies := w.copies.filter (· ≠ (vm.id, host)) }
    else some { w with monitor := .nextCopy host todo down }
  | .cleanup host .clear vm todo down =>
    let vms := if ok then updateConfig vm.id (setFailedOverFrom vm.config none) w.vms else w.vms
    some { w with vms, monitor := .nextCopy host todo down }
  | _ => none

def World.failoverStep (w : World) (ok : Bool) : Option World :=
  match w.monitor with
  | .failover host (.stopOld target) vm todo down =>
    let copies := if ok then w.copies.filter (· ≠ (vm.id, host)) else w.copies
    some { w with copies, monitor := .failover host (.tag target ok) vm todo down }
  | .failover host (.tag target deleted) vm todo down =>
    if ok then
      some { w with
        vms := updateConfig vm.id (setFailedOverFrom vm.config (some host)) w.vms
        monitor := .failover host (.place target deleted) vm todo down }
    else some { w with monitor := .candidates host todo down }
  | .failover host (.place target deleted) vm todo down =>
    if ok then
      some { w with
        vms := updateHostId vm.id target w.vms
        copies := if deleted then w.copies else w.copies.insert (vm.id, host)
        monitor := .failover host .activate vm todo down }
    else some { w with monitor := .candidates host todo down }
  | .failover host .activate vm todo down =>
    if ok then
      some { w with
        vms := updateStatus vm.id .created w.vms
        monitor := .failover host .launch vm todo down }
    else some { w with monitor := .candidates host todo down }
  | .failover host .launch vm todo down =>
    -- GPUs and `start_vm_internal`
    if ok then
      some { w with
        vms := updateStatus vm.id .pending w.vms
        monitor := .candidates host todo down }
    else some { w with monitor := .failover host .revertHost vm todo down }
  | .failover host .revertHost vm todo down =>
    let w := { w with monitor := .failover host .revertStatus vm todo down }
    if ok then
      some { w with
        vms := updateHostId vm.id host w.vms
        copies := w.copies.filter (· ≠ (vm.id, host)) }
    else some w
  | .failover host .revertStatus vm todo down =>
    let vms := if ok then updateStatus vm.id vm.status w.vms else w.vms
    some { w with vms, monitor := .failover host .revertConfig vm todo down }
  | .failover host .revertConfig vm todo down =>
    let vms := if ok then updateConfig vm.id vm.config w.vms else w.vms
    some { w with vms, monitor := .candidates host todo down }
  | _ => none

def World.step (w : World) : Action → Option World
  | .node host answers =>
    let others := w.reachable.filter (· ≠ host)
    some { w with reachable := if answers then host :: others else others }
  | .probeFailed host =>
    -- decided on a row read earlier, so nothing is known of the status now
    some (w.setHost host .down)
  | .update host status => some (w.setHost host status)
  | .deploy host => some (w.setHost host .installing)
  | .deployed host ok => some (w.setHost host (if ok then .up else .installationFailed))
  | .init host => if host ∈ w.reachable then some (w.setHost host .up) else none
  | .createTemplate id vmId => do
      let vm ← w.vms.find? (·.id = vmId)
      some { w with templates := ⟨id, vm.config⟩ :: w.templates }
  | .createVm id host request data =>
    if w.unused id && w.hostIs host .up &&
        request.vmTemplateId.all (fun id => w.templates.any (·.id = id)) then
      some { w with vms := ⟨id, some host, .created, w.newConfig request data⟩ :: w.vms }
    else none
  | .vmStatus id status => some { w with vms := updateStatus id status w.vms }
  | .planMigration id target => do
      let vm ← w.vms.find? (·.id = id)
      if (vm.status = .running || vm.status = .paused) && vm.hostId.any (· ≠ target) &&
          w.hosts.any (·.id = target) then
        some { w with
          vms := updateStatus id .migrating w.vms
          migrations := ⟨id, target, vm.status⟩ :: w.migrations }
      else none
  | .endMigration m result =>
    if m ∈ w.migrations then
      let vms := if result = .moved then updateHostId m.vmId m.target w.vms else w.vms
      some { w with
        vms := updateStatus m.vmId m.originalStatus vms
        migrations := w.migrations.erase m }
    else none
  | .listDown =>
    match w.monitor with
    | .idle => some { w with monitor := .cycle (listDown w.hosts) }
    | _ => none
  | .nextHost grace listed =>
    match w.monitor with
    | .cycle [] => some { w with monitor := .idle }
    | .cycle (host :: down) =>
      if listed && host ∈ w.reachable then
        some { w with monitor := .nextCopy host (listFailedOverFrom host w.vms) down }
      else if listed && grace && host ∉ w.reachable then
        some { w with monitor := .candidates host (collectFailoverCandidates host w.vms) down }
      else some { w with monitor := .cycle down }
    | _ => none
  | .cleanup ok => w.cleanupStep ok
  | .candidate skip =>
    match w.monitor with
    | .candidates _ [] down => some { w with monitor := .cycle down }
    | .candidates host (vm :: todo) down =>
      if skip then some { w with monitor := .candidates host todo down }
      else some { w with monitor := .failover host .pick vm todo down }
    | _ => none
  | .picked target =>
    match w.monitor with
    | .failover host .pick vm todo down =>
      match target with
      | none => some { w with monitor := .candidates host todo down }
      | some target =>
        if target ≠ host && w.hostIs target .up then
          some { w with monitor := .failover host (.stopOld target) vm todo down }
        else none
    | _ => none
  | .failover ok => w.failoverStep ok

/-- A control plane that has just been set up. -/
def World.Fresh (w : World) : Prop :=
  w.vms = [] ∧ w.templates = [] ∧ w.migrations = [] ∧ w.monitor = .idle ∧ w.copies = []

end Qarax
