import Qarax.Core.Interleave
import Qarax.Control.Admission

/-!
# Evacuating a host

The handler of an evacuation lists the VMs of the host, looks for a destination for each of them,
and then puts the host into maintenance; its job moves the listed VMs one after the other and is
marked completed.  Other requests create, start and migrate VMs meanwhile.

A creation locks the row of the host it picked until it commits, so the write of the status waits
for it, and a host that was put into maintenance after the query of a creation had begun fails the
condition on the status when its row is locked.  A migration takes the destination of the request
and never looks at its status.  `completions` and `placements` are kept for the property only: what
was on the host when the job was marked completed, and the status of a host when another request put
a VM on it.

* `planNext`, `searchNext` — `plan_vm_migration` and `pick_evacuation_plan`.
* `createNext`, `startNext`, `migrateNext`, `evacuateNext` — the requests, one statement at a time.
* `spared` — no VM comes to the host after the list was read, and the moves are written.
-/

namespace Qarax

namespace Evacuation

open Interleave Machine

structure EvacDb where
  cluster : Cluster
  /-- The networks of the interfaces of VMs. -/
  vmNetworks : List (Uuid × Uuid)
  /-- Locked rows of `hosts`. -/
  locks : List Uuid
  completions : List (List Uuid)
  placements : List (Uuid × HostStatus)

/-- What comes of a statement, or of a group of checks that read only. -/
inductive Outcome where
  | ok
  | refused
  | fail
  deriving DecidableEq

namespace EvacDb

def residents (db : EvacDb) (hostId : Uuid) : List ScheduledVm :=
  db.cluster.vms.filter (·.hostId = some hostId)

def setHostStatus (db : EvacDb) (hostId : Uuid) (status : HostStatus) : EvacDb :=
  { db with cluster := { db.cluster with
      hosts := Rows.update ScheduledHost.id hostId (fun host => { host with status })
        db.cluster.hosts } }

def setVmStatus (db : EvacDb) (vmId : Uuid) (status : VmStatus) : EvacDb :=
  { db with cluster := db.cluster.setStatus vmId status }

def updateHostId (db : EvacDb) (vmId hostId : Uuid) : EvacDb :=
  { db with cluster := db.cluster.updateVm vmId fun vm => { vm with hostId := some hostId } }

def unlock (db : EvacDb) (hostId : Uuid) : EvacDb :=
  { db with locks := db.locks.filter (· ≠ hostId) }

def statusOf (db : EvacDb) (hostId : Uuid) : Option HostStatus :=
  (db.cluster.host? hostId).map (·.status)

/-- Another request puts a VM on a host. -/
def place (db : EvacDb) (hostId : Uuid) : EvacDb :=
  { db with placements := (db.statusOf hostId).toList.map (hostId, ·) ++ db.placements }

/-- The VM is not on that host yet. -/
def arrives (db : EvacDb) (vmId hostId : Uuid) : Bool :=
  db.cluster.vms.any fun vm => vm.id = vmId && vm.hostId ≠ some hostId

/-- `update_host_id` of a migration that was requested. -/
def migrateTo (db : EvacDb) (vmId hostId : Uuid) : EvacDb :=
  let moved := db.updateHostId vmId hostId
  if db.arrives vmId hostId then moved.place hostId else moved

end EvacDb

/-! ## Plans -/

structure PlannedVmMigration where
  vmId : Uuid
  sourceHostId : Uuid
  targetHostId : Uuid
  originalStatus : VmStatus
  deriving DecidableEq

/-- Where `plan_vm_migration` is. -/
inductive PlanStage where
  | getVm
  | sourceHost (vm : ScheduledVm)
  | targetHost (vm : ScheduledVm) (source : ScheduledHost)
  | checks (plan : PlannedVmMigration)
  deriving DecidableEq

inductive PlanStep where
  | next (stage : PlanStage)
  | planned (plan : PlannedVmMigration)
  /-- `UnprocessableEntity` -/
  | unprocessable
  | failed

/-- The last checks are on hypervisor, GPUs and disks. -/
def planNext (db : Cluster) (o : Outcome) (vmId targetHostId : Uuid) : PlanStage → PlanStep
  | .getVm =>
    match if o = .ok then db.vm? vmId else none with
    | none => .failed
    | some vm =>
      if vm.status = .running ∨ vm.status = .paused then .next (.sourceHost vm)
      else .unprocessable
  | .sourceHost vm =>
    match if o = .ok then db.vm? vmId else none with
    | none => .failed
    | some row =>
      match db.hostForVm row with
      | none => .unprocessable
      | some source => .next (.targetHost vm source)
  | .targetHost vm source =>
    match if o = .ok then db.host? targetHostId else none with
    | none => .failed
    | some target =>
      if source.id = target.id ∨ matchesArchitecture vm target = false then .unprocessable
      else .next (.checks ⟨vmId, source.id, target.id, vm.status⟩)
  | .checks plan =>
    match o with
    | .ok => if (listGpusByVm db.gpus vmId).isEmpty then .planned plan else .unprocessable
    | .refused => .unprocessable
    | .fail => .failed

/-- Where `pick_evacuation_plan` is. -/
inductive Search where
  | request
  | pick (request : SchedulingRequest)
  | plan (request : SchedulingRequest) (candidateId : Uuid) (stage : PlanStage)
  deriving DecidableEq

inductive SearchStep where
  | next (search : Search)
  | planned (plan : PlannedVmMigration)
  | failed

/-- `pick_host_tx` in a transaction that ends at once. -/
def pickUnlocked (settings : SchedulingSettings) (db : EvacDb) (request : SchedulingRequest) :
    Option ScheduledHost :=
  (eligibleHosts settings db.cluster request).find? (·.id ∉ db.locks)

def searchNext (settings : SchedulingSettings) (db : EvacDb) (o : Outcome) (vm : ScheduledVm)
    (sourceHostId : Uuid) : Search → SearchStep
  | .request =>
    let networks := (db.vmNetworks.filter (·.1 = vm.id)).map (·.2)
    if o = .ok then .next (.pick (evacuationSchedulingRequest vm sourceHostId networks none))
    else .failed
  | .pick request =>
    match if o = .ok then pickUnlocked settings db request else none with
    | none => .failed
    | some candidate => .next (.plan request candidate.id .getVm)
  | .plan request candidateId stage =>
    match planNext db.cluster o vm.id candidateId stage with
    | .next stage => .next (.plan request candidateId stage)
    | .planned plan => .planned plan
    | .unprocessable => .next (.pick { request with
        excludedHostIds := request.excludedHostIds ++ [candidateId] })
    | .failed => .failed

/-! ## Requests -/

inductive CreatePc where
  | begin
  /-- In the query of `pick_host_tx`, with the snapshot and the rows not tried yet. -/
  | picking (snapshot : Cluster) (untried : List ScheduledHost)
  /-- The row of the host is locked. -/
  | placed (host : ScheduledHost)
  | done

structure NewVm where
  id : Uuid
  request : SchedulingRequest
  tags : List String
  /-- The VM boots an image, which a job pulls. -/
  image : Bool

def NewVm.row (vm : NewVm) (host : ScheduledHost) : ScheduledVm where
  id := vm.id
  hostId := some host.id
  status := if vm.image then .pending else .created
  memorySize := vm.request.memoryBytes
  bootVcpus := vm.request.vcpus
  tags := vm.tags
  architecture := vm.request.architecture
  placementPolicy := vm.request.placementPolicy

/-- Further rows of the VM are inserted, and the transaction commits. -/
def commitVm (vm : NewVm) (host : ScheduledHost) (db : EvacDb) : Option EvacDb :=
  (vm.request.gpu.elim (some db.cluster.gpus)
    (allocateAllGpus db.cluster.gpus host.id vm.id)).map fun gpus =>
      (({ db with cluster := { db.cluster with
          vms := vm.row host :: db.cluster.vms, gpus } }).place host.id).unlock host.id

/-- `create_vm_internal`, `create_vm_with_image_internal` -/
def createNext (settings : SchedulingSettings) (vm : NewVm) (db : EvacDb) (o : Outcome) :
    CreatePc → Option (CreatePc × EvacDb)
  | .begin =>
    let hosts := eligibleHosts settings db.cluster vm.request
    some (if o = .ok then .picking db.cluster hosts else .done, db)
  | .picking _ [] => some (.done, db)
  | .picking snapshot (host :: untried) =>
    if host.id ∈ db.locks then some (.picking snapshot untried, db)
    else
      -- a row that was written since the snapshot has to meet the conditions as it is now
      match (db.cluster.host? host.id).filter (eligible settings snapshot vm.request) with
      | none => some (.picking snapshot untried, db)
      | some row => some (.placed row, { db with locks := host.id :: db.locks })
  | .placed host =>
    match if o = .ok then commitVm vm host db else none with
    | some db => some (.done, db)
    | none => some (.done, db.unlock host.id)
  | .done => none

/-- Where `start_vm_internal` and its job are. -/
inductive StartPc where
  | get
  | host (vm : ScheduledVm)
  | setPending (vm : ScheduledVm)
  | job (vm : ScheduledVm)
  | setRunning
  | restore (vm : ScheduledVm)
  | done

def startNext (vmId : Uuid) (db : EvacDb) (o : Outcome) : StartPc → Option (StartPc × EvacDb)
  | .get =>
    match if o = .ok then db.cluster.vm? vmId else none with
    | some vm => some (if AdmissionState.startable vm.status then .host vm else .done, db)
    | none => some (.done, db)
  | .host vm =>
    match if o = .ok then (db.cluster.vm? vmId).bind db.cluster.hostForVm else none with
    | some host => some (if matchesArchitecture vm host then .setPending vm else .done, db)
    | none => some (.done, db)
  | .setPending vm =>
    some (if o = .ok then (.job vm, db.setVmStatus vmId .pending) else (.done, db))
  | .job vm =>
    -- nothing is restored when the job itself cannot be marked running
    match o with
    | .ok => some (.setRunning, db)
    | .refused => some (.restore vm, db)
    | .fail => some (.done, db)
  | .setRunning => some (.done, if o = .ok then db.setVmStatus vmId .running else db)
  | .restore vm => some (.done, if o = .ok then db.setVmStatus vmId vm.status else db)
  | .done => none

/-- Where `migrate` and its job are. -/
inductive MigratePc where
  | plan (stage : PlanStage)
  | setMigrating (plan : PlannedVmMigration)
  | createJob (plan : PlannedVmMigration)
  | transfer (plan : PlannedVmMigration)
  | updateHostId (plan : PlannedVmMigration)
  | updateStatus (plan : PlannedVmMigration)
  | done

def migrateNext (vmId targetHostId : Uuid) (db : EvacDb) (o : Outcome) :
    MigratePc → Option (MigratePc × EvacDb)
  | .plan stage =>
    match planNext db.cluster o vmId targetHostId stage with
    | .next stage => some (.plan stage, db)
    | .planned plan => some (.setMigrating plan, db)
    | .unprocessable | .failed => some (.done, db)
  | .setMigrating plan =>
    some (if o = .ok then (.createJob plan, db.setVmStatus vmId .migrating) else (.done, db))
  | .createJob plan => some (if o = .ok then .transfer plan else .done, db)
  | .transfer plan => some (if o = .ok then .updateHostId plan else .updateStatus plan, db)
  | .updateHostId plan =>
    some (.updateStatus plan, if o = .ok then db.migrateTo vmId plan.targetHostId else db)
  | .updateStatus plan =>
    some (.done, if o = .ok then db.setVmStatus vmId plan.originalStatus else db)
  | .done => none

/-! ## The evacuation -/

/-- What a job of an evacuation carries: the VMs still to come, and those it has moved. -/
structure EvacJob where
  originalHostStatus : HostStatus
  todo : List Uuid
  moved : List Uuid
  deriving DecidableEq

inductive EvacPc where
  | get
  | list (original : HostStatus)
  /-- Looking for a destination for the first of `todo`. -/
  | check (original : HostStatus) (residents todo : List ScheduledVm) (search : Search)
  | setMaintenance (original : HostStatus) (residents : List ScheduledVm)
  | createJob (job : EvacJob)
  | markRunning (job : EvacJob)
  /-- Loads the first VM of the job, or marks the job completed. -/
  | load (job : EvacJob)
  | search (job : EvacJob) (vm : ScheduledVm) (search : Search)
  | setMigrating (job : EvacJob) (plan : PlannedVmMigration)
  | transfer (job : EvacJob) (plan : PlannedVmMigration)
  | updateHostId (job : EvacJob) (plan : PlannedVmMigration)
  | updateStatus (job : EvacJob) (plan : PlannedVmMigration)
  | restoreVm (job : EvacJob) (plan : PlannedVmMigration)
  | fail (job : EvacJob)
  | done
  deriving DecidableEq

/-- The handler goes on to the next resident, or to the write of the status. -/
def checkFrom (original : HostStatus) (residents : List ScheduledVm) : List ScheduledVm → EvacPc
  | [] => .setMaintenance original residents
  | vm :: todo => .check original residents (vm :: todo) .request

def EvacJob.evacuated (job : EvacJob) (vmId : Uuid) : EvacJob :=
  { job with moved := job.moved ++ [vmId] }

/-- `evacuate` and its job. -/
def evacuateNext (settings : SchedulingSettings) (hostId : Uuid) (db : EvacDb) (o : Outcome) :
    EvacPc → Option (EvacPc × EvacDb)
  | .get =>
    match if o = .ok then db.cluster.host? hostId else none with
    | some host =>
      some (if host.status = .up ∨ host.status = .maintenance then .list host.status
        else .done, db)
    | none => some (.done, db)
  | .list original =>
    let residents := db.residents hostId
    if o = .ok ∧ residents.all fun vm => vm.status = .running || vm.status = .paused then
      some (checkFrom original residents residents, db)
    else some (.done, db)
  | .check original residents todo search =>
    match todo with
    | [] => none
    | vm :: todo =>
      match searchNext settings db o vm hostId search with
      | .next search => some (.check original residents (vm :: todo) search, db)
      | .planned _ => some (checkFrom original residents todo, db)
      | .failed => some (.done, db)
  | .setMaintenance original residents =>
    if hostId ∈ db.locks then none
    else if o = .ok then
      some (.createJob ⟨original, residents.map (·.id), []⟩, db.setHostStatus hostId .maintenance)
    else some (.done, db)
  | .createJob job => some (if o = .ok then .markRunning job else .done, db)
  | .markRunning job => some (if o = .ok then .load job else .fail job, db)
  | .load job =>
    match job.todo with
    | [] =>
      some (.done, if o = .ok then
        { db with completions := (db.residents hostId).map (·.id) :: db.completions } else db)
    | vmId :: todo =>
      match if o = .ok then db.cluster.vm? vmId else none with
      | some vm => some (.search { job with todo } vm .request, db)
      | none => some (.fail job, db)
  | .search job vm search =>
    match searchNext settings db o vm hostId search with
    | .next search => some (.search job vm search, db)
    | .planned plan => some (.setMigrating job plan, db)
    | .failed => some (.fail job, db)
  | .setMigrating job plan =>
    some (if o = .ok then (.transfer job plan, db.setVmStatus plan.vmId .migrating)
      else (.fail job, db))
  | .transfer job plan => some (if o = .ok then .updateHostId job plan else .restoreVm job plan, db)
  | .updateHostId job plan =>
    -- an error is logged only
    some (.updateStatus (job.evacuated plan.vmId) plan,
      if o = .ok then db.updateHostId plan.vmId plan.targetHostId else db)
  | .updateStatus job plan =>
    some (.load job, if o = .ok then db.setVmStatus plan.vmId plan.originalStatus else db)
  | .restoreVm job plan =>
    some (.fail job, if o = .ok then db.setVmStatus plan.vmId plan.originalStatus else db)
  | .fail job =>
    if job.moved ≠ [] then some (.done, db)
    else if hostId ∈ db.locks then none
    else some (.done, if o = .ok then db.setHostStatus hostId job.originalHostStatus else db)
  | .done => none

inductive EvacTask where
  | create (vm : NewVm) (pc : CreatePc)
  | start (vmId : Uuid) (pc : StartPc)
  | migrate (vmId targetHostId : Uuid) (pc : MigratePc)
  | evacuate (pc : EvacPc)

namespace EvacTask

def begins : EvacTask → Bool
  | .create _ .begin | .start _ .get | .migrate _ _ (.plan .getVm) => true
  | _ => false

/-- **One statement**, none if it has to wait; the evacuation is that of `hostId`. -/
def next (settings : SchedulingSettings) (hostId : Uuid) (db : EvacDb) (task : EvacTask)
    (o : Outcome) : Option (EvacTask × EvacDb) :=
  match task with
  | .create vm pc => (createNext settings vm db o pc).map fun (pc, db) => (.create vm pc, db)
  | .start vmId pc => (startNext vmId db o pc).map fun (pc, db) => (.start vmId pc, db)
  | .migrate vmId target pc =>
    (migrateNext vmId target db o pc).map fun (pc, db) => (.migrate vmId target pc, db)
  | .evacuate pc => (evacuateNext settings hostId db o pc).map fun (pc, db) => (.evacuate pc, db)

/-- The evacuation has read its list, and the host is not in maintenance on its account yet. -/
def listed : EvacTask → Bool
  | .evacuate (.check _ _ _ _) | .evacuate (.setMaintenance _ _) => true
  | _ => false

end EvacTask

abbrev Service := Pool EvacDb EvacTask

abbrev serviceStep (settings : SchedulingSettings) (hostId : Uuid) :
    Service → Act EvacTask Outcome → Option Service :=
  step EvacTask.begins (EvacTask.next settings hostId)

/-- **No VM comes to the host after the list was read, and the moves are written.**  A creation
commits on the host, and a migration to it is written, only outside the time between the list and
the write of the status; a migration also not in maintenance; and the evacuation's own write of the
destination fails only for a VM that is not on the host anymore. -/
def spared (hostId : Uuid) (p : Service) : Act EvacTask Outcome → Bool
  | .run i o =>
    match p.tasks[i]?, o with
    | some (.create vm (.placed host)), .ok =>
      host.id ≠ hostId || (commitVm vm host p.shared).isNone || p.tasks.all (!·.listed)
    | some (.migrate vmId _ (.updateHostId plan)), .ok =>
      plan.targetHostId ≠ hostId || !p.shared.arrives vmId hostId ||
        (p.shared.statusOf hostId ≠ some .maintenance && p.tasks.all (!·.listed))
    | some (.evacuate (.updateHostId _ plan)), o =>
      o = .ok || (p.shared.residents hostId).all (·.id ≠ plan.vmId)
    | _, _ => true
  | .spawn _ => true

/-! ## What a statement can do -/

/-- The host whose row the task has locked. -/
def EvacTask.holds : EvacTask → Option Uuid
  | .create _ (.placed host) => some host.id
  | _ => none

/-- No VM comes to the host, and nothing else is written but columns of VMs. -/
structure Calm (hostId : Uuid) (db db' : EvacDb) : Prop where
  arrivals : ∀ vm ∈ db'.residents hostId, ∃ row ∈ db.residents hostId, row.id = vm.id
  hosts : db'.cluster.hosts = db.cluster.hosts
  locks : db'.locks = db.locks
  completions : db'.completions = db.completions
  placements : db'.placements = db.placements

/-- **What a statement of `t` can do.** -/
inductive Effect (hostId : Uuid) (db : EvacDb) (t t' : EvacTask) (o : Outcome) : EvacDb → Prop
  | calm (db' : EvacDb) : Calm hostId db db' → t.holds = none → t'.holds = none →
      Effect hostId db t t' o db'
  | lock (host : ScheduledHost) : host.id ∉ db.locks → db.statusOf host.id = some .up →
      t'.holds = some host.id → Effect hostId db t t' o { db with locks := host.id :: db.locks }
  | release (host : ScheduledHost) : t.holds = some host.id → t'.holds = none →
      Effect hostId db t t' o (db.unlock host.id)
  | commit (vm : NewVm) (host : ScheduledHost) (db' : EvacDb) :
      t = .create vm (.placed host) → o = .ok → commitVm vm host db = some db' →
      t'.holds = none → Effect hostId db t t' o db'
  | migrate (vmId target : Uuid) (plan : PlannedVmMigration) :
      t = .migrate vmId target (.updateHostId plan) → o = .ok → t'.holds = none →
      Effect hostId db t t' o (db.migrateTo vmId plan.targetHostId)
  | setStatus (pc pc' : EvacPc) (status : HostStatus) : t = .evacuate pc → t' = .evacuate pc' →
      hostId ∉ db.locks → Effect hostId db t t' o (db.setHostStatus hostId status)
  | complete (pc : EvacPc) (job : EvacJob) : t = .evacuate (.load job) → job.todo = [] →
      t' = .evacuate pc → Effect hostId db t t' o
        { db with completions := (db.residents hostId).map (·.id) :: db.completions }

/-- The handler has written nothing yet. -/
def EvacPc.early : EvacPc → Bool
  | .get | .list _ | .check _ _ _ _ | .setMaintenance _ _ => true
  | _ => false

section Goes

variable (settings : SchedulingSettings) (hostId : Uuid) (db : EvacDb) (o : Outcome)

/-- **A statement of the evacuation**, with what it has found. -/
inductive EvacPc.Goes : EvacPc → EvacPc → EvacDb → Prop
  | quit {pc} (h : pc.early = true) : Goes pc .done db
  | got {host} (h : db.cluster.host? hostId = some host) : Goes .get (.list host.status) db
  | listed {original} : Goes (.list original)
      (checkFrom original (db.residents hostId) (db.residents hostId)) db
  | checking {original residents vm todo search search'}
      (h : searchNext settings db o vm hostId search = .next search') :
      Goes (.check original residents (vm :: todo) search)
        (.check original residents (vm :: todo) search') db
  | checked {original residents vm todo search} :
      Goes (.check original residents (vm :: todo) search) (checkFrom original residents todo) db
  | maintenance {original residents} (h : hostId ∉ db.locks) :
      Goes (.setMaintenance original residents)
        (.createJob ⟨original, residents.map (·.id), []⟩) (db.setHostStatus hostId .maintenance)
  | created {job} (h : o = .ok) : Goes (.createJob job) (.markRunning job) db
  | uncreated {job} (h : o ≠ .ok) : Goes (.createJob job) .done db
  | marked {job} (h : o = .ok) : Goes (.markRunning job) (.load job) db
  | unmarked {job} (h : o ≠ .ok) : Goes (.markRunning job) (.fail job) db
  | completed {job} (htodo : job.todo = []) (h : o = .ok) : Goes (.load job) .done
      { db with completions := (db.residents hostId).map (·.id) :: db.completions }
  | uncompleted {job} (htodo : job.todo = []) (h : o ≠ .ok) : Goes (.load job) .done db
  | loaded {job vm todo} (htodo : job.todo = vm.id :: todo) :
      Goes (.load job) (.search { job with todo } vm .request) db
  | unloaded {job} (htodo : job.todo ≠ []) : Goes (.load job) (.fail job) db
  | searching {job vm search search'}
      (h : searchNext settings db o vm hostId search = .next search') :
      Goes (.search job vm search) (.search job vm search') db
  | planned {job vm search plan} (h : searchNext settings db o vm hostId search = .planned plan) :
      Goes (.search job vm search) (.setMigrating job plan) db
  | unplanned {job vm search} : Goes (.search job vm search) (.fail job) db
  | migrating {job plan} : Goes (.setMigrating job plan) (.transfer job plan)
      (db.setVmStatus plan.vmId .migrating)
  | notMigrating {job plan} : Goes (.setMigrating job plan) (.fail job) db
  | sent {job plan} (h : o = .ok) : Goes (.transfer job plan) (.updateHostId job plan) db
  | unsent {job plan} (h : o ≠ .ok) : Goes (.transfer job plan) (.restoreVm job plan) db
  | moved {job plan} : Goes (.updateHostId job plan)
      (.updateStatus (job.evacuated plan.vmId) plan) (db.updateHostId plan.vmId plan.targetHostId)
  | unmoved {job plan} (h : o ≠ .ok) :
      Goes (.updateHostId job plan) (.updateStatus (job.evacuated plan.vmId) plan) db
  | updated {job plan} : Goes (.updateStatus job plan) (.load job)
      (db.setVmStatus plan.vmId plan.originalStatus)
  | stale {job plan} : Goes (.updateStatus job plan) (.load job) db
  | restored {job plan} : Goes (.restoreVm job plan) (.fail job)
      (db.setVmStatus plan.vmId plan.originalStatus)
  | unrestored {job plan} (h : o ≠ .ok) : Goes (.restoreVm job plan) (.fail job) db
  | left {job} (h : job.moved ≠ []) : Goes (.fail job) .done db
  | undone {job} (h : job.moved = []) (hlocks : hostId ∉ db.locks) :
      Goes (.fail job) .done (db.setHostStatus hostId job.originalHostStatus)
  | notUndone {job} (h : o ≠ .ok) : Goes (.fail job) .done db

end Goes

variable {vm : ScheduledVm} {vmId target id : Uuid} {plan : PlannedVmMigration} {search : Search}
  {pc pc' : EvacPc}

section Effects

variable {settings : SchedulingSettings} {hostId : Uuid} {db db' : EvacDb} {o : Outcome}
  {t t' : EvacTask}

lemma Calm.refl (hostId : Uuid) (db : EvacDb) : Calm hostId db db :=
  ⟨fun vm hvm => ⟨vm, hvm, rfl⟩, rfl, rfl, rfl, rfl⟩

lemma mem_residents : vm ∈ db.residents hostId ↔ vm ∈ db.cluster.vms ∧ vm.hostId = some hostId := by
  rw [EvacDb.residents, List.mem_filter, decide_eq_true_eq]

lemma calm_setVmStatus (hostId : Uuid) (db : EvacDb) (vmId : Uuid) (status : VmStatus) :
    Calm hostId db (db.setVmStatus vmId status) := by
  refine ⟨fun vm hvm => ?_, rfl, rfl, rfl, rfl⟩
  obtain ⟨hmem, hhost⟩ := mem_residents.1 hvm
  rcases Rows.mem_update.1 hmem with ⟨row, hrow, -, rfl⟩ | ⟨hrow, -⟩
  · exact ⟨row, mem_residents.2 ⟨hrow, hhost⟩, rfl⟩
  · exact ⟨vm, mem_residents.2 ⟨hrow, hhost⟩, rfl⟩

/-- A VM goes to another host, or was on the host already. -/
lemma calm_updateHostId (h : target = hostId → db.arrives vmId hostId = false) :
    Calm hostId db (db.updateHostId vmId target) := by
  refine ⟨fun vm hvm => ?_, rfl, rfl, rfl, rfl⟩
  obtain ⟨hmem, hhost⟩ := mem_residents.1 hvm
  rcases Rows.mem_update.1 hmem with ⟨row, hrow, hid, rfl⟩ | ⟨hrow, -⟩
  · have harrives := List.any_eq_false.1 (h (Option.some.inj hhost)) row hrow
    refine ⟨row, mem_residents.2 ⟨hrow, ?_⟩, rfl⟩
    simpa [hid] using harrives
  · exact ⟨vm, mem_residents.2 ⟨hrow, hhost⟩, rfl⟩

lemma effect_create {vm : NewVm} {pc pc' : CreatePc}
    (h : createNext settings vm db o pc = some (pc', db')) :
    Effect hostId db (.create vm pc) (.create vm pc') o db' := by
  have hcalm := Calm.refl hostId db
  cases pc with
  | begin =>
    cases h
    refine .calm _ hcalm rfl ?_
    split_ifs <;> rfl
  | picking snapshot untried =>
    cases untried with
    | nil =>
      cases h
      exact .calm _ hcalm rfl rfl
    | cons host untried =>
      simp only [createNext] at h
      split_ifs at h with hlocked
      · cases h
        exact .calm _ hcalm rfl rfl
      · split at h <;> cases h
        · exact .calm _ hcalm rfl rfl
        · rename_i row hrow
          obtain ⟨hfind, heligible⟩ := Option.filter_eq_some_iff.1 hrow
          have hid : row.id = host.id := by simpa using List.find?_some hfind
          have hup : row.status = .up := by
            simp only [eligible, admits, Bool.and_eq_true, beq_iff_eq] at heligible
            tauto
          rw [← hid] at hlocked hfind ⊢
          refine .lock row hlocked ?_ rfl
          rw [EvacDb.statusOf, hfind, Option.map_some, hup]
  | placed host =>
    simp only [createNext] at h
    split at h <;> cases h
    · rename_i hcommit
      split_ifs at hcommit with ho
      exact .commit vm host _ rfl ho hcommit rfl
    · exact .release host rfl rfl
  | done => cases h

lemma effect_start {pc pc' : StartPc} (h : startNext vmId db o pc = some (pc', db')) :
    Effect hostId db (.start vmId pc) (.start vmId pc') o db' := by
  refine .calm _ ?_ rfl rfl
  have hcalm := Calm.refl hostId db
  have hstatus := calm_setVmStatus hostId db vmId
  cases pc with
  | get | host vm =>
    simp only [startNext] at h
    split at h <;> cases h <;> exact hcalm
  | setPending vm =>
    simp only [startNext] at h
    split_ifs at h <;> cases h
    · exact hstatus .pending
    · exact hcalm
  | job vm => cases o <;> cases h <;> exact hcalm
  | setRunning =>
    cases h
    split_ifs
    · exact hstatus .running
    · exact hcalm
  | restore vm =>
    cases h
    split_ifs
    · exact hstatus vm.status
    · exact hcalm
  | done => cases h

lemma effect_migrate {pc pc' : MigratePc} (h : migrateNext vmId target db o pc = some (pc', db')) :
    Effect hostId db (.migrate vmId target pc) (.migrate vmId target pc') o db' := by
  have hcalm := Calm.refl hostId db
  have hstatus := calm_setVmStatus hostId db vmId
  cases pc with
  | plan stage =>
    simp only [migrateNext] at h
    split at h <;> cases h <;> exact .calm _ hcalm rfl rfl
  | setMigrating plan =>
    simp only [migrateNext] at h
    split_ifs at h <;> cases h
    · exact .calm _ (hstatus .migrating) rfl rfl
    · exact .calm _ hcalm rfl rfl
  | createJob plan | transfer plan =>
    cases h
    exact .calm _ hcalm rfl rfl
  | updateHostId plan =>
    cases h
    split_ifs with ho
    · exact .migrate vmId target plan rfl ho rfl
    · exact .calm _ hcalm rfl rfl
  | updateStatus plan =>
    cases h
    split_ifs
    · exact .calm _ (hstatus plan.originalStatus) rfl rfl
    · exact .calm _ hcalm rfl rfl
  | done => cases h

/-! ## What a statement of the evacuation can do -/

lemma goes_of_evacuateNext (h : evacuateNext settings hostId db o pc = some (pc', db')) :
    EvacPc.Goes settings hostId db o pc pc' db' := by
  cases pc with
  | get =>
    simp only [evacuateNext] at h
    split at h <;> cases h
    · rename_i host hhost
      split_ifs at hhost ⊢
      · exact .got hhost
      · exact .quit rfl
    · exact .quit rfl
  | list original =>
    simp only [evacuateNext] at h
    split_ifs at h <;> cases h
    · exact .listed
    · exact .quit rfl
  | check original residents todo search =>
    cases todo with
    | nil => cases h
    | cons vm todo =>
      simp only [evacuateNext] at h
      split at h <;> cases h
      · exact .checking ‹_›
      · exact .checked
      · exact .quit rfl
  | setMaintenance original residents =>
    simp only [evacuateNext] at h
    split_ifs at h with hlocks <;> cases h
    · exact .maintenance hlocks
    · exact .quit rfl
  | createJob job =>
    cases h
    split_ifs with ho
    · exact .created ho
    · exact .uncreated ho
  | markRunning job =>
    cases h
    split_ifs with ho
    · exact .marked ho
    · exact .unmarked ho
  | load job =>
    simp only [evacuateNext] at h
    split at h
    · cases h
      split_ifs with ho
      · exact .completed ‹_› ho
      · exact .uncompleted ‹_› ho
    · rename_i vmId todo htodo
      split at h <;> cases h
      · rename_i vm hvm
        split_ifs at hvm
        have hid : vm.id = vmId := by simpa using List.find?_some hvm
        exact .loaded (hid ▸ htodo)
      · exact .unloaded (by simp [htodo])
  | search job vm search =>
    simp only [evacuateNext] at h
    split at h <;> cases h
    · exact .searching ‹_›
    · exact .planned ‹_›
    · exact .unplanned
  | setMigrating job plan =>
    simp only [evacuateNext] at h
    split_ifs at h <;> cases h
    · exact .migrating
    · exact .notMigrating
  | transfer job plan =>
    cases h
    split_ifs with ho
    · exact .sent ho
    · exact .unsent ho
  | updateHostId job plan =>
    cases h
    split_ifs with ho
    · exact .moved
    · exact .unmoved ho
  | updateStatus job plan =>
    cases h
    split_ifs
    · exact .updated
    · exact .stale
  | restoreVm job plan =>
    cases h
    split_ifs with ho
    · exact .restored
    · exact .unrestored ho
  | fail job =>
    simp only [evacuateNext] at h
    split_ifs at h with hmoved hlocks ho <;> cases h
    · exact .left hmoved
    · exact .undone (not_not.1 hmoved) hlocks
    · exact .notUndone ho
  | done => cases h

/-! ## What the evacuation relies on -/

/-- The plan moves that VM away from the host. -/
def PlannedVmMigration.Leaves (plan : PlannedVmMigration) (hostId vmId : Uuid) : Prop :=
  plan.vmId = vmId ∧ plan.targetHostId ≠ hostId

def Search.Leaves (hostId vmId : Uuid) : Search → Prop
  | .request => True
  | .pick req => hostId ∈ req.excludedHostIds
  | .plan req candidateId stage => hostId ∈ req.excludedHostIds ∧ candidateId ≠ hostId ∧
      ∀ planned : PlannedVmMigration, stage = .checks planned → planned.Leaves hostId vmId

/-- The VMs that are still to leave, once the list was read. -/
def EvacPc.remaining : EvacPc → Option (List Uuid)
  | .check _ residents _ _ | .setMaintenance _ residents => some (residents.map (·.id))
  | .createJob job | .markRunning job | .load job | .updateStatus job _ => some job.todo
  | .search job vm _ => some (vm.id :: job.todo)
  | .setMigrating job plan | .transfer job plan | .updateHostId job plan =>
    some (plan.vmId :: job.todo)
  | _ => none

/-- The host was found. -/
def EvacPc.found : EvacPc → Bool
  | .list _ => true
  | pc => pc.remaining.isSome

/-- The job runs, so the host is in maintenance. -/
def EvacPc.running : EvacPc → Bool
  | .createJob _ | .markRunning _ | .load _ | .search _ _ _ | .setMigrating _ _ | .transfer _ _
  | .updateHostId _ _ | .updateStatus _ _ => true
  | _ => false

def EvacPc.Leaves (hostId : Uuid) : EvacPc → Prop
  | .check _ _ (vm :: _) s | .search _ vm s => s.Leaves hostId vm.id
  | .setMigrating _ plan | .transfer _ plan | .updateHostId _ plan => plan.targetHostId ≠ hostId
  | _ => True

/-- **What the evacuation relies on**: who is on the host is on its list, and the host is in
maintenance while the job runs. -/
structure EvacRelies (hostId : Uuid) (db : EvacDb) (pc : EvacPc) : Prop where
  known : pc.found = true → (db.statusOf hostId).isSome = true
  within : ∀ ids ∈ pc.remaining, ∀ vm ∈ db.residents hostId, vm.id ∈ ids
  maintenance : pc.running = true → db.statusOf hostId = some .maintenance
  leaves : pc.Leaves hostId

variable {cluster : Cluster} {targetHostId : Uuid} {stage : PlanStage} {original : HostStatus}
  {residents : List ScheduledVm}

lemma planNext_checks (hne : targetHostId ≠ hostId)
    (h : planNext cluster o vmId targetHostId stage = .next (.checks plan)) :
    plan.Leaves hostId vmId := by
  cases stage with
  | getVm =>
    simp only [planNext] at h
    split at h
    · cases h
    · split_ifs at h
      cases h
  | sourceHost vm =>
    simp only [planNext] at h
    split at h
    · cases h
    · split at h <;> cases h
  | targetHost vm source =>
    simp only [planNext] at h
    split at h
    · cases h
    · rename_i target htarget
      split_ifs at h htarget
      cases h
      have hid : target.id = targetHostId := by simpa using List.find?_some htarget
      exact ⟨rfl, hid.symm ▸ hne⟩
  | checks plan =>
    simp only [planNext] at h
    split at h
    · split_ifs at h
    · cases h
    · cases h

lemma planNext_planned (h : planNext cluster o vmId targetHostId stage = .planned plan) : stage
    = .checks plan := by
  cases stage with
  | getVm | targetHost vm source =>
    simp only [planNext] at h
    split at h
    · cases h
    · split_ifs at h
  | sourceHost vm =>
    simp only [planNext] at h
    split at h
    · cases h
    · split at h <;> cases h
  | checks plan' =>
    simp only [planNext] at h
    split at h
    · split_ifs at h
      cases h
      rfl
    · cases h
    · cases h

lemma pickUnlocked_ne {request : SchedulingRequest} {candidate : ScheduledHost}
    (h : pickUnlocked settings db request = some candidate)
    (hexcluded : hostId ∈ request.excludedHostIds) : candidate.id ≠ hostId := by
  have hmem := (mem_eligibleHosts.1 (List.mem_of_find?_eq_some h)).2
  rintro rfl
  simp only [eligible, Bool.and_eq_true, Bool.not_eq_true', List.contains_eq_mem,
    decide_eq_false_iff_not] at hmem
  tauto

lemma searchNext_next {search' : Search}
    (h : searchNext settings db o vm hostId search = .next search')
    (hs : search.Leaves hostId vm.id) : search'.Leaves hostId vm.id := by
  cases search with
  | request =>
    simp only [searchNext] at h
    split_ifs at h
    cases h
    exact List.mem_singleton_self _
  | pick request =>
    simp only [searchNext] at h
    split at h <;> cases h
    rename_i candidate hpick
    split_ifs at hpick
    exact ⟨hs, pickUnlocked_ne hpick hs, fun plan hplan => by cases hplan⟩
  | plan request candidateId stage =>
    obtain ⟨hexcluded, hne, -⟩ := hs
    simp only [searchNext] at h
    split at h <;> cases h
    · rename_i stage' hnext
      exact ⟨hexcluded, hne, fun plan hplan => planNext_checks hne (hplan ▸ hnext)⟩
    · exact List.mem_append_left _ hexcluded

lemma searchNext_planned (h : searchNext settings db o vm hostId search = .planned plan)
    (hs : search.Leaves hostId vm.id) : plan.Leaves hostId vm.id := by
  cases search with
  | request =>
    simp only [searchNext] at h
    split_ifs at h
  | pick request =>
    simp only [searchNext] at h
    split at h <;> cases h
  | plan request candidateId stage =>
    simp only [searchNext] at h
    split at h <;> cases h
    rename_i hplanned
    exact hs.2.2 plan (planNext_planned hplanned)

lemma Calm.statusOf (h : Calm hostId db db') (id : Uuid) : db'.statusOf id = db.statusOf id := by
  rw [EvacDb.statusOf, EvacDb.statusOf, Cluster.host?, Cluster.host?, h.hosts]

lemma Calm.relies (h : Calm hostId db db') (hr : EvacRelies hostId db pc) :
    EvacRelies hostId db' pc := by
  refine ⟨fun hpc => ?_, fun ids hids vm hvm => ?_, fun hpc => ?_, hr.leaves⟩
  · rw [h.statusOf]
    exact hr.known hpc
  · obtain ⟨row, hrow, hid⟩ := h.arrivals vm hvm
    exact hid ▸ hr.within ids hids row hrow
  · rw [h.statusOf]
    exact hr.maintenance hpc

/-- The evacuation has no list, or no list anymore. -/
lemma relies_done : EvacRelies hostId db .done := ⟨nofun, nofun, nofun, trivial⟩

lemma relies_fail (job : EvacJob) : EvacRelies hostId db (.fail job) :=
  ⟨nofun, nofun, nofun, trivial⟩

lemma relies_checkFrom (hknown : (db.statusOf hostId).isSome = true)
    (hwithin : ∀ vm ∈ db.residents hostId, vm.id ∈ residents.map (·.id))
    (todo : List ScheduledVm) : EvacRelies hostId db (checkFrom original residents todo) := by
  cases todo with
  | nil => exact ⟨fun _ => hknown, fun ids hids => Option.some.inj hids ▸ hwithin, nofun, trivial⟩
  | cons vm todo =>
    exact ⟨fun _ => hknown, fun ids hids => Option.some.inj hids ▸ hwithin, nofun, trivial⟩

lemma statusOf_setHostStatus (db : EvacDb) (hostId : Uuid) (status : HostStatus)
    (h : (db.statusOf hostId).isSome = true) :
    (db.setHostStatus hostId status).statusOf hostId = some status := by
  obtain ⟨host, hhost⟩ := Option.isSome_iff_exists.1 (Option.isSome_map .. ▸ h)
  have hupdate : (db.setHostStatus hostId status).cluster.host? hostId
      = (db.cluster.host? hostId).map fun host => { host with status } :=
    Rows.find?_update_self fun _ hid => hid
  rw [EvacDb.statusOf, hupdate, hhost]
  rfl

lemma statusOf_setHostStatus_of_ne (hne : id ≠ hostId) (db : EvacDb) (status : HostStatus) :
    (db.setHostStatus hostId status).statusOf id = db.statusOf id := by
  have hupdate : (db.setHostStatus hostId status).cluster.host? id = db.cluster.host? id :=
    Rows.find?_update_of_ne hne fun _ hid => hid
  rw [EvacDb.statusOf, EvacDb.statusOf, hupdate]

/-- Reading and writing VMs keeps what the evacuation relies on at the next statement. -/
lemma Calm.evacuates (h : Calm hostId db db') (hr : EvacRelies hostId db pc') :
    Effect hostId db (.evacuate pc) (.evacuate pc') o db' ∧ EvacRelies hostId db' pc' :=
  ⟨.calm db' h rfl rfl, h.relies hr⟩

section Relies

variable {job : EvacJob}

/-- The destination is written, and the VM has left. -/
lemma relies_moved (hr : EvacRelies hostId db (.updateHostId job plan)) :
    EvacRelies hostId (db.updateHostId plan.vmId plan.targetHostId)
      (.updateStatus (job.evacuated plan.vmId) plan) := by
  refine ⟨fun _ => hr.known rfl, fun ids hids vm hvm => ?_, hr.maintenance, trivial⟩
  cases hids
  obtain ⟨hmem, hhost⟩ := mem_residents.1 hvm
  rcases Rows.mem_update.1 hmem with ⟨row, -, -, rfl⟩ | ⟨hrow, hne⟩
  · exact absurd (Option.some.inj hhost) hr.leaves
  · exact (List.mem_cons.1 (hr.within _ rfl vm (mem_residents.2 ⟨hrow, hhost⟩))).resolve_left hne

/-- It is not written, and the VM was not on the host anymore. -/
lemma relies_unmoved (hr : EvacRelies hostId db (.updateHostId job plan))
    (hgone : ∀ vm ∈ db.residents hostId, vm.id ≠ plan.vmId) :
    EvacRelies hostId db (.updateStatus (job.evacuated plan.vmId) plan) := by
  refine ⟨fun _ => hr.known rfl, fun ids hids vm hvm => ?_, hr.maintenance, trivial⟩
  cases hids
  exact (List.mem_cons.1 (hr.within _ rfl vm hvm)).resolve_left (hgone vm hvm)

/-- The next VM is taken from the list. -/
lemma relies_loaded {todo : List Uuid} (hr : EvacRelies hostId db (.load job))
    (htodo : job.todo = vm.id :: todo) :
    EvacRelies hostId db (.search { job with todo } vm .request) := by
  refine ⟨fun _ => hr.known rfl, fun ids hids => ?_, fun _ => hr.maintenance rfl, trivial⟩
  cases hids
  exact htodo ▸ hr.within job.todo rfl

/-- A destination is found. -/
lemma relies_planned (hr : EvacRelies hostId db (.search job vm search))
    (h : searchNext settings db o vm hostId search = .planned plan) :
    EvacRelies hostId db (.setMigrating job plan) := by
  obtain ⟨hvm, htarget⟩ := searchNext_planned h hr.leaves
  refine ⟨fun _ => hr.known rfl, fun ids hids => ?_, hr.maintenance, htarget⟩
  cases hids
  exact hvm ▸ hr.within _ rfl

end Relies

/-- **A statement of the evacuation** has one of the effects, and the next can rely on what it
needs. -/
lemma evacuate_next (hr : EvacRelies hostId db pc)
    (hspared : ∀ job plan, pc = .updateHostId job plan → o ≠ .ok →
      ∀ vm ∈ db.residents hostId, vm.id ≠ plan.vmId)
    (h : evacuateNext settings hostId db o pc = some (pc', db')) :
    Effect hostId db (.evacuate pc) (.evacuate pc') o db' ∧ EvacRelies hostId db' pc' := by
  have hcalm := Calm.refl hostId db
  have hstatus := calm_setVmStatus hostId db
  cases goes_of_evacuateNext h with
  | quit | uncreated | uncompleted | left | notUndone => exact hcalm.evacuates relies_done
  | unmarked | unloaded | unplanned | notMigrating | unrestored =>
    exact hcalm.evacuates (relies_fail _)
  | got hhost =>
    refine hcalm.evacuates ⟨fun _ => ?_, nofun, nofun, trivial⟩
    rw [EvacDb.statusOf, hhost]
    rfl
  | listed =>
    exact hcalm.evacuates (relies_checkFrom (hr.known rfl)
      (fun vm hvm => List.mem_map_of_mem hvm) _)
  | checking hnext =>
    exact hcalm.evacuates ⟨hr.known, hr.within, nofun, searchNext_next hnext hr.leaves⟩
  | checked => exact hcalm.evacuates (relies_checkFrom (hr.known rfl) (hr.within _ rfl) _)
  | maintenance hlocks =>
    have hset := statusOf_setHostStatus db hostId .maintenance (hr.known rfl)
    refine ⟨.setStatus _ _ _ rfl rfl hlocks, fun _ => ?_, hr.within, fun _ => hset, trivial⟩
    rw [hset]
    rfl
  | created | marked | stale =>
    exact hcalm.evacuates ⟨hr.known, hr.within, hr.maintenance, trivial⟩
  | completed htodo => exact ⟨.complete _ _ rfl htodo rfl, relies_done⟩
  | loaded htodo => exact hcalm.evacuates (relies_loaded hr htodo)
  | searching hnext =>
    exact hcalm.evacuates ⟨hr.known, hr.within, hr.maintenance, searchNext_next hnext hr.leaves⟩
  | planned hplanned => exact hcalm.evacuates (relies_planned hr hplanned)
  | migrating =>
    exact (hstatus _ .migrating).evacuates ⟨hr.known, hr.within, hr.maintenance, hr.leaves⟩
  | sent => exact hcalm.evacuates ⟨hr.known, hr.within, hr.maintenance, hr.leaves⟩
  | unsent => exact hcalm.evacuates ⟨nofun, nofun, nofun, trivial⟩
  | moved =>
    exact ⟨.calm _ (calm_updateHostId fun htarget => absurd htarget hr.leaves) rfl rfl,
      relies_moved hr⟩
  | unmoved ho => exact hcalm.evacuates (relies_unmoved hr (hspared _ _ rfl ho))
  | updated =>
    exact (hstatus _ _).evacuates ⟨hr.known, hr.within, hr.maintenance, trivial⟩
  | restored => exact (hstatus _ _).evacuates (relies_fail _)
  | undone _ hlocks => exact ⟨.setStatus _ _ _ rfl rfl hlocks, relies_done⟩

end Effects

/-! ## Evacuated hosts -/

/-- Completed evacuations found the host empty, and nobody else put a VM on it in maintenance. -/
structure Sound (hostId : Uuid) (db : EvacDb) : Prop where
  completions : ∀ ids ∈ db.completions, ids = []
  placements : (hostId, .maintenance) ∉ db.placements

/-- What a task relies on. -/
structure Relies (hostId : Uuid) (db : EvacDb) (t : EvacTask) : Prop where
  holds : ∀ id ∈ t.holds, id ∈ db.locks ∧ db.statusOf id = some .up
  evacuates : ∀ pc, t = .evacuate pc → EvacRelies hostId db pc

/-- Two tasks have different rows locked, and one of them at most is the evacuation. -/
structure Apart (t u : EvacTask) : Prop where
  holds : ∀ id ∈ t.holds, ∀ id' ∈ u.holds, id ≠ id'
  single : ∀ pc pc', t = .evacuate pc → u ≠ .evacuate pc'

/-- The invariants of a statement: of the database, of the lock of its task, and of the others. -/
structure Keeps (hostId : Uuid) (db db' : EvacDb) (t t' : EvacTask) (spares : EvacTask → Prop) :
    Prop where
  sound : Sound hostId db'
  holds : ∀ id ∈ t'.holds, id ∈ db'.locks ∧ db'.statusOf id = some .up
  others : ∀ u, Relies hostId db u → Apart t u → spares u → Relies hostId db' u ∧
    ∀ id ∈ t'.holds, ∀ id' ∈ u.holds, id ≠ id'

variable {host : ScheduledHost}

section Runs

variable {settings : SchedulingSettings} {hostId : Uuid} {db db' : EvacDb} {o : Outcome}
  {t t' u : EvacTask} {spares : EvacTask → Prop}

lemma Apart.symm (h : Apart t u) : Apart u t :=
  ⟨fun id hid id' hid' => (h.holds id' hid' id hid).symm,
    fun pc pc' hu ht => h.single pc' pc ht hu⟩

lemma EvacRelies.of_cluster (h : EvacRelies hostId db pc) (hcluster : db'.cluster = db.cluster) :
    EvacRelies hostId db' pc := by
  have hstatus : db'.statusOf hostId = db.statusOf hostId := by
    rw [EvacDb.statusOf, EvacDb.statusOf, hcluster]
  have hresidents : db'.residents hostId = db.residents hostId := by
    rw [EvacDb.residents, EvacDb.residents, hcluster]
  exact ⟨hstatus ▸ h.known, hresidents ▸ h.within, hstatus ▸ h.maintenance, h.leaves⟩

lemma keeps_calm (hs : Sound hostId db) (hcalm : Calm hostId db db') (hholds : t'.holds = none) :
    Keeps hostId db db' t t' spares := by
  refine ⟨⟨hcalm.completions ▸ hs.completions, hcalm.placements ▸ hs.placements⟩, by simp [hholds],
    fun u hu _ _ => ⟨⟨fun id hid => ?_, fun pc hpc => hcalm.relies (hu.evacuates pc hpc)⟩,
      by simp [hholds]⟩⟩
  rw [hcalm.locks, hcalm.statusOf]
  exact hu.holds id hid

lemma keeps_lock (hs : Sound hostId db) (hfree : host.id ∉ db.locks)
    (hup : db.statusOf host.id = some .up) (hholds : t'.holds = some host.id) :
    Keeps hostId db { db with locks := host.id :: db.locks } t t' spares := by
  refine ⟨⟨hs.completions, hs.placements⟩, ?_, fun u hu _ _ => ⟨⟨fun id hid => ?_,
    fun pc hpc => (hu.evacuates pc hpc).of_cluster rfl⟩, ?_⟩⟩
  · rw [hholds]
    rintro id ⟨⟩
    exact ⟨.head _, hup⟩
  · exact ⟨.tail _ (hu.holds id hid).1, (hu.holds id hid).2⟩
  · rw [hholds]
    rintro id ⟨⟩ id' hid' rfl
    exact hfree (hu.holds _ hid').1

/-- A lock that another task holds stays when that of `t` is released. -/
lemma mem_unlock {id' : Uuid} (ht : t.holds = some id) (hid' : id' ∈ u.holds)
    (hu : Relies hostId db u) (hapart : Apart t u) : id' ∈ db.locks.filter (· ≠ id) :=
  List.mem_filter.2 ⟨(hu.holds id' hid').1, decide_eq_true (hapart.holds id ht id' hid').symm⟩

lemma keeps_release (hs : Sound hostId db) (ht : t.holds = some host.id)
    (hholds : t'.holds = none) :
    Keeps hostId db (db.unlock host.id) t t' spares := by
  refine ⟨⟨hs.completions, hs.placements⟩, by simp [hholds], fun u hu hapart _ =>
    ⟨⟨fun id hid => ⟨mem_unlock ht hid hu hapart, (hu.holds id hid).2⟩,
      fun pc hpc => (hu.evacuates pc hpc).of_cluster rfl⟩, by simp [hholds]⟩⟩

/-- The evacuation has no list while VMs may still come: it is not between the list and the write of
the status, and its job does not run. -/
lemma EvacRelies.of_idle (h : EvacRelies hostId db pc)
    (hlisted : (EvacTask.evacuate pc).listed = false) (hrunning : pc.running = false)
    (hstatus : db'.statusOf hostId = db.statusOf hostId) : EvacRelies hostId db' pc := by
  refine ⟨hstatus ▸ h.known, fun ids hids => ?_, hstatus ▸ h.maintenance, h.leaves⟩
  have hnone : pc.remaining = none := by
    cases pc <;> simp_all [EvacTask.listed, EvacPc.running, EvacPc.remaining]
  rw [hnone] at hids
  cases hids

lemma running_of_status {status : HostStatus} (h : EvacRelies hostId db pc)
    (hstatus : db.statusOf hostId = some status) (hne : status ≠ .maintenance) :
    pc.running = false := by
  cases hpc : pc.running with
  | false => rfl
  | true =>
    rw [h.maintenance hpc] at hstatus
    exact absurd (Option.some.inj hstatus).symm hne

lemma not_mem_place (h : id = hostId → db.statusOf hostId ≠ some .maintenance)
    (hold : (hostId, .maintenance) ∉ db.placements) :
    (hostId, .maintenance) ∉ (db.place id).placements := by
  intro hmem
  rcases List.mem_append.1 hmem with hmem | hmem
  · obtain ⟨status, hstatus, heq⟩ := List.mem_map.1 hmem
    obtain ⟨rfl, rfl⟩ := Prod.mk.inj heq
    exact h rfl (Option.mem_toList.1 hstatus)
  · exact hold hmem

lemma keeps_commit {vm : NewVm} (hs : Sound hostId db)
    (ht : Relies hostId db (.create vm (.placed host))) (hcommit : commitVm vm host db = some db')
    (hholds : t'.holds = none) (hspares : host.id = hostId → ∀ u, spares u → u.listed = false) :
    Keeps hostId db db' (.create vm (.placed host)) t' spares := by
  obtain ⟨-, hup⟩ := ht.holds host.id rfl
  obtain ⟨gpus, -, rfl⟩ := Option.map_eq_some_iff.1 hcommit
  refine ⟨⟨hs.completions, ?_⟩, by simp [hholds], fun u hu hapart hsp =>
    ⟨⟨fun id hid => ?_, fun pc hpc => ?_⟩, by simp [hholds]⟩⟩
  · refine not_mem_place (fun heq => ?_) hs.placements
    show db.statusOf hostId ≠ some .maintenance
    rw [← heq, hup]
    decide
  · have hlocks := mem_unlock (t := .create vm (.placed host)) rfl hid hu hapart
    exact ⟨hlocks, (hu.holds id hid).2⟩
  · have hr := hu.evacuates pc hpc
    by_cases hid : host.id = hostId
    · refine hr.of_idle (hpc ▸ hspares hid u hsp) ?_ rfl
      exact running_of_status hr (hid ▸ hup) (by decide)
    · have hcalm : Calm hostId db { db with cluster := { db.cluster with
          vms := vm.row host :: db.cluster.vms, gpus } } := by
        refine ⟨fun row hrow => ?_, rfl, rfl, rfl, rfl⟩
        obtain ⟨hmem, hhost⟩ := mem_residents.1 hrow
        rcases List.mem_cons.1 hmem with rfl | hmem
        · exact absurd (Option.some.inj hhost) hid
        · exact ⟨row, mem_residents.2 ⟨hmem, hhost⟩, rfl⟩
      exact (hcalm.relies hr).of_cluster rfl

/-- A requested migration is written. -/
lemma keeps_migrate (hs : Sound hostId db) (hholds : t'.holds = none)
    (hspares : target = hostId → db.arrives vmId hostId = true →
      db.statusOf hostId ≠ some .maintenance ∧ ∀ u, spares u → u.listed = false) :
    Keeps hostId db (db.migrateTo vmId target) t t' spares := by
  by_cases harrives : db.arrives vmId target = true
  · rw [EvacDb.migrateTo, if_pos harrives]
    refine ⟨⟨hs.completions, ?_⟩, by simp [hholds], fun u hu _ hsp =>
      ⟨⟨hu.holds, fun pc hpc => ?_⟩, by simp [hholds]⟩⟩
    · exact not_mem_place (fun htarget => (hspares htarget (htarget ▸ harrives)).1) hs.placements
    · have hr := hu.evacuates pc hpc
      by_cases htarget : target = hostId
      · obtain ⟨hstatus, hlisted⟩ := hspares htarget (htarget ▸ harrives)
        refine hr.of_idle (hpc ▸ hlisted u hsp) ?_ rfl
        exact Bool.eq_false_iff.2 fun hrunning => hstatus (hr.maintenance hrunning)
      · exact ((calm_updateHostId fun h => absurd h htarget).relies hr).of_cluster rfl
  · rw [EvacDb.migrateTo, if_neg harrives]
    refine keeps_calm hs (calm_updateHostId fun htarget => ?_) hholds
    rw [← htarget]
    exact Bool.eq_false_iff.2 harrives

lemma keeps_setStatus (status : HostStatus) (hs : Sound hostId db) (hfree : hostId ∉ db.locks) :
    Keeps hostId db (db.setHostStatus hostId status) (.evacuate pc) (.evacuate pc') spares := by
  refine ⟨⟨hs.completions, hs.placements⟩, nofun, fun u hu hapart _ =>
    ⟨⟨fun id hid => ?_, fun pc' hpc' => absurd hpc' (hapart.single pc pc' rfl)⟩, nofun⟩⟩
  obtain ⟨hlocked, hup⟩ := hu.holds id hid
  have hne : id ≠ hostId := fun heq => hfree (heq ▸ hlocked)
  exact ⟨hlocked, (statusOf_setHostStatus_of_ne hne db status).trans hup⟩

/-- **The job is marked completed**: nothing remains, so nobody is on the host. -/
lemma keeps_complete {job : EvacJob} (hs : Sound hostId db)
    (ht : Relies hostId db (.evacuate (.load job))) (htodo : job.todo = []) :
    Keeps hostId db { db with completions := (db.residents hostId).map (·.id) :: db.completions }
      (.evacuate (.load job)) (.evacuate pc) spares := by
  have hempty : db.residents hostId = [] := by
    refine List.eq_nil_iff_forall_not_mem.2 fun vm hvm => ?_
    have hvm' := (ht.evacuates _ rfl).within job.todo rfl vm hvm
    rw [htodo] at hvm'
    exact List.not_mem_nil hvm'
  refine ⟨⟨List.forall_mem_cons.2 ⟨?_, hs.completions⟩, hs.placements⟩, nofun, fun u hu _ _ =>
    ⟨⟨hu.holds, fun pc hpc => (hu.evacuates pc hpc).of_cluster rfl⟩, nofun⟩⟩
  rw [hempty]
  rfl

/-- What `spared` says of a statement of `t`. -/
structure Spares (hostId : Uuid) (db : EvacDb) (t : EvacTask) (o : Outcome)
    (others : EvacTask → Prop) : Prop where
  create : ∀ vm host db', t = .create vm (.placed host) → o = .ok → commitVm vm host db = some db' →
    host.id = hostId → ∀ u, others u → u.listed = false
  migrate : ∀ vmId target plan, t = .migrate vmId target (.updateHostId plan) → o = .ok →
    plan.targetHostId = hostId → db.arrives vmId hostId = true →
    db.statusOf hostId ≠ some .maintenance ∧ ∀ u, others u → u.listed = false
  evacuate : ∀ job plan, t = .evacuate (.updateHostId job plan) → o ≠ .ok →
    ∀ vm ∈ db.residents hostId, vm.id ≠ plan.vmId

lemma spares_of_spared {p : Service} {i : ℕ} (h : spared hostId p (.run i o) = true)
    (ht : p.tasks[i]? = some t) : Spares hostId p.shared t o (· ∈ p.tasks) := by
  refine ⟨?_, ?_, ?_⟩
  · rintro vm host db' rfl rfl hcommit hid u hu
    simp only [spared, ht, hcommit, hid, Option.isNone_some, ne_eq, not_true_eq_false, decide_false,
      Bool.or_self, Bool.false_or, List.all_eq_true, Bool.not_eq_true'] at h
    exact h u hu
  · rintro vmId target plan rfl rfl hid harrives
    simp only [spared, ht, harrives, hid, ne_eq, not_true_eq_false, decide_false, Bool.not_true,
      Bool.or_self, Bool.false_or, Bool.and_eq_true, decide_eq_true_eq, List.all_eq_true,
      Bool.not_eq_true'] at h
    exact h
  · rintro job plan rfl ho vm hvm
    simp only [spared, ht, Bool.or_eq_true, decide_eq_true_eq, List.all_eq_true] at h
    exact h.resolve_left ho vm hvm

lemma next_effect (ht : Relies hostId db t) (hspares : Spares hostId db t o spares)
    (h : EvacTask.next settings hostId db t o = some (t', db')) :
    Effect hostId db t t' o db' ∧ ∀ pc, t' = .evacuate pc → EvacRelies hostId db' pc := by
  cases t with
  | create vm pc =>
    obtain ⟨⟨pc', db₁⟩, hnext, h⟩ := Option.map_eq_some_iff.1 h
    cases h
    exact ⟨effect_create hnext, by rintro _ ⟨⟩⟩
  | start vmId pc =>
    obtain ⟨⟨pc', db₁⟩, hnext, h⟩ := Option.map_eq_some_iff.1 h
    cases h
    exact ⟨effect_start hnext, by rintro _ ⟨⟩⟩
  | migrate vmId target pc =>
    obtain ⟨⟨pc', db₁⟩, hnext, h⟩ := Option.map_eq_some_iff.1 h
    cases h
    exact ⟨effect_migrate hnext, by rintro _ ⟨⟩⟩
  | evacuate pc =>
    obtain ⟨⟨pc', db₁⟩, hnext, h⟩ := Option.map_eq_some_iff.1 h
    cases h
    have hspares' : ∀ job plan, pc = .updateHostId job plan → o ≠ .ok →
        ∀ vm ∈ db.residents hostId, vm.id ≠ plan.vmId :=
      fun job plan hpc => hspares.evacuate job plan (hpc ▸ rfl)
    obtain ⟨heffect, hr⟩ := evacuate_next (ht.evacuates pc rfl) hspares' hnext
    refine ⟨heffect, ?_⟩
    rintro _ ⟨⟩
    exact hr

lemma keeps_of_effect (hs : Sound hostId db) (ht : Relies hostId db t)
    (hspares : Spares hostId db t o spares) (h : Effect hostId db t t' o db') :
    Keeps hostId db db' t t' spares := by
  cases h with
  | calm db' hcalm _ hholds => exact keeps_calm hs hcalm hholds
  | lock host hfree hup hholds => exact keeps_lock hs hfree hup hholds
  | release host ht hholds => exact keeps_release hs ht hholds
  | commit vm host db' htask ho hcommit hholds =>
    subst htask
    exact keeps_commit hs ht hcommit hholds (hspares.create vm host db' rfl ho hcommit)
  | migrate vmId target plan htask ho hholds =>
    exact keeps_migrate hs hholds (hspares.migrate vmId target plan htask ho)
  | setStatus pc pc' status htask htask' hfree =>
    subst htask htask'
    exact keeps_setStatus status hs hfree
  | complete pc job htask htodo htask' =>
    subst htask htask'
    exact keeps_complete hs ht htodo

/-- A statement of another task does not make it an evacuation. -/
lemma single_next (h : EvacTask.next settings hostId db t o = some (t', db'))
    (ht' : t' = .evacuate pc') : ∃ pc, t = .evacuate pc := by
  subst ht'
  cases t with
  | evacuate pc => exact ⟨pc, rfl⟩
  | create vm pc | start vmId pc | migrate vmId target pc =>
    obtain ⟨x, -, hx⟩ := Option.map_eq_some_iff.1 h
    cases hx

/-- The evacuation is about to begin, and nothing else runs. -/
structure Starts (p : Service) : Prop where
  tasks : p.tasks = [.evacuate .get]
  completions : p.shared.completions = []
  placements : p.shared.placements = []

lemma begins_quiet (h : t.begins = true) : t.holds = none ∧ ∀ pc, t ≠ .evacuate pc := by
  unfold EvacTask.begins at h
  split at h <;> first | exact ⟨rfl, by rintro _ ⟨⟩⟩ | cases h

/-- **A completed evacuation has emptied the host**, and no creation, start or migration puts a VM
on it while it is in maintenance, in every run whose statements spare it. -/
theorem evacuated_host_empty {p : Service}
    (h : Reach (serviceStep settings hostId) (fun p a => spared hostId p a = true) Starts p) :
    (∀ ids ∈ p.shared.completions, ids = []) ∧
    (hostId, HostStatus.maintenance) ∉ p.shared.placements := by
  have hinv : Inv (Sound hostId) (Relies hostId) Apart p := by
    refine reach_inv (fun _ _ => Apart.symm) ?_ ?_ ?_ h
    · intro p hp
      refine ⟨⟨by simp [hp.completions], by simp [hp.placements]⟩, fun i t ht => ?_,
        fun i j t u hij ht hu => ?_⟩
      · rw [hp.tasks, List.getElem?_singleton] at ht
        split_ifs at ht
        cases ht
        refine ⟨nofun, ?_⟩
        rintro _ ⟨⟩
        exact ⟨nofun, nofun, nofun, trivial⟩
      · rw [hp.tasks, List.getElem?_singleton] at ht hu
        split_ifs at ht hu
        omega
    · intro p t _ hbegins _
      obtain ⟨hholds, hevac⟩ := begins_quiet hbegins
      exact ⟨⟨by simp [hholds], fun pc hpc => absurd hpc (hevac pc)⟩,
        fun u _ => ⟨by simp [hholds], fun pc _ hpc => absurd hpc (hevac pc)⟩⟩
    · intro p i o t t' db' hinv hok ht hnext
      have hspares := spares_of_spared hok ht
      obtain ⟨heffect, hr⟩ := next_effect (hinv.each i t ht) hspares hnext
      have hkeeps := keeps_of_effect hinv.shared (hinv.each i t ht) hspares heffect
      refine ⟨hkeeps.sound, ⟨hkeeps.holds, hr⟩, ?_⟩
      intro u hu hrelies hapart
      obtain ⟨hrelies, hholds⟩ := hkeeps.others u hrelies hapart (List.mem_of_mem_eraseIdx hu)
      refine ⟨hrelies, hholds, fun pc pc' ht' => ?_⟩
      obtain ⟨pc₀, hpc₀⟩ := single_next hnext ht'
      exact hapart.single pc₀ pc' hpc₀
  exact ⟨hinv.shared.completions, hinv.shared.placements⟩

end Runs

/-! ## Two hosts -/

def runningVm (id hostId : Uuid) : ScheduledVm :=
  ⟨id, some hostId, .running, 2 ^ 30, 1, [], none, none⟩

/-- Two hosts, of which the first is evacuated. -/
def twoHosts (vms : List ScheduledVm) : Service where
  shared :=
    { cluster :=
        { hosts := [smallHost ⟨"host-a"⟩ 0, smallHost ⟨"host-b"⟩ 1], vms, gpus := []
          hostStoragePools := [], hostNetworks := [] }
      vmNetworks := [], locks := [], completions := [], placements := [] }
  tasks := [.evacuate .get]

lemma twoHosts_starts (vms : List ScheduledVm) : Starts (twoHosts vms) := ⟨rfl, rfl, rfl⟩

abbrev labStep := serviceStep noOversubscription ⟨"host-a"⟩

def createTask : EvacTask := .create ⟨⟨"vm-2"⟩, bigRequest, [], false⟩ .begin

/-- So many statements of a task, which all succeed. -/
def statements (n i : ℕ) : List (Act EvacTask Outcome) := List.replicate n (.run i .ok)

/-- A creation whose query has begun finds the first host in maintenance; then the VM of that host
is moved. -/
def evacuationRun : List (Act EvacTask Outcome) :=
  .spawn createTask :: statements 1 1 ++ statements 9 0 ++ statements 3 1 ++ statements 14 0

theorem evacuationRun_empties :
    ∃ p ∈ run labStep (twoHosts [runningVm ⟨"vm-1"⟩ ⟨"host-a"⟩]) evacuationRun,
      p.shared.cluster.vms.map (fun vm => (vm.id, vm.hostId)) =
        [(⟨"vm-2"⟩, some ⟨"host-b"⟩), (⟨"vm-1"⟩, some ⟨"host-b"⟩)] ∧
      p.shared.completions.length = 1 ∧ (∀ ids ∈ p.shared.completions, ids = []) ∧
      (⟨"host-a"⟩, HostStatus.maintenance) ∉ p.shared.placements := by
  refine (exists_reach (twoHosts_starts _) ?_).imp fun p h =>
    ⟨h.1, and_assoc.1 ⟨h.2.1, evacuated_host_empty h.2.2⟩⟩
  decide +kernel

/-- **A creation between the list and the write of the status, and a migration in maintenance.**
The job is marked completed with the new VM on the host; and a host that was evacuated is given a
VM. -/
theorem evacuated_host_not_empty :
    (∃ p ∈ run labStep (twoHosts [])
        (.spawn createTask :: statements 2 0 ++ statements 3 1 ++ statements 4 0),
      p.shared.completions = [[⟨"vm-2"⟩]]) ∧
    ∃ p ∈ run labStep (twoHosts [runningVm ⟨"vm-1"⟩ ⟨"host-b"⟩])
        (statements 6 0 ++ .spawn (.migrate ⟨"vm-1"⟩ ⟨"host-a"⟩ (.plan .getVm)) :: statements 8 1),
      p.shared.completions = [[]] ∧
      p.shared.placements = [(⟨"host-a"⟩, HostStatus.maintenance)] := by
  decide +kernel

end Evacuation

end Qarax
