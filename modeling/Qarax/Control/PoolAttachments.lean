import Qarax.Control.VmLifecycle

/-!
# The pools behind a request

A node can use the files of a pool when the pool is attached to its host.  Who sees to that is
spread over the control plane.  When a VM is created, the scheduler is given one pool: the pools of
the root disk and of the kernel and initrd images are merged into it.  Later, `attach_disk` and
`build_create_vm_request` look at the local pools of disks only, a migration and a failover at the
pools of all disks, and none of them at the images that a VM boots from.

* `bootSourcePoolConstraint`, `schedulingPool` — the merged constraint.
* `World` — VMs and what is behind their disks, with the requests that were sent to nodes.
* `World.step` — creating, placing and starting VMs, and attaching disks, in any order.
* `World.covered` — the pools that nobody has looked at are attached all the same.
* `request_attached_iff` — the pools of a request are attached exactly then.

Pools, objects and boot sources that are made between the steps are there from the start.
-/

namespace Qarax

namespace PoolAttachments

open Machine

/-! ## The pool that the scheduler is given -/

/-- A row of `boot_sources`. -/
structure BootSource where
  id : Uuid
  kernelImageId : Uuid
  initrdImageId : Option Uuid

def BootSource.images (source : BootSource) : List Uuid :=
  source.kernelImageId :: source.initrdImageId.toList

/-- The files of the pool are where it is attached; images of a registry are everywhere. -/
def needsAttachment : StoragePoolType → Bool
  | .local | .nfs | .block => true
  | .overlayBd => false

def rootDiskSchedulingRequirements (st : Storage) (rootDiskObjectId : Option Uuid) :
    Except ApiError (Option Uuid) :=
  match rootDiskObjectId with
  | none => .ok none
  | some objectId => do
      let object ← row (st.object? objectId)
      match object.objectType with
      | .disk | .snapshot | .ociImage =>
        let pool ← row (st.pool? object.storagePoolId)
        .ok (if needsAttachment pool.poolType then some pool.id else none)
      | _ => .error (.unprocessableEntity
          "root_disk_object_id must reference a disk-like storage object")

/-- The loop over the images: a local pool ends it, and otherwise the first pool counts. -/
def imagesConstraint (st : Storage) :
    Option Uuid → List Uuid → Except ApiError (Option Uuid × Bool)
  | constraint, [] => .ok (constraint, false)
  | constraint, imageId :: images => do
      let obj ← row (st.object? imageId)
      let pool ← row (st.pool? obj.storagePoolId)
      match pool.poolType with
      | .local => .ok (some pool.id, true)
      | .overlayBd => imagesConstraint st constraint images
      | .nfs | .block => imagesConstraint st (constraint <|> some pool.id) images

def bootSourcePoolConstraint (st : Storage) (bootSources : List BootSource)
    (bootSourceId : Option Uuid) : Except ApiError (Option Uuid × Bool) :=
  match bootSourceId with
  | none => .ok (none, false)
  | some id =>
    match bootSources.find? (·.id = id) with
    | none => .error (.unprocessableEntity ("invalid boot_source_id: " ++
        "no rows returned by a query that expected to return at least one row"))
    | some source => imagesConstraint st none source.images

/-- The `storage_pool_id` of `scheduling_request_for_vm`. -/
def schedulingPool (st : Storage) (bootSources : List BootSource) (rootDiskObjectId : Option Uuid)
    (bootSourceId : Option Uuid) : Except ApiError (Option Uuid) := do
  let rootPool ← rootDiskSchedulingRequirements st rootDiskObjectId
  let (bootPool, bootIsLocal) ← bootSourcePoolConstraint st bootSources bootSourceId
  .ok (if bootIsLocal then bootPool else rootPool <|> bootPool)

/-! ## VMs, and what is sent to nodes -/

/-- A row of `vms`.  `checked` is not a column: these are the pools that whoever placed the VM on
its host has looked at. -/
structure PlacedVm extends VmRow where
  bootSourceId : Option Uuid
  checked : List Uuid

inductive NodeCall where
  | createVm (request : CreateVmRequest)
  | addDiskDevice (vmId : Uuid) (disk : DiskConfig)

/-- A request to the node of a host, with the pools behind what it asks for. -/
structure SentRequest where
  hostId : Uuid
  call : NodeCall
  pools : List Uuid

structure World where
  storage : Storage
  bootSources : List BootSource
  vms : List PlacedVm
  sent : List SentRequest

/-- The pools of some storage objects. -/
def backing (st : Storage) (objectIds : List Uuid) : List StoragePool :=
  objectIds.filterMap fun id => (st.object? id).bind fun object => st.pool? object.storagePoolId

/-- Those that a host has to be attached to. -/
def required (pools : List StoragePool) : List Uuid :=
  (pools.filter (needsAttachment ·.poolType)).map (·.id)

namespace World

def vm? (w : World) (id : Uuid) : Option PlacedVm := w.vms.find? (·.id = id)

def updateVm (w : World) (id : Uuid) (f : PlacedVm → PlacedVm) : World :=
  { w with vms := Rows.update (·.id) id f w.vms }

def setStatus (w : World) (id : Uuid) (status : VmStatus) : World :=
  w.updateVm id fun vm => { vm with status }

/-- The tables as the handlers of `VmLifecycle` have them. -/
def deployment (w : World) : Deployment := ⟨w.vms.map (·.toVmRow), w.storage, []⟩

/-- The pools of the images that a VM boots from. -/
def bootPools (w : World) (bootSourceId : Option Uuid) : List StoragePool :=
  backing w.storage ((bootSourceId.bind fun id => w.bootSources.find? (·.id = id)).elim []
    BootSource.images)

def send (w : World) (request : SentRequest) : World := { w with sent := request :: w.sent }

/-- The pools behind a request are attached to the host it is sent to. -/
def Attached (w : World) (request : SentRequest) : Prop :=
  ∀ pool ∈ request.pools, w.storage.hostHasPool request.hostId pool = true

/-! ## Creating VMs -/

/-- The scheduler picks a host that has the pool it is given. -/
def schedule (w : World) (req : NewVmRequest) (bootSourceId : Option Uuid) : Option NewVmRequest :=
  match schedulingPool w.storage w.bootSources req.rootDiskObjectId bootSourceId with
  | .error _ => none
  | .ok storagePoolId =>
    if storagePoolId.all (w.storage.hostHasPool req.hostId) then some { req with storagePoolId }
    else none

/-- The rows that a handler has written for a new VM. -/
def adopt (w : World) (id : Uuid) (bootSourceId : Option Uuid) (checked : List Uuid)
    (written : Deployment) : World :=
  { w with
    storage := written.storage
    vms := (written.vms.filter (·.id = id)).map (⟨·, bootSourceId, checked⟩) ++ w.vms }

def create (w : World) (req : NewVmRequest) (bootSourceId : Option Uuid) : World :=
  match w.schedule req bootSourceId with
  | none => w
  | some req =>
    w.adopt req.id bootSourceId req.storagePoolId.toList (createVmInternal req w.deployment).2

def createWithImage (w : World) (req : NewVmRequest) (bootSourceId : Option Uuid)
    (image : ImageRequest) : World :=
  match w.schedule req bootSourceId with
  | none => w
  | some req =>
    w.adopt req.id bootSourceId (req.storagePoolId.toList ++ image.persistentUpperPoolId.toList)
      (createVmWithImageInternal req image w.deployment).2

/-! ## Attaching disks -/

/-- What `attach_disk` has found when its transaction commits. -/
structure NewAttachment where
  vm : PlacedVm
  disk : VmDisk
  object : StorageObject
  pool : StoragePool
  storage : Storage

def newAttachment (w : World) (vmId diskId : Uuid) (req : AttachDiskRequest) :
    Except ApiError NewAttachment := do
  let vm ← row (w.vm? vmId)
  disksCanChange
    "Disks can only be attached to VMs in Created, Running, or Shutdown state" vm.status
  let logicalName := req.logicalName.getD (nextDiskId (w.storage.listByVm vmId))
  let object ← row (w.storage.object? req.storageObjectId)
  let pool ← row (w.storage.pool? object.storagePoolId)
  ensureLocalPool w.storage vm.toVmRow pool
  ensureStorageObjectCanBeAttachedTx w.storage (w.vms.map (·.toVmRow)) object pool (some vmId)
  let disk : VmDisk :=
    { id := diskId, vmId, storageObjectId := some req.storageObjectId, logicalName }
  match w.storage.createDisk disk with
  | none => .error (.conflict "Vm with this disks already exists")
  | some storage => .ok ⟨vm, disk, object, pool, storage⟩

/-- The request of a VM on its node; that the node refuses takes the row back. -/
def attachDisk (w : World) (vmId diskId : Uuid) (req : AttachDiskRequest) (accepted : Bool) :
    World :=
  match w.newAttachment vmId diskId req with
  | .error _ => w
  | .ok a =>
    if onNode a.vm.status then
      match hostForVm a.vm.toVmRow, diskConfigForHotplug a.disk a.object a.pool none with
      | .ok hostId, .ok config =>
        { w.send ⟨hostId, .addDiskDevice vmId config, required [a.pool]⟩ with
          storage := if accepted then a.storage else a.storage.deleteDisk diskId }
      | _, _ => { w with storage := a.storage }
    else { w with storage := a.storage }

/-! ## Starting and moving VMs -/

/-- What `start_vm_internal` finds out before its job starts: the host, and the request to create
the VM there if it has not been created. -/
def startRequest (w : World) (vm : PlacedVm) : Except ApiError (Uuid × Option CreateVmRequest) := do
  startable vm.status
  let hostId ← hostForVm vm.toVmRow
  ensureVmDiskAttachmentsCanStart w.storage (w.vms.map (·.toVmRow)) vm.id
  if vm.status = .created then
    let request ← buildCreateVmRequest w.storage vm.toVmRow
    .ok (hostId, some request)
  else .ok (hostId, none)

/-- The pools behind the disks and upper layers of a VM and behind the images it boots from. -/
def vmPools (w : World) (vm : PlacedVm) : List StoragePool :=
  poolsOf w.storage (w.storage.listByVm vm.id) ++ w.bootPools vm.bootSourceId

def start (w : World) (vmId : Uuid) (accepted : Bool) : Except ApiError World := do
  let vm ← row (w.vm? vmId)
  let (hostId, request) ← w.startRequest vm
  let status := if accepted then .running else vm.status
  .ok (request.elim (w.setStatus vmId status) fun request =>
    (w.send ⟨hostId, .createVm request, required (w.vmPools vm)⟩).setStatus vmId status)

/-- The pools of the disks, as `shared_disk_pool_ids` and `plan_vm_migration` ask for them: all have
to be shared. -/
def sharedDiskPoolIds (w : World) (vm : PlacedVm) : Option (List Uuid) :=
  let pools := poolsOf w.storage (w.storage.listByVm vm.id)
  if pools.all (·.poolType ≠ .local) then some (pools.map (·.id)) else none

/-- The VM on another host that has these pools. -/
def place (w : World) (vmId target : Uuid) (status : VmStatus) (poolIds : List Uuid) : World :=
  w.updateVm vmId fun vm => { vm with hostId := some target, status, checked := poolIds }

/-- The move that both make: to another host, which has the pools of the disks. -/
def move (w : World) (vmId target : Uuid) (status : VmStatus) : Option World :=
  match w.vm? vmId with
  | none => none
  | some vm =>
    match w.sharedDiskPoolIds vm with
    | none => none
    | some poolIds =>
      if vm.hostId.isSome && vm.hostId ≠ some target &&
          poolIds.all (w.storage.hostHasPool target) then
        some (w.place vmId target status poolIds)
      else none

/-- `execute_failover`: a VM that cannot be started is moved back. -/
def failover (w : World) (vmId target : Uuid) (accepted : Bool) : World :=
  match w.move vmId target .created with
  | none => w
  | some moved =>
    match moved.start vmId accepted with
    | .ok started => started
    | .error _ => w

/-! ## Histories -/

end World

inductive Op where
  | attachHost (poolId hostId : Uuid)
  | create (req : NewVmRequest) (bootSourceId : Option Uuid)
  | createWithImage (req : NewVmRequest) (bootSourceId : Option Uuid) (image : ImageRequest)
  | attachDisk (vmId diskId : Uuid) (req : AttachDiskRequest) (accepted : Bool)
  | start (vmId : Uuid) (accepted : Bool)
  | failover (vmId target : Uuid) (accepted : Bool)
  /-- A live migration that goes well. -/
  | migrate (vmId target : Uuid)
  /-- Stopping a VM, or what is found out about it. -/
  | status (vmId : Uuid) (status : VmStatus)

namespace World

def step (w : World) : Op → Option World
  | .attachHost poolId hostId =>
    some { w with storage := { w.storage with
      hostPools := (hostId, poolId) :: w.storage.hostPools } }
  | .create req bootSourceId =>
    if w.vms.all (·.id ≠ req.id) then some (w.create req bootSourceId) else none
  | .createWithImage req bootSourceId image =>
    if w.vms.all (·.id ≠ req.id) then some (w.createWithImage req bootSourceId image) else none
  | .attachDisk vmId diskId req accepted => some (w.attachDisk vmId diskId req accepted)
  | .start vmId accepted => some ((w.start vmId accepted).toOption.getD w)
  | .failover vmId target accepted => some (w.failover vmId target accepted)
  | .migrate vmId target => w.move vmId target .running
  | .status vmId status => some (w.setStatus vmId status)

/-- No VM has been created yet. -/
def Fresh (w : World) : Prop := w.vms = [] ∧ w.storage.disks = [] ∧ w.sent = []

/-! ## What nobody looks at -/

/-- The pools of disks that `attach_disk` and `build_create_vm_request` do not look at. -/
def sharedOnly (pool : StoragePool) : Bool := pool.poolType = .nfs || pool.poolType = .block

/-- Each of the pools was looked at when the VM was placed, or is attached to its host. -/
def reaches (w : World) (vm : PlacedVm) (pools : List StoragePool) : Bool :=
  vm.hostId.all fun hostId => pools.all fun pool =>
    vm.checked.contains pool.id || w.storage.hostHasPool hostId pool.id

/-- The pools that a start does not look at: those of disks that are not local, and all those of the
images. -/
def uncheckedAtStart (w : World) (vm : PlacedVm) : List StoragePool :=
  (poolsOf w.storage (w.storage.listByVm vm.id)).filter sharedOnly ++
    (w.bootPools vm.bootSourceId).filter (needsAttachment ·.poolType)

/-- **What has to hold besides the checks.** -/
def covered (w : World) : Op → Bool
  | .start vmId _ => (w.vm? vmId).all fun vm => w.reaches vm (w.uncheckedAtStart vm)
  | .failover vmId target _ => (w.vm? vmId).all fun vm =>
    (required (w.bootPools vm.bootSourceId)).all (w.storage.hostHasPool target)
  | .attachDisk vmId _ req _ => (w.vm? vmId).all fun vm =>
    w.reaches vm ((backing w.storage [req.storageObjectId]).filter sharedOnly)
  | _ => true

end World

/-! ## Placement keeps what it has looked at -/

/-- What a VM was placed by is attached to its host. -/
def Placed (hostPools : List (Uuid × Uuid)) (vm : PlacedVm) : Prop :=
  ∀ hostId, vm.hostId = some hostId → ∀ pool ∈ vm.checked, (hostId, pool) ∈ hostPools

/-- **The invariant** of all histories. -/
def Kept (w : World) : Prop := ∀ vm ∈ w.vms, Placed w.storage.hostPools vm

variable {st : Storage} {pool : StoragePool} {status : VmStatus}

section Kept

variable {w w' : World} {vm : PlacedVm} {vmId : Uuid} {pools : List StoragePool}

lemma hostHasPool_iff {hostId poolId : Uuid} :
    st.hostHasPool hostId poolId = true ↔ (hostId, poolId) ∈ st.hostPools := by
  simp [Storage.hostHasPool]

lemma mem_required {poolId : Uuid} :
    poolId ∈ required pools ↔
      ∃ pool ∈ pools, needsAttachment pool.poolType = true ∧ pool.id = poolId := by
  simp [required, and_assoc]

lemma needsAttachment_iff :
    needsAttachment pool.poolType = true ↔
      pool.poolType = .local ∨ World.sharedOnly pool = true := by
  cases h : pool.poolType <;> simp [needsAttachment, World.sharedOnly, h]

lemma mem_of_vm? (h : w.vm? vmId = some vm) : vm ∈ w.vms := List.mem_of_find?_eq_some h

/-- A change that leaves the host and what was looked at. -/
lemma Kept.updateVm {f : PlacedVm → PlacedVm} (h : Kept w)
    (hf : ∀ vm ∈ w.vms, Placed w.storage.hostPools (f vm)) : Kept (w.updateVm vmId f) :=
  Rows.forall_update.2 fun vm hvm => ⟨fun _ => hf vm hvm, fun _ => h vm hvm⟩

lemma Kept.setStatus (h : Kept w) : Kept (w.setStatus vmId status) :=
  h.updateVm fun vm hvm => h vm hvm

end Kept

variable {d : Deployment}

section Create

variable {w : World} {hostPools : List (Uuid × Uuid)} {req : NewVmRequest} {checked : List Uuid}

/-- What the handlers that create a VM leave alone, and where they put it. -/
structure Written (hostPools : List (Uuid × Uuid)) (req : NewVmRequest) (checked : List Uuid)
    (d : Deployment) : Prop where
  attachments : d.storage.hostPools = hostPools
  rows : ∀ vm ∈ d.vms, vm.id = req.id →
    vm.hostId = some req.hostId ∧ ∀ pool ∈ checked, (req.hostId, pool) ∈ hostPools

variable {disk : VmDisk} {image : ImageRequest} {bootSourceId : Option Uuid}

lemma hostPools_createDisk {st' : Storage} (h : st.createDisk disk = some st') :
    st'.hostPools = st.hostPools := by
  simp only [Storage.createDisk, Option.ite_none_left_eq_some, Option.some.injEq] at h
  obtain ⟨-, rfl⟩ := h
  rfl

lemma keeps_insertDisk :
    Proc.Keeps (Written hostPools req checked) (insertDisk disk) := by
  intro d hd
  unfold insertDisk
  split
  · next st hst => exact ⟨(hostPools_createDisk hst).trans hd.attachments, hd.rows⟩
  · exact hd

lemma keeps_updateVmStatus {id : Uuid} :
    Proc.Keeps (Written hostPools req checked)
      (updateVmStatus id status : Proc ApiError Deployment Unit) := by
  intro d hd
  refine ⟨hd.attachments, Rows.forall_update.2 fun vm hvm => ?_⟩
  exact ⟨fun _ => hd.rows vm hvm, fun _ => hd.rows vm hvm⟩

lemma keeps_insertVm {imageRef : Option String}
    (h : ∀ pool ∈ checked, (req.hostId, pool) ∈ hostPools) :
    Proc.Keeps (Written hostPools req checked) (insertVm req status imageRef) := fun _ hd =>
  ⟨hd.attachments, List.forall_mem_cons.2 ⟨fun _ => ⟨rfl, h⟩, hd.rows⟩⟩

lemma keeps_insertObject {object : StorageObject} :
    Proc.Keeps (Written hostPools req checked)
      (Proc.modify (·.insertObject object) : Handler Unit) := fun _ hd => ⟨hd.attachments, hd.rows⟩

lemma keeps_createRootDiskRecord :
    Proc.Keeps (Written hostPools req checked) (createRootDiskRecord req) := by
  unfold createRootDiskRecord
  split
  · exact Proc.keeps_pure ()
  · exact keeps_insertDisk

lemma keeps_runOverlaybdCreate :
    Proc.Keeps (Written hostPools req checked) (runOverlaybdCreate pool req image) := by
  unfold runOverlaybdCreate
  split
  · exact keeps_updateVmStatus
  · refine Proc.keeps_bind keeps_insertObject fun _ => ?_
    refine Proc.keeps_bind (fun _ hd => hd) fun _ => ?_
    dsimp only
    split
    · exact Proc.keeps_bind keeps_insertDisk fun _ => keeps_updateVmStatus
    · refine Proc.keeps_bind keeps_insertObject fun _ => ?_
      exact Proc.keeps_bind keeps_insertDisk fun _ => keeps_updateVmStatus

lemma written_createVmInternal (hchecked : ∀ pool ∈ checked, (req.hostId, pool) ∈ hostPools)
    (h : Written hostPools req checked d) :
    Written hostPools req checked (createVmInternal req d).2 := by
  unfold createVmInternal
  rw [Proc.read_bind]
  refine Proc.keeps_bind (Proc.keeps_lift _) (fun _ => ?_) d h
  exact Proc.keeps_bind (keeps_insertVm hchecked) fun _ => keeps_createRootDiskRecord

lemma mem_of_validateUpperPool {hostId : Uuid} {poolId : Option Uuid}
    (h : validateUpperPool st hostId poolId = .ok ()) :
    ∀ pool ∈ poolId.toList, (hostId, pool) ∈ st.hostPools := by
  intro pool hpool
  rw [Option.mem_toList] at hpool
  subst hpool
  simp only [validateUpperPool] at h
  split at h
  · cases h
  · split_ifs at h with _ _ hhas
    exact hostHasPool_iff.1 (by simpa using hhas)

/-- No row is written before the pool of the upper layers was looked at. -/
lemma written_createVmWithImageInternal
    (hchecked : ∀ pool ∈ checked, (req.hostId, pool) ∈ hostPools)
    (hpools : d.storage.hostPools = hostPools) (hnew : ∀ vm ∈ d.vms, vm.id ≠ req.id) :
    Written hostPools req (checked ++ image.persistentUpperPoolId.toList)
      (createVmWithImageInternal req image d).2 := by
  have hd : Written hostPools req (checked ++ image.persistentUpperPoolId.toList) d :=
    ⟨hpools, fun vm hvm hid => absurd hid (hnew vm hvm)⟩
  subst hpools
  unfold createVmWithImageInternal
  rw [Proc.read_bind]
  refine Proc.keeps_bind (Proc.keeps_lift _) (fun _ => ?_) d hd
  split
  · exact fun _ hd => hd
  · intro t ht
    refine Proc.lift_bind_ind (Q := fun r => Written _ req _ r.2) (fun _ => ht) fun _ hvalid => ?_
    have hattached := List.forall_mem_append.2 ⟨hchecked, mem_of_validateUpperPool hvalid⟩
    refine Proc.keeps_bind (keeps_insertVm hattached) (fun _ => ?_) t ht
    exact Proc.keeps_bind keeps_createRootDiskRecord fun _ => keeps_runOverlaybdCreate

lemma Kept.adopt (h : Kept w)
    (hd : Written w.storage.hostPools req checked d) :
    Kept (w.adopt req.id bootSourceId checked d) := by
  rw [Kept, World.adopt, hd.attachments]
  refine List.forall_mem_append.2 ⟨?_, h⟩
  intro vm hvm hostId hhost
  simp only [List.mem_map, List.mem_filter, decide_eq_true_eq] at hvm
  obtain ⟨vmRow, ⟨hmem, hid⟩, rfl⟩ := hvm
  obtain ⟨hreq, hpools⟩ := hd.rows vmRow hmem hid
  cases hhost.symm.trans hreq
  exact hpools

lemma schedule_eq_some {req' : NewVmRequest}
    (h : w.schedule req bootSourceId = some req') :
    req'.id = req.id ∧ ∀ pool ∈ req'.storagePoolId.toList,
      (req'.hostId, pool) ∈ w.storage.hostPools := by
  unfold World.schedule at h
  split at h
  · cases h
  · simp only [Option.ite_none_right_eq_some, Option.some.injEq] at h
    obtain ⟨hall, rfl⟩ := h
    refine ⟨rfl, fun pool hpool => hostHasPool_iff.1 ?_⟩
    rw [Option.mem_toList] at hpool
    subst hpool
    exact hall

end Create

/-! ## Starting, attaching and moving -/

section Steps

variable {w w' : World} {vm : PlacedVm} {vmId diskId target hostId : Uuid} {accepted : Bool}
  {request : CreateVmRequest} {r : SentRequest}

lemma hostForVm_eq_ok {vm : VmRow} : hostForVm vm = .ok hostId ↔ vm.hostId = some hostId := by
  unfold hostForVm
  split <;> simp_all

/-- What `start_vm_internal` found when it sends the VM to its host. -/
lemma startRequest_eq_some (h : w.startRequest vm = .ok (hostId, some request)) :
    vm.hostId = some hostId ∧
      ensureLocalPools w.storage vm.hostId (w.storage.listByVm vm.id) = .ok () := by
  simp only [World.startRequest, except_bind_eq_ok] at h
  obtain ⟨-, -, host, hhost, -, -, h⟩ := h
  split at h
  · obtain ⟨req, hreq, h⟩ := except_bind_eq_ok.1 h
    cases h
    simp only [buildCreateVmRequest, except_bind_eq_ok] at hreq
    obtain ⟨⟨⟩, hlocal, -⟩ := hreq
    exact ⟨hostForVm_eq_ok.1 hhost, hlocal⟩
  · cases h

/-- The local pools of the disks were looked at. -/
lemma mem_of_ensureLocalPools {disks : List VmDisk}
    (h : ensureLocalPools st (some hostId) disks = .ok ()) (hmem : pool ∈ poolsOf st disks)
    (hlocal : pool.poolType = .local) : (hostId, pool.id) ∈ st.hostPools := by
  simp only [ensureLocalPools] at h
  split at h
  · cases h
  · next hnone =>
      have hpool := List.find?_eq_none.1 hnone pool hmem
      exact hostHasPool_iff.1 (by simpa [hlocal] using hpool)

lemma mem_of_ensureLocalPool {vm : VmRow} (h : ensureLocalPool st vm pool = .ok ())
    (hhost : vm.hostId = some hostId) (hon : onNode vm.status = true)
    (hlocal : pool.poolType = .local) : (hostId, pool.id) ∈ st.hostPools := by
  simp only [ensureLocalPool, hlocal, decide_true, hon, Bool.and_self, if_true, hhost] at h
  split_ifs at h with hhas
  exact hostHasPool_iff.1 hhas

/-- **A start** sends at most the request that creates the VM. -/
lemma start_eq_ok (h : w.start vmId accepted = .ok w') : ∃ vm, w.vm? vmId = some vm ∧
    w'.storage = w.storage ∧
    w'.vms = (w.setStatus vmId (if accepted then .running else vm.status)).vms ∧
    (w'.sent = w.sent ∨ ∃ hostId request, w.startRequest vm = .ok (hostId, some request) ∧
      w'.sent = ⟨hostId, .createVm request, required (w.vmPools vm)⟩ :: w.sent) := by
  simp only [World.start, except_bind_eq_ok, row_eq_ok] at h
  obtain ⟨vm, hvm, ⟨hostId, found⟩, hfound, h⟩ := h
  cases h
  refine ⟨vm, hvm, ?_⟩
  cases found with
  | none => exact ⟨rfl, rfl, .inl rfl⟩
  | some request => exact ⟨rfl, rfl, .inr ⟨hostId, request, hfound, rfl⟩⟩

/-- The host that a VM is moved to has the pools of its disks. -/
lemma move_eq_some (h : w.move vmId target status = some w') :
    ∃ vm, w.vm? vmId = some vm ∧
      w' = w.place vmId target status ((poolsOf w.storage (w.storage.listByVm vm.id)).map (·.id)) ∧
      ∀ pool ∈ poolsOf w.storage (w.storage.listByVm vm.id),
        (target, pool.id) ∈ w.storage.hostPools := by
  unfold World.move at h
  split at h
  · cases h
  · next vm hvm =>
      split at h
      · cases h
      · next ids hids =>
          simp only [World.sharedDiskPoolIds, Option.ite_none_right_eq_some,
            Option.some.injEq] at hids
          obtain ⟨-, rfl⟩ := hids
          simp only [Option.ite_none_right_eq_some, Bool.and_eq_true, List.all_map,
            List.all_eq_true, Option.some.injEq] at h
          obtain ⟨⟨-, hall⟩, rfl⟩ := h
          exact ⟨vm, hvm, rfl, fun pool hpool => hostHasPool_iff.1 (hall pool hpool)⟩

lemma Kept.move (h : Kept w) (hm : w.move vmId target status = some w') : Kept w' := by
  obtain ⟨vm, -, rfl, hpools⟩ := move_eq_some hm
  refine h.updateVm fun _ _ host hhost pool hpool => ?_
  cases hhost
  obtain ⟨p, hp, rfl⟩ := List.mem_map.1 hpool
  exact hpools p hp

lemma Kept.start (h : Kept w) (hs : w.start vmId accepted = .ok w') : Kept w' := by
  obtain ⟨vm, -, hstorage, hvms, -⟩ := start_eq_ok hs
  have hkept : Kept (w.setStatus vmId (if accepted then .running else vm.status)) := h.setStatus
  rw [Kept, hvms, hstorage]
  exact hkept

/-- What `attach_disk` found when its transaction commits. -/
lemma newAttachment_eq_ok {req : AttachDiskRequest} {a : World.NewAttachment}
    (h : w.newAttachment vmId diskId req = .ok a) : w.vm? vmId = some a.vm ∧
      backing w.storage [req.storageObjectId] = [a.pool] ∧
      ensureLocalPool w.storage a.vm.toVmRow a.pool = .ok () ∧
      a.storage.hostPools = w.storage.hostPools := by
  simp only [World.newAttachment, except_bind_eq_ok, row_eq_ok] at h
  obtain ⟨vm, hvm, -, -, object, hobject, pool, hpool, ⟨⟩, hlocal, -, -, h⟩ := h
  split at h
  · cases h
  · next st hst =>
      cases h
      exact ⟨hvm, by simp [backing, hobject, hpool], hlocal, hostPools_createDisk hst⟩

/-- **Attaching a disk** sends at most the request for this disk, and a local pool was looked at. -/
lemma attachDisk_effect (w : World) (vmId diskId : Uuid) (req : AttachDiskRequest)
    (accepted : Bool) :
    (w.attachDisk vmId diskId req accepted).vms = w.vms ∧
      (w.attachDisk vmId diskId req accepted).storage.hostPools = w.storage.hostPools ∧
      ((w.attachDisk vmId diskId req accepted).sent = w.sent ∨
        ∃ vm pool hostId call, w.vm? vmId = some vm ∧ vm.hostId = some hostId ∧
          backing w.storage [req.storageObjectId] = [pool] ∧
          (pool.poolType = .local → (hostId, pool.id) ∈ w.storage.hostPools) ∧
          (w.attachDisk vmId diskId req accepted).sent =
            ⟨hostId, call, required [pool]⟩ :: w.sent) := by
  unfold World.attachDisk
  split
  · exact ⟨rfl, rfl, .inl rfl⟩
  · next a ha =>
      obtain ⟨hvm, hpool, hlocal, hstorage⟩ := newAttachment_eq_ok ha
      split
      · next hon =>
          split
          · next host config hhost _ =>
              have hid := hostForVm_eq_ok.1 hhost
              refine ⟨rfl, ?_, .inr ⟨a.vm, a.pool, host, _, hvm, hid, hpool, ?_, rfl⟩⟩
              · cases accepted <;> exact hstorage
              · intro htype
                exact mem_of_ensureLocalPool hlocal hid hon htype
          · exact ⟨rfl, hstorage, .inl rfl⟩
      · exact ⟨rfl, hstorage, .inl rfl⟩

lemma Kept.attachDisk (req : AttachDiskRequest) (h : Kept w) :
    Kept (w.attachDisk vmId diskId req accepted) := by
  obtain ⟨hvms, hpools, -⟩ := attachDisk_effect w vmId diskId req accepted
  rw [Kept, hvms, hpools]
  exact h

lemma Kept.failover (h : Kept w) : Kept (w.failover vmId target accepted) := by
  unfold World.failover
  split
  · exact h
  · next moved hmoved =>
      split
      · next started hstarted => exact (h.move hmoved).start hstarted
      · exact h

lemma ne_of_new {id : Uuid} (h : (w.vms.all fun vm => decide (vm.id ≠ id)) = true) :
    ∀ vm ∈ w.deployment.vms, vm.id ≠ id := by
  simpa [World.deployment] using h

/-- **One step** keeps it. -/
lemma kept_step {op : Op} (h : Kept w) (hs : w.step op = some w') : Kept w' := by
  cases op with
  | attachHost poolId hostId =>
    cases hs
    intro vm hvm host hhost pool hpool
    exact List.mem_cons_of_mem _ (h vm hvm host hhost pool hpool)
  | create req bootSourceId =>
    simp only [World.step, Option.ite_none_right_eq_some, Option.some.injEq] at hs
    obtain ⟨hnew, rfl⟩ := hs
    unfold World.create
    split
    · exact h
    · next req' hreq =>
        obtain ⟨hid, hpool⟩ := schedule_eq_some hreq
        refine h.adopt (written_createVmInternal hpool ⟨rfl, fun vm hvm heq => ?_⟩)
        exact absurd (heq.trans hid) (ne_of_new hnew vm hvm)
  | createWithImage req bootSourceId image =>
    simp only [World.step, Option.ite_none_right_eq_some, Option.some.injEq] at hs
    obtain ⟨hnew, rfl⟩ := hs
    unfold World.createWithImage
    split
    · exact h
    · next req' hreq =>
        obtain ⟨hid, hpool⟩ := schedule_eq_some hreq
        refine h.adopt (written_createVmWithImageInternal hpool rfl fun vm hvm heq => ?_)
        exact ne_of_new hnew vm hvm (heq.trans hid)
  | attachDisk vmId diskId req accepted =>
    cases hs
    exact h.attachDisk req
  | start vmId accepted =>
    cases hs
    cases hstart : w.start vmId accepted with
    | error e => exact h
    | ok started => exact h.start hstart
  | failover vmId target accepted =>
    cases hs
    exact h.failover
  | migrate vmId target => exact h.move hs
  | status vmId status =>
    cases hs
    exact h.setStatus

end Steps

/-! ## The pools of a request -/

variable {vmId : Uuid} {accepted : Bool}

section Requests

variable {w w' : World} {vm : PlacedVm} {hostId : Uuid} {pools : List StoragePool} {r : SentRequest}

/-- What the placement of a VM has looked at does not matter. -/
lemma reaches_iff (h : Placed w.storage.hostPools vm) (hhost : vm.hostId = some hostId) :
    w.reaches vm pools = true ↔ ∀ pool ∈ pools, (hostId, pool.id) ∈ w.storage.hostPools := by
  simp only [World.reaches, hhost, Option.all_some, List.all_eq_true, Bool.or_eq_true,
    List.contains_iff_mem, hostHasPool_iff]
  exact forall₂_congr fun pool _ => ⟨fun hp => hp.elim (h hostId hhost pool.id) id, .inr⟩

lemma attached_required {call : NodeCall} : w.Attached ⟨hostId, call, required pools⟩ ↔
    ∀ pool ∈ pools, needsAttachment pool.poolType = true →
      (hostId, pool.id) ∈ w.storage.hostPools := by
  simp only [World.Attached, mem_required, hostHasPool_iff]
  constructor
  · intro h pool hmem hneeds
    exact h pool.id ⟨pool, hmem, hneeds, rfl⟩
  · rintro h _ ⟨pool, hmem, hneeds, rfl⟩
    exact h pool hmem hneeds

/-- The pools of disks: the local ones are looked at, and the others have to be attached. -/
lemma disks_attached_iff
    (hlocal : ∀ pool ∈ pools, pool.poolType = .local → (hostId, pool.id) ∈ w.storage.hostPools) :
    (∀ pool ∈ pools, needsAttachment pool.poolType = true →
        (hostId, pool.id) ∈ w.storage.hostPools) ↔
      ∀ pool ∈ pools.filter World.sharedOnly, (hostId, pool.id) ∈ w.storage.hostPools := by
  simp only [List.mem_filter, needsAttachment_iff]
  constructor
  · rintro h pool ⟨hmem, hshared⟩
    exact h pool hmem (.inr hshared)
  · intro h pool hmem hneeds
    exact hneeds.elim (hlocal pool hmem) fun hshared => h pool ⟨hmem, hshared⟩

/-- The request of a start. -/
lemma attached_start_iff (h : Kept w) (hs : w.start vmId accepted = .ok w')
    (hr : w'.sent = r :: w.sent) : w'.Attached r ↔ w.covered (.start vmId accepted) = true := by
  obtain ⟨vm, hvm, hstorage, -, hsent⟩ := start_eq_ok hs
  rcases hsent with hsent | ⟨hostId, request, hrequest, hsent⟩
  · rw [hsent] at hr
    exact absurd hr.symm (List.cons_ne_self _ _)
  · rw [hsent] at hr
    obtain ⟨rfl, -⟩ := List.cons.inj hr
    obtain ⟨hhost, hlocal⟩ := startRequest_eq_some hrequest
    rw [hhost] at hlocal
    have hdisks := disks_attached_iff fun pool hmem htype =>
      mem_of_ensureLocalPools hlocal hmem htype
    rw [attached_required, hstorage, World.vmPools, List.forall_mem_append, hdisks, World.covered,
      hvm, Option.all_some, reaches_iff (h vm (mem_of_vm? hvm)) hhost, World.uncheckedAtStart,
      List.forall_mem_append]
    simp only [List.mem_filter, and_imp]

lemma attached_attachDisk_iff {diskId : Uuid} {req : AttachDiskRequest} (h : Kept w)
    (hr : (w.attachDisk vmId diskId req accepted).sent = r :: w.sent) :
    (w.attachDisk vmId diskId req accepted).Attached r ↔
      w.covered (.attachDisk vmId diskId req accepted) = true := by
  obtain ⟨-, hpools, hsent⟩ := attachDisk_effect w vmId diskId req accepted
  rcases hsent with hsent | ⟨vm, pool, hostId, call, hvm, hhost, hpool, hlocal, hsent⟩
  · rw [hsent] at hr
    exact absurd hr.symm (List.cons_ne_self _ _)
  · rw [hsent] at hr
    obtain ⟨rfl, -⟩ := List.cons.inj hr
    have hdisk := disks_attached_iff fun p hp htype => by
      cases List.mem_singleton.1 hp
      exact hlocal htype
    rw [attached_required, hpools, hdisk, World.covered, hvm, Option.all_some,
      reaches_iff (h vm (mem_of_vm? hvm)) hhost, hpool]

/-- The VM after a move is the one before it elsewhere. -/
lemma vm?_place {target : Uuid} {poolIds : List Uuid} (h : w.vm? vmId = some vm) :
    (w.place vmId target status poolIds).vm? vmId =
      some { vm with hostId := some target, status, checked := poolIds } := by
  have hfind : (w.place vmId target status poolIds).vm? vmId = (w.vm? vmId).map fun vm =>
      { vm with hostId := some target, status, checked := poolIds } :=
    Rows.find?_update_self fun _ h => h
  rw [hfind, h, Option.map_some]

/-- The request of a failover: the pools of the disks were looked at, so those of the images have to
be attached. -/
lemma attached_failover_iff {target : Uuid}
    (hr : (w.failover vmId target accepted).sent = r :: w.sent) :
    (w.failover vmId target accepted).Attached r ↔
      w.covered (.failover vmId target accepted) = true := by
  have hsame : w.sent ≠ r :: w.sent := (List.cons_ne_self _ _).symm
  unfold World.failover at hr ⊢
  split at hr
  · exact absurd hr hsame
  · next moved hmoved =>
      obtain ⟨vm, hvm, rfl, hdisks⟩ := move_eq_some hmoved
      split at hr
      · next started hstarted =>
          obtain ⟨vm', hvm', hstorage, -, hsent⟩ := start_eq_ok hstarted
          cases (vm?_place hvm).symm.trans hvm'
          rcases hsent with hsent | ⟨hostId, request, hrequest, hsent⟩
          · exact absurd (hsent.symm.trans hr) hsame
          · obtain ⟨rfl, -⟩ := List.cons.inj (hsent.symm.trans hr)
            cases (startRequest_eq_some hrequest).1
            rw [attached_required, hstorage, World.vmPools, List.forall_mem_append]
            rw [World.covered, hvm, Option.all_some, List.all_eq_true]
            simp only [mem_required, hostHasPool_iff]
            constructor
            · rintro ⟨-, hboot⟩ _ ⟨pool, hmem, hneeds, rfl⟩
              exact hboot pool hmem hneeds
            · intro hboot
              exact ⟨fun pool hmem _ => hdisks pool hmem,
                fun pool hmem hneeds => hboot pool.id ⟨pool, hmem, hneeds, rfl⟩⟩
      · exact absurd hr hsame

/-- **Which requests name attached pools.**  After any history, a request that a step sends is for
pools that are all attached to its host exactly when those that nobody has looked at are. -/
theorem request_attached_iff {op : Op} (h : Reach World.step (fun _ _ => True) World.Fresh w)
    (hs : w.step op = some w') (hr : w'.sent = r :: w.sent) :
    w'.Attached r ↔ w.covered op = true := by
  have hkept : Kept w := h.invariant
    (fun s hs vm hvm => absurd hvm (by simp [hs.1])) fun s a s' hs _ hstep => kept_step hs hstep
  have hsame : ∀ {l : List SentRequest}, l ≠ r :: l := (List.cons_ne_self _ _).symm
  cases op with
  | attachHost poolId hostId | status vmId status =>
    cases hs
    exact absurd hr hsame
  | create req bootSourceId =>
    simp only [World.step, Option.ite_none_right_eq_some, Option.some.injEq] at hs
    obtain ⟨-, rfl⟩ := hs
    refine absurd hr ?_
    unfold World.create
    split <;> exact hsame
  | createWithImage req bootSourceId image =>
    simp only [World.step, Option.ite_none_right_eq_some, Option.some.injEq] at hs
    obtain ⟨-, rfl⟩ := hs
    refine absurd hr ?_
    unfold World.createWithImage
    split <;> exact hsame
  | attachDisk vmId diskId req accepted =>
    cases hs
    exact attached_attachDisk_iff hkept hr
  | start vmId accepted =>
    cases hs
    cases hstart : w.start vmId accepted with
    | error e =>
      rw [hstart] at hr
      exact absurd hr hsame
    | ok started =>
      rw [hstart] at hr
      exact attached_start_iff hkept hstart hr
  | failover vmId target accepted =>
    cases hs
    exact attached_failover_iff hr
  | migrate vmId target =>
    obtain ⟨vm, -, rfl, -⟩ := move_eq_some hs
    exact absurd hr hsame

end Requests

/-! ## A disk on a shared pool -/

/-- One host with a local pool, and an NFS pool; the root disk is on the first, and another disk on
the second. -/
def labStorage (hostPools : List (Uuid × Uuid)) : Storage where
  pools := [⟨⟨"local"⟩, .local, .active, .obj []⟩, ⟨⟨"nfs"⟩, .nfs, .active, .obj []⟩]
  objects := [⟨⟨"root"⟩, "root", ⟨"local"⟩, .disk, .obj []⟩,
    ⟨⟨"data"⟩, "data", ⟨"nfs"⟩, .disk, .obj []⟩]
  hostPools := hostPools
  disks := []

def lab (hostPools : List (Uuid × Uuid)) : World := ⟨labStorage hostPools, [], [], []⟩

/-- A VM is created with the first disk, and is given the second one before it is started. -/
def labHistory : List Op :=
  [.create ⟨⟨"vm"⟩, ⟨"d1"⟩, "vm", ⟨"host"⟩, some ⟨"root"⟩, none, none⟩ none,
    .attachDisk ⟨"vm"⟩ ⟨"d2"⟩ ⟨⟨"data"⟩, none⟩ true]

/-- What the start of the VM sends after this history: whether the pools behind each request are
attached, with what is known before. -/
def labStart (hostPools : List (Uuid × Uuid)) : Option (Bool × Nat × List Bool) :=
  (run World.step (lab hostPools) labHistory).bind fun w =>
    (w.step (.start ⟨"vm"⟩ true)).map fun w' => (w.covered (.start ⟨"vm"⟩ true), w.sent.length,
      w'.sent.map fun r => r.pools.all (w'.storage.hostHasPool r.hostId))

lemma exists_of_labStart {hostPools : List (Uuid × Uuid)} {known attached : Bool}
    (h : labStart hostPools = some (known, 0, [attached]))
    (halong : Along World.step (fun _ _ => True) (lab hostPools) labHistory) :
    ∃ w w' r, Reach World.step (fun _ _ => True) World.Fresh w ∧
      w.step (.start ⟨"vm"⟩ true) = some w' ∧ w'.sent = r :: w.sent ∧
      w.covered (.start ⟨"vm"⟩ true) = known ∧ (w'.Attached r ↔ attached = true) := by
  obtain ⟨w, hw, h⟩ := Option.bind_eq_some_iff.1 h
  obtain ⟨w', hw', h⟩ := Option.map_eq_some_iff.1 h
  simp only [Prod.mk.injEq, List.length_eq_zero_iff, List.map_eq_singleton_iff] at h
  obtain ⟨hknown, hnone, r, hr, hattached⟩ := h
  have hfresh : World.Fresh (lab hostPools) := ⟨rfl, rfl, rfl⟩
  refine ⟨w, w', r, reach_of_run (.start hfresh) halong hw, hw', by rw [hr, hnone], hknown, ?_⟩
  rw [← hattached, List.all_eq_true]
  exact Iff.rfl

/-- The host has both pools. -/
theorem attached_pools_requested : ∃ w w' r,
    Reach World.step (fun _ _ => True) World.Fresh w ∧ w.step (.start ⟨"vm"⟩ true) = some w' ∧
      w'.sent = r :: w.sent ∧ w.covered (.start ⟨"vm"⟩ true) = true ∧ w'.Attached r := by
  have hstart : labStart [(⟨"host"⟩, ⟨"local"⟩), (⟨"host"⟩, ⟨"nfs"⟩)] = some (true, 0, [true]) := by
    decide +kernel
  obtain ⟨w, w', r, hreach, hs, hr, hcovered, -⟩ := exists_of_labStart hstart (by decide +kernel)
  exact ⟨w, w', r, hreach, hs, hr, hcovered, (request_attached_iff hreach hs hr).2 hcovered⟩

/-- **A host is asked for a pool it does not have**: the disk on the NFS pool is taken while the VM
is only created, and the start looks at the local pool alone. -/
theorem unattached_pool_requested : ∃ w w' r,
    Reach World.step (fun _ _ => True) World.Fresh w ∧ w.step (.start ⟨"vm"⟩ true) = some w' ∧
      w'.sent = r :: w.sent ∧ ¬ w'.Attached r := by
  have hstart : labStart [(⟨"host"⟩, ⟨"local"⟩)] = some (false, 0, [false]) := by decide +kernel
  obtain ⟨w, w', r, hreach, hs, hr, -, hattached⟩ := exists_of_labStart hstart (by decide +kernel)
  exact ⟨w, w', r, hreach, hs, hr, fun h => Bool.false_ne_true (hattached.1 h)⟩

end PoolAttachments

end Qarax
