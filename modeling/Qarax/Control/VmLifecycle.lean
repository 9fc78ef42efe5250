import Qarax.Core.Machine
import Qarax.Node.Lifecycle

/-!
# From `create` to `start`

The handlers of `vm/handler.rs` that create, start and stop VMs and that change their disks, with
the jobs they start, one after the other.  Calls to nodes and queries succeed unless the state says
otherwise; a handler that fails leaves what it has written so far.

No handler here moves a VM to another host, so `Deployment.instances` lists the registered VMs of
all nodes together.
-/

namespace Qarax

/-- Settings of the control plane and of the nodes. -/
structure AppEnv where
  /-- The variable `VM_ROOTFS`, when it is not empty. -/
  vmRootfs : Option String
  runtimeDir : String

structure Deployment where
  vms : List VmRow
  storage : Storage
  instances : List VmInstance

namespace Deployment

def vm? (s : Deployment) (id : Uuid) : Option VmRow := s.vms.find? (·.id = id)

def updateVm (s : Deployment) (id : Uuid) (f : VmRow → VmRow) : Deployment :=
  { s with vms := Rows.update VmRow.id id f s.vms }

def setStatus (s : Deployment) (id : Uuid) (status : VmStatus) : Deployment :=
  s.updateVm id fun vm => { vm with status }

def insertObject (s : Deployment) (object : StorageObject) : Deployment :=
  { s with storage := { s.storage with objects := object :: s.storage.objects } }

def deleteObject (s : Deployment) (id : Uuid) : Deployment :=
  { s with storage := s.storage.deleteObject id }

end Deployment

/-- A handler. -/
abbrev Handler (α : Type) := Proc ApiError Deployment α

def updateVmStatus {ε : Type} (id : Uuid) (status : VmStatus) : Proc ε Deployment Unit :=
  Proc.modify (·.setStatus id status)

def hostForVm (vm : VmRow) : Except ApiError Uuid :=
  match vm.hostId with
  | some host => .ok host
  | none => .error (.unprocessableEntity "VM has no assigned host")

/-- `vm_disks::create`, with the error of its unique constraint. -/
def insertDisk (disk : VmDisk) : Handler Unit := fun s =>
  match s.storage.createDisk disk with
  | some storage => (.ok (), { s with storage })
  | none => (.error (.conflict "Vm with this disks already exists"), s)

/-- A call to the node of a VM. -/
def callNode {ε : Type} (error : VmManagerError → ε)
    (f : List VmInstance → Except VmManagerError (List VmInstance)) : Proc ε Deployment Unit :=
  fun s =>
    match f s.instances with
    | .ok instances => (.ok (), { s with instances })
    | .error e => (.error (error e), s)

section CallNode

variable {ε : Type} {error : VmManagerError → ε} {s : Deployment} {instances : List VmInstance}
  {e : VmManagerError} {f : List VmInstance → Except VmManagerError (List VmInstance)}

lemma callNode_ok (h : f s.instances = .ok instances) :
    callNode error f s = (.ok (), { s with instances }) := by
  simp only [callNode, h]

lemma callNode_error (h : f s.instances = .error e) :
    callNode error f s = (.error (error e), s) := by
  simp only [callNode, h]

end CallNode

/-! ## Create -/

/-- Where a pool keeps the files of an object. -/
def basePath (pool : StoragePool) (id : Uuid) : Option String :=
  match pool.poolType with
  | .local => (pool.config.text "path").map fun base => s!"{base}/{id.text}"
  | .nfs => some s!"/var/lib/qarax/pools/{pool.id.text}/{id.text}"
  | _ => none

/-- The `config` of a new storage object. -/
def resolveNewObject (st : Storage) (id poolId : Uuid) (type : StorageObjectType) (config : Json) :
    Json :=
  let pool := st.pool? poolId
  if type = .overlaybdUpper && (config.get? "upper_data").isNone then
    match pool.bind (basePath · id) with
    | some base =>
      .obj [("upper_data", .str s!"{base}.upper.data"),
        ("upper_index", .str s!"{base}.upper.index")]
    | none => config
  else if (type = .disk || type = .snapshot || type = .databaseBackup) &&
      (config.get? "path").isNone && (config.get? "lun").isNone then
    match pool.bind (basePath · id) with
    | some base => .obj [("path", .str (if type = .databaseBackup then s!"{base}.dump" else base))]
    | none => config
  else if type = .disk && (config.get? "lun").isSome then
    match pool with
    | some pool =>
      if pool.poolType = .block then
        let lun := ((config.get? "lun").bind Json.asInt64).getD 0
        .obj [("portal", .str ((pool.config.text "portal").getD "")),
          ("iqn", .str ((pool.config.text "iqn").getD "")), ("lun", .num (toString lun))]
      else config
    | none => config
  else config

/-- What `create` is asked for, with the host that was picked and the ids that are drawn. -/
structure NewVmRequest where
  id : Uuid
  diskId : Uuid
  name : String
  hostId : Uuid
  rootDiskObjectId : Option Uuid
  /-- The pool that the scheduling request names. -/
  storagePoolId : Option Uuid
  cloudInitUserData : Option String

/-- An image to boot from, with what importing it answers. -/
structure ImageRequest where
  imageRef : String
  importedRef : String
  digest : Json
  persistentUpperPoolId : Option Uuid
  diskId : Uuid
  objectId : Uuid
  upperId : Uuid

def validateRootDiskForHost (st : Storage) (hostId objectId : Uuid) (poolId : Option Uuid) :
    Except ApiError Unit :=
  match poolId with
  | none => .ok ()
  | some poolId =>
    if st.hostHasPool hostId poolId then .ok ()
    else .error (.unprocessableEntity
      ("selected host is not attached to the storage pool backing root_disk_object_id " ++
        objectId.text))

def checkRootDisk (s : Deployment) (req : NewVmRequest) : Except ApiError Unit :=
  match req.rootDiskObjectId with
  | none => .ok ()
  | some objectId => do
      validateRootDiskForHost s.storage req.hostId objectId req.storagePoolId
      let object ← row (s.storage.object? objectId)
      let pool ← row (s.storage.pool? object.storagePoolId)
      ensureStorageObjectCanBeAttachedTx s.storage s.vms object pool none

def createRootDiskRecord (req : NewVmRequest) : Handler Unit :=
  match req.rootDiskObjectId with
  | none => pure ()
  | some objectId => insertDisk
      { id := req.diskId, vmId := req.id, storageObjectId := some objectId,
        logicalName := "rootfs" }

def insertVm (req : NewVmRequest) (status : VmStatus) (imageRef : Option String) : Handler Unit :=
  Proc.modify fun s => { s with
    vms := ⟨req.id, req.name, some req.hostId, status, imageRef, req.cloudInitUserData⟩ :: s.vms }

def createVmInternal (req : NewVmRequest) : Handler Unit := do
  let s ← Proc.read
  Proc.lift (checkRootDisk s req)
  insertVm req .created none
  createRootDiskRecord req

/-- Pools are listed by name. -/
def findOverlaybdForHost (st : Storage) (hostId : Uuid) : Option StoragePool :=
  st.pools.find? fun pool =>
    st.hostHasPool hostId pool.id && pool.poolType = .overlayBd && pool.status = .active

def validateUpperPool (st : Storage) (hostId : Uuid) (poolId : Option Uuid) :
    Except ApiError Unit :=
  match poolId with
  | none => .ok ()
  | some id =>
    match st.pool? id with
    | none => .error (.unprocessableEntity s!"persistent_upper_pool_id {id.text} not found")
    | some pool =>
      if pool.status ≠ .active then
        .error (.unprocessableEntity s!"persistent_upper_pool_id {id.text} is not active")
      else if pool.poolType ≠ .local && pool.poolType ≠ .nfs then
        .error (.unprocessableEntity "persistent_upper_pool_id must be a Local or NFS pool")
      else if !st.hostHasPool hostId id then
        .error (.unprocessableEntity
          s!"persistent_upper_pool_id {id.text} is not attached to the selected host")
      else .ok ()

/-- The job `run_overlaybd_create`.  Its outcome is the status the VM is left in. -/
def runOverlaybdCreate (pool : StoragePool) (req : NewVmRequest) (image : ImageRequest) :
    Handler Unit :=
  match pool.config.text "url" with
  | none => updateVmStatus req.id .unknown
  | some url => do
      Proc.modify (·.insertObject
        { id := image.objectId
          name := s!"overlaybd-{req.id.text}"
          storagePoolId := pool.id
          objectType := .ociImage
          config := .obj [("image_ref", .str image.importedRef), ("registry_url", .str url),
            ("digest", image.digest)] })
      let s ← Proc.read
      let logicalName := nextDiskId (s.storage.listByVm req.id)
      match image.persistentUpperPoolId with
      | none => pure ()
      | some poolId => Proc.modify (·.insertObject
          { id := image.upperId
            name := s!"overlaybd-upper-{req.id.text}"
            storagePoolId := poolId
            objectType := .overlaybdUpper
            config := resolveNewObject s.storage image.upperId poolId .overlaybdUpper (.obj []) })
      insertDisk
        { id := image.diskId
          vmId := req.id
          storageObjectId := some image.objectId
          logicalName
          upperStorageObjectId := image.persistentUpperPoolId.map fun _ => image.upperId }
      updateVmStatus req.id .created

def createVmWithImageInternal (req : NewVmRequest) (image : ImageRequest) : Handler Unit := do
  let s ← Proc.read
  Proc.lift (checkRootDisk s req)
  match findOverlaybdForHost s.storage req.hostId with
  | none =>
    Proc.fail (.unprocessableEntity "no OverlayBD storage pool attached to the selected host")
  | some pool =>
    Proc.lift (validateUpperPool s.storage req.hostId image.persistentUpperPoolId)
    insertVm req .pending (some image.imageRef)
    createRootDiskRecord req
    runOverlaybdCreate pool req image

/-! ## Start and stop -/

/-- The statuses a VM can be started in. -/
def startable : VmStatus → Except ApiError Unit
  | .running => .error (.unprocessableEntity "VM is already running")
  | .paused => .error (.unprocessableEntity
      "VM is paused; use POST /vms/\x7bvm_id\x7d/resume instead")
  | .pending =>
    .error (.unprocessableEntity "VM is pending job completion; wait for the job to finish")
  | .migrating => .error (.unprocessableEntity "VM is being migrated; wait for migration to finish")
  | .committing => .error (.unprocessableEntity "VM is being committed; wait for commit to finish")
  | .created | .shutdown | .unknown => .ok ()

/-- How a start job fails. -/
inductive StartFailure where
  | deleted
  | notAllowed (e : ApiError)
  | createVm (e : VmManagerError)
  | startVm (e : VmManagerError)

/-- A procedure of a start job. -/
abbrev StartJob (α : Type) := Proc StartFailure Deployment α

def ensureVmStartAllowed (vmId : Uuid) : StartJob Unit := fun s =>
  match s.vm? vmId with
  | none => (.error .deleted, s)
  | some _ =>
    match ensureVmDiskAttachmentsCanStart s.storage s.vms vmId with
    | .error e => (.error (.notAllowed e), s)
    | .ok () => (.ok (), s)

/-- `NodeClient::create_vm`: a disk for all VMs comes first, if there is one. -/
def vmConfig (env : AppEnv) (req : CreateVmRequest) : VmConfig where
  vmId := req.vmId
  disks := (env.vmRootfs.toList.map fun path =>
    { id := "rootfs", path := some (.file path), readonly := some false }) ++ req.disks
  cloudInit := req.cloudInitUserData

def createOnNode (env : AppEnv) (vmId : Uuid) : Option CreateVmRequest → StartJob Unit
  | none => pure ()
  | some req => do
      callNode .createVm (VmManager.createVm env.runtimeDir (vmConfig env req))
      Proc.onError (ensureVmStartAllowed vmId) (Proc.modify fun s =>
        { s with instances := s.instances.filter (·.vmId ≠ vmId) })

/-- The job of `start_vm_internal`.  The first check restores nothing. -/
def startJob (env : AppEnv) (vmId : Uuid) (originalStatus : VmStatus)
    (createReq : Option CreateVmRequest) : StartJob Unit := do
  ensureVmStartAllowed vmId
  Proc.onError
    (do
      createOnNode env vmId createReq
      ensureVmStartAllowed vmId
      callNode .startVm (VmManager.startVm vmId))
    (updateVmStatus vmId originalStatus)
  updateVmStatus vmId .running

/-- The request to create the VM on its node, when it has not been created there. -/
def startSetup (vm : VmRow) : Handler (Option CreateVmRequest) := do
  let s ← Proc.read
  if vm.status = .created then
    let req ← Proc.lift (buildCreateVmRequest s.storage vm)
    pure (some req)
  else pure none

/-- The handler of `start` with the job it starts; the value is the outcome of the job. -/
def startVmInternal (env : AppEnv) (vmId : Uuid) : Handler (Except StartFailure Unit) := do
  let s ← Proc.read
  let vm ← Proc.lift (row (s.vm? vmId))
  Proc.lift (startable vm.status)
  let _host ← Proc.lift (hostForVm vm)
  Proc.lift (ensureVmDiskAttachmentsCanStart s.storage s.vms vmId)
  updateVmStatus vmId .pending
  let createReq ← Proc.onError (startSetup vm) (updateVmStatus vmId vm.status)
  Proc.outcome (startJob env vmId vm.status createReq)

/-- `stop` and `force_stop`: that the node does not know the VM counts as success. -/
def stopWith (vmId : Uuid)
    (f : List VmInstance → Except VmManagerError (List VmInstance)) : Handler Unit := do
  let s ← Proc.read
  let vm ← Proc.lift (row (s.vm? vmId))
  let _host ← Proc.lift (hostForVm vm)
  let _stopped ← Proc.attempt (callNode (fun _ => .notFound) f)
  updateVmStatus vmId .shutdown

def stop (vmId : Uuid) : Handler Unit := stopWith vmId (VmManager.stopVm vmId)

def forceStop (vmId : Uuid) : Handler Unit := stopWith vmId (VmManager.forceStopVm vmId)

/-! ## Disks -/

/-- The statuses in which disks can be changed. -/
def disksCanChange (message : String) : VmStatus → Except ApiError Unit
  | .created | .running | .shutdown => .ok ()
  | _ => .error (.unprocessableEntity message)

/-- The VM is known to its node as far as its status tells. -/
def onNode (status : VmStatus) : Bool := status = .running || status = .shutdown

structure AttachDiskRequest where
  storageObjectId : Uuid
  logicalName : Option String

/-- A disk on a local pool can be given only to a VM on a host that has the pool. -/
def ensureLocalPool (st : Storage) (vm : VmRow) (pool : StoragePool) : Except ApiError Unit :=
  if pool.poolType = .local && onNode vm.status then
    match vm.hostId with
    | none =>
      .error (.unprocessableEntity "Cannot attach a local disk to a VM with no assigned host")
    | some hostId =>
      if st.hostHasPool hostId pool.id then .ok ()
      else .error (.unprocessableEntity
        s!"VM's host {hostId.text} is not attached to local storage pool {pool.id.text}")
  else .ok ()

/-- The part of `attach_disk` that tells the node; a refusal takes the row back. -/
def applyDisk (vm : VmRow) (disk : VmDisk) (obj : StorageObject) (pool : StoragePool) :
    Handler Unit := do
  let _host ← Proc.lift (hostForVm vm)
  let config ← Proc.lift (diskConfigForHotplug disk obj pool none)
  Proc.onError
    (callNode (fun _ => .internalServerError) (VmManager.addDiskDevice vm.id config))
    (Proc.modify fun s => { s with storage := s.storage.deleteDisk disk.id })

def attachDisk (vmId diskId : Uuid) (req : AttachDiskRequest) : Handler Unit := do
  let s ← Proc.read
  let vm ← Proc.lift (row (s.vm? vmId))
  Proc.lift (disksCanChange
    "Disks can only be attached to VMs in Created, Running, or Shutdown state" vm.status)
  let logicalName := req.logicalName.getD (nextDiskId (s.storage.listByVm vmId))
  let obj ← Proc.lift (row (s.storage.object? req.storageObjectId))
  let pool ← Proc.lift (row (s.storage.pool? obj.storagePoolId))
  Proc.lift (ensureLocalPool s.storage vm pool)
  Proc.lift (ensureStorageObjectCanBeAttachedTx s.storage s.vms obj pool (some vmId))
  let disk : VmDisk :=
    { id := diskId, vmId, storageObjectId := some req.storageObjectId, logicalName }
  insertDisk disk
  if onNode vm.status then applyDisk vm disk obj pool else pure ()

def removeDisk (vmId : Uuid) (deviceId : String) : Handler Unit := do
  let s ← Proc.read
  let vm ← Proc.lift (row (s.vm? vmId))
  Proc.lift (disksCanChange
    "Disks can only be removed from VMs in Created, Running, or Shutdown state" vm.status)
  let disk ← Proc.lift (row ((s.storage.listByVm vmId).find? (·.logicalName = deviceId)))
  if onNode vm.status then
    let _host ← Proc.lift (hostForVm vm)
    callNode (fun _ => .internalServerError) (VmManager.removeDiskDevice vmId deviceId)
  else pure ()
  Proc.modify fun s => { s with storage := s.storage.deleteDisk disk.id }

/-! ## Commit -/

/-- The disks among which `find_oci_disk_for_vm` takes one. -/
def ociDisks (st : Storage) (vmId : Uuid) : List VmDisk :=
  (st.listByVm vmId).filter fun disk =>
    match disk.storageObjectId.bind st.object? with
    | none => false
    | some object => object.objectType = .ociImage &&
        (st.pool? object.storagePoolId).any fun pool => pool.poolType = .overlayBd

/-- `OciImageConfig::from_value` succeeds. -/
def isOciImageConfig (config : Json) : Bool :=
  (config.text "image_ref").isSome && (config.text "registry_url").isSome

/-- The query has no order; `choice` is the row it happens to find. -/
def findOciDisk (st : Storage) (vmId choice : Uuid) : Except ApiError VmDisk :=
  let disks := ociDisks st vmId
  match (disks.find? (·.id = choice)).or disks.head? with
  | none => .error (.unprocessableEntity "VM has no OCI image disk to commit")
  | some disk =>
    if (disk.storageObjectId.bind st.object?).any fun object => isOciImageConfig object.config then
      .ok disk
    else .error (.unprocessableEntity "OCI image storage object has invalid config")

def checkTargetPool (st : Storage) (hostId poolId : Uuid) : Except ApiError StoragePool := do
  let pool ← row (st.pool? poolId)
  if pool.poolType ≠ .local && pool.poolType ≠ .nfs then
    .error (.unprocessableEntity "target storage pool must be Local or NFS")
  else if pool.status ≠ .active then
    .error (.unprocessableEntity "target storage pool is not active")
  else if !st.hostHasPool hostId pool.id then
    .error (.unprocessableEntity
      s!"target storage pool {poolId.text} is not attached to the VM's host")
  else .ok pool

structure CommitVmRequest where
  storagePoolId : Uuid
  /-- The disk that is found, and the id of the object that is made. -/
  choice : Uuid
  objectId : Uuid

/-- `run_vm_commit_inner` with `run_vm_commit_copy_and_swap`.  The node is asked for a copy of the
image and for nothing else. -/
def runVmCommitInner (vmId : Uuid) (ociDisk : VmDisk) (pool : StoragePool) (objectId : Uuid) :
    Proc String Deployment Unit := do
  let s ← Proc.read
  let config := resolveNewObject s.storage objectId pool.id .disk (.obj [])
  Proc.modify (·.insertObject
    { id := objectId, name := s!"committed-{vmId.text}", storagePoolId := pool.id,
      objectType := .disk, config })
  match getPathFromConfig config with
  | none =>
    Proc.modify (·.deleteObject objectId)
    Proc.fail "Target storage object has no path in config"
  | some _ =>
    Proc.modify fun s => { s with storage := { s.storage with
      disks := Rows.update VmDisk.id ociDisk.id (fun disk =>
        { disk with storageObjectId := some objectId, upperStorageObjectId := none })
        s.storage.disks } }
    Proc.each (fun id => Proc.modify (·.deleteObject id)) ociDisk.objects
    Proc.modify (·.updateVm vmId fun vm => { vm with imageRef := none })

/-- The handler of `commit` with the job it starts; the value is the outcome of the job.  What fails
between the write of `Committing` and the start of the job leaves that status. -/
def commit (vmId : Uuid) (req : CommitVmRequest) : Handler (Except String Unit) := do
  let s ← Proc.read
  let vm ← Proc.lift (row (s.vm? vmId))
  if vm.imageRef.isNone then
    Proc.fail (.unprocessableEntity
      "VM has no image_ref — only OCI image-based VMs can be committed")
  else if vm.status ≠ .created && vm.status ≠ .shutdown then
    Proc.fail (.unprocessableEntity "VM must be stopped (Created or Shutdown) to commit")
  else
    updateVmStatus vmId .committing
    let host ← Proc.lift (hostForVm vm)
    let ociDisk ← Proc.lift (findOciDisk s.storage vmId req.choice)
    let pool ← Proc.lift (checkTargetPool s.storage host req.storagePoolId)
    let result ← Proc.outcome (runVmCommitInner vmId ociDisk pool req.objectId)
    updateVmStatus vmId vm.status
    pure result

/-! ## Histories -/

inductive LifecycleAction where
  | create (req : NewVmRequest)
  | createWithImage (req : NewVmRequest) (image : ImageRequest)
  | start (vmId : Uuid)
  | stop (vmId : Uuid)
  | forceStop (vmId : Uuid)
  | attachDisk (vmId diskId : Uuid) (req : AttachDiskRequest)
  | removeDisk (vmId : Uuid) (deviceId : String)
  | commit (vmId : Uuid) (req : CommitVmRequest)

namespace Deployment

/-! Ids are drawn at random, and none that is in use is drawn. -/

def newVmId (s : Deployment) (id : Uuid) : Bool :=
  s.vms.all (·.id ≠ id) && s.storage.disks.all (·.vmId ≠ id) && s.instances.all (·.vmId ≠ id)

def newDiskId (s : Deployment) (id : Uuid) : Bool := s.storage.disks.all (·.id ≠ id)

def newObjectId (s : Deployment) (id : Uuid) : Bool :=
  s.storage.objects.all (·.id ≠ id) && s.storage.disks.all (id ∉ ·.objects)

def step (env : AppEnv) (s : Deployment) : LifecycleAction → Option Deployment
  | .create req =>
    if s.newVmId req.id && s.newDiskId req.diskId then some (createVmInternal req s).2 else none
  | .createWithImage req image =>
    if s.newVmId req.id && s.newDiskId req.diskId && s.newDiskId image.diskId &&
        req.diskId ≠ image.diskId && s.newObjectId image.objectId &&
        s.newObjectId image.upperId && image.objectId ≠ image.upperId then
      some (createVmWithImageInternal req image s).2
    else none
  | .start vmId => some (startVmInternal env vmId s).2
  | .stop vmId => some (Qarax.stop vmId s).2
  | .forceStop vmId => some (Qarax.forceStop vmId s).2
  | .attachDisk vmId diskId req =>
    if s.newDiskId diskId then some (Qarax.attachDisk vmId diskId req s).2 else none
  | .removeDisk vmId deviceId => some (Qarax.removeDisk vmId deviceId s).2
  | .commit vmId req =>
    if s.newObjectId req.objectId then some (Qarax.commit vmId req s).2 else none

/-- No VM has been created yet. -/
def Fresh (s : Deployment) : Prop := s.vms = [] ∧ s.storage.disks = [] ∧ s.instances = []

end Deployment

end Qarax
