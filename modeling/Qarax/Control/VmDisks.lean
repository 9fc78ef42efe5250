import Qarax.Control.Vms
import Qarax.Core.Effect

/-!
# Disks of a VM

The tables `storage_pools`, `storage_objects` and `vm_disks`, and how a row of `vm_disks` becomes
the `DiskConfig` that is sent to a node.  There are two ways there: `build_create_vm_request`
resolves all rows of a VM when it is created on its node, and `attach_disk` resolves one row for a
VM that the node knows already.

The rows of `vm_disks` are listed without their `boot_order`: it decides the order in which a
request lists the disks, and nothing else.
-/

namespace Qarax

/-- Errors of the API. -/
inductive ApiError where
  | notFound
  | unprocessableEntity (message : String)
  | conflict (message : String)
  | internalServerError
  deriving DecidableEq

/-- The answer to a query for one row. -/
def row {α : Type} : Option α → Except ApiError α
  | some row => .ok row
  | none => .error .notFound

@[simp] lemma row_eq_ok {α : Type} {o : Option α} {a : α} : row o = .ok a ↔ o = some a := by
  cases o <;> simp [row]

/-! ## Rows -/

inductive StoragePoolType where
  | local
  | nfs
  | overlayBd
  | block
  deriving DecidableEq

inductive StoragePoolStatus where
  | active
  | inactive
  | error
  deriving DecidableEq

structure StoragePool where
  id : Uuid
  poolType : StoragePoolType
  status : StoragePoolStatus
  config : Json

inductive StorageObjectType where
  | disk
  | kernel
  | initrd
  | iso
  | snapshot
  | databaseBackup
  | ociImage
  | overlaybdUpper
  deriving DecidableEq

structure StorageObject where
  id : Uuid
  name : String
  storagePoolId : Uuid
  objectType : StorageObjectType
  config : Json

structure VmDisk where
  id : Uuid
  vmId : Uuid
  storageObjectId : Option Uuid
  logicalName : String
  readOnly : Bool := false
  direct : Bool := false
  vhostUser : Bool := false
  vhostSocket : Option String := none
  numQueues : Int := 1
  queueSize : Int := 128
  rateLimitGroup : Option String := none
  pciSegment : Int := 0
  serialNumber : Option String := none
  upperStorageObjectId : Option Uuid := none

/-- The storage objects a row refers to. -/
def VmDisk.objects (disk : VmDisk) : List Uuid :=
  disk.storageObjectId.toList ++ disk.upperStorageObjectId.toList

/-- The tables about storage.  `hostPools` are the pairs of a host and a pool attached to it. -/
structure Storage where
  pools : List StoragePool
  objects : List StorageObject
  hostPools : List (Uuid × Uuid)
  disks : List VmDisk

namespace Storage

def pool? (st : Storage) (id : Uuid) : Option StoragePool := st.pools.find? (·.id = id)

def object? (st : Storage) (id : Uuid) : Option StorageObject := st.objects.find? (·.id = id)

def hostHasPool (st : Storage) (hostId poolId : Uuid) : Bool := (hostId, poolId) ∈ st.hostPools

def listByVm (st : Storage) (vmId : Uuid) : List VmDisk := st.disks.filter (·.vmId = vmId)

def listByStorageObject (st : Storage) (objectId : Uuid) : List VmDisk :=
  st.disks.filter (·.storageObjectId = some objectId)

/-- `vm_disks::create_tx`; a VM has no two disks of one name. -/
def createDisk (st : Storage) (disk : VmDisk) : Option Storage :=
  if st.disks.any fun d => d.vmId = disk.vmId && d.logicalName = disk.logicalName then none
  else some { st with disks := disk :: st.disks }

def deleteDisk (st : Storage) (id : Uuid) : Storage :=
  { st with disks := st.disks.filter (·.id ≠ id) }

/-- `storage_objects::delete`: an object that a disk refers to stays. -/
def deleteObject (st : Storage) (id : Uuid) : Storage :=
  if st.disks.any fun d => id ∈ d.objects then st
  else { st with objects := st.objects.filter (·.id ≠ id) }

end Storage

/-! ## Configurations sent to a node -/

/-- What a path on a node leads to: a file named by the control plane, or the block device that an
image is mapped to. -/
inductive NodePath where
  | file (path : String)
  | mapped (imageRef registryUrl : String) (upperData upperIndex : Option String)
  deriving DecidableEq

/-- The message `DiskConfig` of the node's interface. -/
structure DiskConfig where
  id : String
  path : Option NodePath
  readonly : Option Bool
  direct : Option Bool := none
  vhostUser : Option Bool := none
  vhostSocket : Option String := none
  numQueues : Option Int := none
  queueSize : Option Int := none
  rateLimitGroup : Option String := none
  pciSegment : Option Int := none
  serial : Option String := none
  ociImageRef : Option String := none
  registryUrl : Option String := none
  upperDataPath : Option String := none
  upperIndexPath : Option String := none

def diskToDiskConfig (disk : VmDisk) (path ociImageRef registryUrl upperDataPath
    upperIndexPath : Option String) : DiskConfig where
  id := disk.logicalName
  path := path.map .file
  readonly := some disk.readOnly
  direct := if disk.direct then some true else none
  vhostUser := if disk.vhostUser then some true else none
  vhostSocket := disk.vhostSocket
  numQueues := some disk.numQueues
  queueSize := some disk.queueSize
  rateLimitGroup := disk.rateLimitGroup
  pciSegment := if disk.pciSegment ≠ 0 then some disk.pciSegment else none
  serial := disk.serialNumber
  ociImageRef := ociImageRef
  registryUrl := registryUrl
  upperDataPath := upperDataPath
  upperIndexPath := upperIndexPath

def getPathFromConfig (config : Json) : Option String := config.text "path"

def iscsiByPath (config : Json) : Option String := do
  let portal ← config.text "portal"
  let iqn ← config.text "iqn"
  let lun ← (config.get? "lun").bind Json.asInt64
  some s!"/dev/disk/by-path/ip-{portal}-iscsi-{iqn}-lun-{lun}"

def overlaybdUpperPaths (upperObject : Option StorageObject) : Option String × Option String :=
  (upperObject.bind (·.config.text "upper_data"), upperObject.bind (·.config.text "upper_index"))

def diskConfigForHotplug (disk : VmDisk) (obj : StorageObject) (pool : StoragePool)
    (upperObject : Option StorageObject) : Except ApiError DiskConfig :=
  match pool.poolType with
  | .overlayBd =>
    let imageRef := (obj.config.text "image_ref").getD ""
    let registryUrl := (obj.config.text "registry_url").getD ""
    let (upperDataPath, upperIndexPath) := overlaybdUpperPaths upperObject
    .ok (diskToDiskConfig disk none (some imageRef) (some registryUrl) upperDataPath upperIndexPath)
  | .local | .nfs =>
    .ok (diskToDiskConfig disk (getPathFromConfig obj.config) none none none none)
  | .block =>
    match iscsiByPath obj.config with
    | some path => .ok (diskToDiskConfig disk (some path) none none none none)
    | none =>
      .error (.unprocessableEntity s!"Storage object {obj.id.text} has invalid iSCSI config")

lemma id_of_diskConfigForHotplug {disk : VmDisk} {obj : StorageObject} {pool : StoragePool}
    {upper : Option StorageObject} {config : DiskConfig}
    (h : diskConfigForHotplug disk obj pool upper = .ok config) : config.id = disk.logicalName := by
  unfold diskConfigForHotplug at h
  split at h
  · cases h
    rfl
  · cases h
    rfl
  · cases h
    rfl
  · split at h
    · cases h
      rfl
    · cases h

/-! ## Attachments -/

def storageObjectRequiresExclusiveAttachment (object : StorageObject) (pool : StoragePool) : Bool :=
  (pool.poolType = .local || pool.poolType = .nfs || pool.poolType = .block) &&
    (object.objectType = .disk || object.objectType = .snapshot)

/-- The columns of `vms` that have to do with disks. -/
structure VmRow where
  id : Uuid
  name : String
  hostId : Option Uuid
  status : VmStatus
  imageRef : Option String
  cloudInitUserData : Option String

/-- What the search for a conflicting attachment ends with. -/
def conflictError (vms : List VmRow) (object : StorageObject) (conflict : VmDisk) : ApiError :=
  match vms.find? (·.id = conflict.vmId) with
  | none => .notFound
  | some vm => .conflict
      (s!"Storage object '{object.name}' is already attached to VM '{vm.name}'. " ++
        "Clone the disk or create a snapshot before reusing it.")

def ensureStorageObjectCanBeAttached (st : Storage) (vms : List VmRow) (object : StorageObject)
    (pool : StoragePool) (currentVmId : Option Uuid) : Except ApiError Unit :=
  if !storageObjectRequiresExclusiveAttachment object pool then .ok ()
  else
    match (st.listByStorageObject object.id).find? fun disk => some disk.vmId ≠ currentVmId with
    | some conflict => .error (conflictError vms object conflict)
    | none => .ok ()

/-- The variant for transactions, which also refuses a second disk of one VM on one object. -/
def ensureStorageObjectCanBeAttachedTx (st : Storage) (vms : List VmRow) (object : StorageObject)
    (pool : StoragePool) (currentVmId : Option Uuid) : Except ApiError Unit :=
  if currentVmId.isSome &&
      (st.listByStorageObject object.id).any fun disk => some disk.vmId = currentVmId then
    .error (.conflict s!"Storage object {object.id.text} is already attached to this VM")
  else ensureStorageObjectCanBeAttached st vms object pool currentVmId

/-- The loop of `ensure_vm_disk_attachments_can_start`. -/
def ensureDisksCanStart (st : Storage) (vms : List VmRow) (vmId : Uuid) :
    List VmDisk → Except ApiError Unit
  | [] => .ok ()
  | disk :: disks =>
    match disk.storageObjectId with
    | none => ensureDisksCanStart st vms vmId disks
    | some objectId => do
        let object ← row (st.object? objectId)
        let pool ← row (st.pool? object.storagePoolId)
        ensureStorageObjectCanBeAttached st vms object pool (some vmId)
        ensureDisksCanStart st vms vmId disks

def ensureVmDiskAttachmentsCanStart (st : Storage) (vms : List VmRow) (vmId : Uuid) :
    Except ApiError Unit :=
  ensureDisksCanStart st vms vmId (st.listByVm vmId)

/-- The first of `disk0`, `disk1`, … that is free.  There are more of them here than disks. -/
def nextDiskId (existing : List VmDisk) : String :=
  let ids := (List.range (existing.length + 1)).map fun i => s!"disk{i}"
  (ids.find? fun id => existing.all (·.logicalName ≠ id)).getD ""

/-! ## The request that creates a VM on its node -/

structure CreateVmRequest where
  vmId : Uuid
  disks : List DiskConfig
  cloudInitUserData : Option String

/-- The body of the loop over the disks: a disk without a storage object is left out. -/
def resolveDisk (st : Storage) (disk : VmDisk) : Except ApiError (List DiskConfig) :=
  match disk.storageObjectId with
  | none => .ok []
  | some objectId => do
      let obj ← row (st.object? objectId)
      let pool ← row (st.pool? obj.storagePoolId)
      let config ← diskConfigForHotplug disk obj pool (disk.upperStorageObjectId.bind st.object?)
      .ok [config]

def resolveDisks (st : Storage) : List VmDisk → Except ApiError (List DiskConfig)
  | [] => .ok []
  | disk :: disks => do
      let config ← resolveDisk st disk
      let configs ← resolveDisks st disks
      .ok (config ++ configs)

/-- The pools of the objects that the disks refer to. -/
def poolsOf (st : Storage) (disks : List VmDisk) : List StoragePool :=
  (disks.flatMap VmDisk.objects).filterMap fun id =>
    (st.object? id).bind fun object => st.pool? object.storagePoolId

/-- The local pool among them that the host cannot reach, if there is one. -/
def unreachablePool (st : Storage) (hostId : Uuid) (disks : List VmDisk) : Option StoragePool :=
  (poolsOf st disks).find? fun pool => pool.poolType = .local && !st.hostHasPool hostId pool.id

def ensureLocalPools (st : Storage) (hostId : Option Uuid) (disks : List VmDisk) :
    Except ApiError Unit :=
  match hostId with
  | none => .ok ()
  | some hostId =>
    match unreachablePool st hostId disks with
    | some pool => .error (.unprocessableEntity
        s!"Host {hostId.text} is not attached to local storage pool {pool.id.text}")
    | none => .ok ()

/-- `build_create_vm_request`, as far as it is about disks. -/
def buildCreateVmRequest (st : Storage) (vm : VmRow) : Except ApiError CreateVmRequest := do
  let disks := st.listByVm vm.id
  ensureLocalPools st vm.hostId disks
  let configs ← resolveDisks st disks
  .ok ⟨vm.id, configs, vm.cloudInitUserData⟩

end Qarax
