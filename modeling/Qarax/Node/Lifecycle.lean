import Qarax.Control.VmDisks

/-!
# `manager/lifecycle.rs`, `manager/hotplug.rs` and `manager/migration.rs`

The VMs that a node has registered.  A registered VM has a definition in its hypervisor, made by
`create_vm` and changed only by adding and removing devices; `start_vm` boots what is there.  The
hypervisor keeps the definition across a shutdown, and its devices have different ids.
-/

namespace Qarax

structure VmInstance where
  vmId : Uuid
  /-- The disks of the definition. -/
  disks : List DiskConfig
  status : VmStatus

inductive VmManagerError where
  | vmNotFound (id : Uuid)
  | vmAlreadyExists (id : Uuid)
  /-- An answer of the hypervisor. -/
  | api

/-- The message `VmConfig`, as far as it is about disks. -/
structure VmConfig where
  vmId : Uuid
  disks : List DiskConfig
  cloudInit : Option String

/-- A disk on an image is mapped to a block device. -/
def mapDisk (disk : DiskConfig) : DiskConfig :=
  match disk.ociImageRef, disk.registryUrl with
  | some imageRef, some registryUrl =>
    { disk with
      path := some (.mapped imageRef registryUrl disk.upperDataPath disk.upperIndexPath)
      ociImageRef := none
      registryUrl := none }
  | _, _ => disk

/-- The disk that the node adds for cloud-init. -/
def seedDisks (runtimeDir : String) (config : VmConfig) : List DiskConfig :=
  match config.cloudInit with
  | none => []
  | some userData =>
    if userData = "" then []
    else
      let path := s!"{runtimeDir}/{config.vmId.text}-cidata.img"
      [{ id := "cidata", path := some (.file path), readonly := some true }]

/-- The hypervisor is not told about images. -/
def protoDiskToSdk (disk : DiskConfig) : DiskConfig :=
  { disk with
    ociImageRef := none
    registryUrl := none
    upperDataPath := none
    upperIndexPath := none }

/-- The disks of the definition that `create_vm` makes. -/
def definedDisks (runtimeDir : String) (config : VmConfig) : List DiskConfig :=
  (config.disks.map mapDisk ++ seedDisks runtimeDir config).map protoDiskToSdk

def instance? (vmId : Uuid) (vms : List VmInstance) : Option VmInstance :=
  vms.find? (·.vmId = vmId)

def updateInstance (vmId : Uuid) (f : VmInstance → VmInstance) (vms : List VmInstance) :
    List VmInstance :=
  Rows.update VmInstance.vmId vmId f vms

namespace VmManager

def createVm (runtimeDir : String) (config : VmConfig) (vms : List VmInstance) :
    Except VmManagerError (List VmInstance) :=
  if (instance? config.vmId vms).isSome then .error (.vmAlreadyExists config.vmId)
  else
    let disks := definedDisks runtimeDir config
    if (disks.map DiskConfig.id).Nodup then .ok (⟨config.vmId, disks, .created⟩ :: vms)
    else .error .api

/-- An operation on a registered VM. -/
def onInstance (vmId : Uuid) (vms : List VmInstance)
    (f : VmInstance → Except VmManagerError VmInstance) : Except VmManagerError (List VmInstance) :=
  match instance? vmId vms with
  | none => .error (.vmNotFound vmId)
  | some vm => (f vm).map fun vm' => updateInstance vmId (fun _ => vm') vms

def startVm (vmId : Uuid) (vms : List VmInstance) : Except VmManagerError (List VmInstance) :=
  onInstance vmId vms fun vm => .ok { vm with status := .running }

/-- A failed request to the hypervisor is only logged. -/
def stopVm (vmId : Uuid) (vms : List VmInstance) : Except VmManagerError (List VmInstance) :=
  onInstance vmId vms fun vm => .ok { vm with status := .shutdown }

/-- The process is killed; the VM stays registered. -/
def forceStopVm (vmId : Uuid) (vms : List VmInstance) : Except VmManagerError (List VmInstance) :=
  onInstance vmId vms fun vm => .ok { vm with status := .shutdown }

/-- The disk goes to the hypervisor as it is: an image is not mapped. -/
def addDiskDevice (vmId : Uuid) (config : DiskConfig) (vms : List VmInstance) :
    Except VmManagerError (List VmInstance) :=
  onInstance vmId vms fun vm =>
    if vm.disks.any (·.id = config.id) then .error .api
    else .ok { vm with disks := vm.disks ++ [protoDiskToSdk config] }

def removeDiskDevice (vmId : Uuid) (deviceId : String) (vms : List VmInstance) :
    Except VmManagerError (List VmInstance) :=
  onInstance vmId vms fun vm =>
    if vm.disks.any (·.id = deviceId) then
      .ok { vm with disks := vm.disks.filter (·.id ≠ deviceId) }
    else .error .api

/-- The VM is taken from the table, whatever becomes of its process. -/
def deleteVm (vmId : Uuid) (vms : List VmInstance) : Except VmManagerError (List VmInstance) :=
  match instance? vmId vms with
  | none => .error (.vmNotFound vmId)
  | some _ => .ok (vms.filter (·.vmId ≠ vmId))

/-- A hypervisor waits for the VM to arrive, and a placeholder is registered for it. -/
def receiveMigration (config : VmConfig) (vms : List VmInstance) :
    Except VmManagerError (List VmInstance) :=
  if (instance? config.vmId vms).isSome then .error (.vmAlreadyExists config.vmId)
  else .ok (⟨config.vmId, config.disks.map mapDisk, .created⟩ :: vms)

/-- The VM is sent and its instance kept, for `delete_vm` to clean up. -/
def sendMigration (vmId : Uuid) (vms : List VmInstance) : Except VmManagerError (List VmInstance) :=
  onInstance vmId vms fun vm => .ok { vm with status := .shutdown }

end VmManager

/-! ## Looking up -/

section Lookup

variable {vms vms' : List VmInstance} {id id' : Uuid} {vm : VmInstance}

lemma vmId_of_instance? (h : instance? id vms = some vm) : vm.vmId = id := by
  simpa using List.find?_some h

lemma instance?_updateInstance_self {f : VmInstance → VmInstance}
    (hf : ∀ r, r.vmId = id → (f r).vmId = id) :
    instance? id (updateInstance id f vms) = (instance? id vms).map f :=
  Rows.find?_update_self hf

lemma instance?_updateInstance_of_ne {f : VmInstance → VmInstance} (h : id' ≠ id)
    (hf : ∀ r, r.vmId = id → (f r).vmId = id) :
    instance? id' (updateInstance id f vms) = instance? id' vms :=
  Rows.find?_update_of_ne h hf

/-- **An operation on a registered VM** changes that one and no other. -/
lemma VmManager.onInstance_eq_ok {f : VmInstance → Except VmManagerError VmInstance}
    (hf : ∀ r r', f r = .ok r' → r'.vmId = r.vmId)
    (h : VmManager.onInstance id vms f = .ok vms') :
    (∃ r r', instance? id vms = some r ∧ f r = .ok r' ∧ instance? id vms' = some r') ∧
      ∀ other, other ≠ id → instance? other vms' = instance? other vms := by
  unfold onInstance at h
  cases hi : instance? id vms with
  | none =>
    rw [hi] at h
    cases h
  | some r =>
    rw [hi] at h
    simp only at h
    cases hr : f r with
    | error e =>
      rw [hr] at h
      cases h
    | ok r' =>
      rw [hr] at h
      cases h
      have hid : r'.vmId = id := (hf r r' hr).trans (vmId_of_instance? hi)
      refine ⟨⟨r, r', rfl, hr, ?_⟩, fun other ho => ?_⟩
      · rw [instance?_updateInstance_self fun _ _ => hid, hi]
        rfl
      · exact instance?_updateInstance_of_ne ho fun _ _ => hid

end Lookup

end Qarax
