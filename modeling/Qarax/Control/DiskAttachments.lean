import Qarax.Core.Interleave
import Qarax.Control.VmLifecycle

/-!
# Attaching disks side by side

`VmLifecycle` has the handlers one after the other.  Here those that write `vm_disks` run side by
side in their statements: `create_vm_internal` with a root disk, `attach_disk`, `remove_disk`, and
`commit` with its job.

Under `READ COMMITTED` a statement sees what is committed when it starts, and what a transaction
writes is seen when it commits.  `get_for_update` locks the row of a storage object until its
transaction ends, and waits for another transaction that has it locked.  A create or an attach looks
for other attachments under that lock.  A commit makes an object of its own, which everybody can see
at once, locks it in a later transaction, and does not look.

* `DiskTask.next` — one statement of one of them.
* `Effect` — what a statement can do.
* `alone` — what the swap of a commit would have to look at.
-/

namespace Qarax

namespace Attachments

open Interleave Machine

/-! ## Tables and locks -/

structure DiskDb where
  vms : List VmRow
  storage : Storage
  /-- The locked rows of `storage_objects`. -/
  locks : List Uuid

namespace DiskDb

def vm? (db : DiskDb) (id : Uuid) : Option VmRow := db.vms.find? (·.id = id)

def setStatus (db : DiskDb) (id : Uuid) (status : VmStatus) : DiskDb :=
  { db with vms := Rows.update VmRow.id id (fun vm => { vm with status }) db.vms }

def deleteDisk (db : DiskDb) (id : Uuid) : DiskDb :=
  { db with storage := db.storage.deleteDisk id }

/-- A transaction that had the row locked ends. -/
def unlock (db : DiskDb) (id : Uuid) : DiskDb := { db with locks := db.locks.filter (· ≠ id) }

/-- `vm_disks::create_tx`; the primary key is checked as well. -/
def createDisk (db : DiskDb) (disk : VmDisk) : Option DiskDb :=
  if db.storage.disks.any (·.id = disk.id) then none
  else (db.storage.createDisk disk).map fun storage => { db with storage }

/-- The statement of `insert_object`. -/
def insertObject (db : DiskDb) (object : StorageObject) : Option DiskDb :=
  if db.storage.objects.any (·.id = object.id) then none
  else some { db with storage := { db.storage with objects := object :: db.storage.objects } }

/-- `storage_objects::delete`, which waits for a lock. -/
def deleteObject (db : DiskDb) (id : Uuid) : Option DiskDb :=
  if id ∈ db.locks then none else some { db with storage := db.storage.deleteObject id }

/-- The `UPDATE` of a commit. -/
def swapDisk (db : DiskDb) (diskId objectId : Uuid) : DiskDb :=
  { db with storage := { db.storage with
      disks := Rows.update VmDisk.id diskId (fun disk =>
        { disk with storageObjectId := some objectId, upperStorageObjectId := none })
        db.storage.disks } }

end DiskDb

/-- What queries answer, if they do not fail. -/
def answer {α : Type} (ok : Bool) (x : Except ApiError α) : Option α :=
  if ok then x.toOption else none

/-- `get_for_update` at the beginning of a transaction. -/
def getForUpdate {π : Type} (db : DiskDb) (ok : Bool) (objectId : Uuid)
    (found : StorageObject → π) (failed : π) : Option (π × DiskDb) :=
  match answer ok (row (db.storage.object? objectId)) with
  | none => some (failed, db)
  | some object =>
    if object.id ∈ db.locks then none
    else some (found object, { db with locks := object.id :: db.locks })

/-- The checks of a create or an attach on the object it has locked. -/
def ensureAttachable (db : DiskDb) (object : StorageObject) (vm : Option VmRow) :
    Except ApiError Unit := do
  let pool ← row (db.storage.pool? object.storagePoolId)
  vm.elim (.ok ()) fun vm => ensureLocalPool db.storage vm pool
  ensureStorageObjectCanBeAttachedTx db.storage db.vms object pool (vm.map (·.id))

/-! ## The handlers -/

/-- Where `create_vm_internal` is after it has picked a host. -/
inductive CreatePc where
  | validate
  | lock (objectId : Uuid)
  | check (object : StorageObject)
  | insert (object : Option StorageObject)
  | done

def rootDisk (req : NewVmRequest) (object : StorageObject) : VmDisk :=
  { id := req.diskId, vmId := req.id, storageObjectId := some object.id, logicalName := "rootfs" }

def createNext (req : NewVmRequest) (db : DiskDb) (ok : Bool) :
    CreatePc → Option (CreatePc × DiskDb)
  | .validate =>
    match req.rootDiskObjectId with
    | none => some (if ok then .insert none else .done, db)
    | some objectId =>
      match answer ok
          (validateRootDiskForHost db.storage req.hostId objectId req.storagePoolId) with
      | some _ => some (.lock objectId, db)
      | none => some (.done, db)
  | .lock objectId => getForUpdate db ok objectId .check .done
  | .check object =>
    match answer ok (ensureAttachable db object none) with
    | some _ => some (.insert (some object), db)
    | none => some (.done, db.unlock object.id)
  | .insert object =>
    -- the rows of the VM are inserted, and the transaction commits
    let vm : VmRow := ⟨req.id, req.name, some req.hostId, .created, none, req.cloudInitUserData⟩
    match object with
    | none => some (.done, if ok then { db with vms := vm :: db.vms } else db)
    | some object =>
      match if ok then db.createDisk (rootDisk req object) else none with
      | some db => some (.done, DiskDb.unlock { db with vms := vm :: db.vms } object.id)
      | none => some (.done, db.unlock object.id)
  | .done => none

/-- Where `attach_disk` is. -/
inductive AttachPc where
  | get
  | list (vm : VmRow)
  | lock (vm : VmRow) (logicalName : String)
  | check (vm : VmRow) (logicalName : String) (object : StorageObject)
  | insert (vm : VmRow) (logicalName : String) (object : StorageObject)
  /-- The transaction has ended, and the node is told. -/
  | apply
  | takeBack
  | done

def attachedDisk (vmId diskId : Uuid) (logicalName : String) (object : StorageObject) : VmDisk :=
  { id := diskId, vmId, storageObjectId := some object.id, logicalName }

def attachNext (vmId diskId : Uuid) (req : AttachDiskRequest) (db : DiskDb) (ok : Bool) :
    AttachPc → Option (AttachPc × DiskDb)
  | .get =>
    match answer ok (row (db.vm? vmId)) with
    | none => some (.done, db)
    | some vm =>
      match disksCanChange
          "Disks can only be attached to VMs in Created, Running, or Shutdown state" vm.status with
      | .ok _ => some (.list vm, db)
      | .error _ => some (.done, db)
  | .list vm =>
    let logicalName := req.logicalName.getD (nextDiskId (db.storage.listByVm vmId))
    some (if ok then .lock vm logicalName else .done, db)
  | .lock vm logicalName => getForUpdate db ok req.storageObjectId (.check vm logicalName) .done
  | .check vm logicalName object =>
    match answer ok (ensureAttachable db object (some vm)) with
    | some _ => some (.insert vm logicalName object, db)
    | none => some (.done, db.unlock object.id)
  | .insert vm logicalName object =>
    match if ok then db.createDisk (attachedDisk vm.id diskId logicalName object) else none with
    | some db => some (if onNode vm.status then .apply else .done, db.unlock object.id)
    | none => some (.done, db.unlock object.id)
  | .apply => some (if ok then .done else .takeBack, db)
  | .takeBack => some (.done, if ok then db.deleteDisk diskId else db)
  | .done => none

/-- Where `remove_disk` is. -/
inductive RemovePc where
  | get
  | find (vm : VmRow)
  | call (diskId : Uuid)
  | delete (diskId : Uuid)
  | done

def removeNext (vmId : Uuid) (deviceId : String) (db : DiskDb) (ok : Bool) :
    RemovePc → Option (RemovePc × DiskDb)
  | .get =>
    match answer ok (row (db.vm? vmId)) with
    | none => some (.done, db)
    | some vm =>
      match disksCanChange
          "Disks can only be removed from VMs in Created, Running, or Shutdown state" vm.status with
      | .ok _ => some (.find vm, db)
      | .error _ => some (.done, db)
  | .find vm =>
    match answer ok (row ((db.storage.listByVm vmId).find? (·.logicalName = deviceId))) with
    | none => some (.done, db)
    | some disk => some (if onNode vm.status then .call disk.id else .delete disk.id, db)
  | .call diskId => some (if ok then .delete diskId else .done, db)
  | .delete diskId => some (.done, if ok then db.deleteDisk diskId else db)
  | .done => none

/-- Where `commit` is; from `make` on in its job. -/
inductive CommitPc where
  | get
  | setCommitting (vm : VmRow)
  | find (vm : VmRow)
  | make (vm : VmRow) (disk : VmDisk) (pool : StoragePool)
  | lock (vm : VmRow) (disk : VmDisk) (objectId : Uuid)
  | swap (vm : VmRow) (disk : VmDisk) (object : StorageObject)
  /-- The job has failed, and its object is deleted. -/
  | drop (vm : VmRow) (objectId : Uuid)
  /-- The objects of the old disk are deleted. -/
  | clean (vm : VmRow) (objects : List Uuid)
  | restore (vm : VmRow)
  | done

/-- The object of `run_vm_commit_inner`. -/
def committedObject (st : Storage) (vmId objectId : Uuid) (pool : StoragePool) : StorageObject where
  id := objectId
  name := s!"committed-{vmId.text}"
  storagePoolId := pool.id
  objectType := .disk
  config := resolveNewObject st objectId pool.id .disk (.obj [])

/-- What the handler of `commit` reads before it starts the job. -/
def findCommit (db : DiskDb) (vmId : Uuid) (req : CommitVmRequest) :
    Except ApiError (VmDisk × StoragePool) := do
  let vm ← row (db.vm? vmId)
  let host ← hostForVm vm
  let disk ← findOciDisk db.storage vmId req.choice
  let pool ← checkTargetPool db.storage host req.storagePoolId
  .ok (disk, pool)

def commitNext (vmId : Uuid) (req : CommitVmRequest) (db : DiskDb) (ok : Bool) :
    CommitPc → Option (CommitPc × DiskDb)
  | .get =>
    match answer ok (row (db.vm? vmId)) with
    | none => some (.done, db)
    | some vm => some (if vm.imageRef.isNone then .done else .setCommitting vm, db)
  | .setCommitting vm =>
    if ok && (db.vm? vmId).any (fun vm => vm.status = .created || vm.status = .shutdown) then
      some (.find vm, db.setStatus vmId .committing)
    else some (.done, db)
  | .find vm =>
    match answer ok (findCommit db vmId req) with
    | none => some (.done, db)
    | some (disk, pool) => some (.make vm disk pool, db)
  | .make vm disk pool =>
    let object := committedObject db.storage vmId req.objectId pool
    match if ok then db.insertObject object else none with
    | none => some (.restore vm, db)
    | some db =>
      -- without a path there is nothing to copy to
      some (if (getPathFromConfig object.config).isNone then .drop vm object.id
        else .lock vm disk object.id, db)
  | .lock vm disk objectId => getForUpdate db ok objectId (.swap vm disk) (.drop vm objectId)
  | .swap vm disk object =>
    -- the node copies, and the row is swapped
    if ok then some (.clean vm disk.objects, (db.swapDisk disk.id object.id).unlock object.id)
    else some (.drop vm object.id, db.unlock object.id)
  | .drop vm objectId =>
    if ok then (db.deleteObject objectId).map fun db => (.restore vm, db)
    else some (.restore vm, db)
  | .clean vm [] =>
    some (.restore vm, if ok then { db with
      vms := Rows.update VmRow.id vmId (fun vm => { vm with imageRef := none }) db.vms } else db)
  | .clean vm (objectId :: objects) =>
    if ok then (db.deleteObject objectId).map fun db => (.clean vm objects, db)
    else some (.clean vm objects, db)
  | .restore vm => some (.done, if ok then db.setStatus vmId vm.status else db)
  | .done => none

inductive DiskTask where
  | create (req : NewVmRequest) (pc : CreatePc)
  | attach (vmId diskId : Uuid) (req : AttachDiskRequest) (pc : AttachPc)
  | remove (vmId : Uuid) (deviceId : String) (pc : RemovePc)
  | commit (vmId : Uuid) (req : CommitVmRequest) (pc : CommitPc)

namespace DiskTask

def begins : DiskTask → Bool
  | .create _ .validate | .attach _ _ _ .get | .remove _ _ .get | .commit _ _ .get => true
  | _ => false

/-- **One statement**, which succeeds or fails; none if it has to wait. -/
def next (db : DiskDb) (task : DiskTask) (ok : Bool) : Option (DiskTask × DiskDb) :=
  match task with
  | .create req pc => (createNext req db ok pc).map fun (pc, db) => (.create req pc, db)
  | .attach vmId diskId req pc =>
    (attachNext vmId diskId req db ok pc).map fun (pc, db) => (.attach vmId diskId req pc, db)
  | .remove vmId deviceId pc =>
    (removeNext vmId deviceId db ok pc).map fun (pc, db) => (.remove vmId deviceId pc, db)
  | .commit vmId req pc =>
    (commitNext vmId req db ok pc).map fun (pc, db) => (.commit vmId req pc, db)

end DiskTask

abbrev DiskPool := Pool DiskDb DiskTask

abbrev diskStep : DiskPool → Act DiskTask Bool → Option DiskPool :=
  step DiskTask.begins DiskTask.next

/-! ## What a statement can do -/

namespace DiskTask

/-- The object whose row the task has locked. -/
def holds : DiskTask → Option StorageObject
  | .create _ (.check object) | .create _ (.insert (some object))
  | .attach _ _ _ (.check _ _ object) | .attach _ _ _ (.insert _ _ object)
  | .commit _ _ (.swap _ _ object) => some object
  | _ => none

/-- The object for which the task has found no other attachment. -/
def checked : DiskTask → Option StorageObject
  | .create _ (.insert (some object)) | .attach _ _ _ (.insert _ _ object) => some object
  | _ => none

lemma holds_of_checked {t : DiskTask} {object : StorageObject} (h : t.checked = some object) :
    t.holds = some object := by
  unfold checked at h
  split at h <;> first | exact h | cases h

end DiskTask

/-- **What a statement of `t` can do.** -/
inductive Effect (db : DiskDb) (t t' : DiskTask) (ok : Bool) : DiskDb → Prop
  | keep (vms : List VmRow) : t.holds = none → t'.holds = none → Effect db t t' ok { db with vms }
  | lock (object : StorageObject) : object.id ∉ db.locks →
      db.storage.object? object.id = some object → t'.holds = some object → t'.checked = none →
      Effect db t t' ok { db with locks := object.id :: db.locks }
  | check (object : StorageObject) (vm : Option VmRow) : t.holds = some object →
      t'.holds = some object → ensureAttachable db object vm = .ok () → Effect db t t' ok db
  | release (object : StorageObject) : t.holds = some object → t'.holds = none →
      Effect db t t' ok (db.unlock object.id)
  | insert (object : StorageObject) (disk : VmDisk) (vms : List VmRow) (db' : DiskDb) :
      t.checked = some object → t'.holds = none → disk.storageObjectId = some object.id →
      db.createDisk disk = some db' → Effect db t t' ok (DiskDb.unlock { db' with vms } object.id)
  | swap (vmId : Uuid) (req : CommitVmRequest) (vm : VmRow) (disk : VmDisk)
      (object : StorageObject) : t = .commit vmId req (.swap vm disk object) → ok = true →
      t'.holds = none → Effect db t t' ok ((db.swapDisk disk.id object.id).unlock object.id)
  | deleteDisk (id : Uuid) : t.holds = none → t'.holds = none → Effect db t t' ok (db.deleteDisk id)
  | deleteObject (id : Uuid) (db' : DiskDb) : t.holds = none → t'.holds = none →
      db.deleteObject id = some db' → Effect db t t' ok db'
  | make (object : StorageObject) (db' : DiskDb) : t.holds = none → t'.holds = none →
      db.insertObject object = some db' → Effect db t t' ok db'

variable {id vmId diskId : Uuid}

section Effects

variable {db db' : DiskDb} {ok : Bool} {t t' : DiskTask}

lemma answer_eq_some {α : Type} {x : Except ApiError α} {a : α} (h : answer ok x = some a) :
    ok = true ∧ x = .ok a := by
  unfold answer at h
  split_ifs at h with hok
  cases x with
  | error e => cases h
  | ok b =>
    cases h
    exact ⟨hok, rfl⟩

lemma id_of_object? {st : Storage} {object : StorageObject} (h : st.object? id = some object) :
    object.id = id := by
  simpa using List.find?_some h

/-- `get_for_update` locks the object, or the task goes on without it. -/
lemma effect_getForUpdate {π : Type} {objectId : Uuid} {found : StorageObject → π} {failed pc : π}
    {task : π → DiskTask} (ht : t.holds = none)
    (h : getForUpdate db ok objectId found failed = some (pc, db'))
    (hfound : ∀ object, (task (found object)).holds = some object ∧
      (task (found object)).checked = none)
    (hfailed : (task failed).holds = none) : Effect db t (task pc) ok db' := by
  unfold getForUpdate at h
  split at h
  · cases h
    exact .keep db.vms ht hfailed
  · rename_i object hobject
    split_ifs at h with hlocked
    cases h
    have hrow := row_eq_ok.1 (answer_eq_some hobject).2
    have hid := id_of_object? hrow
    exact .lock object hlocked (hid.symm ▸ hrow) (hfound object).1 (hfound object).2

lemma effect_create {req : NewVmRequest} {pc pc' : CreatePc}
    (h : createNext req db ok pc = some (pc', db')) :
    Effect db (.create req pc) (.create req pc') ok db' := by
  cases pc with
  | validate =>
    simp only [createNext] at h
    split at h
    · cases h
      cases ok <;> exact .keep db.vms rfl rfl
    · split at h <;> cases h <;> exact .keep db.vms rfl rfl
  | lock objectId => exact effect_getForUpdate rfl h (fun _ => ⟨rfl, rfl⟩) rfl
  | check object =>
    simp only [createNext] at h
    split at h
    · rename_i hcheck
      cases h
      exact .check object none rfl rfl (answer_eq_some hcheck).2
    · cases h
      exact .release object rfl rfl
  | insert object =>
    cases object with
    | none =>
      cases h
      cases ok
      · exact .keep db.vms rfl rfl
      · exact .keep _ rfl rfl
    | some object =>
      simp only [createNext] at h
      split at h
      · rename_i db₁ hcreate
        cases h
        split_ifs at hcreate
        exact .insert object _ _ db₁ rfl rfl rfl hcreate
      · cases h
        exact .release object rfl rfl
  | done => cases h

lemma effect_attach {req : AttachDiskRequest} {pc pc' : AttachPc}
    (h : attachNext vmId diskId req db ok pc = some (pc', db')) :
    Effect db (.attach vmId diskId req pc) (.attach vmId diskId req pc') ok db' := by
  cases pc with
  | get =>
    simp only [attachNext] at h
    split at h
    · cases h
      exact .keep db.vms rfl rfl
    · split at h <;> cases h <;> exact .keep db.vms rfl rfl
  | list vm | apply =>
    cases h
    cases ok <;> exact .keep db.vms rfl rfl
  | lock vm logicalName => exact effect_getForUpdate rfl h (fun _ => ⟨rfl, rfl⟩) rfl
  | check vm logicalName object =>
    simp only [attachNext] at h
    split at h
    · rename_i hcheck
      cases h
      exact .check object (some vm) rfl rfl (answer_eq_some hcheck).2
    · cases h
      exact .release object rfl rfl
  | insert vm logicalName object =>
    simp only [attachNext] at h
    split at h
    · rename_i db₁ hcreate
      cases h
      split_ifs at hcreate
      refine .insert object _ db₁.vms db₁ rfl ?_ rfl hcreate
      split_ifs <;> rfl
    · cases h
      exact .release object rfl rfl
  | takeBack =>
    cases h
    cases ok
    · exact .keep db.vms rfl rfl
    · exact .deleteDisk diskId rfl rfl
  | done => cases h

lemma effect_remove {deviceId : String} {pc pc' : RemovePc}
    (h : removeNext vmId deviceId db ok pc = some (pc', db')) :
    Effect db (.remove vmId deviceId pc) (.remove vmId deviceId pc') ok db' := by
  cases pc with
  | get =>
    simp only [removeNext] at h
    split at h
    · cases h
      exact .keep db.vms rfl rfl
    · split at h <;> cases h <;> exact .keep db.vms rfl rfl
  | find vm =>
    simp only [removeNext] at h
    split at h <;> cases h <;> exact .keep db.vms rfl rfl
  | call diskId =>
    cases h
    exact .keep db.vms rfl rfl
  | delete diskId =>
    cases h
    cases ok
    · exact .keep db.vms rfl rfl
    · exact .deleteDisk diskId rfl rfl
  | done => cases h

lemma effect_commit {req : CommitVmRequest} {pc pc' : CommitPc}
    (h : commitNext vmId req db ok pc = some (pc', db')) :
    Effect db (.commit vmId req pc) (.commit vmId req pc') ok db' := by
  cases pc with
  | get =>
    simp only [commitNext] at h
    split at h
    · cases h
      exact .keep db.vms rfl rfl
    · cases h
      refine .keep db.vms rfl ?_
      split_ifs <;> rfl
  | setCommitting vm =>
    simp only [commitNext] at h
    split_ifs at h <;> cases h <;> exact .keep _ rfl rfl
  | find vm =>
    simp only [commitNext] at h
    split at h <;> cases h <;> exact .keep db.vms rfl rfl
  | make vm disk pool =>
    simp only [commitNext] at h
    split at h
    · cases h
      exact .keep db.vms rfl rfl
    · rename_i hmake
      cases h
      split_ifs at hmake
      refine .make _ _ rfl ?_ hmake
      split_ifs <;> rfl
  | lock vm disk objectId => exact effect_getForUpdate rfl h (fun _ => ⟨rfl, rfl⟩) rfl
  | swap vm disk object =>
    simp only [commitNext] at h
    split_ifs at h with hok <;> cases h
    · exact .swap vmId req vm disk object rfl hok rfl
    · exact .release object rfl rfl
  | drop vm objectId =>
    simp only [commitNext] at h
    split_ifs at h
    · obtain ⟨db₁, hdelete, h⟩ := Option.map_eq_some_iff.1 h
      cases h
      exact .deleteObject objectId _ rfl rfl hdelete
    · cases h
      exact .keep db.vms rfl rfl
  | clean vm objects =>
    cases objects with
    | nil =>
      cases h
      cases ok <;> exact .keep _ rfl rfl
    | cons objectId objects =>
      simp only [commitNext] at h
      split_ifs at h
      · obtain ⟨db₁, hdelete, h⟩ := Option.map_eq_some_iff.1 h
        cases h
        exact .deleteObject objectId _ rfl rfl hdelete
      · cases h
        exact .keep db.vms rfl rfl
  | restore vm =>
    cases h
    cases ok <;> exact .keep _ rfl rfl
  | done => cases h

/-- **Every statement is one of these.** -/
lemma effect_next (h : DiskTask.next db t ok = some (t', db')) : Effect db t t' ok db' := by
  cases t with
  | create req pc =>
    obtain ⟨⟨pc', db₁⟩, hpc, h⟩ := Option.map_eq_some_iff.1 h
    cases h
    exact effect_create hpc
  | attach vmId diskId req pc =>
    obtain ⟨⟨pc', db₁⟩, hpc, h⟩ := Option.map_eq_some_iff.1 h
    cases h
    exact effect_attach hpc
  | remove vmId deviceId pc =>
    obtain ⟨⟨pc', db₁⟩, hpc, h⟩ := Option.map_eq_some_iff.1 h
    cases h
    exact effect_remove hpc
  | commit vmId req pc =>
    obtain ⟨⟨pc', db₁⟩, hpc, h⟩ := Option.map_eq_some_iff.1 h
    cases h
    exact effect_commit hpc

end Effects

/-- The swap finds no row of another VM on the new object, or its own row is gone. -/
def swapsAlone (db : DiskDb) (diskId objectId : Uuid) : Bool :=
  db.storage.disks.all fun disk => disk.id ≠ diskId ||
    db.storage.disks.all fun disk' =>
      disk'.storageObjectId ≠ some objectId || disk'.vmId = disk.vmId

/-- **The missing check.** -/
def alone (p : DiskPool) : Act DiskTask Bool → Bool
  | .spawn _ => true
  | .run i ok => p.tasks[i]?.all fun t => match t with
      | .commit _ _ (.swap _ disk object) => !ok || swapsAlone p.shared disk.id object.id
      | _ => true

/-! ## Locks keep what was found -/

/-- The object is not to be attached to two VMs. -/
def exclusive (st : Storage) (id : Uuid) : Bool :=
  (st.object? id).any fun object =>
    (st.pool? object.storagePoolId).any (storageObjectRequiresExclusiveAttachment object)

/-- **Exclusive objects are attached to one VM at most**; and what is locked or referred to is
there. -/
structure Sound (db : DiskDb) : Prop where
  present : ∀ id ∈ db.locks, (db.storage.object? id).isSome = true
  ids : (db.storage.disks.map VmDisk.id).Nodup
  refs : ∀ disk ∈ db.storage.disks, ∀ id, disk.storageObjectId = some id →
    (db.storage.object? id).isSome = true
  oneVm : ∀ id, exclusive db.storage id = true → ∀ disk ∈ db.storage.disks,
    ∀ disk' ∈ db.storage.disks, disk.storageObjectId = some id → disk'.storageObjectId = some id →
      disk'.vmId = disk.vmId

/-- What a task relies on: its object is locked and there, and if it has looked, the object is not
attached. -/
structure Relies (db : DiskDb) (t : DiskTask) : Prop where
  locked : ∀ object, t.holds = some object →
    object.id ∈ db.locks ∧ db.storage.object? object.id = some object
  free : ∀ object, t.checked = some object → exclusive db.storage object.id = true →
    ∀ disk ∈ db.storage.disks, disk.storageObjectId ≠ some object.id

/-- No two tasks have the same row locked. -/
def Apart (t u : DiskTask) : Prop :=
  ∀ object object', t.holds = some object → u.holds = some object' → object.id ≠ object'.id

/-- What a statement leaves to the tasks that have other rows locked. -/
structure Spares (own : Option StorageObject) (db db' : DiskDb) : Prop where
  locks : ∀ id ∈ db.locks, (∀ object ∈ own, object.id ≠ id) → id ∈ db'.locks
  pools : db'.storage.pools = db.storage.pools
  object : ∀ id ∈ db.locks, db'.storage.object? id = db.storage.object? id
  rows : ∀ id, (∀ object ∈ own, object.id ≠ id) → ∀ disk' ∈ db'.storage.disks,
    disk'.storageObjectId = some id → ∃ disk ∈ db.storage.disks, disk.storageObjectId = some id

variable {ok : Bool}

section Locks

variable {db db' : DiskDb} {t t' u : DiskTask} {object : StorageObject}

lemma relies_of_not_held (h : t.holds = none) : Relies db t := by
  refine ⟨fun object hobject => ?_, fun object hobject => ?_⟩
  · rw [h] at hobject
    cases hobject
  · rw [DiskTask.holds_of_checked hobject] at h
    cases h

/-- What the checks of a create or an attach find. -/
lemma free_of_ensureAttachable {vm : Option VmRow} (h : ensureAttachable db object vm = .ok ())
    (hobject : db.storage.object? object.id = some object)
    (hexclusive : exclusive db.storage object.id = true) :
    ∀ disk ∈ db.storage.disks, disk.storageObjectId ≠ some object.id := by
  intro disk hdisk hrefers
  obtain ⟨pool, hpool, h⟩ := except_bind_eq_ok.1 h
  obtain ⟨-, -, h⟩ := except_bind_eq_ok.1 h
  have hmem : disk ∈ db.storage.listByStorageObject object.id :=
    List.mem_filter.2 ⟨hdisk, by simpa using hrefers⟩
  simp only [exclusive, hobject, Option.any_some, row_eq_ok.1 hpool] at hexclusive
  simp only [ensureStorageObjectCanBeAttachedTx, ensureStorageObjectCanBeAttached, hexclusive,
    Bool.not_true, Bool.false_eq_true, if_false] at h
  split_ifs at h with hself
  split at h
  · cases h
  · rename_i hnone
    have hsame : some disk.vmId = vm.map (·.id) := by
      simpa using List.find?_eq_none.1 hnone disk hmem
    refine hself (Bool.and_eq_true_iff.2 ⟨by rw [← hsame]; rfl,
      List.any_eq_true.2 ⟨disk, hmem, ?_⟩⟩)
    exact decide_eq_true hsame

/-- A task with another row locked can go on relying on what it has found. -/
lemma Relies.spared (h : Relies db u) (hspares : Spares t.holds db db') (hapart : Apart t u) :
    Relies db' u := by
  have hother : ∀ object, u.holds = some object → ∀ own ∈ t.holds, own.id ≠ object.id :=
    fun object hobject own hown => hapart own object hown hobject
  refine ⟨fun object hobject => ?_, fun object hobject hexclusive disk' hdisk' hrefers => ?_⟩
  · obtain ⟨hlocked, hrow⟩ := h.locked object hobject
    exact ⟨hspares.locks _ hlocked (hother object hobject), (hspares.object _ hlocked).trans hrow⟩
  · have hheld := DiskTask.holds_of_checked hobject
    have hlocked := (h.locked object hheld).1
    obtain ⟨disk, hdisk, hrefers'⟩ :=
      hspares.rows object.id (hother object hheld) disk' hdisk' hrefers
    refine h.free object hobject ?_ disk hdisk hrefers'
    simpa only [exclusive, Storage.pool?, hspares.pools, hspares.object _ hlocked] using hexclusive

lemma insertObject_eq (h : db.insertObject object = some db') :
    db.storage.object? object.id = none ∧
      db' = { db with storage := { db.storage with objects := object :: db.storage.objects } } := by
  unfold DiskDb.insertObject at h
  split_ifs at h with hid
  cases h
  exact ⟨by simpa [Storage.object?] using hid, rfl⟩

lemma object?_insertObject (h : db.insertObject object = some db') (hne : id ≠ object.id) :
    db'.storage.object? id = db.storage.object? id := by
  obtain ⟨-, rfl⟩ := insertObject_eq h
  exact List.find?_cons_of_neg (by simpa using hne.symm)

lemma createDisk_eq {disk : VmDisk} (h : db.createDisk disk = some db') :
    (∀ other ∈ db.storage.disks, other.id ≠ disk.id) ∧
      db' = { db with storage := { db.storage with disks := disk :: db.storage.disks } } := by
  unfold DiskDb.createDisk at h
  split_ifs at h with hid
  obtain ⟨st, hst, rfl⟩ := Option.map_eq_some_iff.1 h
  unfold Storage.createDisk at hst
  split_ifs at hst
  cases hst
  exact ⟨by simpa using hid, rfl⟩

lemma object?_deleteObject {id' : Uuid} (h : db.deleteObject id = some db') (hne : id' ≠ id) :
    db'.storage.object? id' = db.storage.object? id' := by
  unfold DiskDb.deleteObject at h
  split_ifs at h
  cases h
  simp only [Storage.deleteObject]
  split_ifs
  · rfl
  · simp only [Storage.object?, List.find?_filter]
    congr 1
    funext object
    by_cases hid : object.id = id'
    · simp [hid, hne]
    · simp [hid]

lemma disks_deleteObject (h : db.deleteObject id = some db') :
    db'.storage.disks = db.storage.disks ∧ db'.storage.pools = db.storage.pools ∧
      db'.locks = db.locks ∧ id ∉ db.locks := by
  unfold DiskDb.deleteObject at h
  split_ifs at h with hlocked
  cases h
  refine ⟨?_, ?_, rfl, hlocked⟩ <;> unfold Storage.deleteObject <;> split_ifs <;> rfl

lemma mem_unlock {own : Uuid} (h : id ∈ db.locks) (hne : own ≠ id) :
    id ∈ (db.unlock own).locks :=
  List.mem_filter.2 ⟨h, by simpa using hne.symm⟩

/-- Rows and objects stay as they are, and at most the own row is unlocked. -/
lemma Spares.of_storage {own : Option StorageObject} (hstorage : db'.storage = db.storage)
    (hlocks : ∀ id ∈ db.locks, (∀ object ∈ own, object.id ≠ id) → id ∈ db'.locks) :
    Spares own db db' := by
  refine ⟨hlocks, by rw [hstorage], fun _ _ => by rw [hstorage], fun id _ disk hdisk hrefers => ?_⟩
  rw [hstorage] at hdisk
  exact ⟨disk, hdisk, hrefers⟩

/-- **No statement takes from a task what it relies on.** -/
lemma spares_effect (h : Effect db t t' ok db') (hsound : Sound db) : Spares t.holds db db' := by
  cases h with
  | keep vms | check => exact .of_storage rfl fun _ hid _ => hid
  | lock object => exact .of_storage rfl fun _ hid _ => List.mem_cons_of_mem _ hid
  | release object hheld => exact .of_storage rfl fun _ hid hne => mem_unlock hid (hne object hheld)
  | insert object disk vms db₁ hchecked _ hrefers hcreate =>
    have hheld := DiskTask.holds_of_checked hchecked
    obtain ⟨-, rfl⟩ := createDisk_eq hcreate
    refine ⟨fun _ hid hne => mem_unlock hid (hne object hheld), rfl, fun _ _ => rfl, ?_⟩
    intro id hne disk' hdisk' hrefers'
    rcases List.mem_cons.1 hdisk' with rfl | hdisk'
    · exact absurd (Option.some.inj (hrefers.symm.trans hrefers')) (hne object hheld)
    · exact ⟨disk', hdisk', hrefers'⟩
  | swap vmId req vm disk object ht =>
    have hheld : t.holds = some object := by
      rw [ht]
      rfl
    refine ⟨fun _ hid hne => mem_unlock hid (hne object hheld), rfl, fun _ _ => rfl, ?_⟩
    intro id hne disk' hdisk' hrefers'
    rcases Rows.mem_update.1 hdisk' with ⟨disk₀, -, -, rfl⟩ | ⟨hdisk', -⟩
    · exact absurd (Option.some.inj hrefers') (hne object hheld)
    · exact ⟨disk', hdisk', hrefers'⟩
  | deleteDisk id =>
    exact ⟨fun _ hid _ => hid, rfl, fun _ _ => rfl, fun _ _ disk' hdisk' hrefers =>
      ⟨disk', (List.mem_filter.1 hdisk').1, hrefers⟩⟩
  | deleteObject id db₁ _ _ hdelete =>
    obtain ⟨hdisks, hpools, hlocks, hfree⟩ := disks_deleteObject hdelete
    refine ⟨fun _ hid _ => hlocks ▸ hid, hpools, fun id' hid' => ?_, fun _ _ disk' hdisk' hrefers =>
      ⟨disk', hdisks ▸ hdisk', hrefers⟩⟩
    exact object?_deleteObject hdelete fun heq => hfree (heq ▸ hid')
  | make object db₁ _ _ hmake =>
    obtain ⟨hnew, rfl⟩ := insertObject_eq hmake
    refine ⟨fun _ hid _ => hid, rfl, fun id hid => ?_, fun _ _ disk' hdisk' hrefers =>
      ⟨disk', hdisk', hrefers⟩⟩
    refine object?_insertObject hmake fun heq => ?_
    have hpresent := hsound.present id hid
    rw [heq, hnew] at hpresent
    cases hpresent

variable (h : Sound db)

include h

/-- The same rows, or fewer, and objects as before where rows refer to them. -/
lemma Sound.of_rows (hdisks : db'.storage.disks.Sublist db.storage.disks)
    (hpools : db'.storage.pools = db.storage.pools)
    (hobject : ∀ disk ∈ db.storage.disks, ∀ id, disk.storageObjectId = some id →
      db'.storage.object? id = db.storage.object? id)
    (hpresent : ∀ id ∈ db'.locks, (db'.storage.object? id).isSome = true) : Sound db' := by
  refine ⟨hpresent, (hdisks.map _).nodup h.ids, fun disk hdisk id hrefers => ?_, ?_⟩
  · rw [hobject disk (hdisks.subset hdisk) id hrefers]
    exact h.refs disk (hdisks.subset hdisk) id hrefers
  · intro id hexclusive disk hdisk disk' hdisk' hrefers hrefers'
    refine h.oneVm id ?_ disk (hdisks.subset hdisk) disk' (hdisks.subset hdisk') hrefers hrefers'
    simpa only [exclusive, Storage.pool?, hpools, hobject disk (hdisks.subset hdisk) id hrefers]
      using hexclusive

lemma Sound.of_storage (hstorage : db'.storage = db.storage)
    (hpresent : ∀ id ∈ db'.locks, (db'.storage.object? id).isSome = true) : Sound db' :=
  h.of_rows (by rw [hstorage]) (by rw [hstorage]) (fun _ _ _ _ => by rw [hstorage]) hpresent

lemma Sound.unlock (id : Uuid) : Sound (db.unlock id) :=
  h.of_storage rfl fun _ hid => h.present _ (List.mem_filter.1 hid).1

/-- A disk on an object that is not attached. -/
lemma Sound.insert {disk : VmDisk} {vms : List VmRow} (hcreate : db.createDisk disk = some db')
    (hrefers : disk.storageObjectId = some object.id)
    (hobject : db.storage.object? object.id = some object)
    (hfree : exclusive db.storage object.id = true →
      ∀ disk ∈ db.storage.disks, disk.storageObjectId ≠ some object.id) :
    Sound { db' with vms } := by
  obtain ⟨hid, rfl⟩ := createDisk_eq hcreate
  refine ⟨h.present, List.nodup_cons.2 ⟨?_, h.ids⟩,
    List.forall_mem_cons.2 ⟨fun id hrefers' => ?_, h.refs⟩, ?_⟩
  · intro hmem
    obtain ⟨other, hother, heq⟩ := List.mem_map.1 hmem
    exact hid other hother heq
  · cases hrefers.symm.trans hrefers'
    exact Option.isSome_iff_exists.2 ⟨object, hobject⟩
  · intro id hexclusive disk₁ hdisk₁ disk₂ hdisk₂ hrefers₁ hrefers₂
    rcases List.mem_cons.1 hdisk₁ with rfl | hold₁ <;>
      rcases List.mem_cons.1 hdisk₂ with rfl | hold₂
    · rfl
    · cases hrefers.symm.trans hrefers₁
      exact absurd hrefers₂ (hfree hexclusive disk₂ hold₂)
    · cases hrefers.symm.trans hrefers₂
      exact absurd hrefers₁ (hfree hexclusive disk₁ hold₁)
    · exact h.oneVm id hexclusive disk₁ hold₁ disk₂ hold₂ hrefers₁ hrefers₂

/-- An object that nothing refers to. -/
lemma Sound.make (hmake : db.insertObject object = some db') : Sound db' := by
  have hnew := (insertObject_eq hmake).1
  have hold : ∀ id, (db.storage.object? id).isSome = true →
      db'.storage.object? id = db.storage.object? id := by
    refine fun id hid => object?_insertObject hmake fun heq => ?_
    rw [heq, hnew] at hid
    cases hid
  have hpresent : ∀ id ∈ db.locks, (db'.storage.object? id).isSome = true := fun id hid =>
    (hold id (h.present id hid)).symm ▸ h.present id hid
  obtain ⟨-, rfl⟩ := insertObject_eq hmake
  exact h.of_rows (List.Sublist.refl _) rfl
    (fun disk hdisk id hrefers => hold id (h.refs disk hdisk id hrefers)) hpresent

lemma Sound.deleteObject (hdelete : db.deleteObject id = some db') : Sound db' := by
  obtain ⟨hdisks, hpools, hlocks, hfree⟩ := disks_deleteObject hdelete
  refine h.of_rows (by rw [hdisks]) hpools (fun disk hdisk id' hrefers => ?_) fun id' hid' => ?_
  · by_cases heq : id' = id
    · -- an object that a row refers to is not deleted
      have hreferred : (db.storage.disks.any fun d => id ∈ d.objects) = true := by
        refine List.any_eq_true.2 ⟨disk, hdisk, decide_eq_true ?_⟩
        rw [VmDisk.objects, hrefers, heq]
        exact List.mem_cons_self
      unfold DiskDb.deleteObject at hdelete
      rw [if_neg hfree, Storage.deleteObject, if_pos hreferred] at hdelete
      cases hdelete
      rfl
    · exact object?_deleteObject hdelete heq
  · rw [hlocks] at hid'
    rw [object?_deleteObject hdelete fun heq => hfree (heq ▸ hid')]
    exact h.present id' hid'

omit h in
lemma swapsAlone_iff {objectId : Uuid} : swapsAlone db diskId objectId = true ↔
    ∀ disk ∈ db.storage.disks, disk.id = diskId → ∀ disk' ∈ db.storage.disks,
      disk'.storageObjectId = some objectId → disk'.vmId = disk.vmId := by
  simp only [swapsAlone, List.all_eq_true, Bool.or_eq_true, decide_eq_true_eq, ne_eq,
    ← imp_iff_not_or]

lemma Sound.swap (hobject : (db.storage.object? object.id).isSome = true)
    (halone : swapsAlone db diskId object.id = true) : Sound (db.swapDisk diskId object.id) := by
  have hids : (db.swapDisk diskId object.id).storage.disks.map VmDisk.id
      = db.storage.disks.map VmDisk.id := Rows.map_update fun _ => rfl
  -- the swapped row is one row, and its VM is the only one on the new object
  have hsame : ∀ disk ∈ db.storage.disks, disk.id = diskId → ∀ disk' ∈ db.storage.disks,
      disk'.storageObjectId = some object.id ∨ disk'.id = diskId → disk'.vmId = disk.vmId := by
    rintro disk hdisk hid disk' hdisk' (hrefers | hid')
    · exact swapsAlone_iff.1 halone disk hdisk hid disk' hdisk' hrefers
    · rw [List.inj_on_of_nodup_map h.ids hdisk' hdisk (hid'.trans hid.symm)]
  refine ⟨h.present, hids ▸ h.ids, fun disk hdisk id hrefers => ?_, ?_⟩
  · rcases Rows.mem_update.1 hdisk with ⟨disk₀, -, -, rfl⟩ | ⟨hdisk, -⟩
    · cases hrefers
      exact hobject
    · exact h.refs disk hdisk id hrefers
  · intro id hexclusive disk₁ hdisk₁ disk₂ hdisk₂ hrefers₁ hrefers₂
    rcases Rows.mem_update.1 hdisk₁ with ⟨disk₁, hold₁, hid₁, rfl⟩ | ⟨hold₁, -⟩ <;>
      rcases Rows.mem_update.1 hdisk₂ with ⟨disk₂, hold₂, hid₂, rfl⟩ | ⟨hold₂, -⟩
    · exact hsame disk₁ hold₁ hid₁ disk₂ hold₂ (.inr hid₂)
    · cases hrefers₁
      exact hsame disk₁ hold₁ hid₁ disk₂ hold₂ (.inl hrefers₂)
    · cases hrefers₂
      exact (hsame disk₂ hold₂ hid₂ disk₁ hold₁ (.inl hrefers₁)).symm
    · exact h.oneVm id hexclusive disk₁ hold₁ disk₂ hold₂ hrefers₁ hrefers₂

omit h

/-- **Every statement keeps exclusive objects exclusive**, if a swap finds the new object to
itself. -/
lemma sound_effect (h : Effect db t t' ok db') (hsound : Sound db) (hrelies : Relies db t)
    (halone : ∀ vmId req vm disk object, t = .commit vmId req (.swap vm disk object) → ok = true →
      swapsAlone db disk.id object.id = true) : Sound db' := by
  cases h with
  | keep vms => exact hsound.of_storage rfl hsound.present
  | lock object _ hobject =>
    refine hsound.of_storage rfl (List.forall_mem_cons.2 ⟨?_, hsound.present⟩)
    exact Option.isSome_iff_exists.2 ⟨object, hobject⟩
  | check => exact hsound
  | release object => exact hsound.unlock object.id
  | insert object disk vms db₁ hchecked _ hrefers hcreate =>
    have hobject := (hrelies.locked object (DiskTask.holds_of_checked hchecked)).2
    exact (hsound.insert hcreate hrefers hobject (hrelies.free object hchecked)).unlock object.id
  | swap vmId req vm disk object ht hok =>
    subst ht
    have hobject := (hrelies.locked object rfl).2
    exact (hsound.swap (Option.isSome_iff_exists.2 ⟨object, hobject⟩)
      (halone _ _ _ _ _ rfl hok)).unlock object.id
  | deleteDisk id =>
    exact hsound.of_rows List.filter_sublist rfl (fun _ _ _ _ => rfl) hsound.present
  | deleteObject id _ _ _ hdelete => exact hsound.deleteObject hdelete
  | make object _ _ _ hmake => exact hsound.make hmake

/-- What the task itself relies on afterwards. -/
lemma relies_effect (h : Effect db t t' ok db') (hrelies : Relies db t) : Relies db' t' := by
  cases h with
  | lock object _ hobject hheld hchecked =>
    refine ⟨fun object' hobject' => ?_, fun object' hobject' => ?_⟩
    · cases hheld.symm.trans hobject'
      exact ⟨List.mem_cons_self, hobject⟩
    · cases hchecked.symm.trans hobject'
  | check object vm hheld hheld' hcheck =>
    have hlocked := hrelies.locked object hheld
    refine ⟨fun object' hobject' => ?_, fun object' hobject' => ?_⟩
    · cases hheld'.symm.trans hobject'
      exact hlocked
    · cases hheld'.symm.trans (DiskTask.holds_of_checked hobject')
      exact free_of_ensureAttachable hcheck hlocked.2
  | keep _ _ h => exact relies_of_not_held h
  | release _ _ h => exact relies_of_not_held h
  | insert _ _ _ _ _ h => exact relies_of_not_held h
  | swap _ _ _ _ _ _ _ h => exact relies_of_not_held h
  | deleteDisk _ _ h => exact relies_of_not_held h
  | deleteObject _ _ _ h => exact relies_of_not_held h
  | make _ _ _ h => exact relies_of_not_held h

/-- A row that is locked now was not locked by another task. -/
lemma apart_effect (h : Effect db t t' ok db') (hapart : Apart t u) (hu : Relies db u) :
    Apart t' u := by
  have hnone : t'.holds = none → Apart t' u := fun hnone object _ hobject => by
    rw [hnone] at hobject
    cases hobject
  cases h with
  | lock object hfree _ hheld =>
    intro object₁ object₂ hobject₁ hobject₂ heq
    cases hheld.symm.trans hobject₁
    exact hfree (heq ▸ (hu.locked object₂ hobject₂).1)
  | check object _ hheld hheld' =>
    intro object₁ object₂ hobject₁
    cases hheld'.symm.trans hobject₁
    exact hapart object object₂ hheld
  | keep _ _ h => exact hnone h
  | release _ _ h => exact hnone h
  | insert _ _ _ _ _ h => exact hnone h
  | swap _ _ _ _ _ _ _ h => exact hnone h
  | deleteDisk _ _ h => exact hnone h
  | deleteObject _ _ _ h => exact hnone h
  | make _ _ _ h => exact hnone h

end Locks

/-- Nothing is under way, and exclusive objects are attached to one VM at most. -/
def Quiet (p : DiskPool) : Prop := p.tasks = [] ∧ p.shared.locks = [] ∧ Sound p.shared

lemma inv_of_reach {p : DiskPool} (h : Reach diskStep (fun p a => alone p a = true) Quiet p) :
    Inv Sound Relies Apart p := by
  refine reach_inv (fun t u hapart object object' hobject hobject' heq => ?_) ?_ ?_ ?_ h
  · exact hapart object' object hobject' hobject heq.symm
  · rintro p ⟨htasks, -, hsound⟩
    exact inv_nil htasks hsound
  · intro p t _ hbegins _
    have hnone : t.holds = none := by
      unfold DiskTask.begins at hbegins
      split at hbegins <;> first | rfl | cases hbegins
    refine ⟨relies_of_not_held hnone, fun u _ object object' hobject => ?_⟩
    rw [hnone] at hobject
    cases hobject
  · intro p i ok t t' db' hinv hok ht hnext
    have heffect := effect_next hnext
    have hrelies := hinv.each i t ht
    refine ⟨sound_effect heffect hinv.shared hrelies fun vmId req vm disk object heq htrue => ?_,
      relies_effect heffect hrelies, fun u _ hother hapart => ?_⟩
    · simpa [alone, ht, heq, htrue] using hok
    · exact ⟨hother.spared (spares_effect heffect hinv.shared) hapart,
        apart_effect heffect hapart hother⟩

/-- **Exclusive disks stay exclusive**, whatever creates, attaches, removals and commits run side by
side, if every swap finds the new object to itself. -/
theorem exclusive_disks_stay_exclusive {p : DiskPool}
    (h : Reach diskStep (fun p a => alone p a = true) Quiet p) :
    ∀ id object pool, p.shared.storage.object? id = some object →
      p.shared.storage.pool? object.storagePoolId = some pool →
      pool.poolType = .local ∨ pool.poolType = .nfs ∨ pool.poolType = .block →
      object.objectType = .disk ∨ object.objectType = .snapshot →
      ∀ disk ∈ p.shared.storage.disks, ∀ disk' ∈ p.shared.storage.disks,
        disk.storageObjectId = some id → disk'.storageObjectId = some id →
          disk'.vmId = disk.vmId := by
  intro id object pool hobject hpool hpoolType htype
  have hrequires : storageObjectRequiresExclusiveAttachment object pool = true := by
    simpa [storageObjectRequiresExclusiveAttachment, or_assoc] using ⟨hpoolType, htype⟩
  refine (inv_of_reach h).shared.oneVm id ?_
  rw [exclusive, hobject, Option.any_some, hpool, Option.any_some]
  exact hrequires

section Runs

def localPool : StoragePool := ⟨⟨"local"⟩, .local, .active, .obj [("path", .str "/srv")]⟩

def imagePool : StoragePool := ⟨⟨"overlaybd"⟩, .overlayBd, .active, .obj []⟩

def image : StorageObject where
  id := ⟨"image"⟩
  name := "app"
  storagePoolId := ⟨"overlaybd"⟩
  objectType := .ociImage
  config := .obj [("image_ref", .str "app:1"), ("registry_url", .str "registry:5000")]

def dataDisk (id : Uuid) : StorageObject := ⟨id, id.text, ⟨"local"⟩, .disk, .obj []⟩

/-- A VM that boots an image, one with a data disk, and a data disk that is not attached. -/
def twoVms : DiskPool where
  shared :=
    { vms := [⟨⟨"v1"⟩, "v1", some ⟨"host"⟩, .created, some "app:1", none⟩,
        ⟨⟨"v2"⟩, "v2", some ⟨"host"⟩, .created, none, none⟩]
      storage :=
        { pools := [localPool, imagePool]
          objects := [image, dataDisk ⟨"o1"⟩, dataDisk ⟨"o2"⟩]
          hostPools := [(⟨"host"⟩, ⟨"local"⟩), (⟨"host"⟩, ⟨"overlaybd"⟩)]
          disks :=
            [{ id := ⟨"d1"⟩, vmId := ⟨"v1"⟩, storageObjectId := some ⟨"image"⟩,
               logicalName := "rootfs" },
              { id := ⟨"d2"⟩, vmId := ⟨"v2"⟩, storageObjectId := some ⟨"o1"⟩,
                logicalName := "data" }] }
      locks := [] }
  tasks := []

lemma quiet_twoVms : Quiet twoVms := by
  refine ⟨rfl, rfl, (fun id hid => nomatch hid), by decide, fun disk hdisk id hrefers => ?_,
    fun id _ disk hdisk disk' hdisk' hrefers hrefers' => ?_⟩
  · fin_cases hdisk <;> cases hrefers <;> rfl
  · fin_cases hdisk <;> fin_cases hdisk' <;> cases hrefers <;>
      first | rfl | exact absurd hrefers' (by decide)

/-- `v1` is committed to the object that is going to be `new`. -/
def commitV1 : DiskTask := .commit ⟨"v1"⟩ ⟨⟨"local"⟩, ⟨"d1"⟩, ⟨"new"⟩⟩ .get

/-- While `v1` is committed, `v2` gets a second disk and loses the first, and a new VM is refused
the second. -/
def inTurn : List (Act DiskTask Bool) :=
  [.spawn commitV1, .spawn (.attach ⟨"v2"⟩ ⟨"d3"⟩ ⟨⟨"o2"⟩, some "more"⟩ .get),
    .spawn (.create ⟨⟨"v3"⟩, ⟨"d4"⟩, "v3", ⟨"host"⟩, some ⟨"o2"⟩, none, none⟩ .validate),
    .spawn (.remove ⟨"v2"⟩ "data" .get)] ++
  [0, 0, 0, 0, 1, 1, 1, 2, 3, 1, 0, 1, 2, 3, 2, 0, 3, 0, 0, 0].map fun i => .run i true

/-- The VMs and the objects of their disks. -/
def attached (p : DiskPool) : List (Uuid × Option Uuid) :=
  p.shared.storage.disks.map fun disk => (disk.vmId, disk.storageObjectId)

theorem inTurn_exclusive :
    ∃ p, run diskStep twoVms inTurn = some p ∧
      attached p = [(⟨"v2"⟩, some ⟨"o2"⟩), (⟨"v1"⟩, some ⟨"new"⟩)] ∧
      ∀ id object pool, p.shared.storage.object? id = some object →
        p.shared.storage.pool? object.storagePoolId = some pool →
        pool.poolType = .local ∨ pool.poolType = .nfs ∨ pool.poolType = .block →
        object.objectType = .disk ∨ object.objectType = .snapshot →
        ∀ disk ∈ p.shared.storage.disks, ∀ disk' ∈ p.shared.storage.disks,
          disk.storageObjectId = some id → disk'.storageObjectId = some id →
            disk'.vmId = disk.vmId := by
  refine (exists_reach quiet_twoVms ?_).imp fun p h =>
    ⟨h.1, h.2.1, exclusive_disks_stay_exclusive h.2.2⟩
  decide +kernel

/-- `v2` attaches the object of the commit before the commit has locked it. -/
def newAttached : List (Act DiskTask Bool) :=
  [.spawn commitV1, .spawn (.attach ⟨"v2"⟩ ⟨"d3"⟩ ⟨⟨"new"⟩, some "more"⟩ .get)] ++
  [0, 0, 0, 0, 1, 1, 1, 1, 1, 0, 0].map fun i => .run i true

/-- **A disk on a local pool is attached to two VMs.** -/
theorem committed_disk_shared :
    Quiet twoVms ∧ ∃ p, run diskStep twoVms newAttached = some p ∧
      attached p = [(⟨"v2"⟩, some ⟨"new"⟩), (⟨"v1"⟩, some ⟨"new"⟩), (⟨"v2"⟩, some ⟨"o1"⟩)] ∧
      (p.shared.storage.object? ⟨"new"⟩).map
        (fun object => (object.objectType, object.storagePoolId))
        = some (.disk, ⟨"local"⟩) ∧
      (p.shared.storage.pool? ⟨"local"⟩).map (·.poolType) = some .local := by
  have hrun : (run diskStep twoVms newAttached).map (fun p => (attached p,
      (p.shared.storage.object? ⟨"new"⟩).map fun object =>
        (object.objectType, object.storagePoolId),
      (p.shared.storage.pool? ⟨"local"⟩).map (·.poolType)))
      = some ([(⟨"v2"⟩, some ⟨"new"⟩), (⟨"v1"⟩, some ⟨"new"⟩), (⟨"v2"⟩, some ⟨"o1"⟩)],
        some (.disk, ⟨"local"⟩), some .local) := by
    decide +kernel
  obtain ⟨p, hp, heq⟩ := Option.map_eq_some_iff.1 hrun
  simp only [Prod.mk.injEq] at heq
  exact ⟨quiet_twoVms, p, hp, heq⟩

end Runs

end Attachments

end Qarax
