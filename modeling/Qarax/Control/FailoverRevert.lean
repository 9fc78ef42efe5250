import Qarax.Core.Effect
import Qarax.Core.Sorted
import Qarax.Control.Admission
import Qarax.Control.GpuLedger
import Qarax.Control.VmDisks

/-!
# Failovers that fail

`execute_failover` of `ha_monitor.rs` writes the row of the VM in three statements, moves its GPUs
in a transaction, and asks for a start.  The last two put the row back if they fail; the first three
return their error as it is.  When the start is refused, the GPUs are allocated again on the old
host by a request that sums up those the VM had.

* `executeFailover` — the function, with an outcome for each of its calls.
* `Restored` — row and GPUs of the VM are what they were.
* `failurePoint`, `restorable` — the statement that failed, and what is asked of it.
* `failover_restored_iff` — a failed attempt restores everything exactly if this holds.
* `movedGpus` — the ledger that this and two coarser models of a failover leave.
-/

namespace Qarax

namespace FailoverRevert

structure FailoverDb where
  vms : List Vm
  gpus : List HostGpu

def FailoverDb.vm? (db : FailoverDb) (id : Uuid) : Option Vm := db.vms.find? (·.id = id)

abbrev Failover := Proc ApiError FailoverDb

/-- What comes of the calls of an attempt. -/
structure Calls where
  /-- `shared_disk_pool_ids` -/
  pools : Except ApiError Unit
  gpusListed : Bool
  /-- `pick_failover_host` -/
  target : Except ApiError Uuid
  configWritten : Bool
  hostWritten : Bool
  statusWritten : Bool
  /-- The statements of the transaction of `reallocate_vm_gpus`. -/
  gpusMoved : Bool
  /-- `start_vm_internal`, and the status it leaves. -/
  started : Except ApiError Uuid
  startLeaves : VmStatus
  hostReverted : Bool
  statusReverted : Bool
  configReverted : Bool
  gpusReturned : Bool

/-- The statements that put things back succeed. -/
def Calls.reverts (calls : Calls) : Bool :=
  calls.hostReverted && calls.statusReverted && calls.configReverted && calls.gpusReturned

/-- A statement that is done, or fails with an error of the database. -/
def statement (ok : Bool) (f : FailoverDb → FailoverDb) : Failover Unit := fun db =>
  if ok then (.ok (), f db) else (.error .internalServerError, db)

def writeConfig (ok : Bool) (vmId : Uuid) (config : Json) : Failover Unit :=
  statement ok fun db => { db with vms := updateConfig vmId config db.vms }

def writeHostId (ok : Bool) (vmId hostId : Uuid) : Failover Unit :=
  statement ok fun db => { db with vms := updateHostId vmId hostId db.vms }

def writeStatus (ok : Bool) (vmId : Uuid) (status : VmStatus) : Failover Unit :=
  statement ok fun db => { db with vms := updateStatus vmId status db.vms }

/-- `gpu_request_for_vm` -/
def readGpuRequest (ok : Bool) (vmId : Uuid) : Failover (Option GpuRequest) := fun db =>
  (if ok then .ok (gpuRequestForVm db.gpus vmId) else .error .internalServerError, db)

/-- `reallocate_vm_gpus`; a transaction that is not committed has changed nothing. -/
def moveGpus (ok : Bool) (vmId targetHostId : Uuid) (request : GpuRequest) : Failover Unit :=
  fun db =>
    if !ok then (.error .internalServerError, db)
    else
      match reallocateVmGpus db.gpus vmId targetHostId request with
      | some gpus => (.ok (), { db with gpus })
      | none =>
        let found := (gpusToAllocate (deallocateByVm db.gpus vmId) targetHostId request).length
        let count := request.count
        (.error (.unprocessableEntity
          s!"requested {count} GPUs for failover but only {found} available on target host"), db)

def startVmInternal (vmId : Uuid) (calls : Calls) : Failover Uuid := do
  writeStatus true vmId calls.startLeaves
  Proc.lift calls.started

def revertFailoverState (vm : Vm) (deadHostId : Uuid) (calls : Calls) : Failover Unit := do
  let _ ← (writeHostId calls.hostReverted vm.id deadHostId).attempt
  let _ ← (writeStatus calls.statusReverted vm.id vm.status).attempt
  let _ ← (writeConfig calls.configReverted vm.id vm.config).attempt

/-- The GPUs are allocated on the old host again, if that can be done. -/
def returnGpus (vm : Vm) (deadHostId : Uuid) (request : Option GpuRequest) (calls : Calls) :
    Failover Unit :=
  match request with
  | some request => do
      let _ ← (moveGpus calls.gpusReturned vm.id deadHostId request).attempt
  | none => pure ()

def startOrRevert (vm : Vm) (deadHostId : Uuid) (request : Option GpuRequest) (calls : Calls) :
    Failover Uuid :=
  Proc.onError (startVmInternal vm.id calls) do
    revertFailoverState vm deadHostId calls
    returnGpus vm deadHostId request calls

def moveGpusOrRevert (vm : Vm) (deadHostId targetHostId : Uuid) (request : Option GpuRequest)
    (calls : Calls) : Failover Unit :=
  Proc.onError
    (match request with
      | some request => moveGpus calls.gpusMoved vm.id targetHostId request
      | none => pure ())
    (revertFailoverState vm deadHostId calls)

/-- What an attempt reads before it writes anything. -/
def planFailover (vm : Vm) (calls : Calls) : Failover (Option GpuRequest × Uuid) := do
  Proc.lift calls.pools
  let request ← readGpuRequest calls.gpusListed vm.id
  let target ← Proc.lift calls.target
  pure (request, target)

/-- The row is tagged and put on the target. -/
def claimTarget (vm : Vm) (deadHostId target : Uuid) (calls : Calls) : Failover Unit := do
  writeConfig calls.configWritten vm.id (setFailedOverFrom vm.config (some deadHostId))
  writeHostId calls.hostWritten vm.id target
  writeStatus calls.statusWritten vm.id .created

def carryOut (vm : Vm) (deadHostId target : Uuid) (request : Option GpuRequest) (calls : Calls) :
    Failover Uuid := do
  claimTarget vm deadHostId target calls
  moveGpusOrRevert vm deadHostId target request calls
  startOrRevert vm deadHostId request calls

def executeFailover (vm : Vm) (deadHostId : Uuid) (calls : Calls) : Failover Uuid := do
  let plan ← planFailover vm calls
  carryOut vm deadHostId plan.2 plan.1 calls

/-- **The row of the VM and the GPUs it holds are what they were.** -/
structure Restored (vmId : Uuid) (db db' : FailoverDb) : Prop where
  row : db'.vm? vmId = db.vm? vmId
  gpus : ∀ gpu, gpu ∈ listGpusByVm db'.gpus vmId ↔ gpu ∈ listGpusByVm db.gpus vmId

/-- The statement that an attempt fails with. -/
inductive FailurePoint where
  /-- Before anything is written. -/
  | planning
  | config
  | hostId
  | status
  | gpus
  | start
  deriving DecidableEq

/-- The GPUs cannot be moved to the target. -/
def gpusStay (db : FailoverDb) (vm : Vm) (target : Uuid) (calls : Calls) : Bool :=
  (gpuRequestForVm db.gpus vm.id).any fun request =>
    !calls.gpusMoved || (reallocateVmGpus db.gpus vm.id target request).isNone

/-- The target, if all that is read before the first write is read. -/
def Calls.planned (calls : Calls) : Option Uuid :=
  match calls.pools, calls.target with
  | .ok (), .ok target => if calls.gpusListed then some target else none
  | _, _ => none

def failurePoint (db : FailoverDb) (vm : Vm) (calls : Calls) : FailurePoint :=
  match calls.planned with
  | none => .planning
  | some target =>
    if !calls.configWritten then .config
    else if !calls.hostWritten then .hostId
    else if !calls.statusWritten then .status
    else if gpusStay db vm target calls then .gpus
    else .start

/-- **The GPUs of the VM are what the request finds on its host**: each of them meets the request
that sums them up, and the free GPUs that meet it have higher addresses. -/
def Regained (gpus : List HostGpu) (vmId deadHostId : Uuid) : Prop :=
  ∀ request ∈ gpuRequestForVm gpus vmId,
    (∀ held ∈ listGpusByVm gpus vmId, request.free deadHostId { held with vmId := none } = true) ∧
    ∀ gpu ∈ gpus, request.free deadHostId gpu = true →
      ∀ held ∈ listGpusByVm gpus vmId, held.pciAddress < gpu.pciAddress

/-- What is asked of an attempt that fails there. -/
def restorable (db : FailoverDb) (vm : Vm) (deadHostId : Uuid) : FailurePoint → Prop
  | .planning | .config | .gpus => True
  | .hostId => setFailedOverFrom vm.config (some deadHostId) = vm.config
  | .status => False
  | .start => Regained db.gpus vm.id deadHostId

/-! ## GPUs that come back -/

variable {gpu : HostGpu}

section Gpus

variable {gpus gpus' : List HostGpu} {vmId hostId target : Uuid} {request : GpuRequest}

/-- The GPUs of the VM, released. -/
def released (gpus : List HostGpu) (vmId : Uuid) : List HostGpu :=
  (listGpusByVm gpus vmId).map fun gpu => { gpu with vmId := none }

lemma mem_deallocateByVm : gpu ∈ deallocateByVm gpus vmId ↔
    gpu ∈ released gpus vmId ∨ gpu ∈ gpus ∧ gpu.vmId ≠ some vmId := by
  simp only [deallocateByVm, released, List.mem_map, mem_listGpusByVm]
  constructor
  · rintro ⟨g, hg, rfl⟩
    split_ifs with hvm
    · exact .inl ⟨g, ⟨hg, hvm⟩, rfl⟩
    · exact .inr ⟨hg, hvm⟩
  · rintro (⟨g, ⟨hg, hvm⟩, rfl⟩ | ⟨hg, hvm⟩)
    · exact ⟨g, hg, if_pos hvm⟩
    · exact ⟨gpu, hg, if_neg hvm⟩

lemma vmId_of_mem_released (h : gpu ∈ released gpus vmId) : gpu.vmId = none := by
  obtain ⟨held, -, rfl⟩ := List.mem_map.1 h
  rfl

lemma nodup_released (hkeys : (gpus.map HostGpu.key).Nodup) : (released gpus vmId).Nodup := by
  refine List.Nodup.of_map HostGpu.key ?_
  rw [released, List.map_map]
  refine ((List.perm_insertionSort _ _).map _).nodup_iff.2 ?_
  exact (List.filter_sublist.map _).nodup hkeys

lemma mem_listGpusByVm_iff : gpu ∈ listGpusByVm gpus vmId ↔
    ∃ free ∈ released gpus vmId, gpu = { free with vmId := some vmId } := by
  constructor
  · intro h
    refine ⟨_, List.mem_map_of_mem h, ?_⟩
    rw [← (mem_listGpusByVm.1 h).2]
  · rintro ⟨free, hfree, rfl⟩
    obtain ⟨held, hheld, rfl⟩ := List.mem_map.1 hfree
    rw [← (mem_listGpusByVm.1 hheld).2]
    exact hheld

/-- Who holds what after the GPUs were allocated anew. -/
lemma mem_listGpusByVm_reallocate (hkeys : (gpus.map HostGpu.key).Nodup)
    (h : reallocateVmGpus gpus vmId hostId request = some gpus') :
    gpu ∈ listGpusByVm gpus' vmId ↔
      ∃ taken ∈ gpusToAllocate (deallocateByVm gpus vmId) hostId request,
        gpu = { taken with vmId := some vmId } := by
  have hkeys' : ((deallocateByVm gpus vmId).map HostGpu.key).Nodup := by
    rwa [keys_deallocateByVm]
  rw [mem_listGpusByVm, allocateAllGpus_eq h]
  constructor
  · rintro ⟨hmem, hvm⟩
    obtain ⟨free, hfree, rfl⟩ := List.mem_map.1 hmem
    split_ifs at hvm ⊢ with htaken
    · obtain ⟨taken, hin, hkey⟩ := List.mem_map.1 htaken
      obtain rfl := HostGpu.eq_of_key hkeys' (mem_gpusToAllocate hin).1 hfree hkey
      exact ⟨taken, hin, rfl⟩
    · exact absurd rfl (owner_of_deallocateByVm hfree hvm).2
  · rintro ⟨taken, htaken, rfl⟩
    refine ⟨List.mem_map.2 ⟨taken, (mem_gpusToAllocate htaken).1, ?_⟩, rfl⟩
    exact if_pos (List.mem_map_of_mem htaken)

lemma count_eq_length (h : gpuRequestForVm gpus vmId = some request) :
    request.count = (released gpus vmId).length ∧ listGpusByVm gpus vmId ≠ [] := by
  unfold gpuRequestForVm at h
  split at h
  · cases h
  · next hne =>
      cases h
      exact ⟨by rw [released, List.length_map], hne⟩

/-- **What the request takes on the old host are the GPUs that the VM had**, exactly if the request
sums them up well enough. -/
lemma regained_iff (hkeys : (gpus.map HostGpu.key).Nodup)
    (h : gpuRequestForVm gpus vmId = some request) :
    (∀ gpu, gpu ∈ gpusToAllocate (deallocateByVm gpus vmId) hostId request ↔
      gpu ∈ released gpus vmId) ↔ Regained gpus vmId hostId := by
  set free := (deallocateByVm gpus vmId).filter (request.free hostId) with hfree
  have hhost : ∀ gpu ∈ free, gpu.hostId = hostId ∧ gpu.vmId = none := by
    intro gpu hgpu
    have hmeets := (List.mem_filter.1 hgpu).2
    simp only [GpuRequest.free, Bool.and_eq_true, beq_iff_eq, Option.isNone_iff_eq_none] at hmeets
    exact ⟨hmeets.1.1.1.1, hmeets.1.1.1.2⟩
  have hpci : (free.map (·.pciAddress)).Nodup := by
    have hkeys' : (free.map HostGpu.key).Nodup := by
      refine (List.filter_sublist.map _).nodup ?_
      rwa [keys_deallocateByVm]
    refine List.Nodup.map_on (fun a ha b hb heq => ?_) (hkeys'.of_map _)
    refine List.inj_on_of_nodup_map hkeys' ha hb ?_
    rw [HostGpu.key, HostGpu.key, (hhost a ha).1, (hhost b hb).1, heq]
  have htake : gpusToAllocate (deallocateByVm gpus vmId) hostId request
      = (free.insertionSort fun a b => a.pciAddress ≤ b.pciAddress).take
        (released gpus vmId).length := by
    rw [gpusToAllocate, (count_eq_length h).1, Int.toNat_natCast]
  rw [htake, Sorted.take_insertionSort_iff hpci (nodup_released hkeys)]
  have hmem : ∀ {gpu}, gpu ∈ free ↔ (gpu ∈ released gpus vmId ∨ gpu ∈ gpus ∧
      gpu.vmId ≠ some vmId) ∧ request.free hostId gpu = true := by
    intro gpu
    rw [hfree, List.mem_filter, mem_deallocateByVm]
  constructor
  · rintro ⟨hmeets, hafter⟩ request' hrequest
    cases hrequest.symm.trans h
    refine ⟨fun held hheld => (hmem.1 (hmeets _ (List.mem_map_of_mem hheld))).2,
      fun gpu hgpu hgpufree held hheld => ?_⟩
    have hvm : gpu.vmId ≠ some vmId := by
      intro hvm
      simp [GpuRequest.free, hvm] at hgpufree
    refine hafter gpu (hmem.2 ⟨.inr ⟨hgpu, hvm⟩, hgpufree⟩) (fun hin => ?_)
      { held with vmId := none } (List.mem_map_of_mem hheld)
    obtain ⟨held', hheld', heq⟩ := List.mem_map.1 hin
    obtain ⟨hmem', hvm'⟩ := mem_listGpusByVm.1 hheld'
    have hkey : held'.key = gpu.key := by
      rw [← heq]
      rfl
    exact hvm (HostGpu.eq_of_key hkeys hmem' hgpu hkey ▸ hvm')
  · intro hregained
    obtain ⟨hmeets, hafter⟩ := hregained request h
    refine ⟨fun gpu hgpu => hmem.2 ⟨.inl hgpu, ?_⟩, fun gpu hgpu hnot gpu' hgpu' => ?_⟩
    · obtain ⟨held, hheld, rfl⟩ := List.mem_map.1 hgpu
      exact hmeets held hheld
    · obtain ⟨hin, hgpufree⟩ := hmem.1 hgpu
      obtain ⟨held, hheld, rfl⟩ := List.mem_map.1 hgpu'
      exact hafter gpu (hin.resolve_left hnot).1 hgpufree held hheld

lemma forall_held_iff {a b : List HostGpu} (ha : ∀ gpu ∈ a, gpu.vmId = none)
    (hb : ∀ gpu ∈ b, gpu.vmId = none) :
    (∀ gpu, (∃ free ∈ a, gpu = { free with vmId := some vmId }) ↔
      ∃ free ∈ b, gpu = { free with vmId := some vmId }) ↔ ∀ gpu, gpu ∈ a ↔ gpu ∈ b := by
  have hinj : ∀ {x y : HostGpu}, x.vmId = none → y.vmId = none →
      ({ x with vmId := some vmId } : HostGpu) = { y with vmId := some vmId } → x = y := by
    rintro ⟨⟩ ⟨⟩ rfl rfl heq
    simpa using heq
  constructor
  · refine fun h gpu => ⟨fun hgpu => ?_, fun hgpu => ?_⟩
    · obtain ⟨free, hfree, heq⟩ := (h _).1 ⟨gpu, hgpu, rfl⟩
      rwa [hinj (ha gpu hgpu) (hb free hfree) heq]
    · obtain ⟨free, hfree, heq⟩ := (h _).2 ⟨gpu, hgpu, rfl⟩
      rwa [hinj (hb gpu hgpu) (ha free hfree) heq]
  · intro h gpu
    simp only [h]

/-- The GPUs are not given back, or are others. -/
lemma gpus_restored_iff (hkeys : (gpus.map HostGpu.key).Nodup) (hne : target ≠ hostId)
    (hheld : ∀ gpu ∈ listGpusByVm gpus vmId, gpu.hostId = hostId)
    (h : gpuRequestForVm gpus vmId = some request)
    (hmoved : reallocateVmGpus gpus vmId target request = some gpus') :
    (∀ gpu, gpu ∈ listGpusByVm ((reallocateVmGpus gpus' vmId hostId request).getD gpus') vmId ↔
      gpu ∈ listGpusByVm gpus vmId) ↔ Regained gpus vmId hostId := by
  have hkeys' : ((deallocateByVm gpus vmId).map HostGpu.key).Nodup := by
    rwa [keys_deallocateByVm]
  have hback : deallocateByVm gpus' vmId = deallocateByVm gpus vmId := by
    rw [deallocateByVm_allocateAllGpus hkeys' hmoved, deallocateByVm_deallocateByVm]
  have hsame : reallocateVmGpus gpus' vmId hostId request
      = reallocateVmGpus gpus vmId hostId request := by
    rw [reallocateVmGpus, hback, reallocateVmGpus]
  rw [hsame, ← regained_iff hkeys h]
  cases hreturned : reallocateVmGpus gpus vmId hostId request with
  | some returned =>
    simp only [Option.getD_some, mem_listGpusByVm_reallocate hkeys hreturned,
      mem_listGpusByVm_iff]
    exact forall_held_iff (fun gpu hgpu => (mem_gpusToAllocate hgpu).2.2)
      fun gpu hgpu => vmId_of_mem_released hgpu
  | none =>
    obtain ⟨hcount, hnonempty⟩ := count_eq_length h
    rw [Option.getD_none]
    refine iff_of_false (fun hsame => ?_) fun hsame => ?_
    · -- the VM is left with GPUs of the target
      obtain ⟨gpu, hgpu⟩ := List.exists_mem_of_ne_nil _ hnonempty
      obtain ⟨taken, htaken, rfl⟩ :=
        (mem_listGpusByVm_reallocate hkeys hmoved).1 ((hsame gpu).2 hgpu)
      have hhost := hheld _ hgpu
      exact hne ((mem_gpusToAllocate htaken).2.1.symm.trans hhost)
    · have hsub : (released gpus vmId).Subperm
          (gpusToAllocate (deallocateByVm gpus vmId) hostId request) :=
        (nodup_released hkeys).subperm fun gpu hgpu => (hsame gpu).2 hgpu
      obtain ⟨gpus'', hsome⟩ := allocateAllGpus_of_enough vmId
        (count_gpuRequestForVm h) (by rw [hcount]; exact_mod_cast hsub.length_le)
      cases hreturned.symm.trans hsome

end Gpus

/-! ## The row of the VM -/

variable {request : Option GpuRequest}

section Row

variable {db db' : FailoverDb} {vm : Vm} {deadHostId target : Uuid} {calls : Calls} {e : ApiError}

lemma found_update {vms : List Vm} {id : Uuid} {row : Vm} {f : Vm → Vm}
    (h : vms.find? (·.id = id) = some row) (hf : ∀ r, (f r).id = r.id) :
    (Rows.update Vm.id id f vms).find? (·.id = id) = some (f row) :=
  (Rows.find?_update_self fun r hr => (hf r).trans hr).trans (congrArg (Option.map f) h)

lemma gpus_statement (ok : Bool) {f : FailoverDb → FailoverDb} (hf : (f db).gpus = db.gpus) :
    (statement ok f db).2.gpus = db.gpus := by
  unfold statement
  split_ifs
  · exact hf
  · rfl

lemma gpus_revertFailoverState :
    (revertFailoverState vm deadHostId calls db).2.gpus = db.gpus :=
  (gpus_statement _ rfl).trans ((gpus_statement _ rfl).trans (gpus_statement _ rfl))

/-- The three statements put the row back. -/
lemma revertFailoverState_run (hhost : vm.hostId = some deadHostId)
    (hreverts : calls.reverts = true) (hrow : (db.vm? vm.id).isSome = true) :
    (revertFailoverState vm deadHostId calls db).2.vm? vm.id = some vm := by
  simp only [Calls.reverts, Bool.and_eq_true] at hreverts
  obtain ⟨⟨⟨hhostReverted, hstatusReverted⟩, hconfigReverted⟩, -⟩ := hreverts
  have hrun : (revertFailoverState vm deadHostId calls db).2
      = { db with vms := updateConfig vm.id vm.config (updateStatus vm.id vm.status
          (updateHostId vm.id deadHostId db.vms)) } := by
    unfold revertFailoverState
    rw [hhostReverted, hstatusReverted, hconfigReverted]
    rfl
  obtain ⟨row, hfound⟩ := Option.isSome_iff_exists.1 hrow
  have hid : row.id = vm.id := (Rows.mem_of_find? hfound).2
  have hhostId : (updateHostId vm.id deadHostId db.vms).find? (·.id = vm.id)
      = some { row with hostId := some deadHostId } := found_update hfound fun _ => rfl
  have hstatus : (updateStatus vm.id vm.status (updateHostId vm.id deadHostId db.vms)).find?
      (·.id = vm.id) = some { row with hostId := some deadHostId, status := vm.status } :=
    found_update hhostId fun _ => rfl
  have hconfig : (updateConfig vm.id vm.config (updateStatus vm.id vm.status
      (updateHostId vm.id deadHostId db.vms))).find? (·.id = vm.id)
      = some { row with hostId := some deadHostId, status := vm.status, config := vm.config } :=
    found_update hstatus fun _ => rfl
  rw [hrun]
  refine hconfig.trans ?_
  rw [hid, ← hhost]

/-- The state in which the start was asked for. -/
def FailoverDb.afterStart (db : FailoverDb) (vmId : Uuid) (calls : Calls) : FailoverDb :=
  { db with vms := updateStatus vmId calls.startLeaves db.vms }

lemma startVmInternal_run (vmId : Uuid) :
    startVmInternal vmId calls db = (calls.started, db.afterStart vmId calls) := rfl

lemma isSome_afterStart (h : (db.vm? vm.id).isSome = true) :
    ((db.afterStart vm.id calls).vm? vm.id).isSome = true := by
  obtain ⟨row, hrow⟩ := Option.isSome_iff_exists.1 h
  have hfound : (db.afterStart vm.id calls).vm? vm.id
      = some { row with status := calls.startLeaves } := found_update hrow fun _ => rfl
  rw [hfound]
  rfl

lemma of_reverts (h : calls.reverts = true) : calls.gpusReturned = true := by
  simp only [Calls.reverts, Bool.and_eq_true] at h
  exact h.2

section Move

variable {ok : Bool} {vmId : Uuid} {request : GpuRequest}

lemma moveGpus_ok {gpus : List HostGpu} (hok : ok = true)
    (h : reallocateVmGpus db.gpus vmId target request = some gpus) :
    moveGpus ok vmId target request db = (.ok (), { db with gpus }) := by
  simp only [moveGpus, hok, h]
  rfl

lemma moveGpus_error (hok : ok = true)
    (h : reallocateVmGpus db.gpus vmId target request = none) :
    ∃ e, moveGpus ok vmId target request db = (.error e, db) := by
  simp only [moveGpus, hok, h]
  exact ⟨_, rfl⟩

lemma moveGpus_state (hok : ok = true) : (moveGpus ok vmId target request db).2
    = { db with gpus := (reallocateVmGpus db.gpus vmId target request).getD db.gpus } := by
  cases h : reallocateVmGpus db.gpus vmId target request with
  | none =>
    obtain ⟨e, hrun⟩ := moveGpus_error hok h
    rw [hrun]
    rfl
  | some gpus =>
    rw [moveGpus_ok hok h]
    rfl

end Move

/-- **A start that is refused**: the row is put back, and then the GPUs. -/
lemma startOrRevert_error (h : calls.started = .error e) :
    startOrRevert vm deadHostId request calls db =
      (.error e, (returnGpus vm deadHostId request calls
        (revertFailoverState vm deadHostId calls (db.afterStart vm.id calls)).2).2) := by
  have hrun : startVmInternal vm.id calls db = (.error e, db.afterStart vm.id calls) := by
    rw [startVmInternal_run, h]
  rw [startOrRevert, Proc.onError_error hrun]
  rfl

lemma startOrRevert_ok {jobId : Uuid} (h : calls.started = .ok jobId) :
    (startOrRevert vm deadHostId request calls db).1 = .ok jobId := by
  have hrun : startVmInternal vm.id calls db = (.ok jobId, db.afterStart vm.id calls) := by
    rw [startVmInternal_run, h]
  rw [startOrRevert, Proc.onError_ok hrun]

/-- A start that is refused gives the GPUs back, if it can. -/
lemma gpus_startOrRevert (hreturned : calls.gpusReturned = true) :
    (startOrRevert vm deadHostId request calls db).2.gpus
      = if calls.started.isOk then db.gpus
        else request.elim db.gpus fun request =>
          (reallocateVmGpus db.gpus vm.id deadHostId request).getD db.gpus := by
  cases hstart : calls.started with
  | ok jobId =>
    have hrun : startVmInternal vm.id calls db = (.ok jobId, db.afterStart vm.id calls) := by
      rw [startVmInternal_run, hstart]
    rw [startOrRevert, Proc.onError_ok hrun]
    rfl
  | error e =>
    have hback := @gpus_revertFailoverState (db.afterStart vm.id calls) vm deadHostId calls
    rw [startOrRevert_error hstart]
    cases request with
    | none => exact hback
    | some request =>
      refine (congrArg FailoverDb.gpus (moveGpus_state hreturned)).trans ?_
      rw [hback]
      rfl

/-- What is left when the start was refused. -/
lemma startOrRevert_restored_iff (hvm : db.vm? vm.id = some vm)
    (hhost : vm.hostId = some deadHostId) (hreverts : calls.reverts = true)
    (hrow : (db'.vm? vm.id).isSome = true)
    (herror : (startOrRevert vm deadHostId request calls db').1 = .error e) :
    Restored vm.id db (startOrRevert vm deadHostId request calls db').2 ↔
      ∀ gpu, gpu ∈ listGpusByVm (request.elim db'.gpus fun request =>
          (reallocateVmGpus db'.gpus vm.id deadHostId request).getD db'.gpus) vm.id ↔
        gpu ∈ listGpusByVm db.gpus vm.id := by
  cases hstart : calls.started with
  | ok jobId =>
    rw [startOrRevert_ok hstart] at herror
    cases herror
  | error e' =>
    have hgpus := @gpus_startOrRevert request db' vm deadHostId calls (of_reverts hreverts)
    simp only [hstart, Except.isOk, Except.toBool, Bool.false_eq_true, if_false] at hgpus
    have hback := @revertFailoverState_run (db'.afterStart vm.id calls) _ _ _ hhost hreverts
      (isSome_afterStart hrow)
    have hrow' : (startOrRevert vm deadHostId request calls db').2.vm? vm.id = some vm := by
      rw [startOrRevert_error hstart]
      cases request with
      | none => exact hback
      | some request =>
        exact (congrArg (FailoverDb.vm? · vm.id) (moveGpus_state (of_reverts hreverts))).trans hback
    constructor
    · intro h
      exact hgpus ▸ h.gpus
    · intro h
      exact ⟨hrow'.trans hvm.symm, hgpus ▸ h⟩

/-- The GPUs are on the target, or everything is put back. -/
lemma moveGpusOrRevert_run (hvm : db.vm? vm.id = some vm) (hhost : vm.hostId = some deadHostId)
    (hreverts : calls.reverts = true) (hrow : (db'.vm? vm.id).isSome = true)
    (hgpus : db'.gpus = db.gpus) :
    (gpusStay db vm target calls = true ∧ ∃ e db'',
      moveGpusOrRevert vm deadHostId target (gpuRequestForVm db.gpus vm.id) calls db'
        = (.error e, db'') ∧ Restored vm.id db db'') ∨
    (gpusStay db vm target calls = false ∧ ∃ gpus,
      moveGpusOrRevert vm deadHostId target (gpuRequestForVm db.gpus vm.id) calls db'
        = (.ok (), { db' with gpus }) ∧
      (gpuRequestForVm db.gpus vm.id).elim (some db.gpus)
        (reallocateVmGpus db.gpus vm.id target) = some gpus) := by
  cases hrequest : gpuRequestForVm db.gpus vm.id with
  | none => exact .inr ⟨by rw [gpusStay, hrequest]; rfl, db'.gpus, rfl, congrArg some hgpus.symm⟩
  | some request =>
    have hrestored : Restored vm.id db (revertFailoverState vm deadHostId calls db').2 := by
      refine ⟨(revertFailoverState_run hhost hreverts hrow).trans hvm.symm, fun gpu => ?_⟩
      rw [gpus_revertFailoverState, hgpus]
    have hstay : gpusStay db vm target calls = (!calls.gpusMoved ||
        (reallocateVmGpus db.gpus vm.id target request).isNone) := by
      rw [gpusStay, hrequest]
      rfl
    rw [hstay]
    cases hmoved : calls.gpusMoved with
    | false =>
      have hrun : moveGpus calls.gpusMoved vm.id target request db'
          = (.error .internalServerError, db') := by
        rw [hmoved]
        rfl
      exact .inl ⟨rfl, _, _, Proc.onError_error hrun, hrestored⟩
    | true =>
      cases hrealloc : reallocateVmGpus db.gpus vm.id target request with
      | none =>
        obtain ⟨e, hrun⟩ := moveGpus_error hmoved (hgpus.symm ▸ hrealloc)
        exact .inl ⟨rfl, _, _, Proc.onError_error hrun, hrestored⟩
      | some gpus =>
        have hrun := moveGpus_ok hmoved (hgpus.symm ▸ hrealloc)
        exact .inr ⟨rfl, gpus, Proc.onError_ok hrun, hrealloc⟩

/-- Nothing is written before there is a target. -/
lemma planFailover_run :
    (∃ target, calls.planned = some target ∧ calls.target = .ok target ∧
      planFailover vm calls db = (.ok (gpuRequestForVm db.gpus vm.id, target), db)) ∨
    (calls.planned = none ∧ ∃ e, planFailover vm calls db = (.error e, db)) := by
  unfold Calls.planned planFailover
  cases calls.pools with
  | error e => exact .inr ⟨rfl, e, rfl⟩
  | ok u =>
    cases calls.target with
    | error e =>
      refine .inr ⟨rfl, ?_⟩
      cases calls.gpusListed with
      | false => exact ⟨_, rfl⟩
      | true => exact ⟨_, rfl⟩
    | ok target =>
      cases calls.gpusListed with
      | false => exact .inr ⟨rfl, _, rfl⟩
      | true => exact .inl ⟨target, rfl, rfl, rfl⟩

/-- What is left of the row when one of its writes fails. -/
inductive Claimed (vm : Vm) (deadHostId target : Uuid) (calls : Calls) (db : FailoverDb) :
    Except ApiError Unit × FailoverDb → Prop
  | config (e : ApiError) : calls.configWritten = false →
      Claimed vm deadHostId target calls db (.error e, db)
  | hostId (e : ApiError) (db' : FailoverDb) : calls.configWritten = true →
      calls.hostWritten = false → db'.gpus = db.gpus →
      db'.vm? vm.id = some { vm with config := setFailedOverFrom vm.config (some deadHostId) } →
      Claimed vm deadHostId target calls db (.error e, db')
  | status (e : ApiError) (db' : FailoverDb) (row : Vm) : calls.configWritten = true →
      calls.hostWritten = true → calls.statusWritten = false →
      db'.vm? vm.id = some row → row.hostId = some target →
      Claimed vm deadHostId target calls db (.error e, db')
  | claimed (db' : FailoverDb) : calls.configWritten = true → calls.hostWritten = true →
      calls.statusWritten = true → db'.gpus = db.gpus → (db'.vm? vm.id).isSome = true →
      Claimed vm deadHostId target calls db (.ok (), db')

lemma claimTarget_run (hvm : db.vm? vm.id = some vm) :
    Claimed vm deadHostId target calls db (claimTarget vm deadHostId target calls db) := by
  have hconfig : (updateConfig vm.id (setFailedOverFrom vm.config (some deadHostId)) db.vms).find?
      (·.id = vm.id) = some { vm with config := setFailedOverFrom vm.config (some deadHostId) } :=
    found_update hvm fun _ => rfl
  have hhostId := @found_update _ vm.id _ (fun row => { row with hostId := some target }) hconfig
    fun _ => rfl
  have hstatus := @found_update _ vm.id _ (fun row => { row with status := .created }) hhostId
    fun _ => rfl
  cases hc : calls.configWritten with
  | false =>
    rw [claimTarget, hc]
    exact .config _ hc
  | true =>
    cases hh : calls.hostWritten with
    | false =>
      rw [claimTarget, hc, hh]
      exact .hostId _ _ hc hh rfl hconfig
    | true =>
      cases hs : calls.statusWritten with
      | false =>
        rw [claimTarget, hc, hh, hs]
        exact .status _ _ _ hc hh hs hhostId rfl
      | true =>
        rw [claimTarget, hc, hh, hs]
        exact .claimed _ hc hh hs rfl (Option.isSome_iff_exists.2 ⟨_, hstatus⟩)

/-- **A failed attempt restores the VM's host, status, config and GPUs** exactly if the statement it
fails with is none of the writes of the row, but for a config that had the tag already, and the GPUs
can be found again when the start is refused. -/
theorem failover_restored_iff (hvm : db.vm? vm.id = some vm) (hhost : vm.hostId = some deadHostId)
    (hkeys : (db.gpus.map HostGpu.key).Nodup)
    (hheld : ∀ gpu ∈ listGpusByVm db.gpus vm.id, gpu.hostId = deadHostId)
    (htarget : calls.target ≠ .ok deadHostId) (hreverts : calls.reverts = true)
    (herror : (executeFailover vm deadHostId calls db).1 = .error e) :
    Restored vm.id db (executeFailover vm deadHostId calls db).2 ↔
      restorable db vm deadHostId (failurePoint db vm calls) := by
  unfold failurePoint
  rcases @planFailover_run db vm calls with
    ⟨target, hplanned, htarget', hplan⟩ | ⟨hplanned, e', hplan⟩
  · have hne : target ≠ deadHostId := fun heq => htarget (heq ▸ htarget')
    rw [executeFailover, Proc.bind_ok_run hplan, carryOut] at herror ⊢
    rw [hplanned]
    have hclaim := @claimTarget_run db vm deadHostId target calls hvm
    generalize hrun : claimTarget vm deadHostId target calls db = r at hclaim
    cases hclaim with
    | config e' hc =>
      rw [Proc.bind_error_run hrun]
      simp only [hc]
      exact iff_of_true ⟨rfl, fun _ => Iff.rfl⟩ trivial
    | hostId e' db' hc hh hgpus hrow =>
      rw [Proc.bind_error_run hrun]
      simp only [hc, hh]
      constructor
      · intro h
        have hsame := hrow.symm.trans (h.row.trans hvm)
        exact congrArg Vm.config (Option.some.inj hsame)
      · intro h
        replace h : setFailedOverFrom vm.config (some deadHostId) = vm.config := h
        rw [h] at hrow
        exact ⟨hrow.trans hvm.symm, fun gpu => by rw [hgpus]⟩
    | status e' db' row hc hh hs hrow hrowHost =>
      rw [Proc.bind_error_run hrun]
      simp only [hc, hh, hs]
      refine iff_of_false (fun h => ?_) id
      have hsame := Option.some.inj (hrow.symm.trans (h.row.trans hvm))
      rw [hsame, hhost] at hrowHost
      exact hne (Option.some.inj hrowHost).symm
    | claimed db' hc hh hs hgpus hrow =>
      rw [Proc.bind_ok_run hrun] at herror ⊢
      simp only [hc, hh, hs]
      rcases @moveGpusOrRevert_run db db' vm deadHostId target calls hvm hhost hreverts hrow hgpus
        with ⟨hstay, e', db'', hmove, hrestored⟩ | ⟨hstay, gpus, hmove, hmoved⟩
      · rw [Proc.bind_error_run hmove]
        simp only [hstay]
        exact iff_of_true hrestored trivial
      · rw [Proc.bind_ok_run hmove] at herror ⊢
        simp only [hstay]
        replace hrow : (({ db' with gpus } : FailoverDb).vm? vm.id).isSome = true := hrow
        refine (startOrRevert_restored_iff hvm hhost hreverts hrow herror).trans ?_
        cases hrequest : gpuRequestForVm db.gpus vm.id with
        | none =>
          rw [hrequest] at hmoved
          cases hmoved
          refine iff_of_true (fun gpu => Iff.rfl) fun request h => ?_
          rw [hrequest] at h
          cases h
        | some request =>
          rw [hrequest] at hmoved
          exact gpus_restored_iff hkeys hne hheld hrequest hmoved
  · rw [executeFailover, Proc.bind_error_run hplan, hplanned]
    exact iff_of_true ⟨rfl, fun _ => Iff.rfl⟩ trivial

/-! ## The same failover in other models

`GpuLedger` and `Admission` have a failover in one step, where nothing fails but the move of the
GPUs and the start.  All three leave the same ledger. -/

/-- The ledger after a failover to that host. -/
def movedGpus (gpus : List HostGpu) (vmId dead target : Uuid) (started : Bool) : List HostGpu :=
  let request := gpuRequestForVm gpus vmId
  match request.elim (some gpus) (reallocateVmGpus gpus vmId target) with
  | none => gpus
  | some moved =>
    if started then moved
    else request.elim moved fun request =>
      (reallocateVmGpus moved vmId dead request).getD moved

/-- Every statement of the attempt works. -/
def Calls.smooth (calls : Calls) : Bool :=
  calls.configWritten && calls.hostWritten && calls.statusWritten && calls.gpusMoved &&
    calls.reverts

theorem gpus_executeFailover (hplanned : calls.planned = some target)
    (hsmooth : calls.smooth = true) :
    (executeFailover vm deadHostId calls db).2.gpus
      = movedGpus db.gpus vm.id deadHostId target calls.started.isOk := by
  simp only [Calls.smooth, Bool.and_eq_true] at hsmooth
  obtain ⟨⟨⟨⟨hconfig, hhost⟩, hstatus⟩, hmoved⟩, hreverts⟩ := hsmooth
  have hplan : planFailover vm calls db = (.ok (gpuRequestForVm db.gpus vm.id, target), db) := by
    rcases @planFailover_run db vm calls with ⟨_, hplanned', -, hplan⟩ | ⟨hnone, -⟩
    · rwa [Option.some.inj (hplanned'.symm.trans hplanned)] at hplan
    · cases hnone.symm.trans hplanned
  obtain ⟨vms, hclaim⟩ : ∃ vms, claimTarget vm deadHostId target calls db
      = (.ok (), { db with vms }) := by
    rw [claimTarget, hconfig, hhost, hstatus]
    exact ⟨_, rfl⟩
  rw [executeFailover, Proc.bind_ok_run hplan, carryOut, Proc.bind_ok_run hclaim, movedGpus]
  cases gpuRequestForVm db.gpus vm.id with
  | none => exact gpus_startOrRevert (of_reverts hreverts)
  | some request =>
    rw [Option.elim_some]
    cases hrealloc : reallocateVmGpus db.gpus vm.id target request with
    | none =>
      obtain ⟨e, hrun⟩ := @moveGpus_error { db with vms } _ _ _ _ hmoved hrealloc
      rw [moveGpusOrRevert, Proc.bind_error_run (Proc.onError_error hrun)]
      exact gpus_revertFailoverState
    | some gpus =>
      have hrun := @moveGpus_ok { db with vms } _ _ _ _ _ hmoved hrealloc
      rw [moveGpusOrRevert, Proc.bind_ok_run (Proc.onError_ok hrun)]
      exact gpus_startOrRevert (of_reverts hreverts)

lemma gpus_startVm (w : GpuWorld) (vm : GpuVm) (o : StartOutcome) :
    (w.startVm vm o).gpus = w.gpus := by
  have hdefine : ∀ w', w.define vm = some w' → w'.gpus = w.gpus := by
    intro w' h
    unfold GpuWorld.define at h
    split_ifs at h
    cases h
    rfl
  unfold GpuWorld.startVm
  by_cases hcreated : vm.status = .created
  · rw [if_pos hcreated]
    cases hw : w.define vm with
    | none => rcases o with _ | (_ | _) | (_ | _) | _ | _ <;> rfl
    | some w' => rcases o with _ | (_ | _) | (_ | _) | _ | _ <;> first | rfl | exact hdefine w' hw
  · rw [if_neg hcreated]
    cases o with
    | succeeds => exact (apply_ite GpuWorld.gpus ..).trans (ite_self _)
    | _ => rfl

theorem gpus_moveVm (w : GpuWorld) (vm : GpuVm) (target : Uuid) (call : FailoverCall) :
    (w.moveVm vm target call).gpus
      = movedGpus w.gpus vm.id vm.hostId target !call.startRefused := by
  simp only [GpuWorld.moveVm, movedGpus]
  cases (gpuRequestForVm w.gpus vm.id).elim (some w.gpus)
      (reallocateVmGpus w.gpus vm.id target) with
  | none => rfl
  | some gpus =>
    cases call.startRefused with
    | true => rfl
    | false => simp [gpus_startVm]

theorem gpus_failoverTo (db : Cluster) (vm : ScheduledVm) (dead target : ScheduledHost)
    (start : FailoverStart) :
    (AdmissionState.failoverTo db vm dead target (gpuRequestForVm db.gpus vm.id) start).gpus
      = movedGpus db.gpus vm.id dead.id target.id
        (match start with | .refused => false | _ => true) := by
  simp only [AdmissionState.failoverTo, movedGpus]
  cases gpuRequestForVm db.gpus vm.id with
  | none => cases start <;> rfl
  | some request =>
    simp only [Option.elim_some, Option.bind_some, reallocateVmGpus]
    cases allocateAllGpus (deallocateByVm db.gpus vm.id) target.id vm.id request with
    | none => rfl
    | some gpus => cases start <;> rfl

end Row

/-! ## A VM with two GPUs -/

def labVm : Vm := ⟨⟨"vm"⟩, some ⟨"dead"⟩, .running, .obj []⟩

/-- A GPU with so many GiB of memory. -/
def labGpu (host pciAddress model : String) (vram : Int) (vmId : Option Uuid) : HostGpu :=
  ⟨⟨host⟩, pciAddress, some model, some "NVIDIA", some vram, vmId⟩

/-- The VM has two GPUs on its host, the second of this model; the target has two of the first. -/
def labDb (model : String) : FailoverDb where
  vms := [labVm]
  gpus := [labGpu "dead" "01" "A100" 40 (some ⟨"vm"⟩), labGpu "dead" "02" model 80 (some ⟨"vm"⟩),
    labGpu "dead" "03" "A100" 40 none, labGpu "target" "01" "A100" 40 none,
    labGpu "target" "02" "A100" 40 none]

/-- The start is refused, since the job cannot be created. -/
def refusedStart : Calls where
  pools := .ok ()
  gpusListed := true
  target := .ok ⟨"target"⟩
  configWritten := true
  hostWritten := true
  statusWritten := true
  gpusMoved := true
  started := .error .internalServerError
  startLeaves := .created
  hostReverted := true
  statusReverted := true
  configReverted := true
  gpusReturned := true

theorem two_of_a_kind_restored :
    ((executeFailover labVm ⟨"dead"⟩ refusedStart (labDb "A100")).2.vm? ⟨"vm"⟩ = some labVm) ∧
      ∀ gpu, gpu ∈ listGpusByVm
          (executeFailover labVm ⟨"dead"⟩ refusedStart (labDb "A100")).2.gpus ⟨"vm"⟩ ↔
        gpu ∈ listGpusByVm (labDb "A100").gpus ⟨"vm"⟩ := by
  have hvm : (labDb "A100").vm? labVm.id = some labVm := rfl
  have hpoint : failurePoint (labDb "A100") labVm refusedStart = .start := by decide +kernel
  have hregained : restorable (labDb "A100") labVm ⟨"dead"⟩
      (failurePoint (labDb "A100") labVm refusedStart) := by
    rw [hpoint]
    show Regained (labDb "A100").gpus ⟨"vm"⟩ ⟨"dead"⟩
    unfold Regained
    decide +kernel
  have hrestored := (failover_restored_iff hvm rfl (by decide +kernel) (by decide +kernel)
    (fun h => absurd (Except.ok.inj h) (by decide)) rfl rfl).2 hregained
  exact ⟨hrestored.row.trans hvm, hrestored.gpus⟩

/-- **The row stays on the target** when its status cannot be written; **the VM has another GPU**
than before when the start is refused, as the second one it had is not of the model of the first. -/
theorem failover_not_restored :
    ((executeFailover labVm ⟨"dead"⟩ { refusedStart with statusWritten := false }
        (labDb "A100")).2.vm? ⟨"vm"⟩).map (·.hostId) = some (some ⟨"target"⟩) ∧
    ((executeFailover labVm ⟨"dead"⟩ refusedStart (labDb "H100")).2.vm? ⟨"vm"⟩).map (·.hostId)
      = some (some ⟨"dead"⟩) ∧
    (listGpusByVm (executeFailover labVm ⟨"dead"⟩ refusedStart (labDb "H100")).2.gpus ⟨"vm"⟩).map
      HostGpu.key = [(⟨"dead"⟩, "01"), (⟨"dead"⟩, "03")] := by
  decide +kernel

end FailoverRevert

end Qarax
