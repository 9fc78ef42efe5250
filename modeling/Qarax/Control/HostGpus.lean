import Qarax.Control.Vms

/-!
# The GPU ledger

`model/host_gpus.rs`: the table `host_gpus` has one row for each GPU a node has reported, and its
column `vm_id` is the ledger of who holds it.  Rows are identified by `(host_id, pci_address)`,
which the schema declares unique.
-/

namespace Qarax

structure HostGpu where
  hostId : Uuid
  pciAddress : String
  model : Option String
  vendor : Option String
  vramBytes : Option Int
  vmId : Option Uuid
  deriving DecidableEq

/-- What a node reports of a GPU. -/
structure GpuDiscovery where
  pciAddress : String
  model : String
  vendor : String
  vramBytes : Int

structure GpuRequest where
  count : Int
  vendor : Option String
  model : Option String
  minVramBytes : Option Int
  deriving DecidableEq

/-- A free GPU of the host that meets the request.  A condition on a column that is null is not
met. -/
def GpuRequest.free (request : GpuRequest) (hostId : Uuid) (gpu : HostGpu) : Bool :=
  gpu.hostId == hostId && gpu.vmId.isNone
    && request.vendor.all (fun vendor => gpu.vendor == some vendor)
    && request.model.all (fun model => gpu.model == some model)
    && request.minVramBytes.all (fun bytes => gpu.vramBytes.any fun vram => bytes ≤ vram)

def HostGpu.key (gpu : HostGpu) : Uuid × String := (gpu.hostId, gpu.pciAddress)

/-- The rows `allocate_gpus` takes: the first free ones by address. -/
def gpusToAllocate (gpus : List HostGpu) (hostId : Uuid) (request : GpuRequest) : List HostGpu :=
  ((gpus.filter (request.free hostId)).insertionSort
    fun a b => a.pciAddress ≤ b.pciAddress).take request.count.toNat

/-- The table after `allocate_gpus` and the rows it returned.  A negative limit is an error of the
database. -/
def allocateGpus (gpus : List HostGpu) (hostId vmId : Uuid) (request : GpuRequest) :
    Option (List HostGpu × List HostGpu) :=
  if request.count < 0 then none
  else
    let taken := gpusToAllocate gpus hostId request
    some (gpus.map fun gpu =>
      if gpu.key ∈ taken.map HostGpu.key then { gpu with vmId := some vmId } else gpu, taken)

/-- `allocate_vm_gpus` and `reallocate_vm_gpus` roll back when fewer GPUs were found than asked
for. -/
def allocateAllGpus (gpus : List HostGpu) (hostId vmId : Uuid) (request : GpuRequest) :
    Option (List HostGpu) :=
  match allocateGpus gpus hostId vmId request with
  | none => none
  | some (gpus, taken) => if (taken.length : Int) < request.count then none else some gpus

def deallocateByVm (gpus : List HostGpu) (vmId : Uuid) : List HostGpu :=
  gpus.map fun gpu => if gpu.vmId = some vmId then { gpu with vmId := none } else gpu

def listGpusByVm (gpus : List HostGpu) (vmId : Uuid) : List HostGpu :=
  (gpus.filter fun gpu => gpu.vmId == some vmId).insertionSort
    fun a b => a.pciAddress ≤ b.pciAddress

/-- `gpu_request_for_vm` -/
def gpuRequestForVm (gpus : List HostGpu) (vmId : Uuid) : Option GpuRequest :=
  match listGpusByVm gpus vmId with
  | [] => none
  | held => some {
      count := held.length
      vendor := held.findSome? (·.vendor)
      model := held.findSome? (·.model)
      minVramBytes := (held.filterMap (·.vramBytes)).min? }

/-- A row after the upsert of what a node reports; whoever holds the GPU keeps it. -/
def HostGpu.refresh (hostId : Uuid) (discovered : List GpuDiscovery) (gpu : HostGpu) : HostGpu :=
  if gpu.hostId = hostId then
    match discovered.find? (·.pciAddress = gpu.pciAddress) with
    | some d =>
      { gpu with model := some d.model, vendor := some d.vendor, vramBytes := some d.vramBytes }
    | none => gpu
  else gpu

/-- The rows of GPUs that were not known. -/
def newGpus (gpus : List HostGpu) (hostId : Uuid) (discovered : List GpuDiscovery) : List HostGpu :=
  (discovered.filter fun d => (hostId, d.pciAddress) ∉ gpus.map HostGpu.key).map fun d =>
    ⟨hostId, d.pciAddress, some d.model, some d.vendor, some d.vramBytes, none⟩

/-- `sync_gpus`: reported GPUs are inserted or updated, and rows of the host that were not reported
are deleted.  A list with an address twice is an error of the database. -/
def syncGpus (gpus : List HostGpu) (hostId : Uuid) (discovered : List GpuDiscovery) :
    Option (List HostGpu) :=
  if (discovered.map (·.pciAddress)).Nodup then
    let rows := gpus.map (HostGpu.refresh hostId discovered) ++ newGpus gpus hostId discovered
    some (rows.filter fun gpu =>
      gpu.hostId ≠ hostId || gpu.pciAddress ∈ discovered.map (·.pciAddress))
  else none

/-! ## What the operations do to the ledger -/

/-- The ledger has the GPU of the host for the VM. -/
def Holds (gpus : List HostGpu) (hostId : Uuid) (pciAddress : String) (vmId : Uuid) : Prop :=
  ∃ gpu ∈ gpus, gpu.key = (hostId, pciAddress) ∧ gpu.vmId = some vmId

variable {gpu gpu' : HostGpu} {pciAddress : String} {host : Uuid}

section Ledger

variable {gpus gpus' : List HostGpu} {hostId vmId owner : Uuid} {request : GpuRequest}

lemma HostGpu.eq_of_key (hkeys : (gpus.map HostGpu.key).Nodup) {a b : HostGpu} (ha : a ∈ gpus)
    (hb : b ∈ gpus) (h : a.key = b.key) : a = b :=
  List.inj_on_of_nodup_map hkeys ha hb h

lemma mem_listGpusByVm : gpu ∈ listGpusByVm gpus vmId ↔ gpu ∈ gpus ∧ gpu.vmId = some vmId := by
  simp [listGpusByVm, List.mem_insertionSort]

lemma mem_gpusToAllocate (h : gpu ∈ gpusToAllocate gpus hostId request) :
    gpu ∈ gpus ∧ gpu.hostId = hostId ∧ gpu.vmId = none := by
  have hmem := (List.mem_insertionSort _).1 (List.mem_of_mem_take h)
  obtain ⟨hgpu, hfree⟩ := List.mem_filter.1 hmem
  simp only [GpuRequest.free, Bool.and_eq_true, beq_iff_eq, Option.isNone_iff_eq_none] at hfree
  exact ⟨hgpu, hfree.1.1.1.1, hfree.1.1.1.2⟩

/-- What an allocation that succeeds has done: some free rows of the host are taken. -/
lemma allocateAllGpus_eq (h : allocateAllGpus gpus hostId vmId request = some gpus') :
    gpus' = gpus.map fun gpu =>
      if gpu.key ∈ (gpusToAllocate gpus hostId request).map HostGpu.key then
        { gpu with vmId := some vmId }
      else gpu := by
  unfold allocateAllGpus allocateGpus at h
  split_ifs at h
  simp only at h
  split_ifs at h
  cases h
  rfl

@[simp] lemma key_vmId (gpu : HostGpu) (owner : Option Uuid) :
    HostGpu.key { gpu with vmId := owner } = gpu.key := rfl

lemma keys_allocateAllGpus (h : allocateAllGpus gpus hostId vmId request = some gpus') :
    gpus'.map HostGpu.key = gpus.map HostGpu.key := by
  rw [allocateAllGpus_eq h, List.map_map]
  refine List.map_congr_left fun gpu _ => ?_
  simp only [Function.comp_apply]
  split_ifs <;> rfl

/-- A GPU that is held is not free. -/
lemma Holds.allocateAllGpus (hkeys : (gpus.map HostGpu.key).Nodup)
    (h : allocateAllGpus gpus hostId vmId request = some gpus')
    (hheld : Holds gpus host pciAddress owner) : Holds gpus' host pciAddress owner := by
  obtain ⟨gpu, hgpu, hkey, howner⟩ := hheld
  rw [allocateAllGpus_eq h]
  refine ⟨gpu, List.mem_map.2 ⟨gpu, hgpu, if_neg fun htaken => ?_⟩, hkey, howner⟩
  obtain ⟨gpu', hgpu', hkey'⟩ := List.mem_map.1 htaken
  obtain ⟨hmem, -, hfree⟩ := mem_gpusToAllocate hgpu'
  rw [HostGpu.eq_of_key hkeys hmem hgpu hkey', howner] at hfree
  cases hfree

/-- Whose the rows are after an allocation. -/
lemma owner_of_allocateAllGpus (hkeys : (gpus.map HostGpu.key).Nodup)
    (h : allocateAllGpus gpus hostId vmId request = some gpus') (hgpu' : gpu' ∈ gpus')
    (howner : gpu'.vmId = some owner) : gpu' ∈ gpus ∨ owner = vmId ∧ gpu'.hostId = hostId := by
  rw [allocateAllGpus_eq h] at hgpu'
  obtain ⟨gpu, hgpu, rfl⟩ := List.mem_map.1 hgpu'
  split_ifs at howner ⊢ with htaken
  · obtain ⟨taken, htaken, hkey⟩ := List.mem_map.1 htaken
    obtain ⟨hmem, hhost, -⟩ := mem_gpusToAllocate htaken
    rw [HostGpu.eq_of_key hkeys hmem hgpu hkey] at hhost
    exact .inr ⟨(Option.some.inj howner).symm, hhost⟩
  · exact .inl hgpu

lemma keys_deallocateByVm : (deallocateByVm gpus vmId).map HostGpu.key = gpus.map HostGpu.key := by
  rw [deallocateByVm, List.map_map]
  refine List.map_congr_left fun gpu _ => ?_
  simp only [Function.comp_apply]
  split_ifs <;> rfl

lemma Holds.deallocateByVm (hne : owner ≠ vmId) (hheld : Holds gpus host pciAddress owner) :
    Holds (deallocateByVm gpus vmId) host pciAddress owner := by
  obtain ⟨gpu, hgpu, hkey, howner⟩ := hheld
  refine ⟨gpu, List.mem_map.2 ⟨gpu, hgpu, if_neg ?_⟩, hkey, howner⟩
  simpa [howner] using hne

/-- Whose the rows are after a release. -/
lemma owner_of_deallocateByVm (hgpu' : gpu' ∈ deallocateByVm gpus vmId)
    (howner : gpu'.vmId = some owner) : gpu' ∈ gpus ∧ owner ≠ vmId := by
  obtain ⟨gpu, hgpu, rfl⟩ := List.mem_map.1 hgpu'
  split_ifs at howner ⊢ with hvm
  exact ⟨hgpu, fun heq => hvm (by rw [howner, heq])⟩

/-- The rows taken are the VM's afterwards. -/
lemma holds_of_taken (h : allocateAllGpus gpus hostId vmId request = some gpus')
    (htaken : gpu ∈ gpusToAllocate gpus hostId request) :
    Holds gpus' hostId gpu.pciAddress vmId := by
  obtain ⟨hgpu, hhost, -⟩ := mem_gpusToAllocate htaken
  rw [allocateAllGpus_eq h]
  refine ⟨{ gpu with vmId := some vmId }, ?_, by rw [key_vmId, HostGpu.key, hhost], rfl⟩
  exact List.mem_map.2 ⟨gpu, hgpu, if_pos (List.mem_map_of_mem htaken)⟩

lemma allocateAllGpus_of_enough (vmId : Uuid) (hcount : 0 ≤ request.count)
    (henough : request.count ≤ (gpusToAllocate gpus hostId request).length) :
    ∃ gpus', allocateAllGpus gpus hostId vmId request = some gpus' := by
  simp only [allocateAllGpus, allocateGpus, if_neg hcount.not_gt, if_neg henough.not_gt]
  exact ⟨_, rfl⟩

lemma count_gpuRequestForVm (h : gpuRequestForVm gpus vmId = some request) : 0 ≤ request.count := by
  unfold gpuRequestForVm at h
  split at h
  · cases h
  · cases h
    exact Int.natCast_nonneg _

/-- Releasing what was just taken. -/
lemma deallocateByVm_allocateAllGpus (hkeys : (gpus.map HostGpu.key).Nodup)
    (h : allocateAllGpus gpus hostId vmId request = some gpus') :
    deallocateByVm gpus' vmId = deallocateByVm gpus vmId := by
  rw [allocateAllGpus_eq h, deallocateByVm, deallocateByVm, List.map_map]
  refine List.map_congr_left fun gpu hgpu => ?_
  rw [Function.comp_apply]
  by_cases htaken : gpu.key ∈ (gpusToAllocate gpus hostId request).map HostGpu.key
  · -- it was free
    obtain ⟨gpu', hgpu', hkey⟩ := List.mem_map.1 htaken
    obtain ⟨hmem, -, hfree⟩ := mem_gpusToAllocate hgpu'
    rw [HostGpu.eq_of_key hkeys hmem hgpu hkey] at hfree
    rw [if_pos htaken, if_pos rfl, if_neg (by simp [hfree]), ← hfree]
  · rw [if_neg htaken]

lemma deallocateByVm_deallocateByVm :
    deallocateByVm (deallocateByVm gpus vmId) vmId = deallocateByVm gpus vmId := by
  rw [deallocateByVm, deallocateByVm, List.map_map]
  refine List.map_congr_left fun gpu _ => ?_
  rw [Function.comp_apply]
  split_ifs <;> simp_all

@[simp] lemma key_refresh (discovered : List GpuDiscovery) (gpu : HostGpu) :
    (gpu.refresh hostId discovered).key = gpu.key := by
  unfold HostGpu.refresh
  split_ifs
  · split <;> rfl
  · rfl

@[simp] lemma vmId_refresh (discovered : List GpuDiscovery) (gpu : HostGpu) :
    (gpu.refresh hostId discovered).vmId = gpu.vmId := by
  unfold HostGpu.refresh
  split_ifs
  · split <;> rfl
  · rfl

variable {discovered : List GpuDiscovery}

variable (h : syncGpus gpus hostId discovered = some gpus')

include h

/-- The rows after an inventory sync that succeeds. -/
lemma syncGpus_eq :
    (discovered.map (·.pciAddress)).Nodup ∧
    gpus' = (gpus.map (HostGpu.refresh hostId discovered) ++ newGpus gpus hostId discovered).filter
      fun gpu => gpu.hostId ≠ hostId || gpu.pciAddress ∈ discovered.map (·.pciAddress) := by
  unfold syncGpus at h
  split_ifs at h with hnodup
  cases h
  exact ⟨hnodup, rfl⟩

omit h in
lemma keys_syncGpus (hkeys : (gpus.map HostGpu.key).Nodup)
    (h : syncGpus gpus hostId discovered = some gpus') : (gpus'.map HostGpu.key).Nodup := by
  obtain ⟨hnodup, rfl⟩ := syncGpus_eq h
  refine (List.Sublist.map _ List.filter_sublist).nodup ?_
  rw [List.map_append, List.map_map, List.nodup_append']
  have hrefresh : HostGpu.key ∘ HostGpu.refresh hostId discovered = HostGpu.key :=
    funext fun gpu => key_refresh discovered gpu
  refine ⟨by rwa [hrefresh], ?_, ?_⟩
  · have hnew := (hnodup.of_map _).filter
      (fun d : GpuDiscovery => (hostId, d.pciAddress) ∉ gpus.map HostGpu.key)
    rw [newGpus, List.map_map]
    refine List.Nodup.map_on ?_ hnew
    intro a ha b hb hab
    have hpci : a.pciAddress = b.pciAddress := congrArg Prod.snd hab
    exact List.inj_on_of_nodup_map hnodup (List.mem_filter.1 ha).1 (List.mem_filter.1 hb).1 hpci
  · rw [hrefresh, List.disjoint_right]
    intro key hkey
    obtain ⟨gpu, hgpu, rfl⟩ := List.mem_map.1 hkey
    obtain ⟨d, hd, rfl⟩ := List.mem_map.1 hgpu
    exact of_decide_eq_true (List.mem_filter.1 hd).2

/-- A GPU that is held stays so if it is reported, or of another host. -/
lemma Holds.syncGpus (hheld : Holds gpus host pciAddress owner)
    (hreported : host = hostId → pciAddress ∈ discovered.map (·.pciAddress)) :
    Holds gpus' host pciAddress owner := by
  obtain ⟨gpu, hgpu, hkey, howner⟩ := hheld
  obtain ⟨-, rfl⟩ := syncGpus_eq h
  refine ⟨gpu.refresh hostId discovered, List.mem_filter.2 ⟨?_, ?_⟩, by simpa using hkey,
    by simpa using howner⟩
  · exact List.mem_append_left _ (List.mem_map_of_mem hgpu)
  · have hkey' : (gpu.refresh hostId discovered).key = (host, pciAddress) := by simpa using hkey
    obtain ⟨hhost, hpci⟩ := Prod.mk.inj hkey'
    rw [hhost, hpci, Bool.or_eq_true, decide_eq_true_eq, decide_eq_true_eq]
    exact (em (host = hostId)).symm.imp_right hreported

/-- A sync gives no GPU to anybody. -/
lemma owner_of_syncGpus (hgpu' : gpu' ∈ gpus')
    (howner : gpu'.vmId = some owner) :
    ∃ gpu ∈ gpus, gpu.key = gpu'.key ∧ gpu.vmId = some owner := by
  obtain ⟨-, rfl⟩ := syncGpus_eq h
  rcases List.mem_append.1 (List.mem_filter.1 hgpu').1 with hold | hnew
  · obtain ⟨gpu, hgpu, rfl⟩ := List.mem_map.1 hold
    exact ⟨gpu, hgpu, (key_refresh discovered gpu).symm, by simpa using howner⟩
  · obtain ⟨d, -, rfl⟩ := List.mem_map.1 hnew
    cases howner

end Ledger

end Qarax
