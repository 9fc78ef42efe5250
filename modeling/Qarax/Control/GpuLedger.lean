import Qarax.Core.Machine
import Qarax.Core.Records
import Qarax.Control.HostGpus
import Qarax.Control.VmTasks

/-!
# GPUs of running VMs

The ledger `host_gpus` says who holds a GPU; what a VM gets is in its definition on the node, which
`create_vm` makes of the ledger when a `Created` VM is started.  The two go separate ways after
that: a stop releases the GPUs and the node keeps the definition, an inventory sync deletes rows of
GPUs that were not reported, and a failover moves the GPUs to another host.

* `GpuWorld` — rows of VMs, the ledger, and the definitions on the nodes.
* `Coupled` — a running VM holds the GPUs of its definition.
* `GpuWorld.backed` — what starts, syncs and failovers would have to look at.
-/

namespace Qarax

open Machine

structure GpuVm where
  id : Uuid
  status : VmStatus
  hostId : Uuid
  deriving DecidableEq

/-- A VM that a node has registered, with the addresses of its `VfioDeviceConfig`s. -/
structure Definition where
  hostId : Uuid
  vmId : Uuid
  devices : List String
  deriving DecidableEq

structure GpuWorld where
  vms : List GpuVm
  gpus : List HostGpu
  definitions : List Definition
  deriving DecidableEq

namespace GpuWorld

def vm? (w : GpuWorld) (vmId : Uuid) : Option GpuVm := w.vms.find? (·.id = vmId)

def definition? (w : GpuWorld) (hostId vmId : Uuid) : Option Definition :=
  w.definitions.find? fun d => d.hostId = hostId && d.vmId = vmId

def setVm (w : GpuWorld) (vmId : Uuid) (f : GpuVm → GpuVm) : GpuWorld :=
  { w with vms := Rows.update GpuVm.id vmId f w.vms }

def setStatus (w : GpuWorld) (vmId : Uuid) (status : VmStatus) : GpuWorld :=
  w.setVm vmId fun vm => { vm with status }

/-- `delete_vm` on a node. -/
def undefine (w : GpuWorld) (hostId vmId : Uuid) : GpuWorld :=
  { w with definitions := w.definitions.filter fun d => !(d.hostId = hostId && d.vmId = vmId) }

/-- `create_vm` on the node of the VM, with the devices of `build_create_vm_request`; refused if the
VM is registered. -/
def define (w : GpuWorld) (vm : GpuVm) : Option GpuWorld :=
  if (w.definition? vm.hostId vm.id).isSome then none
  else
    let devices := (listGpusByVm w.gpus vm.id).map (·.pciAddress)
    some { w with definitions := ⟨vm.hostId, vm.id, devices⟩ :: w.definitions }

end GpuWorld

/-- How a start ends: without its job having done anything; in `create_vm`, which may have taken
effect; at the check after it, with `delete_vm` done or not; later; or as it should. -/
inductive StartOutcome where
  | stuck
  | createFails (registered : Bool)
  | cleanedUp (deleted : Bool)
  | startFails
  | succeeds
  deriving DecidableEq

/-- `start_vm_internal` and its job, for a row as it was read.  A failed job restores the status. -/
def GpuWorld.startVm (w : GpuWorld) (vm : GpuVm) (o : StartOutcome) : GpuWorld :=
  if vm.status = .created then
    match o, w.define vm with
    | .stuck, _ => w.setStatus vm.id .pending
    | .createFails true, some w' => w'
    | .cleanedUp false, some w' => w'
    | .startFails, some w' => w'
    | .succeeds, some w' => w'.setStatus vm.id .running
    | _, _ => w
  else match o with
    | .stuck => w.setStatus vm.id .pending
    | .succeeds =>
      if (w.definition? vm.hostId vm.id).isSome then w.setStatus vm.id .running else w
    | _ => w

/-- What a failover meets: its `delete_vm` on the old host, what `start_vm_internal` returns, and
how the job ends. -/
structure FailoverCall where
  oldDeleted : Bool
  startRefused : Bool
  job : StartOutcome

/-- `reallocate_vm_gpus`, in one transaction. -/
def reallocateVmGpus (gpus : List HostGpu) (vmId targetHostId : Uuid) (request : GpuRequest) :
    Option (List HostGpu) :=
  allocateAllGpus (deallocateByVm gpus vmId) targetHostId vmId request

/-- The rest of `execute_failover` after the `delete_vm`. -/
def GpuWorld.moveVm (w : GpuWorld) (vm : GpuVm) (target : Uuid) (call : FailoverCall) : GpuWorld :=
  let request := gpuRequestForVm w.gpus vm.id
  match request.elim (some w.gpus) (reallocateVmGpus w.gpus vm.id target) with
  | none => w -- the row is put back
  | some gpus =>
    if call.startRefused then
      -- so are the GPUs, if that is possible
      { w with gpus := request.elim gpus fun request =>
          (reallocateVmGpus gpus vm.id vm.hostId request).getD gpus }
    else
      let moved := { vm with status := .created, hostId := target }
      GpuWorld.startVm { w.setVm vm.id fun _ => moved with gpus } moved call.job

/-- `execute_failover` once a host has been picked, for a row as it was read. -/
def GpuWorld.executeFailover (w : GpuWorld) (vm : GpuVm) (target : Uuid) (call : FailoverCall) :
    GpuWorld :=
  GpuWorld.moveVm (if call.oldDeleted then w.undefine vm.hostId vm.id else w) vm target call

inductive GpuAction where
  | create (vmId hostId : Uuid) (accelerator : Option GpuRequest)
  | start (vmId : Uuid) (o : StartOutcome)
  /-- Stop and force-stop; the client has answered `Ok` or `NotFound`, or another error. -/
  | stop (vmId : Uuid) (accepted : Bool)
  | delete (vmId : Uuid) (nodeDeletes : Bool)
  | failover (vmId target : Uuid) (call : FailoverCall)
  | sync (hostId : Uuid) (discovered : List GpuDiscovery)

/-- **One operation after the other.** -/
def GpuWorld.step (w : GpuWorld) : GpuAction → Option GpuWorld
  | .create vmId hostId accelerator =>
    if (w.vm? vmId).isSome then none
    else match accelerator.elim (some w.gpus) (allocateAllGpus w.gpus hostId vmId) with
      | none => some w
      | some gpus => some { w with vms := ⟨vmId, .created, hostId⟩ :: w.vms, gpus }
  | .start vmId o => do
      let vm ← w.vm? vmId
      if vm.status.startable then some (w.startVm vm o) else some w
  | .stop vmId accepted => do
      let _ ← w.vm? vmId
      if accepted then
        some { w.setStatus vmId .shutdown with gpus := deallocateByVm w.gpus vmId }
      else some w
  | .delete vmId nodeDeletes => do
      let vm ← w.vm? vmId
      let asked := vm.status ≠ .created ∧ vm.status ≠ .pending ∧ nodeDeletes = true
      let w := if asked then w.undefine vm.hostId vmId else w
      some { w with vms := w.vms.filter (·.id ≠ vmId), gpus := deallocateByVm w.gpus vmId }
  | .failover vmId target call => do
      let vm ← w.vm? vmId
      if vm.status.failoverable ∧ target ≠ vm.hostId then some (w.executeFailover vm target call)
      else none
  | .sync hostId discovered =>
    some { w with gpus := (syncGpus w.gpus hostId discovered).getD w.gpus }

/-! ## The coupling -/

/-- The VM holds the GPUs of its definition on that host. -/
def GpuWorld.Covered (w : GpuWorld) (hostId vmId : Uuid) : Prop :=
  ∀ d, w.definition? hostId vmId = some d → ∀ g ∈ d.devices, Holds w.gpus hostId g vmId

def GpuWorld.covers (w : GpuWorld) (hostId vmId : Uuid) : Bool :=
  (w.definition? hostId vmId).all fun d => d.devices.all fun g =>
    w.gpus.any fun gpu => gpu.key = (hostId, g) && gpu.vmId = some vmId

/-- The GPUs of the definition are those `allocate_gpus` finds on the VM's own host when the VM has
released them, or there are none for it on the target. -/
def GpuWorld.regains (w : GpuWorld) (vm : GpuVm) (target : Uuid) : Bool :=
  (gpuRequestForVm w.gpus vm.id).all fun request =>
    let free := deallocateByVm w.gpus vm.id
    let taken := gpusToAllocate free vm.hostId request
    (allocateAllGpus free target vm.id request).isNone ||
      (w.definition? vm.hostId vm.id).all fun d => d.devices.all fun g =>
        request.count ≤ taken.length && g ∈ taken.map (·.pciAddress)

/-- **What keeps ledger and definitions together.**  A start of a VM that is not `Created` finds its
GPUs still held; a sync reports the GPUs of running VMs; and a failover that is refused by
`start_vm_internal` gives back the GPUs it took, if it could not remove the definition. -/
def GpuWorld.backed (w : GpuWorld) : GpuAction → Bool
  | .start vmId o => (w.vm? vmId).all fun vm =>
    vm.status = .created || !vm.status.startable || o ≠ .succeeds || w.covers vm.hostId vmId
  | .failover vmId target call => (w.vm? vmId).all fun vm =>
    !call.startRefused || call.oldDeleted || vm.status ≠ .running || w.regains vm target
  | .sync hostId discovered => !decide (discovered.map (·.pciAddress)).Nodup || w.vms.all fun vm =>
    vm.status ≠ .running || vm.hostId ≠ hostId ||
      (w.definition? hostId vm.id).all fun d =>
        d.devices.all (· ∈ discovered.map (·.pciAddress))
  | _ => true

/-- What holds of one VM: running, it holds its GPUs; `Created`, its GPUs are on its host; and a
holder has a row. -/
structure Own (vmId : Uuid) (w : GpuWorld) : Prop where
  running : ∀ vm ∈ w.vms, vm.id = vmId → vm.status = .running → w.Covered vm.hostId vmId
  created : ∀ vm ∈ w.vms, vm.id = vmId → vm.status = .created →
    ∀ gpu ∈ w.gpus, gpu.vmId = some vmId → gpu.hostId = vm.hostId
  known : ∀ gpu ∈ w.gpus, gpu.vmId = some vmId → ∃ vm ∈ w.vms, vm.id = vmId

/-- **The coupling of ledger and definitions.** -/
structure Coupled (w : GpuWorld) : Prop where
  keys : (w.gpus.map HostGpu.key).Nodup
  ids : (w.vms.map GpuVm.id).Nodup
  own : ∀ vmId, Own vmId w

/-- Nothing changes for the other VMs. -/
structure Beside (vmId : Uuid) (w w' : GpuWorld) : Prop where
  vms : ∀ vm, vm.id ≠ vmId → (vm ∈ w'.vms ↔ vm ∈ w.vms)
  definition : ∀ hostId other, other ≠ vmId →
    w'.definition? hostId other = w.definition? hostId other
  holds : ∀ hostId g other, other ≠ vmId → Holds w.gpus hostId g other →
    Holds w'.gpus hostId g other
  owner : ∀ gpu' ∈ w'.gpus, ∀ other, other ≠ vmId → gpu'.vmId = some other →
    ∃ gpu ∈ w.gpus, gpu.vmId = some other ∧ gpu.hostId = gpu'.hostId

section Coupling

variable {w w' w'' : GpuWorld} {vmId other hostId : Uuid} {vm : GpuVm}

lemma covers_iff : w.covers hostId vmId = true ↔ w.Covered hostId vmId := by
  simp only [GpuWorld.covers, GpuWorld.Covered, Holds, Option.all_eq_true, List.all_eq_true,
    List.any_eq_true, Bool.and_eq_true, decide_eq_true_eq]

lemma mem_of_gpuVm? (h : w.vm? vmId = some vm) : vm ∈ w.vms ∧ vm.id = vmId :=
  ⟨List.mem_of_find?_eq_some h, by simpa using List.find?_some h⟩

lemma Coupled.eq_of_id (h : Coupled w) {vm' : GpuVm} (hvm : vm ∈ w.vms) (hvm' : vm' ∈ w.vms)
    (hid : vm'.id = vm.id) : vm' = vm :=
  List.inj_on_of_nodup_map h.ids hvm' hvm hid

lemma Own.beside (h : Own other w) (hb : Beside vmId w w') (hne : other ≠ vmId) : Own other w' := by
  constructor
  · rintro vm hvm rfl hrunning d hd g hg
    rw [hb.definition _ _ hne] at hd
    exact hb.holds _ _ _ hne (h.running vm ((hb.vms vm hne).1 hvm) rfl hrunning d hd g hg)
  · rintro vm hvm rfl hcreated gpu' hgpu' howner
    obtain ⟨gpu, hgpu, howner', hhost⟩ := hb.owner gpu' hgpu' _ hne howner
    rw [← hhost]
    exact h.created vm ((hb.vms vm hne).1 hvm) rfl hcreated gpu hgpu howner'
  · intro gpu' hgpu' howner
    obtain ⟨gpu, hgpu, howner', -⟩ := hb.owner gpu' hgpu' _ hne howner
    obtain ⟨vm, hvm, rfl⟩ := h.known gpu hgpu howner'
    exact ⟨vm, (hb.vms vm hne).2 hvm, rfl⟩

/-- An operation on one VM. -/
lemma Coupled.beside (h : Coupled w) (hb : Beside vmId w w')
    (hkeys : (w'.gpus.map HostGpu.key).Nodup) (hids : (w'.vms.map GpuVm.id).Nodup)
    (hown : Own vmId w') : Coupled w' := by
  refine ⟨hkeys, hids, fun other => ?_⟩
  by_cases hne : other = vmId
  · exact hne ▸ hown
  · exact (h.own other).beside hb hne

lemma Beside.refl (vmId : Uuid) (w : GpuWorld) : Beside vmId w w :=
  ⟨fun _ _ => Iff.rfl, fun _ _ _ => rfl, fun _ _ _ _ => id,
    fun gpu hgpu _ _ howner => ⟨gpu, hgpu, howner, rfl⟩⟩

lemma Beside.trans (h : Beside vmId w w') (h' : Beside vmId w' w'') : Beside vmId w w'' := by
  refine ⟨fun vm hne => (h'.vms vm hne).trans (h.vms vm hne),
    fun hostId other hne => (h'.definition hostId other hne).trans (h.definition hostId other hne),
    fun hostId g other hne hheld => h'.holds _ _ _ hne (h.holds _ _ _ hne hheld), ?_⟩
  intro gpu'' hgpu'' other hne howner
  obtain ⟨gpu', hgpu', howner', hhost'⟩ := h'.owner gpu'' hgpu'' other hne howner
  obtain ⟨gpu, hgpu, howner'', hhost⟩ := h.owner gpu' hgpu' other hne howner'
  exact ⟨gpu, hgpu, howner'', hhost.trans hhost'⟩

variable {f : GpuVm → GpuVm} {gpus : List HostGpu} {request : GpuRequest} {target : Uuid}
  {call : FailoverCall}

/-- The row of the VM changes. -/
lemma Beside.setVm (hf : ∀ vm, vm.id = vmId → (f vm).id = vmId) :
    Beside vmId w (w.setVm vmId f) := by
  refine ⟨fun vm hne => ?_, (Beside.refl vmId w).definition, (Beside.refl vmId w).holds,
    (Beside.refl vmId w).owner⟩
  rw [GpuWorld.setVm, Rows.mem_update]
  constructor
  · rintro (⟨vm₀, -, hid, rfl⟩ | ⟨hvm, -⟩)
    · exact absurd (hf vm₀ hid) hne
    · exact hvm
  · exact fun hvm => .inr ⟨hvm, hne⟩

lemma definition?_undefine (host other : Uuid) :
    (w.undefine hostId vmId).definition? host other =
      if host = hostId ∧ other = vmId then none else w.definition? host other := by
  simp only [GpuWorld.undefine, GpuWorld.definition?, List.find?_filter]
  split_ifs with hsame
  · obtain ⟨rfl, rfl⟩ := hsame
    refine List.find?_eq_none.2 fun d _ hd => ?_
    obtain ⟨hkept, hfound⟩ := of_decide_eq_true hd
    rw [hfound] at hkept
    cases hkept
  · congr 1
    funext d
    by_cases hd : d.hostId = host ∧ d.vmId = other
    · obtain ⟨rfl, rfl⟩ := hd
      simpa using not_and_or.1 hsame
    · have hother : (decide (d.hostId = host) && decide (d.vmId = other)) = false := by
        simpa using hd
      simp [hother]

lemma Beside.undefine : Beside vmId w (w.undefine hostId vmId) := by
  refine ⟨fun _ _ => Iff.rfl, fun host other hne => ?_, (Beside.refl vmId w).holds,
    (Beside.refl vmId w).owner⟩
  rw [definition?_undefine, if_neg fun hsame => hne hsame.2]

lemma Covered.undefine {host other : Uuid} (h : w.Covered host other) :
    (w.undefine hostId vmId).Covered host other := by
  intro d hd
  rw [definition?_undefine] at hd
  split_ifs at hd
  exact h d hd

/-- What `define` does. -/
lemma define_eq (h : w.define vm = some w') :
    w' = { w with definitions :=
      ⟨vm.hostId, vm.id, (listGpusByVm w.gpus vm.id).map (·.pciAddress)⟩ :: w.definitions } := by
  unfold GpuWorld.define at h
  split_ifs at h
  exact (Option.some.inj h).symm

lemma Beside.define (h : w.define vm = some w') : Beside vm.id w w' := by
  obtain rfl := define_eq h
  refine ⟨fun _ _ => Iff.rfl, fun host other hne => ?_, (Beside.refl _ w).holds,
    (Beside.refl _ w).owner⟩
  exact List.find?_cons_of_neg (by simp [hne.symm])

/-- Only the ledger changes, and of other VMs nothing. -/
lemma Beside.setGpus (hholds : ∀ hostId g other, other ≠ vmId → Holds w.gpus hostId g other →
      Holds gpus hostId g other)
    (howner : ∀ gpu ∈ gpus, ∀ other, other ≠ vmId → gpu.vmId = some other → gpu ∈ w.gpus) :
    Beside vmId w { w with gpus } :=
  ⟨fun _ _ => Iff.rfl, fun _ _ _ => rfl, hholds,
    fun gpu hgpu other hne hvm => ⟨gpu, howner gpu hgpu other hne hvm, hvm, rfl⟩⟩

lemma Beside.deallocateByVm : Beside vmId w { w with gpus := deallocateByVm w.gpus vmId } :=
  .setGpus (fun _ _ _ hne hheld => hheld.deallocateByVm hne)
    fun _ hgpu _ _ hvm => (owner_of_deallocateByVm hgpu hvm).1

lemma Beside.allocateAllGpus (hkeys : (w.gpus.map HostGpu.key).Nodup)
    (h : allocateAllGpus w.gpus hostId vmId request = some gpus) :
    Beside vmId w { w with gpus } := by
  refine .setGpus (fun _ _ _ _ hheld => hheld.allocateAllGpus hkeys h)
    fun gpu hgpu other hne hvm => ?_
  rcases owner_of_allocateAllGpus hkeys h hgpu hvm with hold | ⟨hself, -⟩
  · exact hold
  · exact absurd hself hne

/-- What `reallocate_vm_gpus` does: the VM holds GPUs of the target host only. -/
lemma beside_reallocateVmGpus (hkeys : (w.gpus.map HostGpu.key).Nodup)
    (h : reallocateVmGpus w.gpus vmId target request = some gpus) :
    Beside vmId w { w with gpus } ∧ gpus.map HostGpu.key = w.gpus.map HostGpu.key ∧
      ∀ gpu ∈ gpus, gpu.vmId = some vmId → gpu.hostId = target := by
  have hkeys' : ((Qarax.deallocateByVm w.gpus vmId).map HostGpu.key).Nodup := by
    rwa [keys_deallocateByVm]
  refine ⟨Beside.deallocateByVm.trans (Beside.allocateAllGpus hkeys' h),
    (keys_allocateAllGpus h).trans keys_deallocateByVm, fun gpu hgpu hvm => ?_⟩
  rcases owner_of_allocateAllGpus hkeys' h hgpu hvm with hold | ⟨-, hhost⟩
  · exact absurd rfl (owner_of_deallocateByVm hold hvm).2
  · exact hhost

lemma ids_setVm (hf : ∀ vm, vm.id = vmId → (f vm).id = vmId) :
    (w.setVm vmId f).vms.map GpuVm.id = w.vms.map GpuVm.id :=
  Rows.map_key_update hf

variable (h : Coupled w)

include h

/-- The row of the VM is written; what then holds of it is known of the new row. -/
lemma Coupled.setVm (hf : ∀ vm, vm.id = vmId → (f vm).id = vmId)
    (hrunning : ∀ vm ∈ w.vms, vm.id = vmId → (f vm).status = .running →
      w.Covered (f vm).hostId vmId)
    (hcreated : ∀ vm ∈ w.vms, vm.id = vmId → (f vm).status = .created →
      ∀ gpu ∈ w.gpus, gpu.vmId = some vmId → gpu.hostId = (f vm).hostId) :
    Coupled (w.setVm vmId f) := by
  refine h.beside (.setVm hf) h.keys (by rw [ids_setVm hf]; exact h.ids) ⟨?_, ?_, ?_⟩
  · intro vm' hvm' hid
    rcases Rows.mem_update.1 hvm' with ⟨vm, hvm, hid', rfl⟩ | ⟨-, hne⟩
    · exact hrunning vm hvm hid'
    · exact absurd hid hne
  · intro vm' hvm' hid
    rcases Rows.mem_update.1 hvm' with ⟨vm, hvm, hid', rfl⟩ | ⟨-, hne⟩
    · exact hcreated vm hvm hid'
    · exact absurd hid hne
  · intro gpu hgpu hvm
    obtain ⟨vm, hmem, hid⟩ := (h.own vmId).known gpu hgpu hvm
    exact ⟨f vm, Rows.mem_update.2 (.inl ⟨vm, hmem, hid, rfl⟩), hf vm hid⟩

/-- A status other than `Running` and `Created`. -/
lemma Coupled.setStatus {status : VmStatus} (hrunning : status ≠ .running)
    (hcreated : status ≠ .created) : Coupled (w.setStatus vmId status) :=
  h.setVm (fun _ => id) (fun _ _ _ hs => absurd hs hrunning) fun _ _ _ hs => absurd hs hcreated

lemma Coupled.setRunning (hvm : vm ∈ w.vms) (hcovered : w.Covered vm.hostId vm.id) :
    Coupled (w.setStatus vm.id .running) := by
  refine h.setVm (fun _ => id) (fun vm' hvm' hid _ => ?_) fun _ _ _ hs => nomatch hs
  rw [h.eq_of_id hvm hvm' hid]
  exact hcovered

/-- `create_vm` for a `Created` VM gives it GPUs that it holds. -/
lemma Coupled.define (hvm : vm ∈ w.vms) (hcreated : vm.status = .created)
    (hdefine : w.define vm = some w') : Coupled w' ∧ w'.Covered vm.hostId vm.id := by
  have hbeside := Beside.define hdefine
  obtain rfl := define_eq hdefine
  refine ⟨h.beside hbeside h.keys h.ids ⟨?_, (h.own vm.id).created, (h.own vm.id).known⟩, ?_⟩
  · intro vm' hvm' hid hrunning
    rw [h.eq_of_id hvm hvm' hid, hcreated] at hrunning
    cases hrunning
  · intro d hd g hg
    have hself : d = ⟨vm.hostId, vm.id, (listGpusByVm w.gpus vm.id).map (·.pciAddress)⟩ :=
      (Option.some.inj ((List.find?_cons_of_pos (by simp)).symm.trans hd)).symm
    rw [hself] at hg
    obtain ⟨gpu, hgpu, rfl⟩ := List.mem_map.1 hg
    obtain ⟨hgpu, howner⟩ := mem_listGpusByVm.1 hgpu
    have hhost := (h.own vm.id).created vm hvm rfl hcreated gpu hgpu howner
    exact ⟨gpu, hgpu, by rw [HostGpu.key, hhost], howner⟩

/-- **A start keeps the coupling**, if a VM that is not `Created` has its GPUs. -/
lemma coupled_startVm {o : StartOutcome} (hvm : vm ∈ w.vms)
    (hcovered : vm.status ≠ .created → o = .succeeds → w.Covered vm.hostId vm.id) :
    Coupled (w.startVm vm o) := by
  have hpending : Coupled (w.setStatus vm.id .pending) := h.setStatus (by decide) (by decide)
  by_cases hcreated : vm.status = .created
  · rw [GpuWorld.startVm.eq_def, if_pos hcreated]
    cases hdefine : w.define vm with
    | none => rcases o with _ | (_ | _) | (_ | _) | _ | _ <;> first | exact hpending | exact h
    | some w' =>
      obtain ⟨h', hcovered'⟩ := h.define hvm hcreated hdefine
      have hvm' : vm ∈ w'.vms := by rwa [define_eq hdefine]
      rcases o with _ | (_ | _) | (_ | _) | _ | _
      · exact hpending
      · exact h
      · exact h'
      · exact h'
      · exact h
      · exact h'
      · exact h'.setRunning hvm' hcovered'
  · rw [GpuWorld.startVm.eq_def, if_neg hcreated]
    cases o with
    | stuck => exact hpending
    | succeeds =>
      split_ifs
      · exact h.setRunning hvm (hcovered hcreated rfl)
      · exact h
    | createFails | cleanedUp | startFails => exact h

lemma coupled_undefine : Coupled (w.undefine hostId vmId) :=
  h.beside .undefine h.keys h.ids
    ⟨fun vm hvm hid hs => Covered.undefine ((h.own vmId).running vm hvm hid hs),
      (h.own vmId).created, (h.own vmId).known⟩

omit h in
lemma not_held_of_gpuRequestForVm (h : gpuRequestForVm gpus vmId = none) :
    ∀ gpu ∈ gpus, gpu.vmId ≠ some vmId := by
  intro gpu hgpu howner
  have hmem : gpu ∈ listGpusByVm gpus vmId := mem_listGpusByVm.2 ⟨hgpu, howner⟩
  unfold gpuRequestForVm at h
  split at h
  · rename_i hnil
    rw [hnil] at hmem
    cases hmem
  · cases h

omit h in
/-- The ledger of a failover, with or without GPUs. -/
lemma beside_moveGpus (hkeys : (w.gpus.map HostGpu.key).Nodup)
    (h : (gpuRequestForVm w.gpus vmId).elim (some w.gpus) (reallocateVmGpus w.gpus vmId target)
      = some gpus) :
    Beside vmId w { w with gpus } ∧ gpus.map HostGpu.key = w.gpus.map HostGpu.key ∧
      ∀ gpu ∈ gpus, gpu.vmId = some vmId → gpu.hostId = target := by
  cases hrequest : gpuRequestForVm w.gpus vmId with
  | none =>
    rw [hrequest] at h
    cases h
    exact ⟨.refl vmId w, rfl, fun gpu hgpu hheld =>
      absurd hheld (not_held_of_gpuRequestForVm hrequest gpu hgpu)⟩
  | some request =>
    rw [hrequest] at h
    exact beside_reallocateVmGpus hkeys h

omit h in
/-- The GPUs are moved and, perhaps, back again. -/
lemma beside_putBackGpus (w : GpuWorld) (vmId hostId : Uuid)
    (request : Option GpuRequest) (hkeys : (gpus.map HostGpu.key).Nodup) :
    let gpus' := request.elim gpus fun request =>
      (reallocateVmGpus gpus vmId hostId request).getD gpus
    Beside vmId { w with gpus } { w with gpus := gpus' } ∧
      gpus'.map HostGpu.key = gpus.map HostGpu.key := by
  cases request with
  | none => exact ⟨.refl _ _, rfl⟩
  | some request =>
    simp only [Option.elim_some]
    cases hback : reallocateVmGpus gpus vmId hostId request with
    | none => exact ⟨.refl _ _, rfl⟩
    | some gpus' =>
      obtain ⟨hbeside, hkeys', -⟩ := beside_reallocateVmGpus (w := { w with gpus }) hkeys hback
      exact ⟨hbeside, hkeys'⟩

omit h in
/-- Going back after going to the target is staying. -/
lemma reallocateVmGpus_back (hkeys : (w.gpus.map HostGpu.key).Nodup)
    (h : reallocateVmGpus w.gpus vmId target request = some gpus) :
    reallocateVmGpus gpus vmId hostId request = reallocateVmGpus w.gpus vmId hostId request := by
  have hkeys' : ((deallocateByVm w.gpus vmId).map HostGpu.key).Nodup := by
    rwa [keys_deallocateByVm]
  rw [reallocateVmGpus, deallocateByVm_allocateAllGpus hkeys' h, deallocateByVm_deallocateByVm,
    reallocateVmGpus]

/-- The VM has its GPUs again. -/
lemma covered_putBackGpus (hcovered : w.Covered vm.hostId vm.id)
    (hregains : w.regains vm target = true)
    (hmove : (gpuRequestForVm w.gpus vm.id).elim (some w.gpus)
        (reallocateVmGpus w.gpus vm.id target)
      = some gpus) :
    GpuWorld.Covered { w with gpus := (gpuRequestForVm w.gpus vm.id).elim gpus fun request =>
      (reallocateVmGpus gpus vm.id vm.hostId request).getD gpus } vm.hostId vm.id := by
  cases hrequest : gpuRequestForVm w.gpus vm.id with
  | none =>
    rw [hrequest] at hmove
    cases hmove
    exact hcovered
  | some request =>
    rw [hrequest] at hmove
    have hmove' : allocateAllGpus (deallocateByVm w.gpus vm.id) target vm.id request = some gpus :=
      hmove
    intro d hd g hg
    have hd' : w.definition? vm.hostId vm.id = some d := hd
    simp only [GpuWorld.regains, hrequest, hmove', hd', Option.all_some, Option.isNone_some,
      Bool.false_or, List.all_eq_true, Bool.and_eq_true, decide_eq_true_eq] at hregains
    obtain ⟨hcount, hmem⟩ := hregains g hg
    obtain ⟨gpu, htaken, rfl⟩ := List.mem_map.1 hmem
    obtain ⟨gpus', hback⟩ := allocateAllGpus_of_enough vm.id
      (count_gpuRequestForVm hrequest) hcount
    rw [Option.elim_some, reallocateVmGpus_back h.keys hmove, reallocateVmGpus, hback]
    exact holds_of_taken hback htaken

/-- **The part of a failover that moves GPUs and the row.** -/
lemma coupled_moveVm (hvm : vm ∈ w.vms)
    (hcreated : vm.status ≠ .created)
    (hback : call.startRefused = true → vm.status = .running → w.regains vm target = true) :
    Coupled (w.moveVm vm target call) := by
  unfold GpuWorld.moveVm
  simp only
  split
  · exact h
  · rename_i gpus hmove
    obtain ⟨hbeside, hkeys, htarget⟩ := beside_moveGpus h.keys hmove
    have hnodup : (gpus.map HostGpu.key).Nodup := hkeys ▸ h.keys
    split_ifs with hrefused
    · obtain ⟨hbeside', hkeys'⟩ :=
        beside_putBackGpus w vm.id vm.hostId (gpuRequestForVm w.gpus vm.id) hnodup
      refine h.beside (hbeside.trans hbeside') (hkeys' ▸ hnodup) h.ids ⟨?_, ?_, ?_⟩
      · intro vm' hvm' hid hrunning
        rw [h.eq_of_id hvm hvm' hid] at hrunning ⊢
        exact covered_putBackGpus h ((h.own vm.id).running vm hvm rfl hrunning)
          (hback hrefused hrunning) hmove
      · intro vm' hvm' hid hcreated'
        rw [h.eq_of_id hvm hvm' hid] at hcreated'
        exact absurd hcreated' hcreated
      · exact fun _ _ _ => ⟨vm, hvm, rfl⟩
    · set moved : GpuVm := { vm with status := .created, hostId := target }
      have hmem : moved ∈ (w.setVm vm.id fun _ => moved).vms :=
        Rows.mem_update.2 (.inl ⟨vm, hvm, rfl, rfl⟩)
      have honly : ∀ vm' ∈ (w.setVm vm.id fun _ => moved).vms, vm'.id = vm.id → vm' = moved := by
        intro vm' hvm' hid
        rcases Rows.mem_update.1 hvm' with ⟨-, -, -, rfl⟩ | ⟨-, hne⟩
        · rfl
        · exact absurd hid hne
      have hmoved : Beside vm.id w { w.setVm vm.id fun _ => moved with gpus } :=
        hbeside.trans (.setVm (w := { w with gpus }) fun _ _ => rfl)
      have hids : ((w.setVm vm.id fun _ => moved).vms.map GpuVm.id).Nodup := by
        rw [ids_setVm (f := fun _ => moved) fun _ _ => rfl]
        exact h.ids
      refine coupled_startVm (h.beside hmoved hnodup hids ⟨?_, ?_, ?_⟩) hmem
        fun hne => absurd rfl hne
      · intro vm' hvm' hid hrunning
        rw [honly vm' hvm' hid] at hrunning
        cases hrunning
      · intro vm' hvm' hid _ gpu hgpu hheld
        rw [honly vm' hvm' hid]
        exact htarget gpu hgpu hheld
      · exact fun _ _ _ => ⟨moved, hmem, rfl⟩

omit h in
lemma regains_undefine : (w.undefine vm.hostId vm.id).regains vm target = true := by
  simp [GpuWorld.regains, definition?_undefine]

/-- **A failover keeps the coupling**, if a refused start does not leave a definition with GPUs. -/
lemma coupled_executeFailover (hvm : vm ∈ w.vms) (hcreated : vm.status ≠ .created)
    (hback : call.startRefused = true → call.oldDeleted = true ∨ vm.status ≠ .running ∨
      w.regains vm target = true) :
    Coupled (w.executeFailover vm target call) := by
  unfold GpuWorld.executeFailover
  split_ifs with hdeleted
  · exact coupled_moveVm (coupled_undefine h) hvm hcreated fun _ _ => regains_undefine
  · refine coupled_moveVm h hvm hcreated fun hrefused hrunning => ?_
    rcases hback hrefused with hold | hstatus | hregains
    · exact absurd hold hdeleted
    · exact absurd hrunning hstatus
    · exact hregains

lemma coupled_create {accelerator : Option GpuRequest} (hnew : w.vm? vmId = none)
    (hgpus : accelerator.elim (some w.gpus) (allocateAllGpus w.gpus hostId vmId) = some gpus) :
    Coupled { w with vms := ⟨vmId, .created, hostId⟩ :: w.vms, gpus } := by
  have hnot : ∀ vm ∈ w.vms, vm.id ≠ vmId := by simpa [GpuWorld.vm?] using hnew
  have hledger : Beside vmId w { w with gpus } ∧ gpus.map HostGpu.key = w.gpus.map HostGpu.key ∧
      ∀ gpu ∈ gpus, gpu.vmId = some vmId → gpu ∈ w.gpus ∨ gpu.hostId = hostId := by
    cases accelerator with
    | none =>
      cases hgpus
      exact ⟨.refl vmId w, rfl, fun gpu hgpu _ => .inl hgpu⟩
    | some request =>
      exact ⟨.allocateAllGpus h.keys hgpus, keys_allocateAllGpus hgpus, fun gpu hgpu hvm =>
        (owner_of_allocateAllGpus h.keys hgpus hgpu hvm).imp_right And.right⟩
  obtain ⟨hbeside, hkeys, howned⟩ := hledger
  have hrow : Beside vmId { w with gpus }
      { w with vms := ⟨vmId, .created, hostId⟩ :: w.vms, gpus } :=
    ⟨fun vm hne => by simpa using fun heq => absurd (congrArg GpuVm.id heq) hne, fun _ _ _ => rfl,
      fun _ _ _ _ => id, (Beside.refl vmId { w with gpus }).owner⟩
  refine h.beside (hbeside.trans hrow) (hkeys ▸ h.keys) ?_ ⟨?_, ?_, ?_⟩
  · refine List.nodup_cons.2 ⟨fun hmem => ?_, h.ids⟩
    obtain ⟨vm, hvm, hid⟩ := List.mem_map.1 hmem
    exact hnot vm hvm hid
  · intro vm hvm hid hrunning
    rcases List.mem_cons.1 hvm with rfl | hvm
    · cases hrunning
    · exact absurd hid (hnot vm hvm)
  · intro vm hvm hid _ gpu hgpu hheld
    rcases List.mem_cons.1 hvm with rfl | hvm
    · rcases howned gpu hgpu hheld with hold | hhost
      · -- nobody holds GPUs under an id that is not in use
        obtain ⟨vm, hvm, hid⟩ := (h.own vmId).known gpu hold hheld
        exact absurd hid (hnot vm hvm)
      · exact hhost
    · exact absurd hid (hnot vm hvm)
  · exact fun _ _ _ => ⟨⟨vmId, .created, hostId⟩, List.mem_cons_self, rfl⟩

lemma coupled_stop :
    Coupled { w.setStatus vmId .shutdown with gpus := deallocateByVm w.gpus vmId } := by
  have hset : Coupled (w.setStatus vmId .shutdown) := h.setStatus (by decide) (by decide)
  refine hset.beside .deallocateByVm (by rw [keys_deallocateByVm]; exact h.keys) hset.ids
    ⟨?_, ?_, ?_⟩
  · intro vm hvm hid
    rcases Rows.mem_update.1 hvm with ⟨vm, -, -, rfl⟩ | ⟨-, hne⟩
    · exact fun hrunning => nomatch hrunning
    · exact absurd hid hne
  · exact fun _ _ _ _ gpu hgpu hheld => absurd rfl (owner_of_deallocateByVm hgpu hheld).2
  · exact fun gpu hgpu hheld => absurd rfl (owner_of_deallocateByVm hgpu hheld).2

lemma coupled_delete : Coupled { w with
    vms := w.vms.filter (·.id ≠ vmId), gpus := deallocateByVm w.gpus vmId } := by
  have hrow : Beside vmId { w with gpus := deallocateByVm w.gpus vmId } { w with
      vms := w.vms.filter (·.id ≠ vmId), gpus := deallocateByVm w.gpus vmId } :=
    ⟨fun vm hne => by simp [hne], fun _ _ _ => rfl, fun _ _ _ _ => id, (Beside.refl vmId _).owner⟩
  have hnot : ∀ vm ∈ w.vms.filter (·.id ≠ vmId), vm.id ≠ vmId := fun vm hvm => by
    simpa using (List.mem_filter.1 hvm).2
  refine h.beside (Beside.deallocateByVm.trans hrow) (by rw [keys_deallocateByVm]; exact h.keys)
    ((List.filter_sublist.map _).nodup h.ids) ⟨?_, ?_, ?_⟩
  · exact fun vm hvm hid => absurd hid (hnot vm hvm)
  · exact fun vm hvm hid => absurd hid (hnot vm hvm)
  · exact fun gpu hgpu hheld => absurd rfl (owner_of_deallocateByVm hgpu hheld).2

lemma coupled_sync {discovered : List GpuDiscovery}
    (hsync : syncGpus w.gpus hostId discovered = some gpus)
    (hreported : ∀ vm ∈ w.vms, vm.status = .running → vm.hostId = hostId →
      ∀ d, w.definition? hostId vm.id = some d →
        ∀ g ∈ d.devices, g ∈ discovered.map (·.pciAddress)) :
    Coupled { w with gpus } := by
  refine ⟨keys_syncGpus h.keys hsync, h.ids, fun vmId => ⟨?_, ?_, ?_⟩⟩
  · rintro vm hvm rfl hrunning d hd g hg
    refine ((h.own vm.id).running vm hvm rfl hrunning d hd g hg).syncGpus hsync fun hhost => ?_
    exact hreported vm hvm hrunning hhost d (hhost ▸ hd) g hg
  · rintro vm hvm rfl hcreated gpu' hgpu' hheld
    obtain ⟨gpu, hgpu, hkey, hheld⟩ := owner_of_syncGpus hsync hgpu' hheld
    have hhost : gpu.hostId = gpu'.hostId := congrArg Prod.fst hkey
    rw [← hhost]
    exact (h.own vm.id).created vm hvm rfl hcreated gpu hgpu hheld
  · intro gpu' hgpu' hheld
    obtain ⟨gpu, hgpu, -, hheld⟩ := owner_of_syncGpus hsync hgpu' hheld
    exact (h.own vmId).known gpu hgpu hheld

/-- **Every operation keeps the coupling**, under the condition. -/
lemma coupled_step {a : GpuAction} (hok : w.backed a = true)
    (hstep : w.step a = some w') : Coupled w' := by
  cases a with
  | create vmId hostId accelerator =>
    simp only [GpuWorld.step, Option.isSome_iff_ne_none] at hstep
    split_ifs at hstep with hnew
    split at hstep
    · cases hstep
      exact h
    · rename_i gpus hgpus
      cases hstep
      exact coupled_create h (not_not.1 hnew) hgpus
  | start vmId o =>
    obtain ⟨vm, hvm?, hrest⟩ := Option.bind_eq_some_iff.1 hstep
    obtain ⟨hvm, rfl⟩ := mem_of_gpuVm? hvm?
    simp only [GpuWorld.backed, hvm?, Option.all_some, Bool.or_eq_true, Bool.not_eq_true',
      decide_eq_true_eq, covers_iff] at hok
    split_ifs at hrest with hstartable <;> cases hrest
    · refine coupled_startVm h hvm fun hcreated ho => ?_
      rcases hok with ((hstatus | hnot) | ho') | hcovered
      · exact absurd hstatus hcreated
      · exact absurd hstartable (Bool.not_eq_true _ ▸ hnot)
      · exact absurd ho ho'
      · exact hcovered
    · exact h
  | stop vmId accepted =>
    obtain ⟨vm, -, hstep⟩ := Option.bind_eq_some_iff.1 hstep
    split_ifs at hstep <;> cases hstep
    · exact coupled_stop h
    · exact h
  | delete vmId nodeDeletes =>
    obtain ⟨vm, -, hstep⟩ := Option.bind_eq_some_iff.1 hstep
    cases hstep
    split_ifs
    · exact coupled_delete (coupled_undefine h)
    · exact coupled_delete h
  | failover vmId target call =>
    obtain ⟨vm, hvm?, hrest⟩ := Option.bind_eq_some_iff.1 hstep
    obtain ⟨hvm, rfl⟩ := mem_of_gpuVm? hvm?
    simp only [GpuWorld.backed, hvm?, Option.all_some, Bool.or_eq_true, Bool.not_eq_true',
      decide_eq_true_eq] at hok
    split_ifs at hrest with hfailover
    cases hrest
    refine coupled_executeFailover h hvm (fun hcreated => ?_) fun hrefused => ?_
    · rw [hcreated] at hfailover
      exact absurd hfailover.1 (by decide)
    · rcases hok with ((hno | hdeleted) | hstatus) | hregains
      · rw [hrefused] at hno
        cases hno
      · exact .inl hdeleted
      · exact .inr (.inl hstatus)
      · exact .inr (.inr hregains)
  | sync hostId discovered =>
    cases hstep
    cases hsync : syncGpus w.gpus hostId discovered with
    | none => exact h
    | some gpus =>
      refine coupled_sync h hsync fun vm hvm hrunning hhost d hd => ?_
      simp only [GpuWorld.backed, (syncGpus_eq hsync).1, decide_true, Bool.not_true,
        Bool.false_or, List.all_eq_true] at hok
      simpa [hrunning, hhost, hd] using hok vm hvm

end Coupling

/-- Nothing is known yet. -/
def Unused (w : GpuWorld) : Prop := w = ⟨[], [], []⟩

lemma coupled_unused {w : GpuWorld} (h : Unused w) : Coupled w := by
  cases h
  exact ⟨List.nodup_nil, List.nodup_nil, fun _ =>
    ⟨(fun _ hvm => nomatch hvm), (fun _ hvm => nomatch hvm), (fun _ hgpu => nomatch hgpu)⟩⟩

/-- **Running VMs hold the GPUs they use**, and no GPU is used by two of them, in every state
reached by operations that meet the condition. -/
theorem running_vms_hold_their_gpus {w : GpuWorld}
    (h : Reach GpuWorld.step (fun w a => w.backed a = true) Unused w) :
    (∀ vm ∈ w.vms, vm.status = .running → ∀ d, w.definition? vm.hostId vm.id = some d →
      ∀ g ∈ d.devices, Holds w.gpus vm.hostId g vm.id) ∧
    (∀ vm ∈ w.vms, ∀ vm' ∈ w.vms, vm.status = .running → vm'.status = .running →
      vm'.hostId = vm.hostId →
      ∀ d d', w.definition? vm.hostId vm.id = some d → w.definition? vm'.hostId vm'.id = some d' →
        ∀ g ∈ d.devices, g ∈ d'.devices → vm' = vm) := by
  have hcoupled : Coupled w :=
    h.invariant (fun _ => coupled_unused) fun _ _ _ hw hok hstep => coupled_step hw hok hstep
  have hheld : ∀ vm ∈ w.vms, vm.status = .running → w.Covered vm.hostId vm.id :=
    fun vm hvm => (hcoupled.own vm.id).running vm hvm rfl
  refine ⟨hheld, fun vm hvm vm' hvm' hs hs' hhost d d' hd hd' g hg hg' => ?_⟩
  obtain ⟨gpu, hgpu, hkey, howner⟩ := hheld vm hvm hs d hd g hg
  obtain ⟨gpu', hgpu', hkey', howner'⟩ := hheld vm' hvm' hs' d' hd' g hg'
  -- one row of the ledger, and it has one holder
  have hsame : gpu' = gpu := HostGpu.eq_of_key hcoupled.keys hgpu' hgpu (by rw [hkey, hkey', hhost])
  rw [hsame, howner] at howner'
  exact hcoupled.eq_of_id hvm hvm' (Option.some.inj howner').symm

def gpuA : GpuDiscovery := ⟨"0000:01:00.0", "A100", "nvidia", 80⟩

def gpuB : GpuDiscovery := ⟨"0000:02:00.0", "A100", "nvidia", 80⟩

def oneGpu : Option GpuRequest := some ⟨1, none, none, none⟩

/-- A VM without GPUs is stopped and started again; one with a GPU is to be moved twice, and only
the second time this succeeds; then its old GPU is no longer reported. -/
def movedWithGpu : List GpuAction :=
  [.sync ⟨"h1"⟩ [gpuA, gpuB], .sync ⟨"h2"⟩ [gpuB],
    .create ⟨"v1"⟩ ⟨"h1"⟩ none, .start ⟨"v1"⟩ .succeeds, .stop ⟨"v1"⟩ true,
    .start ⟨"v1"⟩ .succeeds,
    .create ⟨"v2"⟩ ⟨"h1"⟩ oneGpu, .start ⟨"v2"⟩ .succeeds,
    .failover ⟨"v2"⟩ ⟨"h2"⟩ ⟨false, true, .succeeds⟩,
    .failover ⟨"v2"⟩ ⟨"h2"⟩ ⟨false, false, .succeeds⟩, .sync ⟨"h1"⟩ [gpuB]]

theorem movedWithGpu_holds_its_gpu :
    ∃ w, run GpuWorld.step ⟨[], [], []⟩ movedWithGpu = some w ∧
      w.definition? ⟨"h2"⟩ ⟨"v2"⟩ = some ⟨⟨"h2"⟩, ⟨"v2"⟩, [gpuB.pciAddress]⟩ ∧
      Holds w.gpus ⟨"h2"⟩ gpuB.pciAddress ⟨"v2"⟩ := by
  have hstart : Unused ⟨[], [], []⟩ := rfl
  refine (exists_reach (P := fun w => ⟨⟨"v2"⟩, .running, ⟨"h2"⟩⟩ ∈ w.vms ∧
      w.definition? ⟨"h2"⟩ ⟨"v2"⟩ = some ⟨⟨"h2"⟩, ⟨"v2"⟩, [gpuB.pciAddress]⟩) hstart ?_).imp
    fun w h => ⟨h.1, h.2.1.2, (running_vms_hold_their_gpus h.2.2).1 _ h.2.1.1 rfl _ h.2.1.2 _
      (List.mem_singleton.2 rfl)⟩
  decide +kernel

/-- The VM is stopped, its GPU is given to another VM, and it is started again. -/
def startedAgain : List GpuAction :=
  [.sync ⟨"h1"⟩ [gpuA], .create ⟨"v1"⟩ ⟨"h1"⟩ oneGpu, .start ⟨"v1"⟩ .succeeds, .stop ⟨"v1"⟩ true,
    .create ⟨"v2"⟩ ⟨"h1"⟩ oneGpu, .start ⟨"v2"⟩ .succeeds, .start ⟨"v1"⟩ .succeeds]

/-- The GPU of a running VM is missing in one report and there in the next. -/
def missingOnce : List GpuAction :=
  [.sync ⟨"h1"⟩ [gpuA], .create ⟨"v1"⟩ ⟨"h1"⟩ oneGpu, .start ⟨"v1"⟩ .succeeds,
    .sync ⟨"h1"⟩ [], .sync ⟨"h1"⟩ [gpuA], .create ⟨"v2"⟩ ⟨"h1"⟩ oneGpu, .start ⟨"v2"⟩ .succeeds]

/-- A failover is refused, and another GPU has become free on the old host. -/
def otherGivenBack : List GpuAction :=
  [.sync ⟨"h1"⟩ [gpuA, gpuB], .sync ⟨"h2"⟩ [gpuA], .create ⟨"v1"⟩ ⟨"h1"⟩ oneGpu,
    .create ⟨"v2"⟩ ⟨"h1"⟩ oneGpu, .start ⟨"v2"⟩ .succeeds, .delete ⟨"v1"⟩ true,
    .failover ⟨"v2"⟩ ⟨"h2"⟩ ⟨false, true, .succeeds⟩]

/-- **GPUs that were released or forgotten are still passed to their old VMs**: two running VMs have
one GPU, after a stop or after a report without it, and a VM runs with a GPU that is free. -/
theorem running_vms_share_gpu :
    (∀ actions ∈ [startedAgain, missingOnce],
      run GpuWorld.step ⟨[], [], []⟩ actions = some
        { vms := [⟨⟨"v2"⟩, .running, ⟨"h1"⟩⟩, ⟨⟨"v1"⟩, .running, ⟨"h1"⟩⟩]
          gpus := [⟨⟨"h1"⟩, "0000:01:00.0", "A100", "nvidia", some 80, some ⟨"v2"⟩⟩]
          definitions := [⟨⟨"h1"⟩, ⟨"v2"⟩, ["0000:01:00.0"]⟩,
            ⟨⟨"h1"⟩, ⟨"v1"⟩, ["0000:01:00.0"]⟩] }) ∧
    ∃ w ∈ run GpuWorld.step ⟨[], [], []⟩ otherGivenBack,
      w.vms = [⟨⟨"v2"⟩, .running, ⟨"h1"⟩⟩] ∧
      w.definitions = [⟨⟨"h1"⟩, ⟨"v2"⟩, ["0000:02:00.0"]⟩] ∧
      ⟨⟨"h1"⟩, "0000:02:00.0", "A100", "nvidia", some 80, none⟩ ∈ w.gpus := by
  decide +kernel

end Qarax
