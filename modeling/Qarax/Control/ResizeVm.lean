import Qarax.Core.Effect
import Qarax.Core.Machine
import Qarax.Control.PickHost

/-!
# Resizing a running VM

`resize_vm` checks the wanted sizes against the row of the VM, then against the capacity of its
host, asks the node and writes the new sizes to the columns the VM was created with.

* `ensureResizeCapacity` — the capacity check, with the query of `get_resource_capacity`.
* `resizeCapacity_iff` — it is the condition of the scheduler's query, for a cluster without the VM.
* `resizeVm`, `resizeStep` — the handler, and accepted requests one after the other.
* `hotplugBudget_iff` — when the memory stays within what the VM was created with.
-/

namespace Qarax

namespace ResizeVm

open PickHost Machine

/-! ## Capacity -/

structure HostResourceCapacity where
  totalCpus : Option Int
  allocatedVcpus : Int
  totalMemoryBytes : Option Int
  allocatedMemoryBytes : Int
  availableMemoryBytes : Option Int

/-- `get_resource_capacity` -/
def getResourceCapacity (db : Cluster) (hostId : Uuid) : Option HostResourceCapacity :=
  let rows := Query.leftJoin (fun (h : ScheduledHost) (a : Alloc) => Query.eq a.hostId (some h.id))
    db.hosts (alloc db.vms)
  (rows.find? fun row => row.1.id = hostId).map fun row => {
    totalCpus := row.1.totalCpus
    allocatedVcpus := Query.coalesce (row.2.bind (·.allocatedVcpus)) 0
    totalMemoryBytes := row.1.totalMemoryBytes
    allocatedMemoryBytes := Query.coalesce (row.2.bind (·.allocatedMemoryBytes)) 0
    availableMemoryBytes := row.1.availableMemoryBytes }

inductive ResizeError where
  | nothingDesired
  | notRunning
  | vcpusOutOfRange (vcpus bootVcpus maxVcpus : Int)
  | ramOutOfRange (ram memorySize maxRam : Int)
  | notMultiple (ram addition : Int)
  | noHost
  | hostNotFound
  | notFound
  | cpuCapacity (vcpus : Int) (host : String)
  | memoryCapacity (bytes : Int) (host : String)
  | healthFloor (host : String)
  | internal

/-- `HOTPLUG_MEMORY_INCREMENT_BYTES` -/
def hotplugMemoryIncrementBytes : Int := 128 * 1024 * 1024

def ResizeError.message : ResizeError → String
  | .nothingDesired => "At least one of desired_vcpus or desired_ram must be provided"
  | .notRunning => "VM must be running to resize CPU or memory"
  | .vcpusOutOfRange vcpus bootVcpus maxVcpus =>
    s!"desired_vcpus {vcpus} is out of range [{bootVcpus}, {maxVcpus}]"
  | .ramOutOfRange ram memorySize maxRam =>
    s!"desired_ram {ram} is out of range [{memorySize}, {maxRam}]"
  | .notMultiple ram addition =>
    s!"desired_ram {ram} requires a hotplug addition of {addition} bytes, which is not a " ++
      s!"multiple of {hotplugMemoryIncrementBytes} bytes"
  | .noHost => "VM has no assigned host"
  | .hostNotFound => "assigned host not found"
  | .notFound => "Not found"
  | .cpuCapacity vcpus host =>
    s!"resizing to {vcpus} vCPUs would exceed host CPU capacity on {host}"
  | .memoryCapacity bytes host =>
    s!"resizing to {bytes} bytes would exceed host memory capacity on {host}"
  | .healthFloor host => s!"host {host} is below the configured memory health floor"
  | .internal => "Internal server error"

/-- The sums with the VM at its target are above the floor of the total times the ratio. -/
def exceeds (ratio : ℚ) (total : Option Int) (allocated current target : Int) : Bool :=
  total.any fun (total : Int) => ⌊(total : ℚ) * ratio⌋ < allocated - current + target

def ensureResizeCapacity (settings : SchedulingSettings) (db : Cluster) (vm : ScheduledVm)
    (host : ScheduledHost) (desiredVcpus desiredRam : Option Int) : Except ResizeError Unit :=
  match getResourceCapacity db host.id with
  | none => .error .notFound
  | some capacity =>
    let targetVcpus := desiredVcpus.getD vm.bootVcpus
    let targetMemory := desiredRam.getD vm.memorySize
    if exceeds settings.cpuOversubscriptionRatio capacity.totalCpus capacity.allocatedVcpus
        vm.bootVcpus targetVcpus then
      .error (.cpuCapacity targetVcpus host.name)
    else if exceeds settings.memoryOversubscriptionRatio capacity.totalMemoryBytes
        capacity.allocatedMemoryBytes vm.memorySize targetMemory then
      .error (.memoryCapacity targetMemory host.name)
    else if desiredRam.any (vm.memorySize < ·) &&
        capacity.availableMemoryBytes.any (· ≤ settings.memoryHealthFloorBytes) then
      .error (.healthFloor host.name)
    else .ok ()

/-- The answer is not a refusal by one of the two oversubscription checks. -/
def oversubscriptionOk : Except ResizeError Unit → Bool
  | .error (.cpuCapacity _ _) | .error (.memoryCapacity _ _) | .error .notFound => false
  | _ => true

/-- The VM is taken out of the tables. -/
def without (db : Cluster) (vmId : Uuid) : Cluster :=
  { db with vms := db.vms.filter (·.id ≠ vmId) }

section Capacity

variable {settings : SchedulingSettings} {db : Cluster} {vm : ScheduledVm} {host : ScheduledHost}

/-- An integer is at most the floor of a rational exactly if it is at most the rational. -/
lemma exceeds_eq_false {ratio : ℚ} {total : Option Int} {allocated current target : Int} :
    exceeds ratio total allocated current target = false ↔
      ∀ t ∈ total, ((target + (allocated - current) : Int) : ℚ) ≤ ratio * t := by
  cases total with
  | none => simp [exceeds]
  | some t =>
    simp only [exceeds, Option.any_some, decide_eq_false_iff_not, not_lt, Option.mem_some_iff,
      forall_eq', Int.le_floor]
    rw [add_comm, mul_comm]

/-- The two queries sum over the same rows. -/
lemma getResourceCapacity_eq (hhosts : (db.hosts.map (·.id)).Nodup) (hhost : host ∈ db.hosts) :
    getResourceCapacity db host.id = some {
      totalCpus := host.totalCpus
      allocatedVcpus := allocated (·.bootVcpus) db.vms host.id
      totalMemoryBytes := host.totalMemoryBytes
      allocatedMemoryBytes := allocated (·.memorySize) db.vms host.id
      availableMemoryBytes := host.availableMemoryBytes } := by
  obtain ⟨a, hleft⟩ := Query.exists_leftJoin
    (fun (h : ScheduledHost) (a : Alloc) => Query.eq a.hostId (some h.id)) (alloc db.vms) hhost
  obtain ⟨row, hfind⟩ : ∃ row, (Query.leftJoin
      (fun (h : ScheduledHost) (a : Alloc) => Query.eq a.hostId (some h.id)) db.hosts
        (alloc db.vms)).find? (fun row => row.1.id = host.id) = some row := by
    rw [← Option.isSome_iff_exists, List.find?_isSome]
    exact ⟨_, hleft, by simp⟩
  have hjoin : Joined db ⟨row.1, row.2, none⟩ :=
    joined_of_leftJoin none (List.mem_of_find?_eq_some hfind) (by simp)
  obtain rfl : row.1 = host :=
    List.inj_on_of_nodup_map hhosts hjoin.host hhost (by simpa using List.find?_some hfind)
  simp only [getResourceCapacity, hfind, Option.map_some, ← hjoin.memory, ← hjoin.vcpus]

/-- What a running VM adds to the sums of its host is missing from those without it. -/
lemma allocated_without (resource : ScheduledVm → Int) (hvms : (db.vms.map (·.id)).Nodup)
    (hvm : vm ∈ db.vms) (hon : vm.activeOn host.id = true) :
    allocated resource (without db vm.id).vms host.id
      = allocated resource db.vms host.id - resource vm := by
  have hgeneral : ∀ vms : List ScheduledVm, (vms.map (·.id)).Nodup → vm ∈ vms →
      allocated resource (vms.filter (·.id ≠ vm.id)) host.id
        = allocated resource vms host.id - resource vm := by
    intro vms hnodup hmem
    induction vms with
    | nil => cases hmem
    | cons v vms ih =>
      rw [List.map_cons, List.nodup_cons] at hnodup
      rcases List.mem_cons.1 hmem with rfl | hmem
      · have hrest : vms.filter (·.id ≠ vm.id) = vms := by
          refine List.filter_eq_self.2 fun w hw => ?_
          simpa using fun heq : w.id = vm.id => hnodup.1 (List.mem_map.2 ⟨w, hw, heq⟩)
        rw [List.filter_cons_of_neg (by simp), hrest, allocated_cons_of_activeOn hon]
        omega
      · have hne : v.id ≠ vm.id := fun heq => hnodup.1 (List.mem_map.2 ⟨vm, hmem, heq.symm⟩)
        rw [List.filter_cons_of_pos (by simpa using hne)]
        cases hv : v.activeOn host.id with
        | true =>
          rw [allocated_cons_of_activeOn hv, allocated_cons_of_activeOn hv, ih hnodup.2 hmem]
          omega
        | false =>
          rw [allocated_cons_of_not_activeOn hv, allocated_cons_of_not_activeOn hv,
            ih hnodup.2 hmem]
  exact hgeneral db.vms hvms hvm

/-- **One capacity predicate.**  The oversubscription checks of a resize accept the target sizes of
a running VM exactly if the conditions of the scheduler's query would admit them on its host, in any
row the query has for that host, without the VM. -/
theorem resizeCapacity_iff (hhosts : (db.hosts.map (·.id)).Nodup)
    (hvms : (db.vms.map (·.id)).Nodup) (hvm : vm ∈ db.vms) (hhost : host ∈ db.hosts)
    (hon : vm.hostId = some host.id) (hrun : vm.status = .running)
    (desiredVcpus desiredRam : Option Int) {request : SchedulingRequest} {row : HostRow}
    (hmemory : request.memoryBytes = desiredRam.getD vm.memorySize)
    (hvcpus : request.vcpus = desiredVcpus.getD vm.bootVcpus)
    (hrow : row ∈ fromClause (without db vm.id) request) (hh : row.h = host) :
    oversubscriptionOk (ensureResizeCapacity settings db vm host desiredVcpus desiredRam) = true ↔
      Query.holds (capacity settings.memoryOversubscriptionRatio row.h.totalMemoryBytes
          (row.alloc.bind (·.allocatedMemoryBytes)) request.memoryBytes) = true ∧
        Query.holds (capacity settings.cpuOversubscriptionRatio row.h.totalCpus
          (row.alloc.bind (·.allocatedVcpus)) request.vcpus) = true := by
  subst hh
  have hactive : vm.activeOn row.h.id = true := by simp [ScheduledVm.activeOn, hon, hrun,
    VmStatus.isActive]
  have hjoin := (joined_of_mem hrow).1
  rw [holds_capacity, holds_capacity, hjoin.memory, hjoin.vcpus,
    allocated_without _ hvms hvm hactive, allocated_without _ hvms hvm hactive, hmemory, hvcpus,
    ← exceeds_eq_false, ← exceeds_eq_false, ensureResizeCapacity,
    getResourceCapacity_eq hhosts hhost]
  dsimp only
  split_ifs with hcpu hmem hfloor
  · simp [oversubscriptionOk, hcpu]
  · simp [oversubscriptionOk, hmem]
  · simp [oversubscriptionOk, hcpu, hmem]
  · simp [oversubscriptionOk, hcpu, hmem]

end Capacity

/-- A host of four CPUs. -/
def fourCpus : ScheduledHost :=
  ⟨⟨"h"⟩, "a", .up, none, [], none, some 4, some 1000, none, none, none⟩

def firstVm : ScheduledVm := ⟨⟨"v"⟩, some ⟨"h"⟩, .running, 400, 2, [], none, none⟩

/-- The host has two VMs. -/
def twoVms : Cluster :=
  ⟨[fourCpus], [firstVm, ⟨⟨"w"⟩, some ⟨"h"⟩, .paused, 500, 3, [], none, none⟩], [], [], []⟩

def threeHalves : SchedulingSettings := ⟨1, 3 / 2, 0, 0⟩

def largerVm : SchedulingRequest := ⟨500, 3, 0, none, none, [], none, none, []⟩

/-- At a ratio of 3/2 the host has room for one vCPU more. -/
theorem twoVms_resize : oversubscriptionOk
    (ensureResizeCapacity threeHalves twoVms firstVm fourCpus (some 3) (some 500)) = true := by
  have hrow : (⟨fourCpus, some ⟨some ⟨"h"⟩, some 500, some 3⟩, none⟩ : HostRow)
      ∈ fromClause (without twoVms firstVm.id) largerVm := by decide +kernel
  have hhosts : (twoVms.hosts.map (·.id)).Nodup := by decide +kernel
  have hvms : (twoVms.vms.map (·.id)).Nodup := by decide +kernel
  refine (resizeCapacity_iff hhosts hvms (List.mem_cons_self ..) (List.mem_cons_self ..) rfl rfl
    (some 3) (some 500) rfl rfl hrow rfl).2 ?_
  decide +kernel

/-! ## Requests -/

/-- The columns of `vms` that a resize reads. -/
structure ResizableVm extends ScheduledVm where
  maxVcpus : Int
  memoryHotplugSize : Option Int
  deriving DecidableEq

structure VmResizeRequest where
  desiredVcpus : Option Int
  desiredRam : Option Int

/-- The value of an expression of type `i64`, in a build without overflow checks. -/
def wrap64 (x : Int) : Int := x.bmod (2 ^ 64)

def checkVcpus (vm : ResizableVm) (vcpus : Int) : Except ResizeError Unit :=
  if vm.bootVcpus ≤ vcpus ∧ vcpus ≤ vm.maxVcpus then .ok ()
  else .error (.vcpusOutOfRange vcpus vm.bootVcpus vm.maxVcpus)

def checkRam (vm : ResizableVm) (ram : Int) : Except ResizeError Unit :=
  let maxRam := wrap64 (vm.memorySize + vm.memoryHotplugSize.getD 0)
  let hotplugAddition := ram - vm.memorySize
  if ¬ (vm.memorySize ≤ ram ∧ ram ≤ maxRam) then .error (.ramOutOfRange ram vm.memorySize maxRam)
  else if hotplugAddition.tmod hotplugMemoryIncrementBytes ≠ 0 then
    .error (.notMultiple ram hotplugAddition)
  else .ok ()

/-- The VM, and the other tables that a resize reads. -/
structure ResizeState where
  vm : ResizableVm
  others : Cluster
  deriving DecidableEq

def ResizeState.cluster (s : ResizeState) : Cluster :=
  { s.others with vms := s.vm.toScheduledVm :: s.others.vms }

/-- `host_for_vm` -/
def ResizeState.hostForVm (s : ResizeState) : Except ResizeError ScheduledHost :=
  match s.vm.hostId with
  | none => .error .noHost
  | some hostId =>
    match s.others.hosts.find? (·.id = hostId) with
    | none => .error .hostNotFound
    | some host => .ok host

/-- `update_resize` -/
def updateResize (vm : ResizableVm) (request : VmResizeRequest) : ResizableVm :=
  { vm with
    bootVcpus := request.desiredVcpus.getD vm.bootVcpus
    memorySize := request.desiredRam.getD vm.memorySize }

def require (condition : Bool) (error : ResizeError) : Except ResizeError Unit :=
  if condition then .ok () else .error error

/-- `resize_vm`; the flags say whether the node does its part and the row is written. -/
def resizeVm (settings : SchedulingSettings) (s : ResizeState) (request : VmResizeRequest)
    (resized written : Bool) : Except ResizeError ResizableVm := do
  require (request.desiredVcpus.isSome || request.desiredRam.isSome) .nothingDesired
  require (s.vm.status = .running) .notRunning
  request.desiredVcpus.forM (checkVcpus s.vm)
  request.desiredRam.forM (checkRam s.vm)
  let host ← s.hostForVm
  ensureResizeCapacity settings s.cluster s.vm.toScheduledVm host request.desiredVcpus
    request.desiredRam
  require resized .internal
  require written .internal
  return updateResize s.vm request

inductive ResizeAction where
  /-- A request that is accepted. -/
  | resize (request : VmResizeRequest)
  /-- Anything else that happens to other tables and other VMs. -/
  | others (cluster : Cluster)

/-- Accepted requests one after the other. -/
def resizeStep (settings : SchedulingSettings) (s : ResizeState) : ResizeAction → Option ResizeState
  | .resize request => (resizeVm settings s request true true).toOption.map fun vm => { s with vm }
  | .others cluster => some { s with others := cluster }

/-- The memory a VM may be given, by the row it was created with. -/
def hotplugLimit (created : ResizableVm) : Int :=
  created.memorySize + created.memoryHotplugSize.getD 0

/-- The recorded memory is within the limit, and the sum of the range check is an `i64`. -/
def WithinBudget (created vm : ResizableVm) : Prop :=
  vm.memorySize ≤ hotplugLimit created ∧
    vm.memorySize + vm.memoryHotplugSize.getD 0 < 2 ^ 63

/-- A request that comes after memory was added asks for no more than the limit. -/
def keepsBudget (created : ResizableVm) (s : ResizeState) : ResizeAction → Bool
  | .resize request =>
    s.vm.memorySize = created.memorySize || request.desiredRam.all (· ≤ hotplugLimit created)
  | .others _ => true

section Run

variable {settings : SchedulingSettings} {s s' : ResizeState} {created : ResizableVm}

/-- What an accepted request does to the row. -/
lemma resizeVm_ok {request : VmResizeRequest} {resized written : Bool} {vm : ResizableVm}
    (h : resizeVm settings s request resized written = .ok vm) :
    (∀ ram ∈ request.desiredRam, checkRam s.vm ram = .ok ()) ∧ vm = updateResize s.vm request := by
  obtain ⟨_, -, h⟩ := except_bind_eq_ok.1 h
  obtain ⟨_, -, h⟩ := except_bind_eq_ok.1 h
  obtain ⟨_, -, h⟩ := except_bind_eq_ok.1 h
  obtain ⟨_, hram, h⟩ := except_bind_eq_ok.1 h
  obtain ⟨_, -, h⟩ := except_bind_eq_ok.1 h
  obtain ⟨_, -, h⟩ := except_bind_eq_ok.1 h
  obtain ⟨_, -, h⟩ := except_bind_eq_ok.1 h
  obtain ⟨_, -, h⟩ := except_bind_eq_ok.1 h
  refine ⟨fun ram hmem => ?_, (Except.ok.inj h).symm⟩
  rw [Option.mem_def] at hmem
  rw [hmem] at hram
  exact hram

/-- The range check of a row whose sum is an `i64`. -/
lemma le_of_checkRam {vm : ResizableVm} {ram : Int} (hpos : 0 < vm.memorySize)
    (hlow : 0 ≤ vm.memoryHotplugSize.getD 0)
    (hhigh : vm.memorySize + vm.memoryHotplugSize.getD 0 < 2 ^ 63)
    (h : checkRam vm ram = .ok ()) :
    vm.memorySize ≤ ram ∧ ram ≤ vm.memorySize + vm.memoryHotplugSize.getD 0 := by
  have hwrap : wrap64 (vm.memorySize + vm.memoryHotplugSize.getD 0)
      = vm.memorySize + vm.memoryHotplugSize.getD 0 := by
    unfold wrap64
    apply Int.bmod_eq_of_le <;> omega
  simp only [checkRam, hwrap] at h
  split_ifs at h with hrange
  exact hrange

/-- The row of a VM that was created with a hotplug size that is not negative, and so that twice the
hotplug size can be added to its memory. -/
structure Storable (created : ResizableVm) : Prop where
  positive : 0 < created.memorySize
  hotplug : 0 ≤ created.memoryHotplugSize.getD 0
  high : created.memorySize + 2 * created.memoryHotplugSize.getD 0 < 2 ^ 63

/-- A row within the limits of the one that was created. -/
structure Tracked (created vm : ResizableVm) : Prop where
  hotplug : vm.memoryHotplugSize = created.memoryHotplugSize
  low : created.memorySize ≤ vm.memorySize
  high : vm.memorySize ≤ hotplugLimit created

lemma Tracked.withinBudget {vm : ResizableVm} (hc : Storable created) (h : Tracked created vm) :
    WithinBudget created vm := by
  refine ⟨h.high, ?_⟩
  have hhigh := h.high
  have hbound := hc.high
  rw [hotplugLimit] at hhigh
  rw [h.hotplug]
  omega

/-- **One accepted request.**  It stays within the limits exactly if it meets the condition. -/
lemma tracked_step {a : ResizeAction} (hc : Storable created) (hs : Tracked created s.vm)
    (hstep : resizeStep settings s a = some s') :
    (keepsBudget created s a = true → Tracked created s'.vm) ∧
      (WithinBudget created s'.vm → keepsBudget created s a = true) := by
  cases a with
  | others cluster =>
    cases hstep
    exact ⟨fun _ => hs, fun _ => rfl⟩
  | resize request =>
    obtain ⟨vm, hvm, rfl⟩ := Option.map_eq_some_iff.1 hstep
    cases hresult : resizeVm settings s request true true with
    | error e => simp [hresult, Except.toOption] at hvm
    | ok vm' =>
      obtain rfl : vm' = vm := by simpa [hresult, Except.toOption] using hvm
      obtain ⟨hram, rfl⟩ := resizeVm_ok hresult
      cases hdesired : request.desiredRam with
      | none =>
        simp only [updateResize, hdesired, keepsBudget, Option.getD_none, Option.all_none,
          Bool.or_true, imp_true_iff, and_true]
        exact fun _ => ⟨hs.hotplug, hs.low, hs.high⟩
      | some ram =>
        have hfits := (hs.withinBudget hc).2
        obtain ⟨hge, hle⟩ := le_of_checkRam (hc.positive.trans_le hs.low)
          (hs.hotplug ▸ hc.hotplug) hfits (hram ram hdesired)
        simp only [updateResize, hdesired, keepsBudget, Option.getD_some, Option.all_some,
          Bool.or_eq_true, decide_eq_true_eq]
        refine ⟨fun hkeep => ⟨hs.hotplug, hs.low.trans hge, ?_⟩, fun hw => .inr hw.1⟩
        rcases hkeep with hsame | hlimit
        · show ram ≤ hotplugLimit created
          rw [hotplugLimit, ← hsame, ← hs.hotplug]
          exact hle
        · exact hlimit

/-- **When the memory stays within the hotplug budget.**  In every sequence of accepted requests on
a running VM, every state is within the budget of the row the VM was created with if and only if
each request that comes after memory was added asks for no more than that budget. -/
theorem hotplugBudget_iff (hc : Storable s.vm) {as : List ResizeAction}
    (hrun : run (resizeStep settings) s as = some s') :
    (∀ k t, run (resizeStep settings) s (as.take k) = some t → WithinBudget s.vm t.vm) ↔
      Along (resizeStep settings) (fun t a => keepsBudget s.vm t a = true) s as := by
  have hstart : Tracked s.vm s.vm := ⟨rfl, le_rfl, by have := hc.hotplug; rw [hotplugLimit]; omega⟩
  have hgeneral : ∀ (as : List ResizeAction) (t : ResizeState), Tracked s.vm t.vm →
      (∃ t', run (resizeStep settings) t as = some t') →
      ((∀ k t', run (resizeStep settings) t (as.take k) = some t' → WithinBudget s.vm t'.vm) ↔
        Along (resizeStep settings) (fun t a => keepsBudget s.vm t a = true) t as) := by
    intro as
    induction as with
    | nil =>
      intro t ht _
      simp only [Along, iff_true, List.take_nil]
      rintro - t' ⟨⟩
      exact ht.withinBudget hc
    | cons a as ih =>
      rintro t ht ⟨t', hrun⟩
      obtain ⟨t₁, ha, hrun⟩ := Option.bind_eq_some_iff.1 hrun
      obtain ⟨hkeep, hwithin⟩ := tracked_step hc ht ha
      have htake : ∀ k, run (resizeStep settings) t ((a :: as).take (k + 1))
          = run (resizeStep settings) t₁ (as.take k) := fun k => by
        rw [List.take_succ_cons, run, ha]
        rfl
      constructor
      · intro hall
        have hok : keepsBudget s.vm t a = true := hwithin (hall 1 t₁ (by rw [htake]; rfl))
        refine ⟨hok, fun t₂ ht₂ => ?_⟩
        obtain rfl : t₁ = t₂ := Option.some.inj (ha.symm.trans ht₂)
        refine (ih t₁ (hkeep hok) ⟨t', hrun⟩).1 fun k t₂ hk => ?_
        exact hall (k + 1) t₂ (by rw [htake, hk])
      · rintro ⟨hok, hrest⟩ k t₂ hk
        cases k with
        | zero =>
          cases hk
          exact ht.withinBudget hc
        | succ k =>
          rw [htake] at hk
          exact (ih t₁ (hkeep hok) ⟨t', hrun⟩).2 (hrest t₁ ha) k t₂ hk
  exact hgeneral as s hstart ⟨s', hrun⟩

end Run

/-- A running VM that was created with one GiB and may be given another one. -/
def oneGib : ResizeState where
  vm := {
    id := ⟨"v"⟩, hostId := some ⟨"h"⟩, status := .running, memorySize := 2 ^ 30, bootVcpus := 1
    tags := [], architecture := none, placementPolicy := none, maxVcpus := 2
    memoryHotplugSize := some (2 ^ 30) }
  others := ⟨[⟨⟨"h"⟩, "a", .up, none, [], none, none, none, none, none, none⟩], [], [], [], []⟩

def addMemory (ram : Int) : ResizeAction := .resize ⟨none, some ram⟩

/-- Two additions that stay within the budget. -/
theorem small_additions_within :
    (run (resizeStep threeHalves) oneGib
      [addMemory (2 ^ 30 + 2 ^ 27), addMemory (2 ^ 30 + 2 ^ 29)]).isSome = true ∧
    ∀ k t, run (resizeStep threeHalves) oneGib
      ([addMemory (2 ^ 30 + 2 ^ 27), addMemory (2 ^ 30 + 2 ^ 29)].take k) = some t →
        WithinBudget oneGib.vm t.vm := by
  have hrun : run (resizeStep threeHalves) oneGib
      [addMemory (2 ^ 30 + 2 ^ 27), addMemory (2 ^ 30 + 2 ^ 29)]
        = some { oneGib with vm := { oneGib.vm with memorySize := 2 ^ 30 + 2 ^ 29 } } := by
    decide +kernel
  refine ⟨by rw [hrun]; rfl, (hotplugBudget_iff ⟨by decide, by decide, by decide⟩ hrun).2 ?_⟩
  decide +kernel

/-- The second request is checked against the memory that the first one wrote. -/
theorem second_addition_exceeds : ∃ t, run (resizeStep threeHalves) oneGib
    [addMemory (2 * 2 ^ 30), addMemory (3 * 2 ^ 30)] = some t ∧ ¬ WithinBudget oneGib.vm t.vm := by
  refine ⟨{ oneGib with vm := { oneGib.vm with memorySize := 3 * 2 ^ 30 } }, by decide +kernel, ?_⟩
  exact fun h => absurd h.1 (by decide)

end ResizeVm

end Qarax
