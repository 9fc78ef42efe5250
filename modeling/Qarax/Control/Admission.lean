import Qarax.Control.CreateTransactions

/-!
# Admission

`pick_host_tx` checks capacity and placement when a VM is created.  A VM that is shut down, or whose
state is unknown, is not counted, and later transitions count it again: a start, a migration, a
failover, an evacuation.  This is a machine of such operations one after the other.

* `AdmissionState.step` — the operations, each with the checks the source makes.
* `Cluster.Admitted` — what admission is to guarantee of a VM on its host.
* `AdmissionAction.checked` — failover and evacuation ask `pick_host_tx`; a start and a requested
  migration do not, so there it has to be assumed.
-/

namespace Qarax

namespace Cluster

def host? (db : Cluster) (id : Uuid) : Option ScheduledHost := db.hosts.find? fun h => h.id = id

def vm? (db : Cluster) (id : Uuid) : Option ScheduledVm := db.vms.find? fun vm => vm.id = id

def updateVm (db : Cluster) (id : Uuid) (f : ScheduledVm → ScheduledVm) : Cluster :=
  { db with vms := Rows.update ScheduledVm.id id f db.vms }

def setStatus (db : Cluster) (id : Uuid) (status : VmStatus) : Cluster :=
  db.updateVm id fun vm => { vm with status }

/-- `host_for_vm` -/
def hostForVm (db : Cluster) (vm : ScheduledVm) : Option ScheduledHost := vm.hostId.bind db.host?

end Cluster

/-- `ensure_host_matches_architecture`, for a VM whose config names an architecture. -/
def matchesArchitecture (vm : ScheduledVm) (host : ScheduledHost) : Bool :=
  vm.architecture.all fun architecture => host.architecture.all (· == architecture)

def evacuationSchedulingRequest (vm : ScheduledVm) (sourceHostId : Uuid) (networks : List Uuid)
    (gpu : Option GpuRequest) : SchedulingRequest where
  memoryBytes := vm.memorySize
  vcpus := vm.bootVcpus
  diskBytes := 0
  architecture := vm.architecture
  storagePoolId := none
  requiredNetworkIds := networks
  gpu := gpu
  placementPolicy := vm.placementPolicy
  excludedHostIds := [sourceHostId]

/-- The loop of `pick_failover_host` and `pick_evacuation_plan`: a host that fails the further
checks is excluded and the query made again.  Every round excludes one more host. -/
def pickChecked (settings : SchedulingSettings) (db : Cluster) (request : SchedulingRequest)
    (further : ScheduledHost → Bool) : Nat → List Uuid → Option ScheduledHost
  | 0, _ => none
  | rounds + 1, excluded =>
    match pickHost settings db { request with excludedHostIds := excluded } with
    | none => none
    | some candidate =>
      if further candidate then some candidate
      else pickChecked settings db request further rounds (excluded ++ [candidate.id])

def pickFailoverHost (settings : SchedulingSettings) (db : Cluster) (request : SchedulingRequest)
    (requiredPools : List Uuid) : Option ScheduledHost :=
  pickChecked settings db request
    (fun host => requiredPools.all fun pool => db.hostStoragePools.contains (host.id, pool))
    (db.hosts.length + 1) request.excludedHostIds

/-- The checks of `plan_vm_migration` on rows that are modelled here. -/
def migratable (db : Cluster) (vm : ScheduledVm) (source target : ScheduledHost) : Bool :=
  (vm.status == .running || vm.status == .paused) && source.id != target.id
    && matchesArchitecture vm target && (listGpusByVm db.gpus vm.id).isEmpty

def pickEvacuationHost (settings : SchedulingSettings) (db : Cluster) (vm : ScheduledVm)
    (source : ScheduledHost) (networks : List Uuid) (unreachable : List Uuid) :
    Option ScheduledHost :=
  let request := evacuationSchedulingRequest vm source.id networks none
  pickChecked settings db request
    (fun target => migratable db vm source target && !unreachable.contains target.id)
    (db.hosts.length + 1) request.excludedHostIds

/-! ## Operations one after the other -/

/-- How the start that ends a failover comes out. -/
inductive FailoverStart where
  | refused
  | failed
  | completed

/-- The tables, and the start whose job has not ended yet: nothing else is done meanwhile. -/
structure AdmissionState where
  db : Cluster
  starting : Option (Uuid × VmStatus)
  deriving DecidableEq

inductive AdmissionAction where
  | addHost (host : ScheduledHost)
  /-- Status, placement metadata or reported resources of a host are written. -/
  | updateHost (host : ScheduledHost)
  | create (vmId : Uuid) (request : SchedulingRequest) (tags : List String)
  | delete (vmId : Uuid)
  /-- Any other handler or the VM monitor writes a status: stop, pause, resume, a report. -/
  | writeStatus (vmId : Uuid) (status : VmStatus)
  /-- `start_vm_internal` up to its job. -/
  | start (vmId : Uuid)
  /-- Its job ends. -/
  | startEnds (completed : Bool)
  /-- `migrate` with a target of the request.  The flag says whether the checks on hypervisor and
  disks pass and the nodes do their part. -/
  | migrate (vmId targetHostId : Uuid) (succeeds : Bool)
  /-- `failover_host` for one VM.  Networks and pools are those of the VM's interfaces and disks. -/
  | failover (vmId : Uuid) (networks requiredPools : List Uuid) (start : FailoverStart)
  /-- `evacuate` for one VM; some hosts do not reach its disks. -/
  | evacuate (vmId : Uuid) (networks unreachable : List Uuid) (succeeds : Bool)

namespace AdmissionState

/-- The VM is placed and inserted. -/
def create (settings : SchedulingSettings) (db : Cluster) (vmId : Uuid)
    (request : SchedulingRequest) (tags : List String) : Cluster :=
  match pickHost settings db request with
  | none => db
  | some host =>
    match request.gpu.elim (some db.gpus) (allocateAllGpus db.gpus host.id vmId) with
    | none => db
    | some gpus =>
      { db with
        gpus
        vms := { id := vmId, hostId := some host.id, status := .created,
                 memorySize := request.memoryBytes, bootVcpus := request.vcpus, tags,
                 architecture := request.architecture,
                 placementPolicy := request.placementPolicy } :: db.vms }

/-- `start_vm_internal` may start these. -/
def startable (status : VmStatus) : Bool :=
  status == .created || status == .shutdown || status == .unknown

/-- The VM is recorded on the target; `Created` makes the start re-create it there. -/
def moveTo (db : Cluster) (vmId targetHostId : Uuid) (status : VmStatus) : Cluster :=
  db.updateVm vmId fun vm => { vm with hostId := some targetHostId, status }

/-- `execute_failover` after the destination was picked.  When the start is refused, the row is put
back and the GPUs are taken on the dead host again, if they are all still there. -/
def failoverTo (db : Cluster) (vm : ScheduledVm) (dead target : ScheduledHost)
    (gpu : Option GpuRequest) (start : FailoverStart) : Cluster :=
  match gpu.elim (some db.gpus)
      (allocateAllGpus (deallocateByVm db.gpus vm.id) target.id vm.id) with
  | none => db
  | some gpus =>
    match start with
    | .refused =>
      let back := gpu.bind (allocateAllGpus (deallocateByVm gpus vm.id) dead.id vm.id)
      { db with gpus := back.getD gpus }
    | .failed => { moveTo db vm.id target.id .created with gpus }
    | .completed => { moveTo db vm.id target.id .running with gpus }

def step (settings : SchedulingSettings) (s : AdmissionState) :
    AdmissionAction → Option AdmissionState
  | .startEnds completed => do
      let (vmId, original) ← s.starting
      some ⟨s.db.setStatus vmId (if completed then .running else original), none⟩
  | action =>
    if s.starting.isSome then none
    else match action with
    | .addHost host =>
      if (s.db.host? host.id).isSome then none
      else some { s with db := { s.db with hosts := host :: s.db.hosts } }
    | .updateHost host =>
      some { s with db := { s.db with
        hosts := Rows.update ScheduledHost.id host.id (fun row => { host with id := row.id })
          s.db.hosts } }
    | .create vmId request tags =>
      if (s.db.vm? vmId).isSome then none
      else some { s with db := create settings s.db vmId request tags }
    | .delete vmId =>
      some { s with db := { s.db with
        vms := s.db.vms.filter (·.id ≠ vmId), gpus := deallocateByVm s.db.gpus vmId } }
    | .writeStatus vmId status => some { s with db := s.db.setStatus vmId status }
    | .start vmId => do
        let vm ← s.db.vm? vmId
        let host ← s.db.hostForVm vm
        if startable vm.status && matchesArchitecture vm host then
          some ⟨s.db.setStatus vmId .pending, some (vmId, vm.status)⟩
        else none
    | .migrate vmId targetHostId succeeds => do
        let vm ← s.db.vm? vmId
        let source ← s.db.hostForVm vm
        let target ← s.db.host? targetHostId
        if migratable s.db vm source target && succeeds then
          some { s with db := moveTo s.db vmId target.id vm.status }
        else some s
    | .failover vmId networks requiredPools start => do
        let vm ← s.db.vm? vmId
        let dead ← s.db.hostForVm vm
        if dead.status != .down || (vm.status != .running && vm.status != .paused
            && vm.status != .unknown) then none
        else
          let gpu := gpuRequestForVm s.db.gpus vmId
          match pickFailoverHost settings s.db
              (evacuationSchedulingRequest vm dead.id networks gpu) requiredPools with
          | none => some s
          | some target => some { s with db := failoverTo s.db vm dead target gpu start }
    | .evacuate vmId networks unreachable succeeds => do
        let vm ← s.db.vm? vmId
        let source ← s.db.hostForVm vm
        match pickEvacuationHost settings s.db vm source networks unreachable with
        | none => some s
        | some target =>
          some { s with
            db := if succeeds then moveTo s.db vmId target.id vm.status else s.db }
    | .startEnds _ => none

/-- The VM that the step moves: a start makes it count on its host again, the others bring it to
another host. -/
def Moves (s : AdmissionState) (a : AdmissionAction) (s' : AdmissionState) (vmId : Uuid) : Prop :=
  ∃ vm vm', s.db.vm? vmId = some vm ∧ s'.db.vm? vmId = some vm' ∧
    match a with
    | .start id => id = vmId ∧ (vm.status = .shutdown ∨ vm.status = .unknown) ∧
        vm'.status.isActive = true
    | .migrate id _ _ | .failover id _ _ _ | .evacuate id _ _ _ =>
      id = vmId ∧ vm'.hostId ≠ vm.hostId
    | _ => False

/-- The admission check that a start and a requested migration would need; failover and evacuation
make it. -/
def checked (settings : SchedulingSettings) (s : AdmissionState) : AdmissionAction → Bool
  | .start vmId => (s.db.vm? vmId).any fun vm => (s.db.hostForVm vm).any fun host =>
    admits settings s.db.vms host vm.memorySize vm.bootVcpus vm.placementPolicy
  | .migrate vmId targetHostId _ => (s.db.vm? vmId).any fun vm =>
    (s.db.host? targetHostId).any fun host =>
      admits settings s.db.vms host vm.memorySize vm.bootVcpus vm.placementPolicy
  | _ => true

end AdmissionState

/-- The hard constraints of the policy of a VM, next to the other VMs of its host. -/
def PlacementPolicy.Holds (policy : PlacementPolicy) (vms : List ScheduledVm) (vm : ScheduledVm)
    (host : ScheduledHost) : Prop :=
  (∀ reservationClass ∈ policy.reservationClass, host.reservationClass = some reservationClass) ∧
    (∀ label ∈ policy.requiredHostLabels, host.placementLabels.lookup label.1 = some label.2) ∧
    ∀ other ∈ vms, other.id ≠ vm.id → other.activeOn host.id = true →
      ∀ tag ∈ other.tags, tag ∉ policy.antiAffinityTags

/-- **Admitted**: the VM's host is up, what it has given to its active VMs is within its totals, and
the VM's constraints hold. -/
def Cluster.Admitted (settings : SchedulingSettings) (db : Cluster) (vmId : Uuid) : Prop :=
  ∃ vm host, db.vm? vmId = some vm ∧ db.hostForVm vm = some host ∧ host.status = .up ∧
    (∀ total ∈ host.totalMemoryBytes, (allocated (·.memorySize) db.vms host.id : ℚ)
      ≤ settings.memoryOversubscriptionRatio * total) ∧
    (∀ total ∈ host.totalCpus, (allocated (·.bootVcpus) db.vms host.id : ℚ)
      ≤ settings.cpuOversubscriptionRatio * total) ∧
    ∀ policy ∈ vm.placementPolicy, policy.Holds db.vms vm host

/-! ## What the check says of the VM once it counts -/

section Counting

variable {settings : SchedulingSettings} {db : Cluster} {vm : ScheduledVm} {host : ScheduledHost}
  {f : ScheduledVm → ScheduledVm}

lemma mem_of_vm?_cluster {id : Uuid} (h : db.vm? id = some vm) : vm ∈ db.vms ∧ vm.id = id :=
  Rows.mem_of_find? h

lemma mem_of_host? {id : Uuid} (h : db.host? id = some host) : host ∈ db.hosts ∧ host.id = id :=
  Rows.mem_of_find? h

variable {vms : List ScheduledVm} {policy : PlacementPolicy}

/-- A VM that did not count on the host now does. -/
lemma allocated_update {resource : ScheduledVm → Int} (hids : (vms.map ScheduledVm.id).Nodup)
    (hvm : vm ∈ vms) (hbefore : vm.activeOn host.id = false)
    (hafter : (f vm).activeOn host.id = true) (hres : resource (f vm) = resource vm) :
    allocated resource (Rows.update ScheduledVm.id vm.id f vms) host.id
      = resource vm + allocated resource vms host.id := by
  have hsum := Rows.sum_map_update (f := f)
    (fun v => if v.activeOn host.id = true then resource v else 0) hids hvm
  simp only [hbefore, hafter, hres, if_true, Bool.false_eq_true, if_false, add_zero] at hsum
  rw [allocated_eq_sum, allocated_eq_sum, hsum, add_comm]

/-- Only other VMs of the host matter to the constraints. -/
lemma PlacementPolicy.holds_update_iff (hids : (vms.map ScheduledVm.id).Nodup) (hvm : vm ∈ vms)
    (hbefore : vm.activeOn host.id = false)
    (hid : (f vm).id = vm.id) :
    policy.Holds (Rows.update ScheduledVm.id vm.id f vms) (f vm) host ↔
      policy.admits vms host = true := by
  have hothers : (∀ other ∈ Rows.update ScheduledVm.id vm.id f vms, other.id ≠ (f vm).id →
      other.activeOn host.id = true → ∀ tag ∈ other.tags, tag ∉ policy.antiAffinityTags) ↔
      ∀ other ∈ vms, other.activeOn host.id = true →
        ∀ tag ∈ other.tags, tag ∉ policy.antiAffinityTags := by
    constructor
    · intro h other hother hactive
      have hne : other.id ≠ vm.id := by
        intro heq
        obtain rfl := List.inj_on_of_nodup_map hids hother hvm heq
        simp [hbefore] at hactive
      exact h other (Rows.mem_update.2 (.inr ⟨hother, hne⟩)) (hid ▸ hne) hactive
    · intro h other hother hne hactive
      rcases Rows.mem_update.1 hother with ⟨r, hr, hrid, rfl⟩ | ⟨hother, -⟩
      · obtain rfl := List.inj_on_of_nodup_map hids hr hvm hrid
        exact absurd rfl hne
      · exact h other hother hactive
  rw [Holds, hothers, admits_iff]

/-- **The check, made before the VM counts on the host, says that it is admitted afterwards.** -/
lemma admitted_update_iff {db' : Cluster} (hids : (db.vms.map ScheduledVm.id).Nodup)
    (hvm : db.vm? vm.id = some vm) (hhost : db.host? host.id = some host)
    (hbefore : vm.activeOn host.id = false) (hafter : (f vm).activeOn host.id = true)
    (hsame : ∀ v, (f v).id = v.id ∧ (f v).memorySize = v.memorySize ∧
      (f v).bootVcpus = v.bootVcpus ∧ (f v).placementPolicy = v.placementPolicy)
    (hhosts : db'.hosts = db.hosts) (hvms : db'.vms = (db.updateVm vm.id f).vms) :
    db'.Admitted settings vm.id ↔
      admits settings db.vms host vm.memorySize vm.bootVcpus vm.placementPolicy = true := by
  obtain ⟨hid, hmemory, hvcpus, hpolicy⟩ := hsame vm
  have hmem := (mem_of_vm?_cluster hvm).1
  have hvm' : db'.vm? vm.id = some (f vm) := by
    rw [Cluster.vm?, hvms, Cluster.updateVm,
      Rows.find?_update_self fun v hv => (hsame v).1.trans hv]
    exact congrArg (Option.map f) hvm
  have hhost' : db'.hostForVm (f vm) = some host := by
    have hhostId : (f vm).hostId = some host.id := by
      simp only [ScheduledVm.activeOn, Bool.and_eq_true, beq_iff_eq] at hafter
      exact hafter.2
    rw [Cluster.hostForVm, hhostId, Option.bind_some, Cluster.host?, hhosts]
    exact hhost
  have hsum : ∀ resource : ScheduledVm → Int, resource (f vm) = resource vm →
      allocated resource db'.vms host.id = resource vm + allocated resource db.vms host.id := by
    intro resource hres
    rw [hvms]
    exact allocated_update hids hmem hbefore hafter hres
  have hholds : (∀ policy ∈ (f vm).placementPolicy, policy.Holds db'.vms (f vm) host) ↔
      ∀ policy ∈ vm.placementPolicy, policy.admits db.vms host = true := by
    rw [hpolicy, hvms]
    exact forall₂_congr fun policy _ => policy.holds_update_iff hids hmem hbefore hid
  -- the rows that the definition looks up are these
  have hrows : db'.Admitted settings vm.id ↔ host.status = .up ∧
      (∀ total ∈ host.totalMemoryBytes, (allocated (·.memorySize) db'.vms host.id : ℚ)
        ≤ settings.memoryOversubscriptionRatio * total) ∧
      (∀ total ∈ host.totalCpus, (allocated (·.bootVcpus) db'.vms host.id : ℚ)
        ≤ settings.cpuOversubscriptionRatio * total) ∧
      ∀ policy ∈ (f vm).placementPolicy, policy.Holds db'.vms (f vm) host := by
    simp [Cluster.Admitted, hvm', hhost']
  rw [hrows, hsum _ hmemory, hsum _ hvcpus, hholds]
  simp only [admits, hasMemory, hasVcpus, Bool.and_eq_true, hasRoom_iff, Option.all_eq_true,
    beq_iff_eq, Option.mem_def]
  tauto

end Counting

/-! ## Picking asks for the check -/

variable {request : SchedulingRequest}

lemma pickHost_spec {settings : SchedulingSettings} {db : Cluster} {host : ScheduledHost}
    (h : pickHost settings db request = some host) :
    host ∈ db.hosts ∧ host.id ∉ request.excludedHostIds ∧
      admits settings db.vms host request.memoryBytes request.vcpus request.placementPolicy
        = true := by
  obtain ⟨hmem, hel⟩ := mem_eligibleHosts.1 (List.mem_of_head? h)
  simp only [eligible, Bool.and_eq_true, Bool.not_eq_true', List.contains_eq_mem,
    decide_eq_false_iff_not, and_assoc] at hel
  exact ⟨hmem, hel.2.2.1, hel.1⟩

lemma pickChecked_spec {settings : SchedulingSettings} {db : Cluster}
    {further : ScheduledHost → Bool} {host : ScheduledHost} {rounds : Nat} {excluded : List Uuid}
    (h : pickChecked settings db request further rounds excluded = some host) :
    host ∈ db.hosts ∧ host.id ∉ excluded ∧
      admits settings db.vms host request.memoryBytes request.vcpus request.placementPolicy
        = true ∧ further host = true := by
  induction rounds generalizing excluded with
  | zero => cases h
  | succ rounds ih =>
    rw [pickChecked] at h
    cases hpick : pickHost settings db { request with excludedHostIds := excluded } with
    | none => simp [hpick] at h
    | some candidate =>
      simp only [hpick] at h
      split_ifs at h with hfurther
      · cases h
        obtain ⟨hmem, hexcluded, hadmits⟩ := pickHost_spec hpick
        exact ⟨hmem, hexcluded, hadmits, hfurther⟩
      · obtain ⟨hmem, hexcluded, hrest⟩ := ih h
        exact ⟨hmem, fun hin => hexcluded (List.mem_append_left _ hin), hrest⟩

/-! ## Histories -/

namespace AdmissionState

variable {settings : SchedulingSettings} {db : Cluster} {s s' : AdmissionState}
  {a : AdmissionAction}

/-- Ids are primary keys. -/
def Keyed (db : Cluster) : Prop :=
  (db.hosts.map ScheduledHost.id).Nodup ∧ (db.vms.map ScheduledVm.id).Nodup

lemma Keyed.updateVm {id : Uuid} {f : ScheduledVm → ScheduledVm} (h : Keyed db)
    (hf : ∀ vm, (f vm).id = vm.id) : Keyed (db.updateVm id f) := by
  refine ⟨h.1, ?_⟩
  rw [Cluster.updateVm, Rows.map_update hf]
  exact h.2

variable {vmId : Uuid} {succeeds : Bool} {P : ScheduledVm → ScheduledHost → Prop}

lemma Keyed.create {request : SchedulingRequest} {tags : List String}
    (h : Keyed db) (hnew : db.vm? vmId = none) : Keyed (create settings db vmId request tags) := by
  have hid : vmId ∉ db.vms.map ScheduledVm.id := by simpa [Cluster.vm?] using hnew
  unfold AdmissionState.create
  split
  · exact h
  · split
    · exact h
    · exact ⟨h.1, List.nodup_cons.2 ⟨hid, h.2⟩⟩

/-- What a failover comes to: the row stays, or it names the target. -/
lemma failoverTo_cases (db : Cluster) (vm : ScheduledVm) (dead target : ScheduledHost)
    (gpu : Option GpuRequest) (start : FailoverStart) :
    (failoverTo db vm dead target gpu start).hosts = db.hosts ∧
      ((failoverTo db vm dead target gpu start).vms = db.vms ∨
        ∃ status : VmStatus, status.isActive = true ∧
          (failoverTo db vm dead target gpu start).vms
            = (moveTo db vm.id target.id status).vms) := by
  unfold failoverTo
  split
  · exact ⟨rfl, .inl rfl⟩
  · cases start with
    | refused => exact ⟨rfl, .inl rfl⟩
    | failed => exact ⟨rfl, .inr ⟨.created, rfl, rfl⟩⟩
    | completed => exact ⟨rfl, .inr ⟨.running, rfl, rfl⟩⟩

/-- **What the steps that relocate a VM do**: nothing, or its row names a host that is another than
before and of which the step has made sure of `P`. -/
def Relocates (s s' : AdmissionState) (vmId : Uuid) (P : ScheduledVm → ScheduledHost → Prop) :
    Prop :=
  s'.db.hosts = s.db.hosts ∧ (s'.db.vms = s.db.vms ∨
    ∃ vm source target status, s.db.vm? vmId = some vm ∧ s.db.hostForVm vm = some source ∧
      target ∈ s.db.hosts ∧ target.id ≠ source.id ∧ VmStatus.isActive status = true ∧ P vm target ∧
      s'.db.vms = (moveTo s.db vmId target.id status).vms)

lemma isActive_of_migratable {vm : ScheduledVm} {source target : ScheduledHost}
    (h : migratable db vm source target = true) :
    vm.status.isActive = true ∧ target.id ≠ source.id := by
  simp only [migratable, Bool.and_eq_true, Bool.or_eq_true, beq_iff_eq, bne_iff_ne] at h
  refine ⟨?_, Ne.symm h.1.1.2⟩
  rcases h.1.1.1 with hst | hst <;> rw [hst] <;> rfl

lemma relocates_migrate {targetHostId : Uuid}
    (hs : s.step settings (.migrate vmId targetHostId succeeds) = some s') :
    Relocates s s' vmId fun _ target => s.db.host? targetHostId = some target := by
  simp only [step] at hs
  split_ifs at hs
  obtain ⟨vm, hvm, hs⟩ := Option.bind_eq_some_iff.1 hs
  obtain ⟨source, hsource, hs⟩ := Option.bind_eq_some_iff.1 hs
  obtain ⟨target, htarget, hs⟩ := Option.bind_eq_some_iff.1 hs
  split_ifs at hs with hcan <;> cases hs
  · rw [Bool.and_eq_true] at hcan
    obtain ⟨hactive, hne⟩ := isActive_of_migratable hcan.1
    exact ⟨rfl, .inr ⟨vm, source, target, vm.status, hvm, hsource, (mem_of_host? htarget).1, hne,
      hactive, htarget, rfl⟩⟩
  · exact ⟨rfl, .inl rfl⟩

lemma relocates_failover {networks requiredPools : List Uuid} {start : FailoverStart}
    (hs : s.step settings (.failover vmId networks requiredPools start) = some s') :
    Relocates s s' vmId fun vm target =>
      admits settings s.db.vms target vm.memorySize vm.bootVcpus vm.placementPolicy = true := by
  simp only [step] at hs
  split_ifs at hs
  obtain ⟨vm, hvm, hs⟩ := Option.bind_eq_some_iff.1 hs
  obtain ⟨dead, hdead, hs⟩ := Option.bind_eq_some_iff.1 hs
  split_ifs at hs
  split at hs
  · cases hs
    exact ⟨rfl, .inl rfl⟩
  · rename_i target hpick
    cases hs
    obtain ⟨hmem, hexcluded, hadmits, -⟩ := pickChecked_spec hpick
    obtain ⟨hhosts, hsame | ⟨status, hactive, hmoved⟩⟩ := failoverTo_cases s.db vm dead
      target (gpuRequestForVm s.db.gpus vmId) start
    · exact ⟨hhosts, .inl hsame⟩
    · rw [(mem_of_vm?_cluster hvm).2] at hmoved
      exact ⟨hhosts, .inr ⟨vm, dead, target, status, hvm, hdead, hmem,
        fun heq => hexcluded (by simp [evacuationSchedulingRequest, heq]), hactive, hadmits,
          hmoved⟩⟩

lemma relocates_evacuate {networks unreachable : List Uuid}
    (hs : s.step settings (.evacuate vmId networks unreachable succeeds) = some s') :
    Relocates s s' vmId fun vm target =>
      admits settings s.db.vms target vm.memorySize vm.bootVcpus vm.placementPolicy = true := by
  simp only [step] at hs
  split at hs
  · cases hs
  obtain ⟨vm, hvm, hs⟩ := Option.bind_eq_some_iff.1 hs
  obtain ⟨source, hsource, hs⟩ := Option.bind_eq_some_iff.1 hs
  split at hs
  · cases hs
    exact ⟨rfl, .inl rfl⟩
  · rename_i target hpick
    cases hs
    obtain ⟨hmem, -, hadmits, hfurther⟩ := pickChecked_spec hpick
    rw [Bool.and_eq_true] at hfurther
    obtain ⟨hactive, hne⟩ := isActive_of_migratable hfurther.1
    cases succeeds
    · exact ⟨rfl, .inl rfl⟩
    · exact ⟨rfl, .inr ⟨vm, source, target, vm.status, hvm, hsource, hmem, hne, hactive, hadmits,
        rfl⟩⟩

lemma Relocates.keyed (h : Relocates s s' vmId P) (hk : Keyed s.db) : Keyed s'.db := by
  obtain ⟨hhosts, hsame | ⟨vm, source, target, status, -, -, -, -, -, -, hmoved⟩⟩ := h
  · rwa [Keyed, hhosts, hsame]
  · have hkeyed : Keyed (moveTo s.db vmId target.id status) := hk.updateVm fun _ => rfl
    rw [Keyed, hhosts, hmoved]
    exact ⟨hk.1, hkeyed.2⟩

lemma step_start (hs : s.step settings (.start vmId) = some s') :
    ∃ vm host, s.db.vm? vmId = some vm ∧ s.db.hostForVm vm = some host ∧
      s'.db = s.db.setStatus vmId .pending := by
  simp only [step] at hs
  split_ifs at hs
  obtain ⟨vm, hvm, hs⟩ := Option.bind_eq_some_iff.1 hs
  obtain ⟨host, hhost, hs⟩ := Option.bind_eq_some_iff.1 hs
  split_ifs at hs
  cases hs
  exact ⟨vm, host, hvm, hhost, rfl⟩

lemma keyed_step (h : Keyed s.db) (hs : s.step settings a = some s') : Keyed s'.db := by
  cases a with
  | startEnds completed =>
    obtain ⟨⟨vmId, original⟩, -, hs⟩ := Option.bind_eq_some_iff.1 hs
    cases hs
    exact h.updateVm fun _ => rfl
  | addHost host =>
    simp only [step] at hs
    split_ifs at hs with _ hnew
    cases hs
    refine ⟨List.nodup_cons.2 ⟨?_, h.1⟩, h.2⟩
    simpa [Cluster.host?] using hnew
  | updateHost host =>
    simp only [step] at hs
    split_ifs at hs
    cases hs
    refine ⟨?_, h.2⟩
    rw [Rows.map_update]
    · exact h.1
    · exact fun _ => rfl
  | create vmId request tags =>
    simp only [step] at hs
    split_ifs at hs with _ hnew
    cases hs
    exact h.create (by simpa using hnew)
  | delete vmId =>
    simp only [step] at hs
    split_ifs at hs
    cases hs
    exact ⟨h.1, h.2.sublist (List.filter_sublist.map _)⟩
  | writeStatus vmId status =>
    simp only [step] at hs
    split_ifs at hs
    cases hs
    exact h.updateVm fun _ => rfl
  | start vmId =>
    obtain ⟨vm, host, -, -, hdb⟩ := step_start hs
    rw [hdb]
    exact h.updateVm fun _ => rfl
  | migrate vmId target succeeds => exact (relocates_migrate hs).keyed h
  | failover vmId networks requiredPools start => exact (relocates_failover hs).keyed h
  | evacuate vmId networks unreachable succeeds => exact (relocates_evacuate hs).keyed h

lemma host?_of_mem {host : ScheduledHost} (h : Keyed db) (hmem : host ∈ db.hosts) :
    db.host? host.id = some host :=
  Rows.find?_of_mem h.1 hmem

/-- A VM is active on its own host at most. -/
lemma activeOn_eq_false {vm : ScheduledVm} {source target : ScheduledHost}
    (hsource : db.hostForVm vm = some source) (hne : target.id ≠ source.id) :
    vm.activeOn target.id = false := by
  obtain ⟨hostId, hhost, hfound⟩ := Option.bind_eq_some_iff.1 hsource
  have hid := (mem_of_host? hfound).2
  simp only [ScheduledVm.activeOn, hhost, Bool.and_eq_false_imp, beq_eq_false_iff_ne]
  intro _ heq
  exact hne ((Option.some_inj.1 heq).symm.trans hid.symm)

lemma Relocates.admitted_iff (h : Relocates s s' vmId P) (hk : Keyed s.db) {vm vm' : ScheduledVm}
    (hvm : s.db.vm? vmId = some vm) (hvm' : s'.db.vm? vmId = some vm')
    (hmoved : vm'.hostId ≠ vm.hostId) :
    ∃ target, s.db.host? target.id = some target ∧ P vm target ∧
      (s'.db.Admitted settings vmId ↔
        admits settings s.db.vms target vm.memorySize vm.bootVcpus vm.placementPolicy = true) := by
  obtain ⟨hhosts, hsame | ⟨v, source, target, status, hv, hsource, hmem, hne, hactive, hP,
    hvms⟩⟩ := h
  · rw [Cluster.vm?, hsame] at hvm'
    cases hvm.symm.trans hvm'
    exact absurd rfl hmoved
  · cases hv.symm.trans hvm
    have hid := (mem_of_vm?_cluster hvm).2
    subst hid
    have htarget := host?_of_mem hk hmem
    refine ⟨target, htarget, hP, admitted_update_iff
      (f := fun v => { v with hostId := some target.id, status := status }) hk.2 hvm htarget
      (activeOn_eq_false hsource hne) ?_ (fun _ => ⟨rfl, rfl, rfl, rfl⟩) hhosts hvms⟩
    simp [ScheduledVm.activeOn, hactive]

/-- Hosts and VMs before the first operation. -/
def Start (s : AdmissionState) : Prop := Keyed s.db ∧ s.starting = none

end AdmissionState

open Machine AdmissionState

/-- **Every move is admitted exactly if the admission check was made.**  A failover or evacuation
makes it; of a start and a requested migration it depends on the state. -/
theorem moves_admitted_iff_checked {settings : SchedulingSettings} {s s' : AdmissionState}
    {a : AdmissionAction} {vmId : Uuid}
    (h : Reach (AdmissionState.step settings) (fun _ _ => True) AdmissionState.Start s)
    (hs : s.step settings a = some s') (hmoves : s.Moves a s' vmId) :
    s'.db.Admitted settings vmId ↔ s.checked settings a = true := by
  have hk : Keyed s.db :=
    h.invariant (I := fun s => Keyed s.db) (fun _ hstart => hstart.1)
      fun _ _ _ hk _ hstep => keyed_step hk hstep
  obtain ⟨vm, vm', hvm, hvm', hmove⟩ := hmoves
  cases a with
  | start id =>
    obtain ⟨rfl, hbefore, hafter⟩ := hmove
    obtain ⟨v, host, hv, hhost, hdb⟩ := step_start hs
    cases hv.symm.trans hvm
    obtain ⟨hostId, hvmHost, hfound⟩ := Option.bind_eq_some_iff.1 hhost
    have hid := (mem_of_vm?_cluster hvm).2
    have hhid := (mem_of_host? hfound).2
    subst hid hhid
    simp only [checked, hvm, hhost, Option.any_some]
    refine admitted_update_iff (f := fun v => { v with status := .pending }) hk.2 hvm hfound ?_ ?_
      (fun _ => ⟨rfl, rfl, rfl, rfl⟩) (by rw [hdb]; rfl) (by rw [hdb]; rfl)
    · rcases hbefore with hst | hst <;> simp [ScheduledVm.activeOn, hst, VmStatus.isActive]
    · simp [ScheduledVm.activeOn, hvmHost, VmStatus.isActive]
  | migrate id targetHostId succeeds =>
    obtain ⟨rfl, hne⟩ := hmove
    obtain ⟨target, -, hP, hiff⟩ := (relocates_migrate hs).admitted_iff hk hvm hvm' hne
    rw [hiff]
    simp [checked, hvm, hP]
  | failover id networks requiredPools start =>
    obtain ⟨rfl, hne⟩ := hmove
    obtain ⟨target, -, hP, hiff⟩ := (relocates_failover hs).admitted_iff hk hvm hvm' hne
    rw [hiff, hP]
    rfl
  | evacuate id networks unreachable succeeds =>
    obtain ⟨rfl, hne⟩ := hmove
    obtain ⟨target, -, hP, hiff⟩ := (relocates_evacuate hs).admitted_iff hk hvm hvm' hne
    rw [hiff, hP]
    rfl
  | _ => exact hmove.elim

section Runs

def noHosts : AdmissionState := ⟨⟨[], [], [], [], []⟩, none⟩

/-- A VM is created on the only host and stopped. -/
def stoppedVm : List AdmissionAction :=
  [.addHost (smallHost ⟨"host-a"⟩ 0), .create ⟨"vm-1"⟩ bigRequest [],
    .writeStatus ⟨"vm-1"⟩ .shutdown]

/-- The row of a VM that was given what `bigRequest` asks for. -/
def bigVm (id : Uuid) (status : VmStatus) : ScheduledVm :=
  ⟨id, some ⟨"host-a"⟩, status, 5 * 2 ^ 30, 2, [], none, none⟩

theorem restarted_vm_admitted :
    ∃ s s' : AdmissionState,
      run (AdmissionState.step noOversubscription) noHosts stoppedVm = some s ∧
      s.step noOversubscription (.start ⟨"vm-1"⟩) = some s' ∧
      s.Moves (.start ⟨"vm-1"⟩) s' ⟨"vm-1"⟩ ∧ s'.db.Admitted noOversubscription ⟨"vm-1"⟩ := by
  have hrun : run (AdmissionState.step noOversubscription) noHosts stoppedVm
      = some ⟨⟨[smallHost ⟨"host-a"⟩ 0], [bigVm ⟨"vm-1"⟩ .shutdown], [], [], []⟩, none⟩ := by
    decide +kernel
  have hstep : AdmissionState.step noOversubscription
      ⟨⟨[smallHost ⟨"host-a"⟩ 0], [bigVm ⟨"vm-1"⟩ .shutdown], [], [], []⟩, none⟩ (.start ⟨"vm-1"⟩)
      = some ⟨⟨[smallHost ⟨"host-a"⟩ 0], [bigVm ⟨"vm-1"⟩ .pending], [], [], []⟩,
        some (⟨"vm-1"⟩, .shutdown)⟩ := by
    decide +kernel
  have hreach : Reach (AdmissionState.step noOversubscription) (fun _ _ => True)
      AdmissionState.Start noHosts :=
    .start ⟨⟨List.nodup_nil, List.nodup_nil⟩, rfl⟩
  have hmoves : AdmissionState.Moves
      ⟨⟨[smallHost ⟨"host-a"⟩ 0], [bigVm ⟨"vm-1"⟩ .shutdown], [], [], []⟩, none⟩ (.start ⟨"vm-1"⟩)
      ⟨⟨[smallHost ⟨"host-a"⟩ 0], [bigVm ⟨"vm-1"⟩ .pending], [], [], []⟩,
        some (⟨"vm-1"⟩, .shutdown)⟩ ⟨"vm-1"⟩ :=
    ⟨bigVm ⟨"vm-1"⟩ .shutdown, bigVm ⟨"vm-1"⟩ .pending, rfl, rfl, rfl, .inl rfl, rfl⟩
  refine ⟨_, _, hrun, hstep, hmoves, ?_⟩
  exact (moves_admitted_iff_checked (reach_of_run hreach (by simp [stoppedVm, Along]) hrun) hstep
    hmoves).2 (by decide +kernel)

/-- While the VM was stopped, another one was given its place. -/
def placeTaken : List AdmissionAction := stoppedVm ++ [.create ⟨"vm-2"⟩ bigRequest []]

/-- **A start overcommits the host**: 10 GiB on a host of 8. -/
theorem restarted_vm_not_admitted :
    ∃ s s' : AdmissionState,
      run (AdmissionState.step noOversubscription) noHosts placeTaken = some s ∧
      s.step noOversubscription (.start ⟨"vm-1"⟩) = some s' ∧
      s.Moves (.start ⟨"vm-1"⟩) s' ⟨"vm-1"⟩ ∧ ¬ s'.db.Admitted noOversubscription ⟨"vm-1"⟩ := by
  have hrun : run (AdmissionState.step noOversubscription) noHosts placeTaken
      = some ⟨⟨[smallHost ⟨"host-a"⟩ 0], [bigVm ⟨"vm-2"⟩ .created, bigVm ⟨"vm-1"⟩ .shutdown],
        [], [], []⟩, none⟩ := by
    decide +kernel
  have hstep : AdmissionState.step noOversubscription
      ⟨⟨[smallHost ⟨"host-a"⟩ 0], [bigVm ⟨"vm-2"⟩ .created, bigVm ⟨"vm-1"⟩ .shutdown],
        [], [], []⟩, none⟩ (.start ⟨"vm-1"⟩)
      = some ⟨⟨[smallHost ⟨"host-a"⟩ 0], [bigVm ⟨"vm-2"⟩ .created, bigVm ⟨"vm-1"⟩ .pending],
        [], [], []⟩, some (⟨"vm-1"⟩, .shutdown)⟩ := by
    decide +kernel
  refine ⟨_, _, hrun, hstep,
    ⟨bigVm ⟨"vm-1"⟩ .shutdown, bigVm ⟨"vm-1"⟩ .pending, rfl, rfl, rfl, .inl rfl, rfl⟩, ?_⟩
  rintro ⟨vm, host, hvm, hhost, -, hmemory, -⟩
  cases hvm.symm.trans (show _ = some (bigVm ⟨"vm-1"⟩ .pending) from rfl)
  cases hhost.symm.trans (show _ = some (smallHost ⟨"host-a"⟩ 0) from rfl)
  have hsum : allocated (·.memorySize) [bigVm ⟨"vm-2"⟩ .created, bigVm ⟨"vm-1"⟩ .pending]
      ⟨"host-a"⟩ = 10 * 2 ^ 30 := by
    decide +kernel
  have hle := hmemory (8 * 2 ^ 30) rfl
  rw [smallHost, hsum] at hle
  norm_num [noOversubscription] at hle

end Runs

end Qarax
