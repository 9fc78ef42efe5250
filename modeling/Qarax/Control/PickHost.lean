import Qarax.Core.Query
import Qarax.Control.Scheduler

/-!
# The query of the scheduler

`pick_host_tx` of `model/hosts.rs` puts its query together from fragments, most of which depend on
the request.  Here the query is as it is generated: columns may be null, the allocations of a host
come from a `LEFT JOIN` with a grouped subquery, a pool is an inner join, and `ORDER BY` has a key
for each preference that the request has.

* `conditions`, `orderBy`, `fromClause` — the fragments.
* `PickHostTx` — what the database may answer.
* `Eligible`, `rank` — what the scheduler is for: which hosts will do and which of them is best.
* `pickHostTx_best` — the query finds it.
* `pickHostTx_iff_find?` — so `eligibleHosts` is the query, wherever names tell hosts apart.

Names are compared by the collation of the database, of which nothing is assumed but that its keys
are linearly ordered.
-/

namespace Qarax

namespace PickHost

open Query

/-! ## Fragments -/

/-- A row of the subquery `alloc`. -/
structure Alloc where
  hostId : Option Uuid
  allocatedMemoryBytes : Option Int
  allocatedVcpus : Option Int
  deriving DecidableEq

/-- A row of the joined tables. -/
structure HostRow where
  h : ScheduledHost
  alloc : Option Alloc
  hsp : Option (Uuid × Uuid)
  deriving DecidableEq

/-- `status NOT IN ('SHUTDOWN', 'UNKNOWN')` -/
def active (vm : ScheduledVm) : Truth :=
  not (or (eq (some vm.status) (some .shutdown)) (eq (some vm.status) (some .unknown)))

def alloc (vms : List ScheduledVm) : List Alloc :=
  (groupBy (·.hostId) (vms.filter fun vm =>
    holds (and (active vm) (not (isNull vm.hostId))))).map fun g =>
      ⟨g.1, sum (g.2.map (·.memorySize)), sum (g.2.map (·.bootVcpus))⟩

def fromClause (db : Cluster) (request : SchedulingRequest) : List HostRow :=
  let rows := leftJoin (fun (h : ScheduledHost) (a : Alloc) => eq a.hostId (some h.id))
    db.hosts (alloc db.vms)
  if request.storagePoolId.isSome then
    (innerJoin (fun (r : ScheduledHost × Option Alloc) (hsp : Uuid × Uuid) =>
      eq (some hsp.1) (some r.1.id)) rows db.hostStoragePools).map fun r => ⟨r.1.1, r.1.2, some r.2⟩
  else rows.map fun r => ⟨r.1, r.2, none⟩

/-- VMs of the host with a condition on their tags. -/
def policyVm (row : HostRow) (tags : ScheduledVm → Bool) (vm : ScheduledVm) : Truth :=
  and (and (eq vm.hostId (some row.h.id)) (active vm)) (some (tags vm))

/-- The operator `@>` on arrays. -/
def hasTags (tags : List String) (vm : ScheduledVm) : Bool := tags.all (vm.tags.contains ·)

/-- The operator `&&` on arrays. -/
def sharesTag (tags : List String) (vm : ScheduledVm) : Bool := vm.tags.any (tags.contains ·)

def policyConditions (db : Cluster) (policy : PlacementPolicy) : List (HostRow → Truth) :=
  (policy.reservationClass.toList.map fun reservationClass row =>
    eq row.h.reservationClass (some reservationClass)) ++
  (unlessEmpty policy.requiredHostLabels fun row =>
    some (hasLabels row.h.placementLabels policy.requiredHostLabels)) ++
  (unlessEmpty policy.antiAffinityTags fun row =>
    not (exist db.vms (policyVm row (sharesTag policy.antiAffinityTags))))

/-- `total IS NULL OR total * ratio - COALESCE(allocated, 0) >= request` -/
def capacity (ratio : ℚ) (total allocated : Option Int) (request : Int) : Truth :=
  or (isNull total) (compares (fun a b => b ≤ a)
    (total.map fun (total : Int) => total * ratio - (coalesce allocated 0 : Int))
    (some (request : ℚ)))

def gpuCondition (request : GpuRequest) (row : HostRow) (g : HostGpu) : Truth :=
  allOf ([fun (g : HostGpu) => eq (some g.hostId) (some row.h.id), fun g => isNull g.vmId] ++
    (request.vendor.toList.map fun vendor g => eq g.vendor (some vendor)) ++
    (request.model.toList.map fun model g => eq g.model (some model)) ++
    (request.minVramBytes.toList.map fun bytes g =>
      compares (fun a b => b ≤ a) g.vramBytes (some bytes))) g

/-- The `WHERE` of the query, fragment by fragment. -/
def conditions (settings : SchedulingSettings) (db : Cluster) (request : SchedulingRequest) :
    List (HostRow → Truth) :=
  [fun row => eq (some row.h.status) (some .up)] ++
  (request.storagePoolId.toList.map fun pool row => eq (row.hsp.map Prod.snd) (some pool)) ++
  (unlessEmpty request.excludedHostIds fun row =>
    not (some (request.excludedHostIds.contains row.h.id))) ++
  (request.requiredNetworkIds.map fun network row => exist db.hostNetworks fun hn =>
    and (eq (some hn.1) (some row.h.id)) (eq (some hn.2) (some network))) ++
  (request.architecture.toList.map fun architecture row =>
    or (isNull row.h.architecture) (eq row.h.architecture (some architecture))) ++
  (request.placementPolicy.toList.flatMap (policyConditions db)) ++
  [fun row => capacity settings.memoryOversubscriptionRatio row.h.totalMemoryBytes
      (row.alloc.bind (·.allocatedMemoryBytes)) request.memoryBytes,
    fun row => capacity settings.cpuOversubscriptionRatio row.h.totalCpus
      (row.alloc.bind (·.allocatedVcpus)) request.vcpus,
    fun row => or (isNull row.h.availableMemoryBytes)
      (compares (fun a b => b < a) row.h.availableMemoryBytes
        (some settings.memoryHealthFloorBytes)),
    fun row => or (isNull row.h.diskAvailableBytes)
      (compares (fun a b => b ≤ a) row.h.diskAvailableBytes
        (some (request.diskBytes + settings.diskHeadroomBytes)))] ++
  (request.gpu.toList.map fun gpu row =>
    compares (fun a b => b ≤ a) (some (count db.gpus (gpuCondition gpu row) : Int))
      (some gpu.count))

def policyOrder (db : Cluster) (policy : PlacementPolicy) : List (HostRow → HostRow → Ordering) :=
  (unlessEmpty policy.preferredHostLabels
    (desc fun row => some (hasLabels row.h.placementLabels policy.preferredHostLabels))) ++
  (unlessEmpty policy.affinityTags
    (desc fun row => some (count db.vms (policyVm row (hasTags policy.affinityTags))))) ++
  (unlessEmpty policy.spreadTags
    (asc fun row => some (count db.vms (policyVm row (hasTags policy.spreadTags)))))

section Query

variable {Name : Type} [LinearOrder Name] (collate : String → Name)

/-- The `ORDER BY` of the query. -/
def orderBy (db : Cluster) (request : SchedulingRequest) : List (HostRow → HostRow → Ordering) :=
  (request.placementPolicy.toList.flatMap (policyOrder db)) ++
  [asc fun row => row.h.loadAverage, asc fun row => some (collate row.h.name)]

def selected (settings : SchedulingSettings) (db : Cluster) (request : SchedulingRequest) :
    List HostRow :=
  (fromClause db request).filter fun row => holds (allOf (conditions settings db request) row)

/-- `pick_host_tx` may return this while other transactions have locked these hosts. -/
def PickHostTx (settings : SchedulingSettings) (db : Cluster) (request : SchedulingRequest)
    (locked : Uuid → Bool) (answer : Option ScheduledHost) : Prop :=
  ∃ row : Option HostRow,
    FirstUnlocked (orderBy collate db request) (fun row => locked row.h.id)
      (selected settings db request) row ∧
    answer = row.map (·.h)

/-! ## What the scheduler is for -/

/-- **A host that will do.**  What a host has not reported does not rule it out. -/
structure Eligible (settings : SchedulingSettings) (db : Cluster) (request : SchedulingRequest)
    (host : ScheduledHost) : Prop where
  up : host.status = .up
  notExcluded : host.id ∉ request.excludedHostIds
  pool : ∀ pool ∈ request.storagePoolId, (host.id, pool) ∈ db.hostStoragePools
  networks : ∀ network ∈ request.requiredNetworkIds, (host.id, network) ∈ db.hostNetworks
  architecture : ∀ a ∈ request.architecture, ∀ b ∈ host.architecture, b = a
  reservationClass : ∀ policy ∈ request.placementPolicy, ∀ c ∈ policy.reservationClass,
    host.reservationClass = some c
  requiredLabels : ∀ policy ∈ request.placementPolicy, ∀ label ∈ policy.requiredHostLabels,
    host.placementLabels.lookup label.1 = some label.2
  antiAffinity : ∀ policy ∈ request.placementPolicy, ∀ vm ∈ db.vms, vm.activeOn host.id = true →
    ∀ tag ∈ policy.antiAffinityTags, tag ∉ vm.tags
  memory : ∀ total ∈ host.totalMemoryBytes,
    ((request.memoryBytes + allocated (·.memorySize) db.vms host.id : Int) : ℚ)
      ≤ settings.memoryOversubscriptionRatio * total
  cpu : ∀ total ∈ host.totalCpus,
    ((request.vcpus + allocated (·.bootVcpus) db.vms host.id : Int) : ℚ)
      ≤ settings.cpuOversubscriptionRatio * total
  healthFloor : ∀ bytes ∈ host.availableMemoryBytes, settings.memoryHealthFloorBytes < bytes
  disk : ∀ bytes ∈ host.diskAvailableBytes,
    request.diskBytes + settings.diskHeadroomBytes ≤ bytes
  gpus : ∀ gpu ∈ request.gpu, gpu.count ≤ ((db.gpus.filter (gpu.free host.id)).length : Int)

/-- **The better choice is the smaller one**: preferred labels, more VMs with the affinity tags,
fewer with the spread tags, less load, and the name.  What the request does not ask for is the same
for all hosts. -/
def rank (db : Cluster) (policy : Option PlacementPolicy) (host : ScheduledHost) :
    Boolᵒᵈ ×ₗ ℕᵒᵈ ×ₗ ℕ ×ₗ WithTop ℚ ×ₗ Name :=
  let preferred := policy.all fun p => hasLabels host.placementLabels p.preferredHostLabels
  let affinity := taggedOn db ((policy.map (·.affinityTags)).getD []) host
  let spread := taggedOn db ((policy.map (·.spreadTags)).getD []) host
  toLex (.toDual preferred, toLex (.toDual affinity, toLex (spread,
    toLex (nullsLast host.loadAverage, collate host.name))))

end Query

/-! ## The fragments select the hosts that will do -/

section Conditions

variable {settings : SchedulingSettings} {db : Cluster} {request : SchedulingRequest}
  {row : HostRow} {host : ScheduledHost}

@[simp] lemma holds_active (vm : ScheduledVm) : holds (active vm) = vm.status.isActive := by
  unfold active
  cases vm.status <;> rfl

@[simp] lemma holds_policyVm (tags : ScheduledVm → Bool) (vm : ScheduledVm) :
    holds (policyVm row tags vm) = (vm.activeOn row.h.id && tags vm) := by
  rw [policyVm, holds_and, holds_and, holds_active, holds_eq_some, holds_some,
    ScheduledVm.activeOn, Bool.and_comm vm.status.isActive]

lemma holds_capacity {ratio : ℚ} {total allocated : Option Int} {request : Int} :
    holds (capacity ratio total allocated request) = true ↔
      ∀ t ∈ total, ((request + coalesce allocated 0 : Int) : ℚ) ≤ ratio * t := by
  cases total with
  | none => simp [capacity]
  | some t =>
    simp only [capacity, holds_or, holds_isNull, holds_compares, Option.map_some, Option.any_some,
      Option.isNone_some, Bool.false_or, decide_eq_true_eq, Option.mem_some_iff, forall_eq']
    push_cast
    constructor <;> intro h <;> linarith

@[simp] lemma holds_gpuCondition (gpu : GpuRequest) (g : HostGpu) :
    holds (gpuCondition gpu row g) = gpu.free row.h.id g := by
  simp [gpuCondition, holds_allOf, GpuRequest.free, Function.comp_def, Bool.and_assoc]

lemma all_policyConditions {policy : PlacementPolicy} :
    ((policyConditions db policy).all fun condition => holds (condition row))
      = policy.admits db.vms row.h := by
  rw [policyConditions, List.all_append, List.all_append, all_unlessEmpty, all_unlessEmpty]
  · simp [PlacementPolicy.admits, Function.comp_def, exist, holds_not_some, sharesTag]
  · intro hnone
    simp [hnone, exist, sharesTag, holds_not_some]
  · intro hnone
    simp [hnone, hasLabels]

/-- The rows of a group are the active VMs of a host. -/
lemma filter_hostId (vms : List ScheduledVm) (hostId : Uuid) :
    (vms.filter fun vm => holds (and (active vm) (not (isNull vm.hostId)))).filter
      (·.hostId = some hostId) = vms.filter (·.activeOn hostId) := by
  rw [List.filter_filter]
  refine List.filter_congr fun vm _ => ?_
  rw [holds_and, holds_active, isNull, holds_not_some, ScheduledVm.activeOn]
  by_cases hhost : vm.hostId = some hostId <;> simp [hhost]

lemma mem_alloc {vms : List ScheduledVm} {a : Alloc} : a ∈ alloc vms ↔
    ∃ hostId, (∃ vm ∈ vms, vm.activeOn hostId = true) ∧
      a = ⟨some hostId, some (allocated (·.memorySize) vms hostId),
        some (allocated (·.bootVcpus) vms hostId)⟩ := by
  have hsum : ∀ {hostId} (resource : ScheduledVm → Int),
      (∃ vm ∈ vms, vm.activeOn hostId = true) →
      sum ((vms.filter (·.activeOn hostId)).map resource)
        = some (allocated resource vms hostId) := by
    rintro hostId resource ⟨vm, hvm, hactive⟩
    have hmem : vm ∈ vms.filter (·.activeOn hostId) := List.mem_filter.2 ⟨hvm, hactive⟩
    rw [sum, if_neg (by simpa [List.isEmpty_iff] using List.ne_nil_of_mem hmem), allocated]
  simp only [alloc, List.mem_map, Prod.exists, mem_groupBy]
  constructor
  · rintro ⟨k, group, ⟨⟨vm, hvm, rfl⟩, rfl⟩, rfl⟩
    obtain ⟨hvm, hactive⟩ := List.mem_filter.1 hvm
    rw [holds_and, holds_active, isNull, holds_not_some, Bool.and_eq_true, Bool.not_eq_true',
      Option.isNone_eq_false_iff, Option.isSome_iff_exists] at hactive
    obtain ⟨hactive, hostId, hhost⟩ := hactive
    have hex : ∃ vm ∈ vms, vm.activeOn hostId = true :=
      ⟨vm, hvm, by simp [ScheduledVm.activeOn, hhost, hactive]⟩
    refine ⟨hostId, hex, ?_⟩
    rw [hhost, filter_hostId, hsum _ hex, hsum _ hex]
  · rintro ⟨hostId, hex, rfl⟩
    refine ⟨some hostId, vms.filter (·.activeOn hostId), ⟨?_, (filter_hostId _ _).symm⟩, ?_⟩
    · obtain ⟨vm, hvm, hactive⟩ := hex
      have hmem : vm ∈ vms.filter (·.activeOn hostId) := List.mem_filter.2 ⟨hvm, hactive⟩
      rw [← filter_hostId, List.mem_filter] at hmem
      exact ⟨vm, hmem.1, by simpa using hmem.2⟩
    · rw [hsum _ hex, hsum _ hex]

/-- What the joins give a host. -/
structure Joined (db : Cluster) (row : HostRow) : Prop where
  host : row.h ∈ db.hosts
  memory : coalesce (row.alloc.bind (·.allocatedMemoryBytes)) 0
    = allocated (·.memorySize) db.vms row.h.id
  vcpus : coalesce (row.alloc.bind (·.allocatedVcpus)) 0 = allocated (·.bootVcpus) db.vms row.h.id
  pool : ∀ hsp ∈ row.hsp, hsp ∈ db.hostStoragePools ∧ hsp.1 = row.h.id

lemma joined_of_leftJoin {a : Option Alloc} (hsp : Option (Uuid × Uuid))
    (h : (host, a) ∈ leftJoin (fun (h : ScheduledHost) (a : Alloc) => eq a.hostId (some h.id))
      db.hosts (alloc db.vms))
    (hpool : ∀ hsp' ∈ hsp, hsp' ∈ db.hostStoragePools ∧ hsp'.1 = host.id) :
    Joined db ⟨host, a, hsp⟩ := by
  obtain ⟨hhost, halloc⟩ := mem_leftJoin.1 h
  rcases halloc with ⟨rfl, hnone⟩ | ⟨a, ha, hon, rfl⟩
  · -- no active VM, or the host would have a row in `alloc`
    have hempty : db.vms.filter (·.activeOn host.id) = [] := by
      refine List.filter_eq_nil_iff.2 fun vm hvm hactive => ?_
      have := hnone _ (mem_alloc.2 ⟨host.id, ⟨vm, hvm, hactive⟩, rfl⟩)
      simp at this
    refine ⟨hhost, ?_, ?_, hpool⟩ <;> simp [allocated, hempty, coalesce]
  · obtain ⟨hostId, -, rfl⟩ := mem_alloc.1 ha
    obtain rfl : hostId = host.id := by simpa using hon
    exact ⟨hhost, rfl, rfl, hpool⟩

lemma joined_of_mem (h : row ∈ fromClause db request) :
    Joined db row ∧ row.hsp.isSome = request.storagePoolId.isSome := by
  unfold fromClause at h
  dsimp only at h
  split_ifs at h with hpool
  · obtain ⟨⟨⟨host, a⟩, hsp⟩, hmem, rfl⟩ := List.mem_map.1 h
    obtain ⟨hleft, hhsp, hon⟩ := mem_innerJoin.1 hmem
    refine ⟨joined_of_leftJoin _ hleft ?_, hpool.symm⟩
    intro hsp' hsome
    obtain rfl : hsp = hsp' := Option.some_inj.1 hsome
    exact ⟨hhsp, by simpa using hon⟩
  · obtain ⟨⟨host, a⟩, hleft, rfl⟩ := List.mem_map.1 h
    exact ⟨joined_of_leftJoin _ hleft (by simp), by simpa using hpool⟩

lemma Eligible.policy (h : Eligible settings db request host) (policy : PlacementPolicy)
    (hp : request.placementPolicy = some policy) : policy.admits db.vms host = true :=
  PlacementPolicy.admits_iff.2 ⟨h.reservationClass policy hp, h.requiredLabels policy hp,
    fun vm hvm hon tag hin hout => h.antiAffinity policy hp vm hvm hon tag hout hin⟩

lemma eligible_iff :
    eligible settings db request host = true ↔ Eligible settings db request host := by
  simp only [eligible, admits, hasMemory, hasVcpus, Bool.and_eq_true, beq_iff_eq, hasRoom_iff,
    Option.all_eq_true, List.contains_iff_mem, List.all_eq_true,
    decide_eq_true_eq, Bool.not_eq_true', ← Bool.not_eq_true]
  constructor
  · rintro ⟨⟨⟨⟨⟨⟨⟨⟨⟨⟨hup, hpolicy⟩, hmemory⟩, hcpu⟩, hpool⟩, hexcluded⟩, hnetworks⟩,
      harchitecture⟩, hfloor⟩, hdisk⟩, hgpus⟩
    have hp := fun policy h => PlacementPolicy.admits_iff.1 (hpolicy policy h)
    exact {
      up := hup, notExcluded := hexcluded, pool := hpool, networks := hnetworks
      architecture := harchitecture
      reservationClass := fun policy h => (hp policy h).1
      requiredLabels := fun policy h => (hp policy h).2.1
      antiAffinity := fun policy h vm hvm hon tag hout hin =>
        (hp policy h).2.2 vm hvm hon tag hin hout
      memory := hmemory, cpu := hcpu, healthFloor := hfloor, disk := hdisk, gpus := hgpus }
  · intro h
    exact ⟨⟨⟨⟨⟨⟨⟨⟨⟨⟨h.up, h.policy⟩, h.memory⟩, h.cpu⟩, h.pool⟩, h.notExcluded⟩, h.networks⟩,
      h.architecture⟩, h.healthFloor⟩, h.disk⟩, h.gpus⟩

/-- What the fragments say of a row; the pool is that of the row it was joined with. -/
lemma holds_conditions (hjoin : Joined db row) :
    holds (allOf (conditions settings db request) row) = true ↔
      (∀ pool ∈ request.storagePoolId, row.hsp.map Prod.snd = some pool) ∧
        eligible settings db { request with storagePoolId := none } row.h = true := by
  have hexcluded : ((unlessEmpty request.excludedHostIds fun row : HostRow =>
      not (some (request.excludedHostIds.contains row.h.id))).all
        fun condition => holds (condition row)) = true ↔ row.h.id ∉ request.excludedHostIds := by
    rw [all_unlessEmpty]
    · simp [holds_not_some]
    · intro hnone
      simp [hnone, holds_not_some]
  have hnetworks : (request.requiredNetworkIds.all fun network =>
      holds (exist db.hostNetworks fun hn =>
        and (eq (some hn.1) (some row.h.id)) (eq (some hn.2) (some network)))) = true ↔
      ∀ network ∈ request.requiredNetworkIds, (row.h.id, network) ∈ db.hostNetworks := by
    simp [exist]
  have harchitecture (a : String) : holds (or (isNull row.h.architecture)
      (eq row.h.architecture (some a))) = true ↔ ∀ b ∈ row.h.architecture, b = a := by
    rw [eq, holds_isNull_or]
    simp
  have hgpus (gpu : GpuRequest) : holds (compares (fun a b => decide (b ≤ a))
      (some (count db.gpus (gpuCondition gpu row) : Int)) (some gpu.count)) = true ↔
      gpu.count ≤ ((db.gpus.filter (gpu.free row.h.id)).length : Int) := by
    simp [count]
  rw [holds_allOf]
  simp only [conditions, List.all_append, List.all_cons, List.all_nil, List.all_map,
    List.all_flatMap, all_toList, Bool.and_eq_true, Option.all_eq_true, Function.comp_def,
    hexcluded, hnetworks, harchitecture, all_policyConditions, hgpus, holds_capacity, hjoin.memory,
    hjoin.vcpus,
    holds_isNull_or, holds_eq_some, beq_iff_eq, decide_eq_true_eq, and_true, Option.some_inj,
    eligible, admits, hasMemory, hasVcpus, hasRoom_iff, Option.all_none, List.contains_iff_mem,
    List.all_eq_true, Bool.not_eq_true', ← Bool.not_eq_true]
  constructor
  · rintro ⟨⟨⟨⟨⟨⟨⟨hup, hpool⟩, hexcluded⟩, hnetworks⟩, harchitecture⟩, hpolicy⟩, hmemory, hcpu,
      hfloor, hdisk⟩, hgpus⟩
    exact ⟨hpool, ⟨⟨⟨⟨⟨⟨⟨⟨hup, hpolicy⟩, hmemory⟩, hcpu⟩, hexcluded⟩, hnetworks⟩, harchitecture⟩,
      hfloor⟩, hdisk⟩, hgpus⟩
  · rintro ⟨hpool, ⟨⟨⟨⟨⟨⟨⟨⟨hup, hpolicy⟩, hmemory⟩, hcpu⟩, hexcluded⟩, hnetworks⟩, harchitecture⟩,
      hfloor⟩, hdisk⟩, hgpus⟩
    exact ⟨⟨⟨⟨⟨⟨⟨hup, hpool⟩, hexcluded⟩, hnetworks⟩, harchitecture⟩, hpolicy⟩, hmemory, hcpu,
      hfloor, hdisk⟩, hgpus⟩

/-- **The rows that are left are those of the hosts that will do.** -/
lemma exists_selected : (∃ row ∈ selected settings db request, row.h = host) ↔
    host ∈ db.hosts ∧ Eligible settings db request host := by
  simp only [selected, List.mem_filter]
  constructor
  · rintro ⟨row, ⟨hrow, hholds⟩, rfl⟩
    obtain ⟨hjoin, -⟩ := joined_of_mem hrow
    obtain ⟨hpool, helig⟩ := (holds_conditions hjoin).1 hholds
    refine ⟨hjoin.host, { eligible_iff.1 helig with pool := fun pool hsome => ?_ }⟩
    obtain ⟨⟨hostId, _⟩, hhsp, rfl⟩ := Option.map_eq_some_iff.1 (hpool pool hsome)
    obtain ⟨hmem, rfl⟩ := hjoin.pool _ hhsp
    exact hmem
  · rintro ⟨hhost, helig⟩
    obtain ⟨a, hleft⟩ := exists_leftJoin
      (fun (h : ScheduledHost) (a : Alloc) => eq a.hostId (some h.id))
      (alloc db.vms) hhost
    have hrest := eligible_iff.2
      (show Eligible settings db { request with storagePoolId := none } host
      from { helig with pool := nofun })
    cases hpool : request.storagePoolId with
    | none =>
      have hrow : (⟨host, a, none⟩ : HostRow) ∈ fromClause db request := by
        simpa [fromClause, hpool] using hleft
      refine ⟨_, ⟨hrow, (holds_conditions (joined_of_mem hrow).1).2 ⟨?_, hrest⟩⟩, rfl⟩
      simp [hpool]
    | some pool =>
      have hrow : (⟨host, a, some (host.id, pool)⟩ : HostRow) ∈ fromClause db request := by
        simpa [fromClause, hpool, mem_innerJoin] using ⟨hleft, helig.pool pool hpool⟩
      refine ⟨_, ⟨hrow, (holds_conditions (joined_of_mem hrow).1).2 ⟨?_, hrest⟩⟩, rfl⟩
      simp [hpool]

end Conditions

/-! ## The keys compare ranks -/

section Order

variable {Name : Type} [LinearOrder Name] (collate : String → Name) {settings : SchedulingSettings}
  {db : Cluster} {request : SchedulingRequest} {locked : Uuid → Bool}
  {answer : Option ScheduledHost}

lemma count_hasTags (tags : List String) (row : HostRow) (h : tags.isEmpty = false) :
    count db.vms (policyVm row (hasTags tags)) = taggedOn db tags row.h := by
  simp only [count, holds_policyVm, hasTags, taggedOn, h, Bool.false_eq_true, if_false]

lemma lex_policyOrder (policy : PlacementPolicy) (a b : HostRow) :
    lex (policyOrder db policy) a b =
      ((compare (hasLabels b.h.placementLabels policy.preferredHostLabels)
          (hasLabels a.h.placementLabels policy.preferredHostLabels)).then
        ((compare (taggedOn db policy.affinityTags b.h) (taggedOn db policy.affinityTags a.h)).then
          (compare (taggedOn db policy.spreadTags a.h) (taggedOn db policy.spreadTags b.h)))) := by
  simp only [policyOrder, lex_append, lex_unlessEmpty, desc_some, asc_some, Ordering.then_assoc]
  congr 1
  · split_ifs with hempty
    · simp [List.isEmpty_iff.1 hempty, hasLabels]
    · rfl
  congr 1
  · split_ifs with hempty
    · simp [taggedOn, hempty]
    · rw [count_hasTags _ _ (by simpa using hempty), count_hasTags _ _ (by simpa using hempty)]
  · split_ifs with hempty
    · simp [taggedOn, hempty]
    · rw [count_hasTags _ _ (by simpa using hempty), count_hasTags _ _ (by simpa using hempty)]

/-- **`ORDER BY` compares ranks.** -/
lemma lex_orderBy (a b : HostRow) : lex (orderBy collate db request) a b =
    compare (rank collate db request.placementPolicy a.h)
      (rank collate db request.placementPolicy b.h) := by
  have hrest : lex [asc fun row : HostRow => row.h.loadAverage,
      asc fun row => some (collate row.h.name)] a b =
      (compare (nullsLast a.h.loadAverage) (nullsLast b.h.loadAverage)).then
        (compare (collate a.h.name) (collate b.h.name)) := by
    simp only [lex, asc_some, Ordering.then_eq]
    rfl
  rw [orderBy, lex_append, hrest]
  cases hpolicy : request.placementPolicy with
  | none => rfl
  | some policy =>
    rw [Option.toList_some, List.flatMap_singleton, lex_policyOrder]
    simp only [Ordering.then_assoc]
    rfl

/-- The database has an answer. -/
theorem exists_pickHostTx (settings : SchedulingSettings) (db : Cluster)
    (request : SchedulingRequest) (locked : Uuid → Bool) :
    ∃ answer, PickHostTx collate settings db request locked answer := by
  have hkeys := fun a b => @lex_orderBy Name _ collate db request a b
  obtain ⟨row, hrow⟩ := exists_firstUnlocked hkeys (fun row => locked row.h.id)
    (selected settings db request)
  exact ⟨_, row, hrow, rfl⟩

/-- The best host that will do and is not locked, if there is one. -/
structure Best (settings : SchedulingSettings) (db : Cluster) (request : SchedulingRequest)
    (locked : Uuid → Bool) (answer : Option ScheduledHost) : Prop where
  isSome_iff : answer.isSome = true ↔ ∃ host ∈ db.hosts, locked host.id = false ∧
    Eligible settings db request host
  best : ∀ host ∈ answer, host ∈ db.hosts ∧ locked host.id = false ∧
    Eligible settings db request host ∧
    ∀ other ∈ db.hosts, locked other.id = false → Eligible settings db request other →
      rank collate db request.placementPolicy host
        ≤ rank collate db request.placementPolicy other

variable {collate}

/-- Rows that stand for the hosts that will do, in an order that compares ranks. -/
lemma best_of_firstUnlocked {ρ : Type} {keys : List (ρ → ρ → Ordering)} {h : ρ → ScheduledHost}
    {rows : List ρ} {row : Option ρ}
    (hkeys : ∀ a b, lex keys a b = compare (rank collate db request.placementPolicy (h a))
      (rank collate db request.placementPolicy (h b)))
    (hrows : ∀ {host}, (∃ row ∈ rows, h row = host) ↔
      host ∈ db.hosts ∧ Eligible settings db request host)
    (hfirst : FirstUnlocked keys (fun row => locked (h row).id) rows row) :
    Best collate settings db request locked (row.map h) := by
  constructor
  · rw [Option.isSome_map, hfirst.isSome_iff]
    constructor
    · rintro ⟨row, hrow, hlocked⟩
      obtain ⟨hhost, helig⟩ := hrows.1 ⟨row, hrow, rfl⟩
      exact ⟨h row, hhost, hlocked, helig⟩
    · rintro ⟨host, hhost, hlocked, helig⟩
      obtain ⟨row, hrow, rfl⟩ := hrows.2 ⟨hhost, helig⟩
      exact ⟨row, hrow, hlocked⟩
  · intro host hsome
    obtain ⟨row, rfl, rfl⟩ := Option.map_eq_some_iff.1 hsome
    obtain ⟨hrow, hlocked, hbest⟩ := hfirst.best rfl
    obtain ⟨hhost, helig⟩ := hrows.1 ⟨row, hrow, rfl⟩
    refine ⟨hhost, hlocked, helig, fun other hother hfree helig' => ?_⟩
    obtain ⟨row', hrow', rfl⟩ := hrows.2 ⟨hother, helig'⟩
    rcases hbest row' hrow' hfree with rfl | hle
    · exact le_rfl
    · exact isLE_compare.1 (hkeys row row' ▸ hle)

lemma best_of_pickHostTx (h : PickHostTx collate settings db request locked answer) :
    Best collate settings db request locked answer := by
  obtain ⟨row, hfirst, rfl⟩ := h
  exact best_of_firstUnlocked (lex_orderBy collate) exists_selected hfirst

/-- Names decide between hosts, so there is one answer. -/
lemma Best.unique {answer' : Option ScheduledHost}
    (hnames : ∀ a ∈ db.hosts, ∀ b ∈ db.hosts, collate a.name = collate b.name → a = b)
    (h : Best collate settings db request locked answer)
    (h' : Best collate settings db request locked answer') : answer = answer' := by
  have hsome : answer.isSome = answer'.isSome :=
    Bool.eq_iff_iff.2 (h.isSome_iff.trans h'.isSome_iff.symm)
  cases answer with
  | none => exact (Option.isNone_iff_eq_none.1 (by simpa using hsome)).symm
  | some host =>
    obtain ⟨host', rfl⟩ := Option.isSome_iff_exists.1 hsome.symm
    obtain ⟨hhost, hfree, helig, hbest⟩ := h.best host rfl
    obtain ⟨hhost', hfree', helig', hbest'⟩ := h'.best host' rfl
    have hrank := le_antisymm (hbest host' hhost' hfree' helig') (hbest' host hhost hfree helig)
    simp only [rank, toLex_inj, Prod.mk.injEq] at hrank
    exact congrArg some (hnames host hhost host' hhost' hrank.2.2.2.2)

end Order

/-! ## The model without joins -/

section Refines

variable {settings : SchedulingSettings} {db : Cluster} {request : SchedulingRequest}
  {host : ScheduledHost} {locked : Uuid → Bool} {answer : Option ScheduledHost}

lemma compareNullsLast_eq (a b : Option ℚ) :
    compareNullsLast a b = compare (nullsLast a) (nullsLast b) := by
  cases a with
  | none => cases b <;> rfl
  | some a =>
    cases b with
    | none => rfl
    | some b => exact (compare_nullsLast a b).symm

lemma rankedBefore_eq (policy : Option PlacementPolicy) (a b : ScheduledHost) :
    rankedBefore db policy a b = (compare (rank id db policy a) (rank id db policy b)).isLE := by
  simp only [rankedBefore, compareNullsLast_eq]
  rfl

/-- **`eligibleHosts` is the query**: whatever is locked, the first of them that is not is the
answer. -/
theorem pickHostTx_iff_find? (hnames : (db.hosts.map (·.name)).Nodup) :
    PickHostTx id settings db request locked answer ↔
      answer = (eligibleHosts settings db request).find? fun host => !locked host.id := by
  have hinj : ∀ a ∈ db.hosts, ∀ b ∈ db.hosts, id a.name = id b.name → a = b := fun a ha b hb =>
    List.inj_on_of_nodup_map hnames ha hb
  have hfind : Best id settings db request locked
      ((eligibleHosts settings db request).find? fun host => !locked host.id) := by
    have hrows : ∀ {host}, (∃ row ∈ db.hosts.filter (eligible settings db request), row = host) ↔
        host ∈ db.hosts ∧ Eligible settings db request host := by
      simp [eligible_iff]
    let key (a b : ScheduledHost) : Ordering :=
      compare (rank id db request.placementPolicy a) (rank id db request.placementPolicy b)
    have hfirst : FirstUnlocked [key] (fun host => locked host.id)
        (db.hosts.filter (eligible settings db request))
        ((eligibleHosts settings db request).find? fun host => !locked host.id) := by
      have htotal : Std.Total fun a b => rankedBefore db request.placementPolicy a b = true := by
        simp only [rankedBefore_eq, isLE_compare]
        exact ⟨fun a b => le_total _ _⟩
      have htrans : IsTrans ScheduledHost
          fun a b => rankedBefore db request.placementPolicy a b = true := by
        simp only [rankedBefore_eq, isLE_compare]
        exact ⟨fun a b c => le_trans⟩
      refine ⟨eligibleHosts settings db request, List.perm_insertionSort _ _, ?_, rfl⟩
      refine (List.pairwise_insertionSort _ _).imp fun {a b} hle => ?_
      simpa only [rankedBefore_eq, lex, Ordering.then_eq] using hle
    have hkeys : ∀ a b, lex [key] a b = key a b := fun a b => Ordering.then_eq
    simpa using best_of_firstUnlocked hkeys hrows hfirst
  constructor
  · exact fun h => (best_of_pickHostTx h).unique hinj hfind
  · rintro rfl
    obtain ⟨answer, hanswer⟩ := exists_pickHostTx id settings db request locked
    rwa [hfind.unique hinj (best_of_pickHostTx hanswer)]

end Refines

section Best

variable {Name : Type} [LinearOrder Name] {collate : String → Name} {settings : SchedulingSettings}
  {db : Cluster} {request : SchedulingRequest} {locked : Uuid → Bool}
  {answer : Option ScheduledHost}

/-- **The scheduler finds a host if one will do that is not locked, and then the best of them.** -/
theorem pickHostTx_best (h : PickHostTx collate settings db request locked answer) :
    (answer.isSome = true ↔ ∃ host ∈ db.hosts, locked host.id = false ∧
      Eligible settings db request host) ∧
    ∀ host ∈ answer, host ∈ db.hosts ∧ locked host.id = false ∧
      Eligible settings db request host ∧
      ∀ other ∈ db.hosts, locked other.id = false → Eligible settings db request other →
        rank collate db request.placementPolicy host
          ≤ rank collate db request.placementPolicy other :=
  ⟨(best_of_pickHostTx h).isSome_iff, (best_of_pickHostTx h).best⟩

/-- Hosts `a` to `d` with the same labels; `a` has a VM that the request does not want beside it,
`b` is locked, and `c` has more load than `d` but a VM that it wants. -/
def labCluster : Cluster where
  hosts := ["a", "b", "c", "d"].map fun name =>
    ⟨⟨name⟩, name, .up, none, [("zone", "z1")], some "x86_64", some 8, some 64, some 32,
      if name = "c" then some 2 else some 1, none⟩
  vms := [⟨⟨"vm1"⟩, some ⟨"a"⟩, .running, 16, 2, ["db"], none, none⟩,
    ⟨⟨"vm2"⟩, some ⟨"c"⟩, .running, 16, 2, ["web", "eu"], none, none⟩]
  gpus := []
  hostStoragePools := []
  hostNetworks := []

def labRequest : SchedulingRequest :=
  ⟨40, 2, 0, some "x86_64", none, [], none,
    some ⟨none, [("zone", "z1")], [], ["web"], ["db"], []⟩, []⟩

theorem labCluster_best :
    ∃ host, PickHostTx id ⟨1, 4, 0, 0⟩ labCluster labRequest (· == ⟨"b"⟩) (some host) ∧
      host.name = "c" ∧ Eligible ⟨1, 4, 0, 0⟩ labCluster labRequest host := by
  have hfind : ∃ host, host.name = "c" ∧ some host = (eligibleHosts ⟨1, 4, 0, 0⟩ labCluster
      labRequest).find? (fun host => !(host.id == ⟨"b"⟩)) :=
    ⟨⟨⟨"c"⟩, "c", .up, none, [("zone", "z1")], some "x86_64", some 8, some 64, some 32, some 2,
        none⟩,
      rfl, by decide +kernel⟩
  obtain ⟨host, hname, hfind⟩ := hfind
  have hpick : PickHostTx id ⟨1, 4, 0, 0⟩ labCluster labRequest (· == ⟨"b"⟩) (some host) :=
    (pickHostTx_iff_find? (by decide)).2 hfind
  exact ⟨host, hpick, hname, ((pickHostTx_best hpick).2 host rfl).2.2.1⟩

end Best

end PickHost

end Qarax
