import Qarax.Control.HostGpus

/-!
# Placing VMs on hosts

`pick_host_tx` of `model/hosts.rs` is one query: it joins the hosts with the sums of what their
active VMs were given, filters by status, capacity and placement policy, orders what is left and
locks the first row that nobody else has locked.

* `admits` — capacity and hard placement constraints of a host, given the rows of `vms`.
* `eligible`, `rankedBefore`, `eligibleHosts` — the query, over the tables it reads.
-/

namespace Qarax

/-! ## Tables -/

structure PlacementPolicy where
  reservationClass : Option String
  requiredHostLabels : List (String × String)
  preferredHostLabels : List (String × String)
  affinityTags : List String
  antiAffinityTags : List String
  spreadTags : List String
  deriving DecidableEq

/-- A row of `hosts`, with the columns that placement reads. -/
structure ScheduledHost where
  id : Uuid
  name : String
  status : HostStatus
  reservationClass : Option String
  placementLabels : List (String × String)
  architecture : Option String
  totalCpus : Option Int
  totalMemoryBytes : Option Int
  availableMemoryBytes : Option Int
  loadAverage : Option ℚ
  diskAvailableBytes : Option Int
  deriving DecidableEq

/-- A row of `vms`, with the columns that placement reads.  The policy is a member of `config`. -/
structure ScheduledVm where
  id : Uuid
  hostId : Option Uuid
  status : VmStatus
  memorySize : Int
  bootVcpus : Int
  tags : List String
  architecture : Option String
  placementPolicy : Option PlacementPolicy
  deriving DecidableEq

structure Cluster where
  hosts : List ScheduledHost
  vms : List ScheduledVm
  gpus : List HostGpu
  hostStoragePools : List (Uuid × Uuid)
  hostNetworks : List (Uuid × Uuid)
  deriving DecidableEq

structure SchedulingRequest where
  memoryBytes : Int
  vcpus : Int
  diskBytes : Int
  architecture : Option String
  storagePoolId : Option Uuid
  requiredNetworkIds : List Uuid
  gpu : Option GpuRequest
  placementPolicy : Option PlacementPolicy
  excludedHostIds : List Uuid
  deriving DecidableEq

structure SchedulingSettings where
  memoryOversubscriptionRatio : ℚ
  cpuOversubscriptionRatio : ℚ
  diskHeadroomBytes : Int
  memoryHealthFloorBytes : Int

/-! ## The query -/

/-- `status NOT IN ('SHUTDOWN', 'UNKNOWN')` -/
def VmStatus.isActive : VmStatus → Bool
  | .shutdown | .unknown => false
  | _ => true

def ScheduledVm.activeOn (vm : ScheduledVm) (hostId : Uuid) : Bool :=
  vm.status.isActive && vm.hostId == some hostId

/-- What the active VMs of a host were given in all. -/
def allocated (resource : ScheduledVm → Int) (vms : List ScheduledVm) (hostId : Uuid) : Int :=
  ((vms.filter (·.activeOn hostId)).map resource).sum

/-- The capacity condition on one resource; a host that never reported a total passes. -/
def hasRoom (ratio : ℚ) (total : Option Int) (allocated request : Int) : Bool :=
  total.all fun (total : Int) => (request : ℚ) ≤ total * ratio - allocated

def hasMemory (settings : SchedulingSettings) (vms : List ScheduledVm) (host : ScheduledHost)
    (bytes : Int) : Bool :=
  hasRoom settings.memoryOversubscriptionRatio host.totalMemoryBytes
    (allocated (·.memorySize) vms host.id) bytes

def hasVcpus (settings : SchedulingSettings) (vms : List ScheduledVm) (host : ScheduledHost)
    (vcpus : Int) : Bool :=
  hasRoom settings.cpuOversubscriptionRatio host.totalCpus
    (allocated (·.bootVcpus) vms host.id) vcpus

/-- The operator `@>` on documents whose members are texts. -/
def hasLabels (labels required : List (String × String)) : Bool :=
  required.all fun label => labels.lookup label.1 == some label.2

/-- The hard constraints of a policy.  An active VM of the host with one of the tags rules the host
out. -/
def PlacementPolicy.admits (policy : PlacementPolicy) (vms : List ScheduledVm)
    (host : ScheduledHost) : Bool :=
  policy.reservationClass.all (fun reservationClass =>
      host.reservationClass == some reservationClass)
    && hasLabels host.placementLabels policy.requiredHostLabels
    && !vms.any fun vm => vm.activeOn host.id && vm.tags.any (policy.antiAffinityTags.contains ·)

/-- The conditions on `hosts` and `vms` that the query has for every request. -/
def admits (settings : SchedulingSettings) (vms : List ScheduledVm) (host : ScheduledHost)
    (memoryBytes vcpus : Int) (policy : Option PlacementPolicy) : Bool :=
  host.status == .up && policy.all (·.admits vms host)
    && hasMemory settings vms host memoryBytes && hasVcpus settings vms host vcpus

/-- The `WHERE` of the query. -/
def eligible (settings : SchedulingSettings) (db : Cluster) (request : SchedulingRequest)
    (host : ScheduledHost) : Bool :=
  admits settings db.vms host request.memoryBytes request.vcpus request.placementPolicy
    && request.storagePoolId.all (fun pool => db.hostStoragePools.contains (host.id, pool))
    && !request.excludedHostIds.contains host.id
    && request.requiredNetworkIds.all (fun network => db.hostNetworks.contains (host.id, network))
    && request.architecture.all (fun architecture => host.architecture.all (· == architecture))
    && host.availableMemoryBytes.all (settings.memoryHealthFloorBytes < ·)
    && host.diskAvailableBytes.all (request.diskBytes + settings.diskHeadroomBytes ≤ ·)
    && request.gpu.all (fun gpu => gpu.count ≤ ((db.gpus.filter (gpu.free host.id)).length : Int))

/-- Active VMs of the host that have all the tags; no tags, no condition in the query. -/
def taggedOn (db : Cluster) (tags : List String) (host : ScheduledHost) : Nat :=
  if tags.isEmpty then 0
  else (db.vms.filter fun vm => vm.activeOn host.id && tags.all (vm.tags.contains ·)).length

/-- `ASC NULLS LAST` -/
def compareNullsLast (a b : Option ℚ) : Ordering :=
  match a, b with
  | some a, some b => compare a b
  | some _, none => .lt
  | none, some _ => .gt
  | none, none => .eq

/-- The `ORDER BY` of the query. -/
def rankedBefore (db : Cluster) (policy : Option PlacementPolicy) (a b : ScheduledHost) : Bool :=
  let preferred host :=
    policy.all fun policy => hasLabels host.placementLabels policy.preferredHostLabels
  let affinity := taggedOn db ((policy.map (·.affinityTags)).getD [])
  let spread := taggedOn db ((policy.map (·.spreadTags)).getD [])
  ((compare (preferred b) (preferred a)).then <|
    (compare (affinity b) (affinity a)).then <|
    (compare (spread a) (spread b)).then <|
    (compareNullsLast a.loadAverage b.loadAverage).then <| compare a.name b.name).isLE

/-- The rows in the order in which the query tries to lock them. -/
def eligibleHosts (settings : SchedulingSettings) (db : Cluster) (request : SchedulingRequest) :
    List ScheduledHost :=
  (db.hosts.filter (eligible settings db request)).insertionSort
    fun a b => rankedBefore db request.placementPolicy a b = true

/-- `pick_host_tx` while no other transaction has locked a host. -/
def pickHost (settings : SchedulingSettings) (db : Cluster) (request : SchedulingRequest) :
    Option ScheduledHost :=
  (eligibleHosts settings db request).head?

/-! ## Sums -/

variable {resource : ScheduledVm → Int} {vms : List ScheduledVm} {hostId : Uuid}

lemma allocated_cons_of_not_activeOn {vm : ScheduledVm} (h : vm.activeOn hostId = false) :
    allocated resource (vm :: vms) hostId = allocated resource vms hostId := by
  simp [allocated, h]

lemma allocated_cons_of_activeOn {vm : ScheduledVm} (h : vm.activeOn hostId = true) :
    allocated resource (vm :: vms) hostId = resource vm + allocated resource vms hostId := by
  simp [allocated, h]

lemma allocated_eq_sum :
    allocated resource vms hostId
      = (vms.map fun vm => if vm.activeOn hostId = true then resource vm else 0).sum := by
  induction vms with
  | nil => rfl
  | cons vm vms ih =>
    cases h : vm.activeOn hostId
    · rw [allocated_cons_of_not_activeOn h, ih]
      simp [h]
    · rw [allocated_cons_of_activeOn h, ih]
      simp [h]

lemma PlacementPolicy.admits_iff {policy : PlacementPolicy} {host : ScheduledHost} :
    policy.admits vms host = true ↔
      (∀ reservationClass ∈ policy.reservationClass,
        host.reservationClass = some reservationClass) ∧
      (∀ label ∈ policy.requiredHostLabels, host.placementLabels.lookup label.1 = some label.2) ∧
      ∀ other ∈ vms, other.activeOn host.id = true →
        ∀ tag ∈ other.tags, tag ∉ policy.antiAffinityTags := by
  simp only [admits, hasLabels, Bool.and_eq_true, Option.all_eq_true, beq_iff_eq,
    List.all_eq_true, Bool.not_eq_true', List.any_eq_false, and_assoc, not_and, List.any_eq_true,
    List.contains_iff_mem, not_exists, Option.mem_def]

lemma hasRoom_iff {ratio : ℚ} {total : Option Int} {used request : Int} :
    hasRoom ratio total used request = true ↔
      ∀ t ∈ total, ((request + used : Int) : ℚ) ≤ ratio * t := by
  cases total with
  | none => simp [hasRoom]
  | some t =>
    simp only [hasRoom, Option.all_some, decide_eq_true_eq, Option.mem_some_iff, forall_eq']
    push_cast
    constructor <;> intro h <;> linarith

lemma mem_eligibleHosts {settings : SchedulingSettings} {db : Cluster}
    {request : SchedulingRequest} {host : ScheduledHost} :
    host ∈ eligibleHosts settings db request ↔
      host ∈ db.hosts ∧ eligible settings db request host = true := by
  rw [eligibleHosts, List.mem_insertionSort, List.mem_filter]

end Qarax
