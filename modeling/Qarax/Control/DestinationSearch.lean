import Qarax.Core.Exclusion
import Qarax.Control.Admission
import Qarax.Control.PickHost
import Qarax.Control.VmDisks

/-!
# Looking for a destination

A failover and an evacuation ask the scheduler for a host, look at what the scheduler does not know
of, and ask again without that host if it will not do.  `pick_failover_host` of `ha_monitor.rs`
looks at the storage pools; `pick_evacuation_plan` of `handlers/host/handler.rs` makes the plan of
the migration, where some errors speak against the host and others end the search.

* `planVmMigration` — the checks of a live migration, with their messages.
* `pickFailoverHost`, `pickEvacuationPlan` — the two loops, over any answers of `pick_host_tx`.
* `Finds` — what such a loop is for.
* `destinations_found` — both do it.
* `pickFailoverHost_eq_ok` — the loop of `Admission` is this one, without its messages.

`build_create_vm_request` is a parameter: it may succeed or fail in any way.
-/

namespace Qarax

namespace Destinations

open Exclusion PickHost

/-! ## Tables -/

inductive Hypervisor where
  | cloudHv
  | firecracker
  deriving DecidableEq

/-- A row of `vms`. -/
structure MigratingVm extends ScheduledVm where
  name : String
  hypervisor : Hypervisor

structure PoolRow where
  id : Uuid
  name : String
  poolType : StoragePoolType

structure ObjectRow where
  id : Uuid
  storagePoolId : Uuid

/-- The tables that the two searches read.  `nics` are the interfaces, as their VM and network. -/
structure SearchDb where
  hosts : List ScheduledHost
  vms : List MigratingVm
  gpus : List HostGpu
  hostStoragePools : List (Uuid × Uuid)
  hostNetworks : List (Uuid × Uuid)
  nics : List (Uuid × Option Uuid)
  disks : List VmDisk
  objects : List ObjectRow
  pools : List PoolRow
  /-- The primary key. -/
  hostIds : (hosts.map ScheduledHost.id).Nodup

namespace SearchDb

/-- The part that placement reads. -/
def cluster (db : SearchDb) : Cluster where
  hosts := db.hosts
  vms := db.vms.map MigratingVm.toScheduledVm
  gpus := db.gpus
  hostStoragePools := db.hostStoragePools
  hostNetworks := db.hostNetworks

def vm? (db : SearchDb) (id : Uuid) : Option MigratingVm := db.vms.find? (·.id = id)

def host? (db : SearchDb) (id : Uuid) : Option ScheduledHost := db.hosts.find? (·.id = id)

def hostHasPool (db : SearchDb) (hostId poolId : Uuid) : Bool :=
  db.hostStoragePools.contains (hostId, poolId)

/-- The pools of some storage objects.  The source goes through them in the order of a hash set,
which only decides which of several messages is given. -/
def poolsOf (db : SearchDb) (objectIds : List Uuid) : List PoolRow :=
  let objects := db.objects.filter (objectIds.contains ·.id)
  db.pools.filter fun pool => objects.any (·.storagePoolId = pool.id)

def networksOf (db : SearchDb) (vmId : Uuid) : List Uuid :=
  ((db.nics.filter (·.1 = vmId)).filterMap (·.2)).dedup

end SearchDb

/-! ## The plan of a migration -/

/-- `Display` of a status. -/
def statusText : VmStatus → String
  | .unknown => "unknown"
  | .pending => "pending"
  | .created => "created"
  | .running => "running"
  | .paused => "paused"
  | .shutdown => "shutdown"
  | .migrating => "migrating"
  | .committing => "committing"

/-- `Debug` of a pool type. -/
def poolTypeText : StoragePoolType → String
  | .local => "Local"
  | .nfs => "Nfs"
  | .overlayBd => "OverlayBd"
  | .block => "Block"

/-- `supports_live_migration` and `is_shared` -/
def isShared : StoragePoolType → Bool
  | .local => false
  | .nfs | .overlayBd | .block => true

/-- A check whose failure speaks against the request. -/
def ensure (condition : Bool) (message : String) : Except ApiError Unit :=
  if condition then .ok () else .error (.unprocessableEntity message)

def hostForVm (db : SearchDb) (vmId : Uuid) : Except ApiError ScheduledHost := do
  let vm ← row (db.vm? vmId)
  match vm.hostId with
  | none => .error (.unprocessableEntity "VM has no assigned host")
  | some hostId =>
    match db.host? hostId with
    | none => .error (.unprocessableEntity "assigned host not found")
    | some host => .ok host

def ensureHostMatchesArchitecture (host : ScheduledHost) (architecture : String) :
    Except ApiError Unit :=
  match host.architecture with
  | none => .ok ()
  | some found => ensure (found = architecture)
      s!"selected host architecture {found} does not match VM architecture {architecture}"

/-- The checks on one pool of the disks. -/
def checkPool (db : SearchDb) (target : ScheduledHost) (pool : PoolRow) : Except ApiError Unit := do
  let kind := poolTypeText pool.poolType
  ensure (isShared pool.poolType)
    s!"live migration is not supported for pool '{pool.name}' (type: {kind})"
  ensure (db.hostHasPool target.id pool.id)
    s!"destination host {target.id.text} does not have pool '{pool.name}' ({kind}) attached"

/-- The checks on one pool of the persistent upper layers. -/
def checkUpperPool (db : SearchDb) (target : ScheduledHost) (pool : PoolRow) :
    Except ApiError Unit := do
  ensure (isShared pool.poolType)
    s!"live migration is not supported: persistent upper layer is on local pool '{pool.name}'"
  ensure (db.hostHasPool target.id pool.id)
    s!"destination host {target.id.text} does not have upper layer pool '{pool.name}' attached"

structure PlannedVmMigration (Request : Type) where
  vmId : Uuid
  vmName : String
  sourceHost : ScheduledHost
  targetHost : ScheduledHost
  originalStatus : VmStatus
  createReq : Request
  deriving DecidableEq

section Search

variable {Request : Type}

def planVmMigration (db : SearchDb) (build : MigratingVm → Except ApiError Request)
    (vmId targetHostId : Uuid) : Except ApiError (PlannedVmMigration Request) := do
  let vm ← row (db.vm? vmId)
  ensure (vm.status = .running || vm.status = .paused)
    s!"VM must be running or paused to migrate (current status: {statusText vm.status})"
  ensure (vm.hypervisor = .cloudHv) "live migration is currently only supported for cloud_hv VMs"
  let source ← hostForVm db vmId
  let target ← row (db.host? targetHostId)
  ensure (source.id ≠ target.id) "Source and destination hosts are the same"
  vm.architecture.forM (ensureHostMatchesArchitecture target)
  ensure (listGpusByVm db.gpus vmId).isEmpty
    "live migration is not supported for VMs with attached GPUs"
  let disks := db.disks.filter (·.vmId = vmId)
  (db.poolsOf (disks.filterMap (·.storageObjectId))).forM (checkPool db target)
  (db.poolsOf (disks.filterMap (·.upperStorageObjectId))).forM (checkUpperPool db target)
  let createReq ← build { vm with hostId := some target.id }
  .ok ⟨vmId, vm.name, source, target, vm.status, createReq⟩

/-! ## The two loops -/

/-- What `pick_host_tx` answers to the request, with these hosts excluded. -/
def pickExcluding (pick : SchedulingRequest → Option ScheduledHost) (request : SchedulingRequest)
    (excludedHostIds : List Uuid) : Option ScheduledHost :=
  pick { request with excludedHostIds }

/-- The request that both searches start from. -/
def baseRequest (db : SearchDb) (vm : MigratingVm) (sourceHostId : Uuid)
    (gpu : Option GpuRequest) : SchedulingRequest :=
  evacuationSchedulingRequest vm.toScheduledVm sourceHostId (db.networksOf vm.id) gpu

/-- How the end of a search is answered; `detail` says what is told of the last rejection. -/
def answer {β ρ : Type} (vm : MigratingVm) (detail : ρ → String) :
    Answer β ρ ApiError → Except ApiError β
  | .found result => .ok result
  | .aborted error => .error error
  | .exhausted last => .error (.unprocessableEntity
      (s!"no eligible destination host found for VM '{vm.name}'" ++ (last.map detail).getD ""))

def hasAllPools (db : SearchDb) (requiredPoolIds : List Uuid) (candidate : ScheduledHost) : Bool :=
  requiredPoolIds.all (db.hostHasPool candidate.id)

/-- A candidate without one of the pools is excluded, and nothing is remembered of it. -/
def poolVerdict (db : SearchDb) (requiredPoolIds : List Uuid) (candidate : ScheduledHost) :
    Verdict ScheduledHost Unit ApiError :=
  if hasAllPools db requiredPoolIds candidate then .accepted candidate else .rejected ()

/-- `pick_failover_host`, for a number of rounds of its loop. -/
def pickFailoverHost (pick : SchedulingRequest → Option ScheduledHost) (db : SearchDb)
    (vm : MigratingVm) (deadHostId : Uuid) (requiredPoolIds : List Uuid)
    (gpuRequest : Option GpuRequest) (rounds : Nat) : Option (Except ApiError ScheduledHost) :=
  let request := baseRequest db vm deadHostId gpuRequest
  (search (pickExcluding pick request) ScheduledHost.id (poolVerdict db requiredPoolIds) rounds
    request.excludedHostIds none).map (answer vm fun _ => "")

/-- Errors about the request speak against the candidate, any other error ends the search. -/
def planVerdict (db : SearchDb) (build : MigratingVm → Except ApiError Request) (vmId : Uuid)
    (candidate : ScheduledHost) : Verdict (PlannedVmMigration Request) String ApiError :=
  match planVmMigration db build vmId candidate.id with
  | .ok plan => .accepted plan
  | .error (.unprocessableEntity reason) => .rejected reason
  | .error error => .aborted error

/-- `pick_evacuation_plan`, for a number of rounds of its loop. -/
def pickEvacuationPlan (pick : SchedulingRequest → Option ScheduledHost) (db : SearchDb)
    (build : MigratingVm → Except ApiError Request) (vm : MigratingVm) (sourceHostId : Uuid)
    (rounds : Nat) : Option (Except ApiError (PlannedVmMigration Request)) :=
  let request := baseRequest db vm sourceHostId none
  (search (pickExcluding pick request) ScheduledHost.id (planVerdict db build vm.id) rounds
    request.excludedHostIds none).map (answer vm fun reason => s!": {reason}")

/-! ## What they are for -/

/-- **A search finds what there is**: it ends; the host of its result is not the source, will do for
the scheduler and is accepted by the further condition; and if it answers that there is none, no
host is all of this. -/
structure Finds {β : Type} (settings : SchedulingSettings) (db : SearchDb)
    (request : SchedulingRequest) (sourceHostId : Uuid) (host : β → ScheduledHost)
    (accepts : ScheduledHost → β → Prop) (result : Option (Except ApiError β)) : Prop where
  ends : result.isSome = true
  sound : ∀ b, result = some (.ok b) → host b ∈ db.hosts ∧ (host b).id ≠ sourceHostId ∧
    Eligible settings db.cluster request (host b) ∧ accepts (host b) b
  complete : ∀ message, result = some (.error (.unprocessableEntity message)) →
    ∀ candidate ∈ db.hosts, candidate.id ≠ sourceHostId →
      Eligible settings db.cluster request candidate → ∀ b, ¬ accepts candidate b

end Search

/-! ## The scheduler picks from the hosts that will do -/

section Picks

variable {Name : Type} [LinearOrder Name] {collate : String → Name} {settings : SchedulingSettings}
  {db : SearchDb} {request : SchedulingRequest} {host : ScheduledHost}
  {pick : SchedulingRequest → Option ScheduledHost}

lemma eligible_excluding {cluster : Cluster} {excludedHostIds : List Uuid} :
    Eligible settings cluster { request with excludedHostIds } host ↔
      Eligible settings cluster { request with excludedHostIds := [] } host ∧
        host.id ∉ excludedHostIds := by
  constructor
  · intro h
    exact ⟨{ h with notExcluded := List.not_mem_nil }, h.notExcluded⟩
  · rintro ⟨h, hid⟩
    exact { h with notExcluded := hid }

lemma picksFrom
    (hpick : ∀ r, PickHostTx collate settings db.cluster r (fun _ => false) (pick r)) :
    PicksFrom db.hosts ScheduledHost.id
      (Eligible settings db.cluster { request with excludedHostIds := [] })
      (pickExcluding pick request) where
  sound {excluded a} ha := by
    obtain ⟨hmem, -, helig, -⟩ :=
      (best_of_pickHostTx (hpick { request with excludedHostIds := excluded })).best a ha
    obtain ⟨hfits, hid⟩ := eligible_excluding.1 helig
    exact ⟨hmem, hfits, hid⟩
  complete {excluded} hnone a ha hfits := by
    have hbest := best_of_pickHostTx (hpick { request with excludedHostIds := excluded })
    by_contra hid
    have hsome := hbest.isSome_iff.2 ⟨a, ha, rfl, eligible_excluding.2 ⟨hfits, hid⟩⟩
    rw [pickExcluding] at hnone
    rw [hnone] at hsome
    cases hsome

/-- **A search by exclusion finds what there is**, if its verdicts are what the further condition
says. -/
lemma finds_search {β ρ : Type} {check : ScheduledHost → Verdict β ρ ApiError}
    {accepts : ScheduledHost → β → Prop} {hostOf : β → ScheduledHost} {vm : MigratingVm}
    {detail : ρ → String} {sourceHostId : Uuid} {rounds : Nat}
    (hpick : ∀ r, PickHostTx collate settings db.cluster r (fun _ => false) (pick r))
    (hsource : request.excludedHostIds = [sourceHostId])
    (haccepted : ∀ a ∈ db.hosts, ∀ b, check a = .accepted b ↔ accepts a b)
    (hhost : ∀ a ∈ db.hosts, ∀ b, accepts a b → hostOf b = a)
    (haborted : ∀ a message, check a ≠ .aborted (.unprocessableEntity message))
    (hrounds : db.hosts.length < rounds) :
    Finds settings db request sourceHostId hostOf accepts
      ((search (pickExcluding pick request) ScheduledHost.id check rounds request.excludedHostIds
        none).map (answer vm detail)) := by
  have hpicks : PicksFrom db.hosts ScheduledHost.id _ (pickExcluding pick request) :=
    picksFrom hpick
  have helig : ∀ {a}, Eligible settings db.cluster request a ↔
      Eligible settings db.cluster { request with excludedHostIds := [] } a ∧
        a.id ∉ request.excludedHostIds := fun {a} => eligible_excluding
  have hne : ∀ {id : Uuid}, id ∉ request.excludedHostIds ↔ id ≠ sourceHostId := by
    intro id
    rw [hsource, List.mem_singleton]
  refine ⟨?_, ?_, ?_⟩
  · rw [Option.isSome_map]
    exact hpicks.isSome_search ((List.length_filter_le _ _).trans_lt hrounds)
  · intro b hb
    obtain ⟨found, hfound, hanswer⟩ := Option.map_eq_some_iff.1 hb
    have hcorrect := hpicks.correct db.hostIds hfound
    cases found with
    | found result =>
      cases hanswer
      obtain ⟨a, ha, hfits, hid, hcheck⟩ := hcorrect
      have haccepts := (haccepted a ha b).1 hcheck
      rw [hhost a ha b haccepts]
      exact ⟨ha, hne.1 hid, helig.2 ⟨hfits, hid⟩, haccepts⟩
    | exhausted last => cases hanswer
    | aborted error => cases hanswer
  · intro message hmessage candidate hmem hid hcandidate b haccepts
    obtain ⟨found, hfound, hanswer⟩ := Option.map_eq_some_iff.1 hmessage
    have hcorrect := hpicks.correct db.hostIds hfound
    cases found with
    | found result => cases hanswer
    | exhausted last =>
      obtain ⟨reason, hreason⟩ :=
        hcorrect candidate hmem (helig.1 hcandidate).1 (hne.2 hid)
      rw [(haccepted candidate hmem b).2 haccepts] at hreason
      cases hreason
    | aborted error =>
      cases hanswer
      obtain ⟨a, -, hcheck⟩ := hcorrect
      exact haborted a message hcheck

end Picks

/-! ## The verdicts are the further conditions -/

section Verdicts

variable {db : SearchDb} {Request : Type} {build : MigratingVm → Except ApiError Request}
  {vmId : Uuid} {a b : ScheduledHost} {plan : PlannedVmMigration Request}

variable {pools : List Uuid}

lemma poolVerdict_eq_accepted :
    poolVerdict db pools a = .accepted b ↔ b = a ∧ hasAllPools db pools a = true := by
  unfold poolVerdict
  split
  · next h => simp [h, eq_comm]
  · next h => simp [h]

lemma poolVerdict_ne_aborted {error : ApiError} :
    poolVerdict db pools a ≠ .aborted error := by
  unfold poolVerdict
  split <;> simp

lemma planVerdict_eq_accepted : planVerdict db build vmId a = .accepted plan ↔
    planVmMigration db build vmId a.id = .ok plan := by
  unfold planVerdict
  split <;> simp_all

lemma planVerdict_ne_aborted {message : String} :
    planVerdict db build vmId a ≠ .aborted (.unprocessableEntity message) := by
  unfold planVerdict
  split
  · simp
  · simp
  · next hne _ =>
      intro h
      cases h
      exact hne message rfl

/-- The plan is for the host that was asked for. -/
lemma targetHost_of_planVmMigration {targetHostId : Uuid}
    (h : planVmMigration db build vmId targetHostId = .ok plan) :
    db.host? targetHostId = some plan.targetHost := by
  simp only [planVmMigration, except_bind_eq_ok] at h
  obtain ⟨vm, -, -, -, -, -, source, -, target, htarget, -, -, -, -, -, -, -, -, -, -, request, -,
    hplan⟩ := h
  cases hplan
  exact row_eq_ok.1 htarget

/-- The loop of `Admission` finds what this one does. -/
lemma pickChecked_eq_some {settings : SchedulingSettings} {request : SchedulingRequest}
    : ∀ {rounds excluded last},
    pickChecked settings db.cluster request (hasAllPools db pools) rounds excluded = some a ↔
      search (pickExcluding (pickHost settings db.cluster) request) ScheduledHost.id
        (poolVerdict db pools) rounds excluded last = some (.found a) := by
  intro rounds
  induction rounds with
  | zero => simp [pickChecked, search]
  | succ rounds ih =>
    intro excluded last
    rw [pickChecked, search, pickExcluding]
    cases hpick : pickHost settings db.cluster { request with excludedHostIds := excluded } with
    | none => simp
    | some candidate =>
      by_cases hpools : hasAllPools db pools candidate = true
      · simp [poolVerdict, hpools]
      · simpa [poolVerdict, hpools] using ih

/-- **The search of `Admission` is this one**, with the scheduler that never finds a row locked. -/
theorem pickFailoverHost_eq_ok {settings : SchedulingSettings} {vm : MigratingVm}
    {deadHostId : Uuid} {gpu : Option GpuRequest} :
    Qarax.pickFailoverHost settings db.cluster (baseRequest db vm deadHostId gpu) pools = some a ↔
      pickFailoverHost (pickHost settings db.cluster) db vm deadHostId pools gpu
        (db.hosts.length + 1) = some (.ok a) := by
  rw [pickFailoverHost, Option.map_eq_some_iff]
  refine pickChecked_eq_some.trans ⟨fun h => ⟨_, h, rfl⟩, ?_⟩
  rintro ⟨found, hfound, hanswer⟩
  cases found with
  | found result =>
    cases hanswer
    exact hfound
  | exhausted last => cases hanswer
  | aborted error => cases hanswer

end Verdicts

/-! ## Both searches -/

/-- **A failover and an evacuation find a destination if there is one**: whatever the scheduler
answers in each round, as long as it is an answer of its query on these tables without locks, both
loops end within one round more than there are hosts. -/
theorem destinations_found {Name : Type} [LinearOrder Name] {collate : String → Name}
    {settings : SchedulingSettings} {db : SearchDb} {Request : Type}
    {pick : SchedulingRequest → Option ScheduledHost}
    (build : MigratingVm → Except ApiError Request) (vm : MigratingVm) (sourceHostId : Uuid)
    (requiredPoolIds : List Uuid) (gpuRequest : Option GpuRequest) {rounds : Nat}
    (hpick : ∀ r, PickHostTx collate settings db.cluster r (fun _ => false) (pick r))
    (hrounds : db.hosts.length < rounds) :
    Finds settings db (baseRequest db vm sourceHostId gpuRequest) sourceHostId id
      (fun candidate result => result = candidate ∧
        ∀ pool ∈ requiredPoolIds, (candidate.id, pool) ∈ db.hostStoragePools)
      (pickFailoverHost pick db vm sourceHostId requiredPoolIds gpuRequest rounds) ∧
    Finds settings db (baseRequest db vm sourceHostId none) sourceHostId (·.targetHost)
      (fun candidate plan => planVmMigration db build vm.id candidate.id = .ok plan)
      (pickEvacuationPlan pick db build vm sourceHostId rounds) := by
  constructor
  · refine finds_search hpick rfl (fun a _ b => ?_) (fun a _ b h => h.1)
      (fun a message => poolVerdict_ne_aborted) hrounds
    rw [poolVerdict_eq_accepted]
    simp only [hasAllPools, SearchDb.hostHasPool, List.all_eq_true, List.contains_iff_mem]
  · refine finds_search hpick rfl (fun a _ plan => planVerdict_eq_accepted) (fun a ha plan h => ?_)
      (fun a message => planVerdict_ne_aborted) hrounds
    have hfound := targetHost_of_planVmMigration h
    rw [SearchDb.host?, Rows.find?_of_mem db.hostIds ha] at hfound
    exact (Option.some_inj.1 hfound).symm

/-- Host `a` of the VM, `b` without the pool of its disk, and `c`. -/
def labHost (name : String) : ScheduledHost :=
  ⟨⟨name⟩, name, .up, none, [], some "x86_64", some 8, some 64, some 32, none, none⟩

def labVm : MigratingVm where
  id := ⟨"vm"⟩
  hostId := some ⟨"a"⟩
  status := .running
  memorySize := 16
  bootVcpus := 2
  tags := []
  architecture := some "x86_64"
  placementPolicy := none
  name := "web"
  hypervisor := .cloudHv

def labDb : SearchDb where
  hosts := [labHost "a", labHost "b", labHost "c"]
  vms := [labVm]
  gpus := []
  hostStoragePools := [(⟨"a"⟩, ⟨"pool"⟩), (⟨"c"⟩, ⟨"pool"⟩)]
  hostNetworks := [(⟨"b"⟩, ⟨"net"⟩), (⟨"c"⟩, ⟨"net"⟩)]
  nics := [(⟨"vm"⟩, some ⟨"net"⟩)]
  disks := [{ id := ⟨"disk"⟩, vmId := ⟨"vm"⟩, storageObjectId := some ⟨"obj"⟩,
              logicalName := "disk0" }]
  objects := [⟨⟨"obj"⟩, ⟨"pool"⟩⟩]
  pools := [⟨⟨"pool"⟩, "shared", .nfs⟩]
  hostIds := by decide

def labSettings : SchedulingSettings := ⟨1, 4, 0, 0⟩

def labPick (request : SchedulingRequest) : Option ScheduledHost :=
  (eligibleHosts labSettings labDb.cluster request).find? fun _ => !false

theorem labDb_found :
    ∃ host plan, pickFailoverHost labPick labDb labVm ⟨"a"⟩ [⟨"pool"⟩] none 4 = some (.ok host) ∧
      pickEvacuationPlan labPick labDb (fun vm => .ok vm.hostId) labVm ⟨"a"⟩ 4 = some (.ok plan) ∧
      host = labHost "c" ∧ host.id ≠ ⟨"a"⟩ ∧
      Eligible labSettings labDb.cluster (baseRequest labDb labVm ⟨"a"⟩ none) host ∧
      plan.targetHost.id ≠ ⟨"a"⟩ ∧ plan.createReq = some ⟨"c"⟩ := by
  have hpick : ∀ r, PickHostTx id labSettings labDb.cluster r (fun _ => false) (labPick r) :=
    fun r => (pickHostTx_iff_find? (by decide)).2 rfl
  obtain ⟨hfailover, hevacuate⟩ := destinations_found (fun vm => .ok vm.hostId) labVm ⟨"a"⟩
    [⟨"pool"⟩] none hpick (show labDb.hosts.length < 4 by decide)
  have hhost : pickFailoverHost labPick labDb labVm ⟨"a"⟩ [⟨"pool"⟩] none 4
      = some (.ok (labHost "c")) := by decide +kernel
  have hplan : pickEvacuationPlan labPick labDb (fun vm => .ok vm.hostId) labVm ⟨"a"⟩ 4
      = some (.ok ⟨⟨"vm"⟩, "web", labHost "a", labHost "c", .running, some ⟨"c"⟩⟩) := by
    decide +kernel
  obtain ⟨-, hne, helig, -⟩ := hfailover.sound _ hhost
  obtain ⟨-, hne', -⟩ := hevacuate.sound _ hplan
  exact ⟨_, _, hhost, hplan, rfl, hne, helig, hne', rfl⟩

end Destinations

end Qarax
