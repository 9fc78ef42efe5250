import Qarax.Core.Machine
import Qarax.Control.Scheduler

/-!
# Creating VMs side by side

`create_vm_internal` picks a host and inserts the VM in one transaction.  Any number of them run at
once under `READ COMMITTED`: the query of `pick_host_tx` reads the snapshot taken when it starts,
goes through the hosts in its order, skips those that another transaction has locked and locks the
first other one.  The lock is held until the transaction ends.

The lock is on a row of `hosts`, which no transaction modifies, so the database sees no reason to
evaluate the conditions of the query again.  The sums are those of the snapshot, whatever was
committed between it and the lock.

* `CreateState.overtaken` — the host was given a VM between the snapshot and the lock.
* `CreateState.rechecks` — a host that was is locked only if it still has room.
* `creations_stay_within_totals` — then no host is overcommitted: for the other hosts the `WHERE` of
  the query has found the room, and the lock keeps it until the transaction commits.
* `stale_sums_overcommit` — two queries that start before either transaction commits.
-/

namespace Qarax

/-- Where a transaction is. -/
inductive CreatePc where
  | begun
  /-- In the query of `pick_host_tx`, with the snapshot and the rows not tried yet. -/
  | picking (snapshot : Cluster) (untried : List ScheduledHost)
  /-- The row of the host is locked. -/
  | placed (host : ScheduledHost)
  | committed
  | rolledBack

/-- A call of `create_vm_internal`; the id is the one the inserted row will get. -/
structure CreateTx where
  vmId : Uuid
  request : SchedulingRequest
  tags : List String
  pc : CreatePc

/-- What is committed, and the transactions. -/
structure CreateState where
  db : Cluster
  txs : List CreateTx

inductive CreateAction where
  | begin (vmId : Uuid) (request : SchedulingRequest) (tags : List String)
  /-- The query starts. -/
  | snapshot (vmId : Uuid)
  /-- The query comes to its next row. -/
  | tryLock (vmId : Uuid)
  /-- The rows of the VM are inserted and the transaction commits. -/
  | commit (vmId : Uuid)
  /-- A statement fails. -/
  | rollback (vmId : Uuid)

namespace CreateState

def tx? (s : CreateState) (vmId : Uuid) : Option CreateTx := s.txs.find? fun tx => tx.vmId = vmId

def setPc (s : CreateState) (tx : CreateTx) (pc : CreatePc) : CreateState :=
  { s with txs := Rows.update CreateTx.vmId tx.vmId (fun _ => { tx with pc }) s.txs }

def locked (s : CreateState) (host : ScheduledHost) : Bool :=
  s.txs.any fun tx => match tx.pc with
    | .placed held => held.id == host.id
    | _ => false

/-- The row `vms::create_tx` inserts. -/
def newVm (tx : CreateTx) (host : ScheduledHost) : ScheduledVm where
  id := tx.vmId
  hostId := some host.id
  status := .created
  memorySize := tx.request.memoryBytes
  bootVcpus := tx.request.vcpus
  tags := tx.tags
  architecture := tx.request.architecture
  placementPolicy := tx.request.placementPolicy

/-- The rows become visible; GPUs are taken in the same transaction, which fails if there are too
few. -/
def insertVm (s : CreateState) (tx : CreateTx) (host : ScheduledHost) : CreateState :=
  match tx.request.gpu.elim (some s.db.gpus)
      (fun request => allocateAllGpus s.db.gpus host.id tx.vmId request) with
  | none => s.setPc tx .rolledBack
  | some gpus =>
    { s.setPc tx .committed with db := { s.db with vms := newVm tx host :: s.db.vms, gpus } }

def step (settings : SchedulingSettings) (s : CreateState) : CreateAction → Option CreateState
  | .begin vmId request tags =>
    if (s.tx? vmId).isSome || s.db.vms.any (·.id == vmId) then none
    else some { s with txs := { vmId, request, tags, pc := .begun } :: s.txs }
  | .snapshot vmId => do
      let tx ← s.tx? vmId
      match tx.pc with
      | .begun => some (s.setPc tx (.picking s.db (eligibleHosts settings s.db tx.request)))
      | _ => none
  | .tryLock vmId => do
      let tx ← s.tx? vmId
      match tx.pc with
      | .picking _ [] => some (s.setPc tx .rolledBack)
      | .picking snapshot (host :: untried) =>
        if s.locked host then some (s.setPc tx (.picking snapshot untried))
        else some (s.setPc tx (.placed host))
      | _ => none
  | .commit vmId => do
      let tx ← s.tx? vmId
      match tx.pc with
      | .placed host => some (s.insertVm tx host)
      | _ => none
  | .rollback vmId => do
      let tx ← s.tx? vmId
      match tx.pc with
      | .committed | .rolledBack => none
      | _ => some (s.setPc tx .rolledBack)

/-- The active VMs of the host are no longer those that the query has summed up: another transaction
has committed one. -/
def overtaken (snapshot db : Cluster) (host : ScheduledHost) : Bool :=
  db.vms.filter (·.activeOn host.id) ≠ snapshot.vms.filter (·.activeOn host.id)

/-- **The missing check.**  A host that was given a VM since the snapshot still has room for the
request when it is locked.  Nothing is asked of a host with the VMs of the snapshot. -/
def rechecks (settings : SchedulingSettings) (s : CreateState) : CreateAction → Bool
  | .tryLock vmId =>
    (s.tx? vmId).all fun tx => match tx.pc with
      | .picking snapshot (host :: _) =>
        s.locked host || !overtaken snapshot s.db host ||
          (hasMemory settings s.db.vms host tx.request.memoryBytes
          && hasVcpus settings s.db.vms host tx.request.vcpus)
      | _ => true
  | _ => true

end CreateState

/-- No host has given its active VMs more than its oversubscribed totals. -/
def Cluster.WithinTotals (settings : SchedulingSettings) (db : Cluster) : Prop :=
  ∀ host ∈ db.hosts,
    (∀ total ∈ host.totalMemoryBytes, (allocated (·.memorySize) db.vms host.id : ℚ)
      ≤ settings.memoryOversubscriptionRatio * total) ∧
    ∀ total ∈ host.totalCpus, (allocated (·.bootVcpus) db.vms host.id : ℚ)
      ≤ settings.cpuOversubscriptionRatio * total

/-! ## Locks keep the room that was found -/

namespace CreateState

variable {settings : SchedulingSettings} {s s' : CreateState} {tx : CreateTx}

lemma mem_of_tx? {vmId : Uuid} (h : s.tx? vmId = some tx) : tx ∈ s.txs ∧ tx.vmId = vmId :=
  ⟨List.mem_of_find?_eq_some h, by simpa using List.find?_some h⟩

lemma mem_setPc {pc : CreatePc} {t : CreateTx} (h : t ∈ (s.setPc tx pc).txs) :
    t = { tx with pc } ∨ (t ∈ s.txs ∧ t.vmId ≠ tx.vmId) := by
  rcases Rows.mem_update.1 h with ⟨-, -, -, rfl⟩ | ⟨ht, hne⟩
  · exact .inl rfl
  · exact .inr ⟨ht, hne⟩

/-- Next to what is committed, the host has room for the request of the transaction. -/
def Room (settings : SchedulingSettings) (s : CreateState) (tx : CreateTx) (host : ScheduledHost) :
    Prop :=
  hasMemory settings s.db.vms host tx.request.memoryBytes = true ∧
    hasVcpus settings s.db.vms host tx.request.vcpus = true

/-- Rows that the query has found: hosts for which its `WHERE` holds in the snapshot. -/
def Offered (settings : SchedulingSettings) (s : CreateState) (request : SchedulingRequest)
    (snapshot : Cluster) (untried : List ScheduledHost) : Prop :=
  ∀ host ∈ untried, host ∈ s.db.hosts ∧ eligible settings snapshot request host = true

/-- **The room of the snapshot** is still there if no VM was committed on the host. -/
lemma room_of_eligible {snapshot : Cluster} {host : ScheduledHost}
    (hwhere : eligible settings snapshot tx.request host = true)
    (hsame : overtaken snapshot s.db host = false) : s.Room settings tx host := by
  have hvms : s.db.vms.filter (·.activeOn host.id) = snapshot.vms.filter (·.activeOn host.id) := by
    simpa [overtaken] using hsame
  have hsums : ∀ resource : ScheduledVm → Int,
      allocated resource s.db.vms host.id = allocated resource snapshot.vms host.id := by
    intro resource
    rw [allocated, hvms, allocated]
  have hadmits : admits settings snapshot.vms host tx.request.memoryBytes tx.request.vcpus
      tx.request.placementPolicy = true := by
    simp only [eligible, Bool.and_eq_true] at hwhere
    exact hwhere.1.1.1.1.1.1.1
  simp only [admits, Bool.and_eq_true] at hadmits
  rw [Room, hasMemory, hasVcpus, hsums, hsums]
  exact ⟨hadmits.1.2, hadmits.2⟩

/-- **The invariant.**  A host is locked by one transaction at most, which finds room on it. -/
structure Held (settings : SchedulingSettings) (s : CreateState) : Prop where
  ids : (s.db.hosts.map ScheduledHost.id).Nodup
  within : s.db.WithinTotals settings
  offered : ∀ tx ∈ s.txs, ∀ snapshot untried, tx.pc = .picking snapshot untried →
    s.Offered settings tx.request snapshot untried
  room : ∀ tx ∈ s.txs, ∀ host, tx.pc = .placed host → host ∈ s.db.hosts ∧ s.Room settings tx host
  alone : ∀ tx₁ ∈ s.txs, ∀ tx₂ ∈ s.txs, ∀ host₁ host₂, tx₁.pc = .placed host₁ →
    tx₂.pc = .placed host₂ → host₁.id = host₂.id → tx₁.vmId = tx₂.vmId

/-- A transaction moves on without taking a lock. -/
lemma Held.setPc {pc : CreatePc} (h : Held settings s)
    (hoffered : ∀ snapshot untried, pc = .picking snapshot untried →
      s.Offered settings tx.request snapshot untried)
    (hpc : ∀ host, pc ≠ .placed host) : Held settings (s.setPc tx pc) := by
  refine ⟨h.ids, h.within, fun t ht snapshot untried htpc => ?_, fun t ht host htpc => ?_,
    fun t₁ h₁ t₂ h₂ host₁ host₂ hp₁ hp₂ => ?_⟩
  · rcases mem_setPc ht with rfl | ⟨ht, -⟩
    · exact hoffered snapshot untried htpc
    · exact h.offered t ht snapshot untried htpc
  · rcases mem_setPc ht with rfl | ⟨ht, -⟩
    · exact absurd htpc (hpc host)
    · exact h.room t ht host htpc
  · rcases mem_setPc h₁ with rfl | ⟨h₁, -⟩
    · exact absurd hp₁ (hpc host₁)
    · rcases mem_setPc h₂ with rfl | ⟨h₂, -⟩
      · exact absurd hp₂ (hpc host₂)
      · exact h.alone t₁ h₁ t₂ h₂ host₁ host₂ hp₁ hp₂

lemma not_placed_of_not_locked {host held : ScheduledHost} (h : s.locked host = false)
    (ht : tx ∈ s.txs) (hpc : tx.pc = .placed held) : held.id ≠ host.id := by
  intro heq
  have hlocked : s.locked host = true := List.any_eq_true.2 ⟨tx, ht, by simp [hpc, heq]⟩
  simp [hlocked] at h

/-- A transaction takes the lock of a host. -/
lemma Held.lock {host : ScheduledHost} (h : Held settings s) (hfree : s.locked host = false)
    (hhost : host ∈ s.db.hosts) (hroom : s.Room settings tx host) :
    Held settings (s.setPc tx (.placed host)) := by
  refine ⟨h.ids, h.within, fun t ht snapshot untried htpc => ?_, fun t ht held htpc => ?_,
    fun t₁ h₁ t₂ h₂ host₁ host₂ hp₁ hp₂ heq => ?_⟩
  · rcases mem_setPc ht with rfl | ⟨ht, -⟩
    · cases htpc
    · exact h.offered t ht snapshot untried htpc
  · rcases mem_setPc ht with rfl | ⟨ht, -⟩
    · cases htpc
      exact ⟨hhost, hroom⟩
    · exact h.room t ht held htpc
  · rcases mem_setPc h₁ with rfl | ⟨h₁, -⟩ <;> rcases mem_setPc h₂ with rfl | ⟨h₂, -⟩
    · rfl
    · cases hp₁
      exact absurd heq.symm (not_placed_of_not_locked hfree h₂ hp₂)
    · cases hp₂
      exact absurd heq (not_placed_of_not_locked hfree h₁ hp₁)
    · exact h.alone t₁ h₁ t₂ h₂ host₁ host₂ hp₁ hp₂ heq

lemma activeOn_newVm (tx : CreateTx) (host : ScheduledHost) (hostId : Uuid) :
    (newVm tx host).activeOn hostId = decide (host.id = hostId) := by
  simp [newVm, ScheduledVm.activeOn, VmStatus.isActive, beq_eq_decide]

/-- A transaction commits its VM on the host it has locked. -/
lemma Held.commit {host : ScheduledHost} (h : Held settings s) (htx : tx ∈ s.txs)
    (hpc : tx.pc = .placed host) : Held settings (s.insertVm tx host) := by
  obtain ⟨hhost, hmemory, hvcpus⟩ := h.room tx htx host hpc
  unfold insertVm
  split
  · exact h.setPc (by simp) (by simp)
  · rename_i gpus _
    have h' : Held settings (s.setPc tx .committed) := h.setPc (by simp) (by simp)
    -- another host has the VMs it had
    have hother : ∀ (resource : ScheduledVm → Int) (other : ScheduledHost), other.id ≠ host.id →
        allocated resource (newVm tx host :: s.db.vms) other.id
          = allocated resource s.db.vms other.id := by
      intro resource other hne
      refine allocated_cons_of_not_activeOn ?_
      rw [activeOn_newVm, decide_eq_false_iff_not]
      exact hne.symm
    have hself : ∀ resource : ScheduledVm → Int,
        allocated resource (newVm tx host :: s.db.vms) host.id
          = resource (newVm tx host) + allocated resource s.db.vms host.id := by
      intro resource
      refine allocated_cons_of_activeOn ?_
      rw [activeOn_newVm, decide_eq_true_eq]
    refine ⟨h.ids, fun other ho => ?_, h'.offered, fun t ht held htpc => ?_, h'.alone⟩
    · by_cases heq : other.id = host.id
      · obtain rfl := List.inj_on_of_nodup_map h.ids ho hhost heq
        rw [hself, hself]
        exact ⟨hasRoom_iff.1 hmemory, hasRoom_iff.1 hvcpus⟩
      · rw [hother _ _ heq, hother _ _ heq]
        exact h.within other ho
    · rcases mem_setPc ht with rfl | ⟨ht, hne⟩
      · cases htpc
      · obtain ⟨hheld, hroom⟩ := h.room t ht held htpc
        have hid : held.id ≠ host.id := fun heq => hne (h.alone t ht tx htx held host htpc hpc heq)
        refine ⟨hheld, ?_⟩
        simpa only [Room, hasMemory, hasVcpus, hother _ _ hid] using hroom

lemma held_step {a : CreateAction} (h : Held settings s) (hok : s.rechecks settings a = true)
    (hs : s.step settings a = some s') : Held settings s' := by
  cases a with
  | begin vmId request tags =>
    simp only [step] at hs
    split_ifs at hs
    cases hs
    exact ⟨h.ids, h.within, by simpa [Offered] using h.offered, by simpa [Room] using h.room,
      by simpa using h.alone⟩
  | snapshot vmId =>
    obtain ⟨tx, htx, hs⟩ := Option.bind_eq_some_iff.1 hs
    cases hpc : tx.pc <;> simp only [hpc] at hs <;> cases hs
    refine h.setPc (fun snapshot untried heq => ?_) (by simp)
    cases heq
    exact fun host hhost => mem_eligibleHosts.1 hhost
  | tryLock vmId =>
    obtain ⟨tx, htx, hs⟩ := Option.bind_eq_some_iff.1 hs
    simp only [rechecks, htx, Option.all_some] at hok
    cases hpc : tx.pc with
    | picking snapshot untried =>
      simp only [hpc] at hs hok
      cases untried with
      | nil =>
        cases hs
        exact h.setPc (by simp) (by simp)
      | cons host untried =>
        obtain ⟨⟨hhost, hwhere⟩, hrest⟩ :=
          List.forall_mem_cons.1 (h.offered tx (mem_of_tx? htx).1 _ _ hpc)
        simp only at hs hok
        split_ifs at hs with hlocked <;> cases hs
        · refine h.setPc (fun _ _ heq => ?_) (by simp)
          cases heq
          exact hrest
        · simp only [hlocked, Bool.false_or, Bool.or_eq_true, Bool.and_eq_true,
            Bool.not_eq_true'] at hok
          refine h.lock (by simpa using hlocked) hhost ?_
          rcases hok with hsame | hroom
          · exact room_of_eligible hwhere hsame
          · exact hroom
    | _ => simp [hpc] at hs
  | commit vmId =>
    obtain ⟨tx, htx, hs⟩ := Option.bind_eq_some_iff.1 hs
    cases hpc : tx.pc <;> simp only [hpc] at hs <;> cases hs
    exact h.commit (mem_of_tx? htx).1 hpc
  | rollback vmId =>
    obtain ⟨tx, htx, hs⟩ := Option.bind_eq_some_iff.1 hs
    cases hpc : tx.pc <;> simp only [hpc] at hs <;> cases hs <;>
      exact h.setPc (by simp) (by simp)

/-- No transaction is open, and no host is overcommitted. -/
def Start (settings : SchedulingSettings) (s : CreateState) : Prop :=
  s.txs = [] ∧ (s.db.hosts.map ScheduledHost.id).Nodup ∧ s.db.WithinTotals settings

end CreateState

open Machine

/-- **Creation does not overcommit** along runs in which a host that was given a VM since the
query's snapshot, when it is locked, still has room for the request. -/
theorem creations_stay_within_totals {settings : SchedulingSettings} {s : CreateState}
    (h : Reach (CreateState.step settings) (fun s a => s.rechecks settings a = true)
      (CreateState.Start settings) s) :
    ∀ host ∈ s.db.hosts,
      (∀ total ∈ host.totalMemoryBytes, (allocated (·.memorySize) s.db.vms host.id : ℚ)
        ≤ settings.memoryOversubscriptionRatio * total) ∧
      ∀ total ∈ host.totalCpus, (allocated (·.bootVcpus) s.db.vms host.id : ℚ)
        ≤ settings.cpuOversubscriptionRatio * total := by
  have hheld : CreateState.Held settings s := by
    refine h.invariant (fun s hstart => ?_) fun s a s' hi hok hs => CreateState.held_step hi hok hs
    obtain ⟨htxs, hids, hwithin⟩ := hstart
    exact ⟨hids, hwithin, by simp [htxs], by simp [htxs], by simp [htxs]⟩
  exact hheld.within

section Runs

/-- A host with 8 GiB and 4 CPUs. -/
def smallHost (id : Uuid) (load : ℚ) : ScheduledHost where
  id := id
  name := id.text
  status := .up
  reservationClass := none
  placementLabels := []
  architecture := none
  totalCpus := some 4
  totalMemoryBytes := some (8 * 2 ^ 30)
  availableMemoryBytes := none
  loadAverage := some load
  diskAvailableBytes := none

/-- A request for 5 GiB and 2 CPUs. -/
def bigRequest : SchedulingRequest where
  memoryBytes := 5 * 2 ^ 30
  vcpus := 2
  diskBytes := 0
  architecture := none
  storagePoolId := none
  requiredNetworkIds := []
  gpu := none
  placementPolicy := none
  excludedHostIds := []

/-- No memory is promised twice. -/
def noOversubscription : SchedulingSettings where
  memoryOversubscriptionRatio := 1
  cpuOversubscriptionRatio := 1
  diskHeadroomBytes := 0
  memoryHealthFloorBytes := 0

def emptyCluster (hosts : List ScheduledHost) : CreateState where
  db := { hosts, vms := [], gpus := [], hostStoragePools := [], hostNetworks := [] }
  txs := []

/-- Three requests for two hosts.  The first takes the one with less load and leaves no room on it
for the others, which find the second host only; one of them comes to it while it is locked. -/
def sideBySide : List CreateAction :=
  [.begin ⟨"vm-1"⟩ bigRequest [], .snapshot ⟨"vm-1"⟩, .tryLock ⟨"vm-1"⟩, .commit ⟨"vm-1"⟩,
    .begin ⟨"vm-2"⟩ bigRequest [], .begin ⟨"vm-3"⟩ bigRequest [],
    .snapshot ⟨"vm-2"⟩, .snapshot ⟨"vm-3"⟩, .tryLock ⟨"vm-2"⟩, .tryLock ⟨"vm-3"⟩,
    .tryLock ⟨"vm-3"⟩, .commit ⟨"vm-2"⟩]

def hostPair : CreateState := emptyCluster [smallHost ⟨"host-a"⟩ 0, smallHost ⟨"host-b"⟩ 1]

theorem sideBySide_within_totals :
    ∃ s : CreateState, run (CreateState.step noOversubscription) hostPair sideBySide = some s ∧
      s.db.vms.map (·.hostId) = [some ⟨"host-b"⟩, some ⟨"host-a"⟩] ∧
      ∀ host ∈ s.db.hosts,
        (∀ total ∈ host.totalMemoryBytes, (allocated (·.memorySize) s.db.vms host.id : ℚ)
          ≤ noOversubscription.memoryOversubscriptionRatio * total) ∧
        ∀ total ∈ host.totalCpus, (allocated (·.bootVcpus) s.db.vms host.id : ℚ)
          ≤ noOversubscription.cpuOversubscriptionRatio * total := by
  have hstart : CreateState.Start noOversubscription hostPair := by
    refine ⟨rfl, by decide, fun host hhost => ?_⟩
    fin_cases hhost <;> simp [smallHost, hostPair, emptyCluster, allocated, noOversubscription]
  refine (exists_reach hstart ?_).imp fun s h =>
    ⟨h.1, h.2.1, creations_stay_within_totals h.2.2⟩
  decide +kernel

/-- A host with room, and one with less load that is too small for the request. -/
def oneWithRoom : CreateState :=
  emptyCluster [smallHost ⟨"host-a"⟩ 1,
    { smallHost ⟨"host-b"⟩ 0 with totalMemoryBytes := some (4 * 2 ^ 30) }]

/-- The first request is committed; the query of the second starts after that or, if `stale`,
before. -/
def secondQuery (stale : Bool) : List CreateAction :=
  [.begin ⟨"vm-1"⟩ bigRequest [], .begin ⟨"vm-2"⟩ bigRequest [], .snapshot ⟨"vm-1"⟩] ++
    (if stale then [.snapshot ⟨"vm-2"⟩] else []) ++ [.tryLock ⟨"vm-1"⟩, .commit ⟨"vm-1"⟩] ++
    if stale then [.tryLock ⟨"vm-2"⟩, .commit ⟨"vm-2"⟩] else [.snapshot ⟨"vm-2"⟩, .tryLock ⟨"vm-2"⟩]

/-- **A host of 8 GiB is given 10** if both queries have started when the first transaction commits.
A query that starts later finds no room. -/
theorem stale_sums_overcommit :
    CreateState.Start noOversubscription oneWithRoom ∧
    (∃ s ∈ run (CreateState.step noOversubscription) oneWithRoom (secondQuery false),
      s.db.vms.map (·.hostId) = [some ⟨"host-a"⟩]) ∧
    ∃ s ∈ run (CreateState.step noOversubscription) oneWithRoom (secondQuery true),
      smallHost ⟨"host-a"⟩ 1 ∈ s.db.hosts ∧
      noOversubscription.memoryOversubscriptionRatio * (8 * 2 ^ 30)
        < (allocated (·.memorySize) s.db.vms ⟨"host-a"⟩ : ℚ) := by
  refine ⟨⟨rfl, by decide, fun host hhost => ?_⟩, by decide +kernel, by decide +kernel⟩
  fin_cases hhost <;> simp [smallHost, oneWithRoom, emptyCluster, allocated, noOversubscription]

end Runs

end Qarax
