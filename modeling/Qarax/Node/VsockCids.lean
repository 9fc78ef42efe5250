import Qarax.Core.Machine
import Qarax.Node.Processes

/-!
# Guest CIDs of virtio-vsock devices

Each of the two managers of a node numbers the vsock devices of its VMs from a counter of its own,
a static of the node agent: Cloud Hypervisor from `0x4000`, Firecracker from `0x5000`.  The counters
begin again with every run of the agent, and VMs can outlive one.  The `recover_vms` of Firecracker
counts past the CIDs it finds in the persisted configs; the one of Cloud Hypervisor does not.

* `resolveVsockConfig`, `advanceVsockCidPast` — the counters, as the helpers of both use them.
* `VsockNode.step` — creations, deletions and exits of VMs, restarts of the agent and `recover_vms`.
* `VsockNode.unclaimed` — the CID that a creation comes to is not one that escaped the counter.
* `cids_unique_iff` — CIDs stay unique as long as, and only as long as, that is so.
-/

namespace Qarax.Vsock

open Machine Vmm

/-! ## The counters -/

/-- What `NEXT_VSOCK_CID` is when the agent starts. -/
def firstVsockCid : HypervisorType → Int
  | .cloudHv => 0x4000
  | .firecracker => 0x5000

/-- `next_vsock_cid` gives the counter out and leaves this; `fetch_add` wraps around. -/
def afterVsockCid (next : Int) : Int := (next + 1).bmod (2 ^ 64)

/-- The device of a VM config: there may be none, and its CID may be left open. -/
abbrev VsockConfig := Option (Option Int)

/-- `resolve_vsock_config`: the CID of the device, and the counter afterwards. -/
def resolveVsockConfig (next : Int) : VsockConfig → Option Int × Int
  | none => (none, next)
  | some (some cid) => (some cid, next)
  | some none => (some next, afterVsockCid next)

/-- The CIDs of Firecracker configs fit an `i32`, so that `used_cid + 1` does not overflow. -/
def advanceVsockCidPast (next used : Int) : Int := if next < used + 1 then used + 1 else next

/-- Firecracker's `configure_vm` refuses CIDs that do not fit an `i32`. -/
def acceptsCid : HypervisorType → Option Int → Bool
  | .firecracker, some cid => decide (-2 ^ 31 ≤ cid ∧ cid < 2 ^ 31)
  | _, _ => true

lemma le_advance (next used : Int) : next ≤ advanceVsockCidPast next used := by
  unfold advanceVsockCidPast
  split <;> omega

lemma lt_advance (next used : Int) : used < advanceVsockCidPast next used := by
  unfold advanceVsockCidPast
  split <;> omega

lemma le_foldl_advance (used : List Int) : ∀ next, next ≤ used.foldl advanceVsockCidPast next := by
  induction used with
  | nil => exact fun next => le_refl next
  | cons cid used ih => exact fun next => (le_advance next cid).trans (ih _)

/-- Counting past several CIDs counts past each of them. -/
lemma lt_foldl_advance {cid : Int} : ∀ {used : List Int} (next : Int), cid ∈ used →
    cid < used.foldl advanceVsockCidPast next
  | [], _, h => absurd h List.not_mem_nil
  | u :: used, next, h => by
      rcases List.mem_cons.1 h with rfl | h
      · exact (lt_advance next cid).trans_le (le_foldl_advance used _)
      · exact lt_foldl_advance (advanceVsockCidPast next u) h

/-! ## The node -/

/-- A VM whose process is alive. -/
structure Guest where
  vmId : Uuid
  hypervisor : HypervisorType
  cid : Option Int
  /-- Ghost: the counter of this run of the agent has given the CID out or was advanced past it, and
  has not wrapped around since. -/
  numbered : Bool
  /-- This run of the agent holds the handle of the process. -/
  handled : Bool

/-- A config in the runtime directory. -/
structure PersistedConfig where
  hypervisor : HypervisorType
  vmId : Uuid
  cid : Option Int

structure VsockNode where
  next : HypervisorType → Int
  /-- The tables of both managers. -/
  vms : List (HypervisorType × Uuid)
  configs : List PersistedConfig
  guests : List Guest

/-- A node on which nothing has been created. -/
def VsockNode.boot : VsockNode := ⟨firstVsockCid, [], [], []⟩

/-- How a creation ends: before the vsock device is resolved, after that, or with a VM, whose config
may fail to be written. -/
inductive CreateEnd where
  | refused
  | failed
  | created (persisted : Bool)

inductive Act where
  | createVm (hypervisor : HypervisorType) (vmId : Uuid) (vsock : VsockConfig) (fate : CreateEnd)
  | deleteVm (hypervisor : HypervisorType) (vmId : Uuid)
  /-- The process at that index ends. -/
  | exit (i : Nat)
  /-- The agent starts again; some of the processes are still there. -/
  | restart (survives : Guest → Bool)
  /-- `recover_vms` of one manager, for the VMs whose entry and config it can read. -/
  | recoverVms (hypervisor : HypervisorType) (reads : Uuid → Bool)

namespace VsockNode

/-- The counter of one manager moves on; if it wraps around, nothing is numbered any more. -/
def count (s : VsockNode) (hv : HypervisorType) (next : Int) : VsockNode :=
  { s with
    next := Function.update s.next hv next
    guests := s.guests.map fun g =>
      if g.hypervisor = hv ∧ next < s.next hv then { g with numbered := false } else g }

/-- The VM is registered, and its config written if that works. -/
def register (s : VsockNode) (g : Guest) (persisted : Bool) : VsockNode :=
  { s with
    vms := (g.hypervisor, g.vmId) :: s.vms
    configs := if persisted then
        ⟨g.hypervisor, g.vmId, g.cid⟩ ::
          s.configs.filter fun c => !(c.hypervisor == g.hypervisor && c.vmId == g.vmId)
      else s.configs
    guests := g :: s.guests }

def createVm (s : VsockNode) (hv : HypervisorType) (vmId : Uuid) (vsock : VsockConfig) :
    CreateEnd → Option VsockNode
  | .refused => some s
  | .failed =>
    if s.vms.any fun v => v.1 == hv && v.2 == vmId then none
    else some (s.count hv (resolveVsockConfig (s.next hv) vsock).2)
  | .created persisted =>
    let (cid, next) := resolveVsockConfig (s.next hv) vsock
    if (s.vms.any fun v => v.1 == hv && v.2 == vmId) || !acceptsCid hv cid then none
    else some ((s.count hv next).register ⟨vmId, hv, cid, decide (s.next hv < next), true⟩
      persisted)

/-- The CIDs in the configs that `recover_vms` reads. -/
def recoveredCids (s : VsockNode) (hv : HypervisorType) (reads : Uuid → Bool) : List Int :=
  (s.configs.filter fun c => c.hypervisor == hv && reads c.vmId).filterMap (·.cid)

def recoverVms (s : VsockNode) (hv : HypervisorType) (reads : Uuid → Bool) : VsockNode :=
  let found := (s.configs.filter fun c => c.hypervisor == hv && reads c.vmId).map fun c =>
    (hv, c.vmId)
  match hv with
  | .cloudHv => { s with vms := found ++ s.vms }
  | .firecracker =>
    { s with
      vms := found ++ s.vms
      next := Function.update s.next .firecracker
        ((s.recoveredCids .firecracker reads).foldl advanceVsockCidPast (s.next .firecracker))
      guests := s.guests.map fun g => { g with
        numbered := g.numbered || g.hypervisor == .firecracker &&
          g.cid.any (s.recoveredCids .firecracker reads).contains } }

/-- A process whose handle is not held, as after `recover_vms`, is not killed. -/
def deleteVm (s : VsockNode) (hv : HypervisorType) (vmId : Uuid) : VsockNode :=
  if s.vms.any fun v => v.1 == hv && v.2 == vmId then
    { s with
      vms := s.vms.filter fun v => !(v.1 == hv && v.2 == vmId)
      configs := s.configs.filter fun c => !(c.hypervisor == hv && c.vmId == vmId)
      guests := s.guests.filter fun g => !(g.hypervisor == hv && g.vmId == vmId && g.handled) }
  else s

def step (s : VsockNode) : Act → Option VsockNode
  | .createVm hv vmId vsock fate => s.createVm hv vmId vsock fate
  | .deleteVm hv vmId => some (s.deleteVm hv vmId)
  | .exit i => some { s with guests := s.guests.eraseIdx i }
  | .restart survives => some { s with
      next := firstVsockCid
      vms := []
      guests := (s.guests.filter survives).map fun g =>
        { g with numbered := false, handled := false } }
  | .recoverVms hv reads => some (s.recoverVms hv reads)

/-- The CID that a creation comes to is of no other VM, where VMs need not be looked at that the
counter of the same manager has numbered. -/
def unclaimed (s : VsockNode) : Act → Bool
  | .createVm hv vmId (some none) (.created _) => s.guests.all fun g =>
    g.vmId == vmId || g.numbered && g.hypervisor == hv || g.cid != some (s.next hv)
  | .createVm _ vmId (some (some cid)) (.created _) => s.guests.all fun g =>
    g.vmId == vmId || g.cid != some cid
  | _ => true

end VsockNode

/-! ## CIDs that are unique -/

/-- No two VMs have the same CID. -/
def Unique (guests : List Guest) : Prop :=
  ∀ g ∈ guests, ∀ g' ∈ guests, g.vmId ≠ g'.vmId → ∀ cid, g.cid = some cid → g'.cid ≠ some cid

variable {guests : List Guest}

lemma Unique.of_sub {guests' : List Guest}
    (hsub : ∀ g' ∈ guests', ∃ g ∈ guests, g.vmId = g'.vmId ∧ g.cid = g'.cid) (h : Unique guests) :
    Unique guests' := by
  intro g hg g' hg' hne cid hcid
  obtain ⟨k, hk, hid, hc⟩ := hsub g hg
  obtain ⟨k', hk', hid', hc'⟩ := hsub g' hg'
  rw [← hc']
  exact h k hk k' hk' (by rwa [hid, hid']) cid (by rwa [hc])

/-- Numbering is a matter of the counters, not of the CIDs. -/
lemma unique_map {f : Guest → Guest} (hid : ∀ g, (f g).vmId = g.vmId)
    (hcid : ∀ g, (f g).cid = g.cid) : Unique (guests.map f) ↔ Unique guests := by
  constructor
  · exact Unique.of_sub fun g hg => ⟨f g, List.mem_map_of_mem hg, hid g, hcid g⟩
  · refine Unique.of_sub fun g' hg' => ?_
    obtain ⟨g, hg, rfl⟩ := List.mem_map.1 hg'
    exact ⟨g, hg, (hid g).symm, (hcid g).symm⟩

lemma unique_cons {g : Guest} : Unique (g :: guests) ↔
    Unique guests ∧ ∀ g' ∈ guests, g'.vmId ≠ g.vmId → ∀ cid, g.cid = some cid →
      g'.cid ≠ some cid := by
  constructor
  · intro h
    exact ⟨fun k hk k' hk' => h k (.tail _ hk) k' (.tail _ hk'),
      fun g' hg' hne => h g (.head _) g' (.tail _ hg') hne.symm⟩
  · rintro ⟨h, hnew⟩ k hk k' hk' hne cid hcid hcid'
    rcases List.mem_cons.1 hk with rfl | hold <;> rcases List.mem_cons.1 hk' with rfl | hold'
    · exact hne rfl
    · exact hnew k' hold' hne.symm cid hcid hcid'
    · exact hnew k hold hne cid hcid' hcid
    · exact h k hold k' hold' hne cid hcid hcid'

/-! ## What the counters guarantee -/

/-- Every CID that a counter has numbered lies below it. -/
def Numbered (s : VsockNode) : Prop :=
  ∀ g ∈ s.guests, g.numbered = true → ∃ cid, g.cid = some cid ∧ cid < s.next g.hypervisor

variable {s : VsockNode} {hv : HypervisorType}

variable {next : Int} {fate : CreateEnd} {a : Act} {persisted : Bool}

variable (h : Numbered s)

include h

lemma numbered_count : Numbered (s.count hv next) := by
  intro g' hg' hnum
  obtain ⟨g, hg, rfl⟩ := List.mem_map.1 hg'
  split_ifs at hnum ⊢ with hwrap
  obtain ⟨cid, hcid, hlt⟩ := h g hg hnum
  refine ⟨cid, hcid, ?_⟩
  by_cases hhv : g.hypervisor = hv
  · subst hhv
    have hle : s.next g.hypervisor ≤ next := not_lt.1 fun hlt => hwrap ⟨rfl, hlt⟩
    simpa [VsockNode.count] using hlt.trans_le hle
  · simpa [VsockNode.count, Function.update_of_ne hhv] using hlt

variable {s' : VsockNode} {vmId : Uuid} {vsock : VsockConfig}

lemma numbered_createVm (hs : s.createVm hv vmId vsock fate = some s') : Numbered s' := by
  cases fate with
  | refused =>
    cases hs
    exact h
  | failed =>
    simp only [VsockNode.createVm] at hs
    split_ifs at hs
    cases hs
    exact numbered_count h
  | created persisted =>
    simp only [VsockNode.createVm] at hs
    split_ifs at hs
    cases hs
    intro g hg hnum
    rcases List.mem_cons.1 hg with rfl | hg
    · -- only a CID from the counter moves the counter
      have hlt := of_decide_eq_true hnum
      rcases vsock with - | - | cid
      · exact absurd hlt (lt_irrefl _)
      · exact ⟨s.next hv, rfl, by simpa [VsockNode.register, VsockNode.count] using hlt⟩
      · exact absurd hlt (lt_irrefl _)
    · exact numbered_count h g hg hnum

lemma numbered_recoverVms {reads : Uuid → Bool} :
    Numbered (s.recoverVms hv reads) := by
  cases hv with
  | cloudHv => exact h
  | firecracker =>
    intro g' hg' hnum
    obtain ⟨g, hg, rfl⟩ := List.mem_map.1 hg'
    have hle := le_foldl_advance (s.recoveredCids .firecracker reads) (s.next .firecracker)
    rcases Bool.or_eq_true _ _ ▸ hnum with hnum | hnum
    · obtain ⟨cid, hcid, hlt⟩ := h g hg hnum
      refine ⟨cid, hcid, ?_⟩
      cases hhv : g.hypervisor with
      | cloudHv =>
        rw [hhv] at hlt
        simpa [VsockNode.recoverVms, hhv, Function.update] using hlt
      | firecracker =>
        rw [hhv] at hlt
        simpa [VsockNode.recoverVms, hhv] using hlt.trans_le hle
    · obtain ⟨hhv, hread⟩ := Bool.and_eq_true_iff.1 hnum
      obtain ⟨cid, hcid, hmem⟩ := (Option.any_eq_true _ _).1 hread
      refine ⟨cid, hcid, ?_⟩
      have hlt := lt_foldl_advance (s.next .firecracker) (List.contains_iff_mem.1 hmem)
      simpa [VsockNode.recoverVms, eq_of_beq hhv] using hlt

lemma numbered_step (hs : s.step a = some s') : Numbered s' := by
  cases a with
  | createVm hv vmId vsock fate => exact numbered_createVm h hs
  | deleteVm hv vmId =>
    cases hs
    unfold VsockNode.deleteVm
    split_ifs
    · exact fun g hg => h g (List.mem_of_mem_filter hg)
    · exact h
  | exit i =>
    cases hs
    exact fun g hg => h g (List.mem_of_mem_eraseIdx hg)
  | restart survives =>
    cases hs
    intro g hg hnum
    obtain ⟨g₀, -, rfl⟩ := List.mem_map.1 hg
    cases hnum
  | recoverVms hv reads =>
    cases hs
    exact numbered_recoverVms h

/-! ## Creations -/

omit h in
lemma unique_count : Unique (s.count hv next).guests ↔ Unique s.guests :=
  unique_map (fun g => by split_ifs <;> rfl) (fun g => by split_ifs <;> rfl)

/-- A CID from the counter can only be that of a VM which the counter has not numbered. -/
lemma unclaimed_next_iff :
    s.unclaimed (.createVm hv vmId (some none) (.created persisted)) = true ↔
      ∀ g ∈ s.guests, g.vmId ≠ vmId → g.cid ≠ some (s.next hv) := by
  simp only [VsockNode.unclaimed, List.all_eq_true, Bool.or_eq_true, Bool.and_eq_true, beq_iff_eq,
    bne_iff_ne, ne_eq]
  refine forall₂_congr fun g hg => ?_
  constructor
  · rintro ((hid | ⟨hnum, hhv⟩) | hne) hother
    · exact absurd hid hother
    · obtain ⟨cid, hcid, hlt⟩ := h g hg hnum
      rw [hcid, Option.some.injEq]
      rw [hhv] at hlt
      exact hlt.ne
    · exact hne
  · intro hne
    by_cases hid : g.vmId = vmId
    · exact .inl (.inl hid)
    · exact .inr (hne hid)

/-- The CID of a new VM is unique when the creation is unclaimed. -/
lemma unclaimed_created_iff :
    s.unclaimed (.createVm hv vmId vsock (.created persisted)) = true ↔
      ∀ g ∈ s.guests, g.vmId ≠ vmId →
        ∀ cid, (resolveVsockConfig (s.next hv) vsock).1 = some cid → g.cid ≠ some cid := by
  rcases vsock with - | - | cid
  · simp [VsockNode.unclaimed, resolveVsockConfig]
  · rw [unclaimed_next_iff h]
    simp [resolveVsockConfig]
  · simp only [VsockNode.unclaimed, resolveVsockConfig, List.all_eq_true, Bool.or_eq_true,
      beq_iff_eq, bne_iff_ne, ne_eq, Option.some.injEq, forall_eq']
    exact forall₂_congr fun g _ => or_iff_not_imp_left

omit h

lemma unique_createVm_iff (hnum : Numbered s) (h : Unique s.guests)
    (hs : s.createVm hv vmId vsock fate = some s') :
    Unique s'.guests ↔ s.unclaimed (.createVm hv vmId vsock fate) = true := by
  cases fate with
  | refused =>
    cases hs
    simpa [VsockNode.unclaimed] using h
  | failed =>
    simp only [VsockNode.createVm] at hs
    split_ifs at hs
    cases hs
    simpa [VsockNode.unclaimed, unique_count] using h
  | created persisted =>
    simp only [VsockNode.createVm] at hs
    split_ifs at hs
    cases hs
    rw [unclaimed_created_iff hnum, VsockNode.register, unique_cons, unique_count]
    simp only [h, true_and]
    -- the guests before, with their numbering forgotten or not
    simp only [VsockNode.count, List.forall_mem_map]
    refine forall₂_congr fun g _ => ?_
    split_ifs <;> rfl

/-- What a creation does not add stays unique. -/
lemma unique_step_iff (hnum : Numbered s) (h : Unique s.guests) (hs : s.step a = some s') :
    Unique s'.guests ↔ s.unclaimed a = true := by
  cases a with
  | createVm hv vmId vsock fate => exact unique_createVm_iff hnum h hs
  | deleteVm hv vmId =>
    cases hs
    refine iff_of_true ?_ rfl
    unfold VsockNode.deleteVm
    split_ifs
    · exact h.of_sub fun g hg => ⟨g, List.mem_of_mem_filter hg, rfl, rfl⟩
    · exact h
  | exit i =>
    cases hs
    exact iff_of_true (h.of_sub fun g hg => ⟨g, List.mem_of_mem_eraseIdx hg, rfl, rfl⟩) rfl
  | restart survives =>
    cases hs
    refine iff_of_true (h.of_sub fun g hg => ?_) rfl
    obtain ⟨g₀, hg₀, rfl⟩ := List.mem_map.1 hg
    exact ⟨g₀, List.mem_of_mem_filter hg₀, rfl, rfl⟩
  | recoverVms hv reads =>
    cases hs
    cases hv with
    | cloudHv => exact iff_of_true h rfl
    | firecracker =>
      refine iff_of_true (h.of_sub fun g hg => ?_) rfl
      obtain ⟨g₀, hg₀, rfl⟩ := List.mem_map.1 hg
      exact ⟨g₀, hg₀, rfl, rfl⟩

/-- **Unique CIDs.**  In every run whose creations are unclaimed no two VMs have the same CID,
whatever is deleted, exits, restarts and is recovered; a creation that is not unclaimed gives one
out twice. -/
theorem cids_unique_iff {s s' : VsockNode} {a : Act}
    (h : Reach VsockNode.step (fun s a => s.unclaimed a = true) (· = VsockNode.boot) s)
    (hs : s.step a = some s') :
    Unique s.guests ∧ (Unique s'.guests ↔ s.unclaimed a = true) := by
  have hinv : Numbered s ∧ Unique s.guests := by
    refine h.invariant (I := fun s => Numbered s ∧ Unique s.guests) ?_ ?_
    · rintro s rfl
      exact ⟨fun g hg => absurd hg List.not_mem_nil, fun g hg => absurd hg List.not_mem_nil⟩
    · rintro s a s' ⟨hnum, huniq⟩ hok hs
      exact ⟨numbered_step hnum hs, (unique_step_iff hnum huniq hs).2 hok⟩
  exact ⟨hinv.2, unique_step_iff hinv.1 hinv.2 hs⟩

/-- The run of the counterexample and of the witness: a VM is created under each manager, and the
agent starts again while both live on. -/
def restarted : List Act :=
  [.createVm .cloudHv ⟨"a"⟩ (some none) (.created true),
    .createVm .firecracker ⟨"b"⟩ (some none) (.created true), .restart fun _ => true,
    .recoverVms .cloudHv fun _ => true, .recoverVms .firecracker fun _ => true]

/-- A VM that Firecracker then creates has a CID of its own. -/
theorem recovered_firecracker_cid_unique : ∃ s s',
    run VsockNode.step VsockNode.boot restarted = some s ∧
      s.step (.createVm .firecracker ⟨"c"⟩ (some none) (.created true)) = some s' ∧
      s'.guests.map (·.cid) = [some 0x5001, some 0x5000, some 0x4000] ∧ Unique s'.guests := by
  have hrun : ((run VsockNode.step VsockNode.boot restarted).bind fun s =>
      (s.step (.createVm .firecracker ⟨"c"⟩ (some none) (.created true))).map fun s' =>
        (s.unclaimed (.createVm .firecracker ⟨"c"⟩ (some none) (.created true)),
          s'.guests.map (·.cid))) = some (true, [some 0x5001, some 0x5000, some 0x4000]) := by
    decide +kernel
  obtain ⟨s, hs, hrun⟩ := Option.bind_eq_some_iff.1 hrun
  obtain ⟨s', hs', heq⟩ := Option.map_eq_some_iff.1 hrun
  obtain ⟨hok, hcids⟩ := Prod.mk.inj heq
  have halong : Along VsockNode.step (fun s a => s.unclaimed a = true) VsockNode.boot restarted :=
    by decide +kernel
  exact ⟨s, s', hs, hs', hcids,
    (cids_unique_iff (reach_of_run (.start rfl) halong hs) hs').2.2 hok⟩

/-- Cloud Hypervisor gives out the CID of the VM that has survived. -/
theorem recovered_cloud_hv_cid_again : ∃ s s',
    run VsockNode.step VsockNode.boot restarted = some s ∧
      s.step (.createVm .cloudHv ⟨"c"⟩ (some none) (.created true)) = some s' ∧
      ¬ Unique s'.guests := by
  have hrun : ((run VsockNode.step VsockNode.boot restarted).bind fun s =>
      (s.step (.createVm .cloudHv ⟨"c"⟩ (some none) (.created true))).map fun s' =>
        s'.guests.map fun g => (g.vmId, g.cid)) =
      some [(⟨"c"⟩, some 0x4000), (⟨"b"⟩, some 0x5000), (⟨"a"⟩, some 0x4000)] := by
    decide +kernel
  obtain ⟨s, hs, hrun⟩ := Option.bind_eq_some_iff.1 hrun
  obtain ⟨s', hs', hcids⟩ := Option.map_eq_some_iff.1 hrun
  refine ⟨s, s', hs, hs', fun huniq => ?_⟩
  have hin : ∀ vmId, (vmId, some (0x4000 : Int)) ∈ s'.guests.map (fun g => (g.vmId, g.cid)) →
      ∃ g ∈ s'.guests, g.vmId = vmId ∧ g.cid = some 0x4000 := fun vmId hmem => by
    obtain ⟨g, hg, heq⟩ := List.mem_map.1 hmem
    exact ⟨g, hg, (Prod.mk.inj heq).1, (Prod.mk.inj heq).2⟩
  obtain ⟨c, hc, hcid, hc16⟩ := hin ⟨"c"⟩ (by rw [hcids]; simp)
  obtain ⟨a, ha, haid, ha16⟩ := hin ⟨"a"⟩ (by rw [hcids]; simp)
  exact huniq c hc a ha (by simp [hcid, haid]) 0x4000 hc16 ha16

end Qarax.Vsock
