import Qarax.Control.Vms

/-!
# The grace period

The HA monitor fails a host over once it "has stayed unreachable for at least
`ha.failover_grace_seconds`".  It keeps `unreachable_since`, when it first confirmed each host that
is down unreachable, from cycle to cycle: a host that is not listed any more is forgotten, and one
that answers its probe is removed (`run_cycle` in `ha_monitor.rs`).

* `Cycle` — what a cycle meets: the hosts listed as down, each with its probe and the clock.
* `probeHosts_spec` — what a cycle makes of the map, host by host.
* `Confirmed` — an entry of the map goes back to a cycle since which every listing and every probe
  has confirmed it.

Times are in nanoseconds.
-/

namespace Qarax

/-- `Duration::from_secs` -/
def fromSecs (seconds : Nat) : Nat := seconds * 1000000000

/-- A host that is listed as down, in the order of the list. -/
structure Probe where
  hostId : Uuid
  /-- `get_node_info` answers within five seconds. -/
  isReachable : Bool
  /-- `Instant::now` if the host is entered into the map. -/
  confirmedAt : Nat
  /-- The clock when the time since then is looked at. -/
  checkedAt : Nat

/-- A cycle that gets past `list_down`.  Ids of hosts are unique. -/
structure Cycle where
  probes : List Probe
  nodup : (probes.map (·.hostId)).Nodup

/-- What happens at a tick. -/
inductive Tick where
  | maintenance
  | listFails
  | cycle (c : Cycle)

/-- `unreachable_since` -/
abbrev UnreachableSince := Uuid → Option Nat

namespace UnreachableSince

/-- `retain` -/
def retain (m : UnreachableSince) (downIds : List Uuid) : UnreachableSince :=
  fun hostId => if hostId ∈ downIds then m hostId else none

def remove (m : UnreachableSince) (hostId : Uuid) : UnreachableSince :=
  Function.update m hostId none

/-- `entry(..).or_insert_with(..)`: the map, and the value of the entry. -/
def orInsert (m : UnreachableSince) (hostId : Uuid) (now : Nat) : UnreachableSince × Nat :=
  match m hostId with
  | some since => (m, since)
  | none => (Function.update m hostId (some now), now)

end UnreachableSince

/-- The loop over the hosts that are down: the map, and the calls of `failover_host` with their
times. -/
def probeHosts (grace : Nat) (m : UnreachableSince) :
    List Probe → UnreachableSince × List (Uuid × Nat)
  | [] => (m, [])
  | p :: probes =>
    if p.isReachable then
      -- never fail over from a live host
      probeHosts grace (m.remove p.hostId) probes
    else
      let (m, firstUnreachable) := m.orInsert p.hostId p.confirmedAt
      let (m', failovers) := probeHosts grace m probes
      if p.checkedAt - firstUnreachable < grace then (m', failovers)
      else (m', (p.hostId, p.checkedAt) :: failovers)

/-- `run_cycle`, unless the tick is skipped. -/
def Tick.run (graceSeconds : Nat) (m : UnreachableSince) :
    Tick → UnreachableSince × List (Uuid × Nat)
  | .maintenance | .listFails => (m, [])
  | .cycle c => probeHosts (fromSecs graceSeconds) (m.retain (c.probes.map (·.hostId))) c.probes

/-- The map after some ticks of a monitor that was started with an empty one. -/
def unreachableSince (graceSeconds : Nat) (ticks : List Tick) : UnreachableSince :=
  ticks.foldl (fun m tick => (tick.run graceSeconds m).1) fun _ => none

/-! ## One cycle -/

section Cycle

variable {grace : Nat} {m : UnreachableSince} {hostId : Uuid}

lemma orInsert_snd (now : Nat) : (m.orInsert hostId now).2 = (m hostId).getD now := by
  unfold UnreachableSince.orInsert
  split <;> simp_all

lemma orInsert_self (now : Nat) :
    (m.orInsert hostId now).1 hostId = some ((m hostId).getD now) := by
  unfold UnreachableSince.orInsert
  split <;> simp_all

lemma orInsert_of_ne {other : Uuid} (now : Nat) (h : other ≠ hostId) :
    (m.orInsert hostId now).1 other = m other := by
  unfold UnreachableSince.orInsert
  split
  · rfl
  · exact Function.update_of_ne h _ _

variable {probes : List Probe}

/-- A host that is not among those probed keeps its entry. -/
lemma probeHosts_of_not_mem (h : hostId ∉ probes.map (·.hostId)) :
    (probeHosts grace m probes).1 hostId = m hostId := by
  induction probes generalizing m with
  | nil => rfl
  | cons p probes ih =>
    simp only [List.map_cons, List.mem_cons, not_or] at h
    simp only [probeHosts]
    split_ifs
    · rw [ih h.2, UnreachableSince.remove, Function.update_of_ne h.1]
    · rw [ih h.2, orInsert_of_ne _ h.1]
    · rw [ih h.2, orInsert_of_ne _ h.1]

/-- **The map after a cycle**: an entry is of a host whose probe has failed, and it is the one from
before or the time of the probe. -/
lemma probeHosts_entry (hnodup : (probes.map (·.hostId)).Nodup)
    (hmem : hostId ∈ probes.map (·.hostId)) {since : Nat}
    (h : (probeHosts grace m probes).1 hostId = some since) :
    ∃ p ∈ probes, p.hostId = hostId ∧ p.isReachable = false ∧
      since = (m hostId).getD p.confirmedAt := by
  induction probes generalizing m with
  | nil => simp at hmem
  | cons p probes ih =>
    simp only [List.map_cons, List.nodup_cons] at hnodup
    by_cases hp : p.hostId = hostId
    · subst hp
      -- its only probe in this cycle
      simp only [probeHosts] at h
      split_ifs at h with hreach
      · rw [probeHosts_of_not_mem hnodup.1] at h
        simp [UnreachableSince.remove] at h
      all_goals
        rw [probeHosts_of_not_mem hnodup.1, orInsert_self] at h
        exact ⟨p, List.mem_cons_self, rfl, by simpa using hreach, (Option.some.inj h).symm⟩
    · have hmem' : hostId ∈ probes.map (·.hostId) :=
        (List.mem_cons.1 hmem).resolve_left fun heq => hp heq.symm
      simp only [probeHosts] at h
      split_ifs at h
      · obtain ⟨q, hq, hid, hr, hs⟩ := ih hnodup.2 hmem' h
        rw [UnreachableSince.remove, Function.update_of_ne (Ne.symm hp)] at hs
        exact ⟨q, List.mem_cons_of_mem _ hq, hid, hr, hs⟩
      all_goals
        obtain ⟨q, hq, hid, hr, hs⟩ := ih hnodup.2 hmem' h
        rw [orInsert_of_ne _ (Ne.symm hp)] at hs
        exact ⟨q, List.mem_cons_of_mem _ hq, hid, hr, hs⟩

/-- **The failovers of a cycle** are of hosts whose probe has failed and whose entry, the one from
before or the time of the probe, is old enough. -/
lemma probeHosts_failover (hnodup : (probes.map (·.hostId)).Nodup) {t : Nat}
    (h : (hostId, t) ∈ (probeHosts grace m probes).2) :
    ∃ p ∈ probes, p.hostId = hostId ∧ p.isReachable = false ∧ t = p.checkedAt ∧
      grace ≤ t - (m hostId).getD p.confirmedAt := by
  induction probes generalizing m with
  | nil => simp [probeHosts] at h
  | cons p probes ih =>
    simp only [List.map_cons, List.nodup_cons] at hnodup
    -- later hosts of the list are other ones
    have later {m' : UnreachableSince} (hm : ∀ other, other ≠ p.hostId → m' other = m other)
        (h : (hostId, t) ∈ (probeHosts grace m' probes).2) :
        ∃ q ∈ p :: probes, q.hostId = hostId ∧ q.isReachable = false ∧ t = q.checkedAt ∧
          grace ≤ t - (m hostId).getD q.confirmedAt := by
      obtain ⟨q, hq, rfl, hr, ht, hgrace⟩ := ih hnodup.2 h
      have hne : q.hostId ≠ p.hostId := fun heq => hnodup.1 (heq ▸ List.mem_map_of_mem hq)
      rw [hm _ hne] at hgrace
      exact ⟨q, List.mem_cons_of_mem _ hq, rfl, hr, ht, hgrace⟩
    simp only [probeHosts] at h
    split_ifs at h with hreach hearly
    · exact later (fun _ hne => Function.update_of_ne hne _ _) h
    · exact later (fun _ hne => orInsert_of_ne _ hne) h
    · rcases List.mem_cons.1 h with heq | h
      · cases heq
        rw [orInsert_snd] at hearly
        exact ⟨p, List.mem_cons_self, rfl, by simpa using hreach, rfl, not_lt.1 hearly⟩
      · exact later (fun _ hne => orInsert_of_ne _ hne) h

end Cycle

/-! ## Traces -/

/-- The host is listed as down in the cycle, and its probe fails. -/
def Cycle.Failed (c : Cycle) (hostId : Uuid) : Prop :=
  ∃ p ∈ c.probes, p.hostId = hostId ∧ p.isReachable = false

/-- **Unreachable ever since**: a cycle in which the probe of the host failed at that time, and from
that cycle on the host is listed and its probe fails in every cycle that gets past listing. -/
def Confirmed (hostId : Uuid) (since : Nat) (ticks : List Tick) : Prop :=
  ∃ (before later : List Tick) (first : Cycle), ticks = before ++ .cycle first :: later ∧
    (∃ p ∈ first.probes, p.hostId = hostId ∧ p.isReachable = false ∧ p.confirmedAt = since) ∧
    ∀ c, .cycle c ∈ Tick.cycle first :: later → c.Failed hostId

/-- The times at which the clock is read. -/
def Tick.instants : Tick → List Nat
  | .maintenance | .listFails => []
  | .cycle c => c.probes.flatMap fun p => [p.confirmedAt, p.checkedAt]

/-- The clock is monotone. -/
def Monotonic (ticks : List Tick) : Prop := (ticks.flatMap Tick.instants).Pairwise (· ≤ ·)

section Traces

variable {graceSeconds : Nat} {hostId : Uuid} {since : Nat} {ticks : List Tick}

lemma Confirmed.snoc {tick : Tick} (h : Confirmed hostId since ticks)
    (htick : ∀ c, tick = .cycle c → c.Failed hostId) :
    Confirmed hostId since (ticks ++ [tick]) := by
  obtain ⟨before, later, first, rfl, hfirst, hall⟩ := h
  refine ⟨before, later ++ [tick], first, by simp, hfirst, fun c hc => ?_⟩
  rw [← List.cons_append, List.mem_append, List.mem_singleton] at hc
  rcases hc with hc | hc
  · exact hall c hc
  · exact htick c hc.symm

variable {c : Cycle} {p : Probe}

/-- An entry, or the time of a probe that fails now. -/
lemma confirmed_getD {m : UnreachableSince} (hp : p ∈ c.probes)
    (hid : p.hostId = hostId) (hr : p.isReachable = false)
    (hm : ∀ since, m hostId = some since → Confirmed hostId since ticks) :
    Confirmed hostId ((m hostId).getD p.confirmedAt) (ticks ++ [.cycle c]) := by
  cases hsince : m hostId with
  | some since =>
    refine (hm since hsince).snoc fun c' hc => ?_
    cases hc
    exact ⟨p, hp, hid, hr⟩
  | none =>
    refine ⟨ticks, [], c, rfl, ⟨p, hp, hid, hr, rfl⟩, fun c' hc => ?_⟩
    cases List.mem_singleton.1 hc
    exact ⟨p, hp, hid, hr⟩

/-- **Entries of the map are confirmed.** -/
lemma confirmed_of_entry (h : unreachableSince graceSeconds ticks hostId = some since) :
    Confirmed hostId since ticks := by
  induction ticks using List.reverseRecOn generalizing since with
  | nil => cases h
  | append_singleton ticks tick ih =>
    rw [unreachableSince, List.foldl_append] at h
    change (tick.run graceSeconds (unreachableSince graceSeconds ticks)).1 hostId = some since at h
    cases tick with
    | maintenance => exact (ih h).snoc fun c hc => by cases hc
    | listFails => exact (ih h).snoc fun c hc => by cases hc
    | cycle c =>
      by_cases hmem : hostId ∈ c.probes.map (·.hostId)
      · obtain ⟨p, hp, hid, hr, rfl⟩ := probeHosts_entry c.nodup hmem h
        rw [UnreachableSince.retain, if_pos hmem]
        exact confirmed_getD hp hid hr fun _ => ih
      · -- the host is not listed any more
        simp only [Tick.run] at h
        rw [probeHosts_of_not_mem hmem, UnreachableSince.retain, if_neg hmem] at h
        cases h

/-- The clock does not run back. -/
lemma confirmed_le (hclock : Monotonic (ticks ++ [.cycle c]))
    (hp : p ∈ c.probes) (h : Confirmed hostId since ticks) : since ≤ p.checkedAt := by
  obtain ⟨before, later, first, rfl, ⟨q, hq, -, -, rfl⟩, -⟩ := h
  rw [Monotonic, List.flatMap_append, List.pairwise_append] at hclock
  refine hclock.2.2 q.confirmedAt ?_ p.checkedAt ?_
  · simp only [List.flatMap_append, List.flatMap_cons, List.mem_append]
    exact .inr (.inl (List.mem_flatMap.2 ⟨q, hq, by simp⟩))
  · rw [List.flatMap_singleton]
    exact List.mem_flatMap.2 ⟨p, hp, by simp⟩

lemma confirmedAt_le (hclock : Monotonic (ticks ++ [.cycle c]))
    (hp : p ∈ c.probes) : p.confirmedAt ≤ p.checkedAt := by
  rw [Monotonic, List.flatMap_append, List.pairwise_append, List.flatMap_singleton] at hclock
  have hprobe := (List.pairwise_flatMap.1 hclock.2.1).1 p hp
  simpa using hprobe

end Traces

/-- **Failover only after the grace period**: a host that is failed over at a time has been listed
as down, with a failed probe, in every cycle that got past listing since one that is at least the
grace period before. -/
theorem failover_after_grace (graceSeconds : Nat) (past : List Tick) (now : Tick)
    (hclock : Monotonic (past ++ [now])) (hostId : Uuid) (t : Nat)
    (h : (hostId, t) ∈ (now.run graceSeconds (unreachableSince graceSeconds past)).2) :
    ∃ since, since + fromSecs graceSeconds ≤ t ∧ Confirmed hostId since (past ++ [now]) := by
  cases now with
  | maintenance => cases h
  | listFails => cases h
  | cycle c =>
    obtain ⟨p, hp, hid, hr, rfl, hgrace⟩ := probeHosts_failover c.nodup h
    have hmem : hostId ∈ c.probes.map (·.hostId) := hid ▸ List.mem_map_of_mem hp
    rw [UnreachableSince.retain, if_pos hmem] at hgrace
    have hentry : ∀ since, unreachableSince graceSeconds past hostId = some since →
        Confirmed hostId since past := fun _ => confirmed_of_entry
    refine ⟨_, ?_, confirmed_getD hp hid hr hentry⟩
    have hle : (unreachableSince graceSeconds past hostId).getD p.confirmedAt ≤ p.checkedAt := by
      cases hsince : unreachableSince graceSeconds past hostId with
      | some since => exact confirmed_le hclock hp (hentry since hsince)
      | none => exact confirmedAt_le hclock hp
    omega

section Runs

/-- A cycle in which one host is down, at some second. -/
def soleProbe (hostId : Uuid) (isReachable : Bool) (seconds : Nat) : Tick :=
  .cycle ⟨[⟨hostId, isReachable, fromSecs seconds, fromSecs seconds⟩], by simp⟩

/-- The host answers once, at 20 s; it is failed over 60 s after the failed probe at 30 s, with a
cycle skipped. -/
def answersOnce : List Tick :=
  [soleProbe ⟨"host-a"⟩ false 10, soleProbe ⟨"host-a"⟩ true 20, soleProbe ⟨"host-a"⟩ false 30,
    .maintenance, soleProbe ⟨"host-a"⟩ false 80]

theorem answersOnce_failover_after_grace :
    ∃ since, since + fromSecs 60 ≤ fromSecs 90 ∧
      Confirmed ⟨"host-a"⟩ since (answersOnce ++ [soleProbe ⟨"host-a"⟩ false 90]) := by
  have hrun : ((⟨"host-a"⟩, fromSecs 90) : Uuid × Nat) ∈
      ((soleProbe ⟨"host-a"⟩ false 90).run 60 (unreachableSince 60 answersOnce)).2 := by
    decide +kernel
  have hclock : Monotonic (answersOnce ++ [soleProbe ⟨"host-a"⟩ false 90]) := by
    simp [Monotonic, answersOnce, soleProbe, Tick.instants, fromSecs]
  exact failover_after_grace 60 answersOnce (soleProbe ⟨"host-a"⟩ false 90) hclock _ _ hrun

end Runs

end Qarax
