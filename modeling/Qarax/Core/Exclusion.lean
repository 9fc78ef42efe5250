import Mathlib.Data.List.Nodup

/-!
# Searching by exclusion

A search for an item that passes a check, where the items are not listed but picked: ask for one
that is not excluded, check it, and exclude it if it fails.  Nothing is assumed of the order in
which items are picked.

* `search` — the loop, for a number of rounds.
* `PicksFrom` — what is asked of the picking.
* `Answer.Correct` — what is found passes the check, and only if nothing does the search gives up.
* `PicksFrom.isSome_search`, `PicksFrom.correct` — the loop ends with such an answer.
-/

namespace Exclusion

/-- What the check says of an item. -/
inductive Verdict (β ρ ε : Type) where
  | accepted (result : β)
  /-- Exclude the item and go on. -/
  | rejected (reason : ρ)
  /-- End the search. -/
  | aborted (error : ε)

inductive Answer (β ρ ε : Type) where
  | found (result : β)
  /-- Nothing is left, with the last reason to reject an item. -/
  | exhausted (last : Option ρ)
  | aborted (error : ε)

variable {κ α β ρ ε : Type}

/-- The loop; `none` if the rounds are used up. -/
def search (pick : List κ → Option α) (key : α → κ) (check : α → Verdict β ρ ε) :
    Nat → List κ → Option ρ → Option (Answer β ρ ε)
  | 0, _, _ => none
  | rounds + 1, excluded, last =>
    match pick excluded with
    | none => some (.exhausted last)
    | some a =>
      match check a with
      | .accepted result => some (.found result)
      | .aborted error => some (.aborted error)
      | .rejected reason => search pick key check rounds (excluded ++ [key a]) (some reason)

/-- **One of the fitting items that are not excluded is picked, if there is one.** -/
structure PicksFrom (items : List α) (key : α → κ) (fits : α → Prop)
    (pick : List κ → Option α) : Prop where
  sound : ∀ {excluded a}, pick excluded = some a → a ∈ items ∧ fits a ∧ key a ∉ excluded
  complete : ∀ {excluded}, pick excluded = none → ∀ a ∈ items, fits a → key a ∈ excluded

/-- **What an answer tells.** -/
def Answer.Correct (items : List α) (key : α → κ) (fits : α → Prop) (check : α → Verdict β ρ ε)
    (excluded : List κ) : Answer β ρ ε → Prop
  | .found result => ∃ a ∈ items, fits a ∧ key a ∉ excluded ∧ check a = .accepted result
  | .exhausted _ =>
    ∀ a ∈ items, fits a → key a ∉ excluded → ∃ reason, check a = .rejected reason
  | .aborted error => ∃ a ∈ items, check a = .aborted error

namespace PicksFrom

variable {items : List α} {key : α → κ} {fits : α → Prop} {pick : List κ → Option α}
  {check : α → Verdict β ρ ε} {excluded : List κ}

/-- Each round leaves fewer items that are not excluded. -/
lemma length_filter_lt [DecidableEq κ] (h : PicksFrom items key fits pick) {a : α}
    (hpick : pick excluded = some a) :
    (items.filter fun b => key b ∉ excluded ++ [key a]).length
      < (items.filter fun b => key b ∉ excluded).length := by
  obtain ⟨ha, -, hkey⟩ := h.sound hpick
  have hfilter : (items.filter fun b => key b ∉ excluded ++ [key a])
      = (items.filter fun b => key b ∉ excluded).filter fun b => key b ≠ key a := by
    rw [List.filter_filter]
    refine List.filter_congr fun b _ => ?_
    simp [not_or, and_comm]
  rw [hfilter]
  exact List.length_filter_lt_length_iff_exists.2 ⟨a, by simp [ha, hkey], by simp⟩

/-- **The loop ends** within one round more than there are items. -/
theorem isSome_search [DecidableEq κ] (h : PicksFrom items key fits pick) :
    ∀ {rounds excluded} {last : Option ρ},
      (items.filter fun b => key b ∉ excluded).length < rounds →
      (search pick key check rounds excluded last).isSome = true := by
  intro rounds
  induction rounds with
  | zero => exact fun hlt => absurd hlt (Nat.not_lt_zero _)
  | succ rounds ih =>
    intro excluded last hlt
    rw [search]
    split
    · rfl
    · next a hpick =>
        split
        · rfl
        · rfl
        · exact ih (Nat.lt_of_lt_of_le (h.length_filter_lt hpick) (Nat.le_of_lt_succ hlt))

/-- An answer after one more item was rejected. -/
lemma correct_of_rejected (hkeys : (items.map key).Nodup) {answer : Answer β ρ ε} {b : α}
    {reason : ρ} (hb : b ∈ items) (hcheck : check b = .rejected reason)
    (h : answer.Correct items key fits check (excluded ++ [key b])) :
    answer.Correct items key fits check excluded := by
  cases answer with
  | found result =>
    obtain ⟨a, ha, hfits, hkey, haccepted⟩ := h
    exact ⟨a, ha, hfits, fun hmem => hkey (List.mem_append_left _ hmem), haccepted⟩
  | aborted error => exact h
  | exhausted final =>
    intro a ha hfits hkey
    by_cases heq : key a = key b
    · obtain rfl := List.inj_on_of_nodup_map hkeys ha hb heq
      exact ⟨reason, hcheck⟩
    · refine h a ha hfits fun hmem => ?_
      rcases List.mem_append.1 hmem with hmem | hmem
      · exact hkey hmem
      · exact heq (List.mem_singleton.1 hmem)

/-- **The answer is correct.** -/
theorem correct (h : PicksFrom items key fits pick) (hkeys : (items.map key).Nodup) :
    ∀ {rounds excluded last} {answer : Answer β ρ ε},
      search pick key check rounds excluded last = some answer →
      answer.Correct items key fits check excluded := by
  intro rounds
  induction rounds with
  | zero => exact fun hsearch => nomatch hsearch
  | succ rounds ih =>
    intro excluded last answer hsearch
    rw [search] at hsearch
    split at hsearch
    · next hpick =>
        cases hsearch
        exact fun a ha hfits hkey => absurd (h.complete hpick a ha hfits) hkey
    · next b hpick =>
        obtain ⟨hb, hfits, hkey⟩ := h.sound hpick
        split at hsearch
        · next hcheck =>
            cases hsearch
            exact ⟨b, hb, hfits, hkey, hcheck⟩
        · next hcheck =>
            cases hsearch
            exact ⟨b, hb, hcheck⟩
        · next hcheck => exact correct_of_rejected hkeys hb hcheck (ih hsearch)

end PicksFrom

end Exclusion
