import Mathlib.Data.Set.Finite.Lattice
import Mathlib.Order.Interval.Finset.Nat

/-!
# Trying again

A loop that tries something until it is done, while others change what it reads.  The attempts are a
sequence, one for each round; an attempt that comes to nothing is `none`.

* `run` — the loop, for a number of rounds.
* `exists_run_iff` — it ends when one of the attempts is done.
* `Settles` — what is seen round after round grows only finitely often.
* `Settles.eventually` — from some round on it only shrinks.
-/

namespace Retry

variable {α β : Type}

/-- The loop from attempt `k` on. -/
def run (attempt : ℕ → Option β) : ℕ → ℕ → Option β
  | 0, _ => none
  | rounds + 1, k => (attempt k).or (run attempt rounds (k + 1))

variable {attempt : ℕ → Option β} {seen : ℕ → Set α}

lemma isSome_run : ∀ {rounds k : ℕ},
    (run attempt rounds k).isSome = true ↔ ∃ j < rounds, (attempt (k + j)).isSome = true
  | 0, k => by simp [run]
  | rounds + 1, k => by
      rw [run, Option.isSome_or, Bool.or_eq_true, isSome_run]
      constructor
      · rintro (h | ⟨j, hj, h⟩)
        · exact ⟨0, Nat.succ_pos _, h⟩
        · exact ⟨j + 1, Nat.succ_lt_succ hj, by rwa [Nat.add_assoc, Nat.add_comm 1 j] at h⟩
      · rintro ⟨j, hj, h⟩
        cases j with
        | zero => exact .inl h
        | succ j =>
          exact .inr ⟨j, Nat.lt_of_succ_lt_succ hj, by rwa [Nat.add_assoc, Nat.add_comm 1 j]⟩

/-- **The loop ends** when an attempt is done. -/
lemma exists_run_iff :
    (∃ rounds, (run attempt rounds 0).isSome = true) ↔ ∃ k, (attempt k).isSome = true := by
  simp only [isSome_run, Nat.zero_add]
  exact ⟨fun ⟨_, k, _, h⟩ => ⟨k, h⟩, fun ⟨k, h⟩ => ⟨k + 1, k, Nat.lt_succ_self k, h⟩⟩

/-- Something is added only finitely often. -/
def Settles (seen : ℕ → Set α) : Prop := {k | ¬ seen (k + 1) ⊆ seen k}.Finite

/-- **From some round on**, what is seen later was there before. -/
lemma Settles.eventually (h : Settles seen) :
    ∃ settled, ∀ i j, settled ≤ i → i ≤ j → seen j ⊆ seen i := by
  obtain ⟨bound, hbound⟩ := h.bddAbove
  refine ⟨bound + 1, fun i j hi hij => ?_⟩
  induction j, hij using Nat.le_induction with
  | base => exact subset_rfl
  | succ j hij ih =>
    refine subset_trans ?_ ih
    by_contra hgrows
    have hle : j ≤ bound := hbound hgrows
    omega

lemma settles_of_eq (settled : ℕ)
    (h : ∀ k, settled ≤ k → seen (k + 1) = seen k) : Settles seen := by
  refine (Set.finite_Iio settled).subset fun k hk => ?_
  exact lt_of_not_ge fun hge => hk (h k hge).subset

end Retry
