import Mathlib

/-!
# Machines and their runs

A machine is a partial step function: an action is possible in a state or it is not.  Claims about a
program that others act on at the same time are claims about every state its machine can reach, and
often only about runs in which the others behave.  `Reach` carries that condition on the steps.

* `Reach step ok start` — the states reached from `start` by steps that meet `ok`.
* `Reach.invariant` — what holds at the start and is kept by every such step holds in all of them.
* `run`, `Along` — a run of given actions, and that each of them meets the condition.
-/

namespace Machine

variable {σ α : Type}

/-- **States reached** by steps whose action meets the condition in the state before it. -/
inductive Reach (step : σ → α → Option σ) (ok : σ → α → Prop) (start : σ → Prop) : σ → Prop
  | start {s : σ} : start s → Reach step ok start s
  | next {s s' : σ} {a : α} : Reach step ok start s → ok s a → step s a = some s' →
      Reach step ok start s'

section Reach

variable {step : σ → α → Option σ} {ok : σ → α → Prop} {start : σ → Prop} {s s' : σ}

/-- **Invariant rule.** -/
lemma Reach.invariant {I : σ → Prop} (hstart : ∀ s, start s → I s)
    (hstep : ∀ s a s', I s → ok s a → step s a = some s' → I s') (h : Reach step ok start s) :
    I s := by
  induction h with
  | start hs => exact hstart _ hs
  | next _ hok hs ih => exact hstep _ _ _ ih hok hs

/-- The actions one after the other. -/
def run (step : σ → α → Option σ) : σ → List α → Option σ
  | s, [] => some s
  | s, a :: as => (step s a).bind fun s' => run step s' as

/-- Every action meets the condition where it is taken. -/
def Along (step : σ → α → Option σ) (ok : σ → α → Prop) : σ → List α → Prop
  | _, [] => True
  | s, a :: as => ok s a ∧ ∀ s' ∈ step s a, Along step ok s' as

instance decidableAlong [∀ s a, Decidable (ok s a)] :
    ∀ (s : σ) (as : List α), Decidable (Along step ok s as)
  | _, [] => isTrue trivial
  | s, a :: as =>
    match hs : step s a with
    | none => decidable_of_iff (ok s a) (by simp [Along, hs])
    | some s' =>
      have := decidableAlong s' as
      decidable_of_iff (ok s a ∧ Along step ok s' as) (by simp [Along, hs])

/-- A run of actions that meet the condition stays among the states reached. -/
lemma reach_of_run {as : List α} (h : Reach step ok start s) (hok : Along step ok s as)
    (hrun : run step s as = some s') : Reach step ok start s' := by
  induction as generalizing s with
  | nil =>
    cases hrun
    exact h
  | cons a as ih =>
    obtain ⟨t, ht, hrun⟩ := Option.bind_eq_some_iff.1 hrun
    exact ih (.next h hok.1 ht) (hok.2 t ht) hrun

/-- **A run that is computed** ends in a state that is reached, together with what was computed of
it. -/
lemma exists_reach {as : List α} {P : σ → Prop} (h : start s)
    (hrun : (∃ t ∈ run step s as, P t) ∧ Along step ok s as) :
    ∃ t, run step s as = some t ∧ P t ∧ Reach step ok start t := by
  obtain ⟨⟨t, ht, hP⟩, halong⟩ := hrun
  exact ⟨t, ht, hP, reach_of_run (.start h) halong ht⟩

end Reach

end Machine
