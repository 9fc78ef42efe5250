import Qarax.Core.Machine

/-!
# Tasks that share a state

Handlers and background jobs of a service run side by side.  Each is a task that makes one statement
after the other, and a statement is atomic: it reads and writes the shared state and says where the
task goes on.  What a call to elsewhere comes to is an outcome chosen from outside.

* `Pool`, `step` — a shared state, any number of tasks, and one of them making its next statement.
* `Inv`, `reach_inv` — the rule for local invariants: what a task relies on is kept by its own
  statements, and no statement of another task breaks it.
-/

namespace Interleave

open Machine

variable {σ τ ω : Type}

structure Pool (σ τ : Type) where
  shared : σ
  tasks : List τ
  deriving DecidableEq

inductive Act (τ ω : Type) where
  /-- A task begins. -/
  | spawn (task : τ)
  /-- The task at that index makes its next statement. -/
  | run (i : Nat) (outcome : ω)

/-- One statement; `begins` are the tasks at their first one. -/
def step (begins : τ → Bool) (next : σ → τ → ω → Option (τ × σ)) (p : Pool σ τ) :
    Act τ ω → Option (Pool σ τ)
  | .spawn task => if begins task then some { p with tasks := p.tasks ++ [task] } else none
  | .run i outcome => do
      let task ← p.tasks[i]?
      let (task', shared) ← next p.shared task outcome
      some ⟨shared, p.tasks.set i task'⟩

/-- Another one of the tasks. -/
def Other (p : Pool σ τ) (i : Nat) (u : τ) : Prop := ∃ j, j ≠ i ∧ p.tasks[j]? = some u

section Steps

variable {begins : τ → Bool} {next : σ → τ → ω → Option (τ × σ)} {p p' : Pool σ τ}

lemma step_spawn {task : τ} (h : step begins next p (.spawn task) = some p') :
    begins task = true ∧ p' = { p with tasks := p.tasks ++ [task] } := by
  simp only [step] at h
  split_ifs at h with hb
  cases h
  exact ⟨hb, rfl⟩

lemma step_run {i : Nat} {o : ω} (h : step begins next p (.run i o) = some p') :
    ∃ t t' s', p.tasks[i]? = some t ∧ next p.shared t o = some (t', s') ∧
      p' = ⟨s', p.tasks.set i t'⟩ := by
  obtain ⟨t, ht, h⟩ := Option.bind_eq_some_iff.1 h
  obtain ⟨⟨t', s'⟩, hn, h⟩ := Option.bind_eq_some_iff.1 h
  cases h
  exact ⟨t, t', s', ht, hn, rfl⟩

lemma step_of_next {i : Nat} {o : ω} {t t' : τ} {s' : σ} (ht : p.tasks[i]? = some t)
    (hn : next p.shared t o = some (t', s')) :
    step begins next p (.run i o) = some ⟨s', p.tasks.set i t'⟩ := by
  simp [step, ht, hn]

/-- The tasks after one of them has moved on. -/
lemma getElem?_set_cases {l : List τ} {i j : Nat} {t u : τ} (h : (l.set i t)[j]? = some u) :
    (j = i ∧ u = t) ∨ (j ≠ i ∧ l[j]? = some u) := by
  by_cases hji : j = i
  · subst hji
    rw [List.getElem?_set_self'] at h
    cases hl : l[j]? <;> simp_all
  · exact .inr ⟨hji, by rwa [List.getElem?_set_ne (Ne.symm hji)] at h⟩

lemma getElem?_append_cases {l : List τ} {j : Nat} {t u : τ} (h : (l ++ [t])[j]? = some u) :
    (j = l.length ∧ u = t) ∨ (j < l.length ∧ l[j]? = some u) := by
  rcases lt_trichotomy j l.length with hj | rfl | hj
  · exact .inr ⟨hj, by rwa [List.getElem?_append_left hj] at h⟩
  · simp_all
  · simp [List.getElem?_append_right hj.le, Nat.sub_ne_zero_of_lt hj] at h

end Steps

/-- An invariant of the shared state, one of each task, and one of each pair of tasks. -/
structure Inv (J : σ → Prop) (L : σ → τ → Prop) (R : τ → τ → Prop) (p : Pool σ τ) : Prop where
  shared : J p.shared
  each : ∀ (i : Nat) (t : τ), p.tasks[i]? = some t → L p.shared t
  apart : ∀ (i j : Nat) (t u : τ), i ≠ j → p.tasks[i]? = some t → p.tasks[j]? = some u → R t u

lemma inv_nil {J : σ → Prop} {L : σ → τ → Prop} {R : τ → τ → Prop} {p : Pool σ τ}
    (htasks : p.tasks = []) (h : J p.shared) : Inv J L R p :=
  ⟨h, by simp [htasks], by simp [htasks]⟩

/-- **Local invariants.**  A statement keeps what its own task relies on, and what every other
task relies on. -/
lemma reach_inv {begins : τ → Bool} {next : σ → τ → ω → Option (τ × σ)}
    {ok : Pool σ τ → Act τ ω → Prop} {start : Pool σ τ → Prop} {J : σ → Prop} {L : σ → τ → Prop}
    {R : τ → τ → Prop} (hsymm : ∀ t u, R t u → R u t)
    (hstart : ∀ p, start p → Inv J L R p)
    (hspawn : ∀ p t, ok p (.spawn t) → begins t = true → Inv J L R p →
      L p.shared t ∧ ∀ u ∈ p.tasks, R t u)
    (hrun : ∀ p i o t t' s', Inv J L R p → ok p (.run i o) → p.tasks[i]? = some t →
      next p.shared t o = some (t', s') →
      J s' ∧ L s' t' ∧ ∀ u ∈ p.tasks.eraseIdx i, L p.shared u → R t u → L s' u ∧ R t' u)
    {p : Pool σ τ} (h : Reach (step begins next) ok start p) : Inv J L R p := by
  refine h.invariant hstart fun p a p' hinv hok hs => ?_
  cases a with
  | spawn t =>
    obtain ⟨hb, rfl⟩ := step_spawn hs
    obtain ⟨hL, hR⟩ := hspawn p t hok hb hinv
    refine ⟨hinv.shared, fun i u hu => ?_, fun i j u v hij hu hv => ?_⟩
    · rcases getElem?_append_cases hu with ⟨-, rfl⟩ | ⟨-, hu⟩
      · exact hL
      · exact hinv.each i u hu
    · rcases getElem?_append_cases hu with ⟨rfl, rfl⟩ | ⟨-, hu'⟩ <;>
        rcases getElem?_append_cases hv with ⟨hj, rfl⟩ | ⟨-, hv'⟩
      · exact absurd hj.symm hij
      · exact hR v (List.mem_of_getElem? hv')
      · exact hsymm _ _ (hR u (List.mem_of_getElem? hu'))
      · exact hinv.apart i j u v hij hu' hv'
  | run i o =>
    obtain ⟨t, t', s', ht, hn, rfl⟩ := step_run hs
    obtain ⟨hJ, hL, hothers⟩ := hrun p i o t t' s' hinv hok ht hn
    have hothers : ∀ j u, j ≠ i → p.tasks[j]? = some u → L s' u ∧ R t' u := fun j u hj hu =>
      hothers u (List.mem_eraseIdx_iff_getElem?.2 ⟨j, hj, hu⟩) (hinv.each j u hu)
        (hinv.apart i j t u hj.symm ht hu)
    refine ⟨hJ, fun j u hu => ?_, fun j k u v hjk hu hv => ?_⟩
    · rcases getElem?_set_cases hu with ⟨-, rfl⟩ | ⟨hj, hu⟩
      · exact hL
      · exact (hothers j u hj hu).1
    · rcases getElem?_set_cases hu with ⟨rfl, rfl⟩ | ⟨hj, hu'⟩ <;>
        rcases getElem?_set_cases hv with ⟨hk, rfl⟩ | ⟨hk, hv'⟩
      · exact absurd hk.symm hjk
      · exact (hothers k v hk hv').2
      · exact hsymm _ _ (hothers j u hj hu').2
      · exact hinv.apart j k u v hjk hu' hv'

end Interleave
