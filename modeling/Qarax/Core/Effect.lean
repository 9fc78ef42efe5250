import Mathlib.Data.List.Forall2
import Mathlib.Tactic.Common

/-!
# Procedures that keep what they did when they fail

A daemon that drives an external tool is a sequence of commands, each of which may fail.  The
effects of the commands before the failure stay: there is no rollback.  `Proc ε σ α` is such a
procedure, a function from the state to a result and the state it was left in.

* `Proc.andThen` — a failure stops the procedure, the state reached so far is the final state.
* `Proc.attempt` — run, and report failure as a value (`let _ = …`, `.is_ok()`).
* `Proc.call` — a call to elsewhere, which may fail before or after it was done.
* `Proc.ok_bind` — a successful sequence is a successful prefix and a successful rest.
* `Proc.Triple` — pre- and postconditions of successful runs.
* `Proc.Keeps` — an invariant that holds at the end **whether or not** the procedure succeeded,
  with one rule per way of building a procedure.
-/

/-- A chain of checks succeeds when each of them does. -/
lemma except_bind_eq_ok {ε α β : Type} {x : Except ε α} {f : α → Except ε β} {b : β} :
    (x >>= f) = .ok b ↔ ∃ a, x = .ok a ∧ f a = .ok b := by
  cases x with
  | error e | ok a => simp [bind, Except.bind]

/-- A loop of checks succeeds when each of them does. -/
lemma except_forM_eq_ok {ε α : Type} {f : α → Except ε Unit} : ∀ {l : List α} {u : Unit},
    l.forM f = .ok u ↔ ∀ a ∈ l, f a = .ok ()
  | [], u => by simp [pure, Except.pure]
  | a :: l, u => by
      have hcons : (a :: l).forM f = (f a >>= fun _ => l.forM f) := rfl
      rw [hcons, except_bind_eq_ok, List.forall_mem_cons, ← except_forM_eq_ok (u := u)]
      exact ⟨fun ⟨_, ha, hl⟩ => ⟨ha, hl⟩, fun ⟨ha, hl⟩ => ⟨(), ha, hl⟩⟩

/-- A loop that collects results succeeds when every step does. -/
lemma except_mapM_eq_ok {ε α β : Type} {f : α → Except ε β} : ∀ {l : List α} {bs : List β},
    l.mapM f = .ok bs ↔ List.Forall₂ (fun a b => f a = .ok b) l bs
  | [], bs => by
      rw [List.mapM_nil, List.forall₂_nil_left_iff]
      simp [pure, Except.pure, eq_comm]
  | a :: l, bs => by
      rw [List.mapM_cons, except_bind_eq_ok, List.forall₂_cons_left_iff]
      refine exists_congr fun b => ?_
      rw [except_bind_eq_ok]
      simp only [except_mapM_eq_ok, pure, Except.pure, Except.ok.injEq]
      constructor
      · rintro ⟨hb, bs, hbs, rfl⟩
        exact ⟨bs, hb, hbs, rfl⟩
      · rintro ⟨bs, hb, hbs, rfl⟩
        exact ⟨hb, bs, hbs, rfl⟩

lemma except_mapM_mem {ε α β : Type} {f : α → Except ε β} {l : List α} {bs : List β}
    (h : l.mapM f = .ok bs) :
    (∀ b ∈ bs, ∃ a ∈ l, f a = .ok b) ∧ ∀ a ∈ l, ∃ b ∈ bs, f a = .ok b := by
  have hall := except_mapM_eq_ok.1 h
  clear h
  induction hall with
  | nil => simp
  | cons hab _ ih =>
    simp only [List.forall_mem_cons, List.exists_mem_cons_iff]
    exact ⟨⟨.inl hab, fun b hb => .inr (ih.1 b hb)⟩, .inl hab, fun a ha => .inr (ih.2 a ha)⟩

lemma except_mapM_exists {ε α β : Type} {f : α → Except ε β} : ∀ {l : List α},
    (∀ a ∈ l, ∃ b, f a = .ok b) → ∃ bs, l.mapM f = .ok bs
  | [], _ => ⟨[], rfl⟩
  | a :: l, h => by
      obtain ⟨⟨b, hb⟩, hl⟩ := List.forall_mem_cons.1 h
      obtain ⟨bs, hbs⟩ := except_mapM_exists hl
      exact ⟨b :: bs, except_mapM_eq_ok.2 (.cons hb (except_mapM_eq_ok.1 hbs))⟩

/-- A procedure over states `σ` with errors `ε`. -/
def Proc (ε σ α : Type) : Type := σ → Except ε α × σ

namespace Proc

variable {ε σ α β : Type}

/-- Do nothing and return `a`. -/
def ret (a : α) : Proc ε σ α := fun s => (.ok a, s)

/-- Run `x`, then `f` on its result.  A failure of `x` ends the sequence where it stands. -/
def andThen (x : Proc ε σ α) (f : α → Proc ε σ β) : Proc ε σ β := fun s =>
  match x s with
  | (.ok a, s') => f a s'
  | (.error e, s') => (.error e, s')

instance : Monad (Proc ε σ) where
  pure := ret
  bind := andThen

/-- Stop with an error. -/
def fail (e : ε) : Proc ε σ α := fun s => (.error e, s)

/-- The current state. -/
def read : Proc ε σ σ := fun s => (.ok s, s)

/-- Change the state. -/
def modify (f : σ → σ) : Proc ε σ Unit := fun s => (.ok (), f s)

/-- Run `x`; if it fails, run `cleanup` and fail all the same. -/
def onError (x : Proc ε σ α) (cleanup : Proc ε σ Unit) : Proc ε σ α := fun s =>
  match x s with
  | (.ok a, s') => (.ok a, s')
  | (.error e, s') => (.error e, (cleanup s').2)

/-- Run `x` and return its outcome instead of failing with it. -/
def attempt (x : Proc ε σ α) : Proc ε σ (Except ε α) := fun s => (.ok (x s).1, (x s).2)

/-- Run a procedure with errors of its own and return its outcome. -/
def outcome {ε' : Type} (x : Proc ε' σ α) : Proc ε σ (Except ε' α) :=
  fun s => (.ok (x s).1, (x s).2)

/-- Turn a pure outcome into a procedure that leaves the state alone. -/
def lift (r : Except ε α) : Proc ε σ α := fun s => (r, s)

/-- What can happen to a call to another process. -/
inductive Fault where
  | none
  /-- It fails and nothing was done. -/
  | lost
  /-- It was done, and the answer did not arrive. -/
  | unanswered
  deriving DecidableEq

/-- A call that may fail, before or after it was done. -/
def call (fault : Fault) (e : ε) (x : Proc ε σ α) : Proc ε σ α := fun s =>
  match fault with
  | .none => x s
  | .lost => (.error e, s)
  | .unanswered => (.error e, (x s).2)

/-- Run `f` on each element in order, stopping at the first failure. -/
def each (f : α → Proc ε σ Unit) : List α → Proc ε σ Unit
  | [] => ret ()
  | a :: as => andThen (f a) fun _ => each f as

/-- A loop with an accumulator. -/
def fold (f : β → α → Proc ε σ β) : β → List α → Proc ε σ β
  | b, [] => ret b
  | b, a :: as => andThen (f b a) fun b' => fold f b' as

/-! ## Running -/

@[simp] lemma pure_run (a : α) (s : σ) : (pure a : Proc ε σ α) s = (.ok a, s) := rfl

@[simp] lemma ret_run (a : α) (s : σ) : (ret a : Proc ε σ α) s = (.ok a, s) := rfl

@[simp] lemma fail_run (e : ε) (s : σ) : (fail e : Proc ε σ α) s = (.error e, s) := rfl

@[simp] lemma read_run (s : σ) : (read : Proc ε σ σ) s = (.ok s, s) := rfl

@[simp] lemma modify_run (f : σ → σ) (s : σ) : (modify f : Proc ε σ Unit) s = (.ok (), f s) := rfl

@[simp] lemma lift_run (r : Except ε α) (s : σ) : (lift r : Proc ε σ α) s = (r, s) := rfl

@[simp] lemma attempt_run (x : Proc ε σ α) (s : σ) : attempt x s = (.ok (x s).1, (x s).2) := rfl

@[simp] lemma outcome_run {ε' : Type} (x : Proc ε' σ α) (s : σ) :
    (outcome x : Proc ε σ _) s = (.ok (x s).1, (x s).2) := rfl

@[simp] lemma call_none (e : ε) (x : Proc ε σ α) : call .none e x = x := rfl

@[simp] lemma call_lost (e : ε) (x : Proc ε σ α) (s : σ) : call .lost e x s = (.error e, s) := rfl

@[simp] lemma call_unanswered (e : ε) (x : Proc ε σ α) (s : σ) :
    call .unanswered e x s = (.error e, (x s).2) := rfl

lemma bind_run (x : Proc ε σ α) (f : α → Proc ε σ β) (s : σ) :
    (x >>= f) s = match x s with
      | (.ok a, s') => f a s'
      | (.error e, s') => (.error e, s') := rfl

variable {x : Proc ε σ α} {s : σ} {a : α} {r : Except ε α} {f : α → Proc ε σ β} {e : ε}
  {cleanup : Proc ε σ Unit}

lemma run_of_fst (h : (x s).1 = .ok a) :
    x s = (.ok a, (x s).2) := Prod.ext h rfl

@[simp] lemma read_bind (f : σ → Proc ε σ β) (s : σ) : (read >>= f) s = f s s := rfl

@[simp] lemma modify_bind (g : σ → σ) (f : Unit → Proc ε σ β) (s : σ) :
    (modify g >>= f) s = f () (g s) := rfl

@[simp] lemma attempt_bind (x : Proc ε σ α) (f : Except ε α → Proc ε σ β) (s : σ) :
    (attempt x >>= f) s = f (x s).1 (x s).2 := rfl

/-- After a check: what a failure ends with, and what whatever follows a success ends with. -/
lemma lift_bind_ind {Q : Except ε β × σ → Prop}
    (he : ∀ e, Q (.error e, s)) (h : ∀ a, r = .ok a → Q (f a s)) : Q ((lift r >>= f) s) := by
  rw [bind_run]
  cases r with
  | error e => exact he e
  | ok a => exact h a rfl

lemma lift_bind_snd {P : σ → Prop} (hs : P s)
    (h : ∀ a, r = .ok a → P (f a s).2) : P ((lift r >>= f) s).2 :=
  lift_bind_ind (Q := fun r => P r.2) (fun _ => hs) h

/-- **A successful sequence.**  It succeeds exactly when its first part does and the rest does
from the state the first part left. -/
lemma ok_bind {s'' : σ} {b : β} :
    (x >>= f) s = (.ok b, s'') ↔ ∃ a s', x s = (.ok a, s') ∧ f a s' = (.ok b, s'') := by
  rw [bind_run]
  rcases hx : x s with ⟨_ | a, s'⟩
  · simp
  · constructor
    · intro h
      exact ⟨a, s', rfl, h⟩
    · rintro ⟨a', t, he, hf⟩
      cases he
      exact hf

@[simp] lemma bind_ok_run {s' : σ} (h : x s = (.ok a, s')) : (x >>= f) s = f a s' := by
  rw [bind_run, h]

@[simp] lemma bind_error_run {s' : σ} (h : x s = (.error e, s')) :
    (x >>= f) s = (.error e, s') := by
  rw [bind_run, h]

lemma onError_ok {s' : σ} (h : x s = (.ok a, s')) : onError x cleanup s = (.ok a, s') := by
  rw [onError, h]

lemma onError_error {s' : σ} (h : x s = (.error e, s')) :
    onError x cleanup s = (.error e, (cleanup s').2) := by
  rw [onError, h]

@[simp] lemma each_nil (f : α → Proc ε σ Unit) : each f [] = pure () := rfl

@[simp] lemma each_cons (f : α → Proc ε σ Unit) (a : α) (as : List α) :
    each f (a :: as) = (f a >>= fun _ => each f as) := rfl

@[simp] lemma fold_nil (f : β → α → Proc ε σ β) (b : β) : fold f b [] = pure b := rfl

@[simp] lemma fold_cons (f : β → α → Proc ε σ β) (b : β) (a : α) (as : List α) :
    fold f b (a :: as) = (f b a >>= fun b' => fold f b' as) := rfl

/-! ## Successful runs -/

/-- **Partial correctness.**  From a state with `P`, a run of `x` that succeeds with result `a` ends
in a state with `Q a`. -/
def Triple (P : σ → Prop) (x : Proc ε σ α) (Q : α → σ → Prop) : Prop :=
  ∀ s a s', P s → x s = (.ok a, s') → Q a s'

section Triple

variable {P P' : σ → Prop} {Q Q' : α → σ → Prop} {R : β → σ → Prop}

lemma triple_pure {a : α} (h : ∀ s, P s → Q a s) : Triple P (pure a : Proc ε σ α) Q := by
  intro s b s' hs hr
  cases hr
  exact h s hs

lemma triple_bind {x : Proc ε σ α} {f : α → Proc ε σ β} (hx : Triple P x Q)
    (hf : ∀ a, Triple (Q a) (f a) R) : Triple P (x >>= f) R := by
  intro s b s'' hs hr
  obtain ⟨a, s', ha, hb⟩ := ok_bind.1 hr
  exact hf a s' b s'' (hx s a s' hs ha) hb

/-- **A loop with an accumulator.**  `Q done b` holds before the first round with nothing done and
each round adds its element to what is done. -/
lemma triple_fold {f : β → α → Proc ε σ β} {Q : List α → β → σ → Prop}
    (step : ∀ done b a, Triple (Q done b) (f b a) (Q (done ++ [a]))) :
    ∀ (as done : List α) (b : β), Triple (Q done b) (fold f b as) (Q (done ++ as))
  | [], done, b => by
      rw [List.append_nil]
      exact triple_pure fun _ h => h
  | a :: as, done, b => by
      refine triple_bind (step done b a) fun b' => ?_
      have ih := triple_fold step as (done ++ [a]) b'
      rwa [List.append_assoc] at ih

/-- The same for a loop that collects nothing. -/
lemma triple_each {f : α → Proc ε σ Unit} {Q : List α → σ → Prop} : ∀ {as : List α},
    (∀ done, ∀ a ∈ as, Triple (Q done) (f a) fun _ => Q (done ++ [a])) →
      ∀ done : List α, Triple (Q done) (each f as) fun _ => Q (done ++ as)
  | [], _, done => by
      rw [List.append_nil]
      exact triple_pure fun _ h => h
  | a :: as, step, done => by
      refine triple_bind (step done a (by simp)) fun _ => ?_
      have ih : Triple (Q (done ++ [a])) (each f as) fun _ => Q (done ++ [a] ++ as) :=
        triple_each (fun d x hx => step d x (by simp [hx])) (done ++ [a])
      rwa [List.append_assoc] at ih

end Triple

/-! ## Invariants that survive failure -/

/-- `x` keeps `I`: from a state with `I` it ends in a state with `I`, failed or not. -/
def Keeps (I : σ → Prop) (x : Proc ε σ α) : Prop := ∀ s, I s → I (x s).2

variable {I : σ → Prop}

lemma triple_of_keeps (h : Keeps I x) : Triple I x fun _ => I := by
  intro s a s' hs hr
  have := h s hs
  rwa [hr] at this

lemma keeps_pure (a : α) : Keeps I (pure a : Proc ε σ α) := fun _ h => h

lemma keeps_lift (r : Except ε α) : Keeps I (lift r : Proc ε σ α) := fun _ h => h

lemma keeps_attempt (h : Keeps I x) : Keeps I (attempt x) := h

/-- **Sequencing keeps the invariant** when both parts do.  The second part may use what the first
one is known to return. -/
lemma keeps_bind_of {Q : α → σ → Prop} (hx : Keeps I x)
    (hq : Triple I x Q) (hf : ∀ a s, I s → Q a s → I (f a s).2) : Keeps I (x >>= f) := by
  intro s hs
  have hs' := hx s hs
  rw [bind_run]
  rcases h : x s with ⟨e | a, s'⟩
  · rwa [h] at hs'
  · rw [h] at hs'
    exact hf a s' hs' (hq s a s' hs h)

/-- The common case: every continuation keeps the invariant. -/
lemma keeps_bind (hx : Keeps I x)
    (hf : ∀ a, Keeps I (f a)) : Keeps I (x >>= f) :=
  keeps_bind_of hx (triple_of_keeps hx) fun a s hs _ => hf a s hs

lemma keeps_each {f : α → Proc ε σ Unit} :
    ∀ {as : List α}, (∀ a ∈ as, Keeps I (f a)) → Keeps I (each f as)
  | [], _ => keeps_pure ()
  | a :: as, h => by
      refine keeps_bind (h a (by simp)) fun _ => ?_
      exact keeps_each fun b hb => h b (by simp [hb])

lemma keeps_fold {f : β → α → Proc ε σ β} :
    ∀ {as : List α} {b : β}, (∀ b, ∀ a ∈ as, Keeps I (f b a)) → Keeps I (fold f b as)
  | [], b, _ => keeps_pure b
  | a :: as, b, h => by
      refine keeps_bind (h b a (by simp)) fun _ => ?_
      exact keeps_fold fun b' a' ha' => h b' a' (by simp [ha'])

lemma keeps_ite {c : Prop} [Decidable c] {y : Proc ε σ α} (hx : c → Keeps I x)
    (hy : ¬ c → Keeps I y) : Keeps I (if c then x else y) := by
  split_ifs with hc
  · exact hx hc
  · exact hy hc

end Proc
