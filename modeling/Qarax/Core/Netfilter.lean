import Mathlib.Tactic.Common

/-!
# First-match rule chains

A packet filter is a family of named chains, each a list of rules.  A rule has a condition on the
packet and a target: a verdict, which ends the whole traversal; `ret`, which goes back to the
caller; or a jump into another chain, which comes back when that chain has no verdict for the
packet.

* `scan` — one chain, given what the chains it jumps to answer.
* `traverse` — a chain of a ruleset, with a bound on how deep jumps nest.
* `scan_verdicts` — how a prefix of a chain that only gives verdicts is got past.

Conditions, packets, chain names and verdicts are arbitrary types.
-/

namespace Netfilter

/-- What a matching rule does. -/
inductive Target (V C : Type) where
  | verdict (v : V)
  | ret
  | jump (c : C)
  deriving DecidableEq

/-- A condition on packets and what happens to those that meet it. -/
structure Rule (M V C : Type) where
  cond : M
  target : Target V C
  deriving DecidableEq

variable {M V C P : Type}

/-- One chain: the first matching rule decides.  `call c` is the answer of chain `c`, and `none`
means that a chain has no verdict and its caller goes on. -/
def scan (holds : M → P → Bool) (call : C → Option V) (p : P) : List (Rule M V C) → Option V
  | [] => none
  | r :: rs =>
    if holds r.cond p then
      match r.target with
      | .verdict v => some v
      | .ret => none
      | .jump c => (call c).orElse fun _ => scan holds call p rs
    else scan holds call p rs

/-- The verdict of chain `c`, following jumps at most `depth` deep. -/
def traverse (holds : M → P → Bool) (body : C → List (Rule M V C)) (p : P) :
    ℕ → C → Option V
  | 0, _ => none
  | depth + 1, c => scan holds (traverse holds body p depth) p (body c)

section Scan

variable {holds : M → P → Bool} {call : C → Option V} {p : P}

@[simp] lemma scan_nil : scan holds call p ([] : List (Rule M V C)) = none := rfl

variable {r : Rule M V C} {rs xs : List (Rule M V C)} {v : V} {c : C}

lemma scan_cons_no (h : holds r.cond p = false) :
    scan holds call p (r :: rs) = scan holds call p rs := by
  simp [scan, h]

lemma scan_cons_verdict (h : holds r.cond p = true) (ht : r.target = .verdict v) :
    scan holds call p (r :: rs) = some v := by
  simp [scan, h, ht]

lemma scan_cons_ret (h : holds r.cond p = true) (ht : r.target = .ret) :
    scan holds call p (r :: rs) = none := by
  simp [scan, h, ht]

lemma scan_cons_jump (h : holds r.cond p = true) (ht : r.target = .jump c) (hc : call c = some v) :
    scan holds call p (r :: rs) = some v := by
  simp [scan, h, ht, hc]

/-- A rule that lets the packet go on: it does not match, or it jumps to a chain that returns. -/
def Passes (holds : M → P → Bool) (call : C → Option V) (p : P) (r : Rule M V C) : Prop :=
  holds r.cond p = true → ∃ c, r.target = .jump c ∧ call c = none

lemma scan_cons_pass (h : Passes holds call p r) :
    scan holds call p (r :: rs) = scan holds call p rs := by
  cases hm : holds r.cond p with
  | false => exact scan_cons_no hm
  | true =>
    obtain ⟨c, ht, hc⟩ := h hm
    simp [scan, hm, ht, hc]

/-- **A list of returns above a list of rules with one verdict**: the verdict is reached when no
return matches and one of the others does. -/
lemma scan_guarded (ht : ∀ r ∈ xs, r.target = .ret ∨ r.target = .verdict v)
    (hord : xs.Pairwise fun r r' => r.target = .verdict v → r'.target ≠ .ret) :
    scan holds call p xs = some v ↔
      (∀ r ∈ xs, r.target = .ret → holds r.cond p = false) ∧
        ∃ r ∈ xs, r.target = .verdict v ∧ holds r.cond p = true := by
  induction xs with
  | nil => simp
  | cons x xs ih =>
    obtain ⟨hx, hxs⟩ := List.pairwise_cons.1 hord
    have ih := ih (fun r hr => ht r (by simp [hr])) hxs
    cases hm : holds x.cond p with
    | false =>
      rw [scan_cons_no hm, ih]
      simp [hm]
    | true =>
      rcases ht x (by simp) with h | h
      · rw [scan_cons_ret hm h]
        simp [h, hm]
      · rw [scan_cons_verdict hm h]
        simp only [List.forall_mem_cons, h, reduceCtorEq, false_imp_iff, true_and, true_iff]
        exact ⟨fun r hr hret => absurd hret (hx r hr h), x, by simp, h, hm⟩

/-- **A block of rules with one verdict** acts as their disjunction. -/
lemma scan_verdicts {ys : List (Rule M V C)} (h : ∀ r ∈ xs, r.target = .verdict v) :
    scan holds call p (xs ++ ys)
      = if xs.any (fun r => holds r.cond p) then some v else scan holds call p ys := by
  induction xs with
  | nil => simp
  | cons r rs ih =>
    have ih := ih fun r' hr' => h r' (by simp [hr'])
    rw [List.cons_append]
    cases hm : holds r.cond p with
    | false => rw [scan_cons_no hm, ih]; simp [hm]
    | true => rw [scan_cons_verdict hm (h r (by simp))]; simp [hm]

/-- Rules in front of a decision that either let the packet go on or come to the same decision. -/
lemma scan_agree {ys : List (Rule M V C)} (h : ∀ r ∈ xs, holds r.cond p = true →
      ∃ c, r.target = .jump c ∧ (call c = none ∨ call c = some v))
    (hys : scan holds call p ys = some v) : scan holds call p (xs ++ ys) = some v := by
  induction xs with
  | nil => exact hys
  | cons r rs ih =>
    have ih := ih fun r' hr' => h r' (by simp [hr'])
    rw [List.cons_append]
    cases hm : holds r.cond p with
    | false => rwa [scan_cons_no hm]
    | true =>
      obtain ⟨c, ht, hc | hc⟩ := h r (by simp) hm
      · rwa [scan_cons_pass fun _ => ⟨c, ht, hc⟩]
      · exact scan_cons_jump hm ht hc

/-- **The first matching rule of a chain decides** when the chain it jumps to has a verdict. -/
lemma scan_of_find? (hfind : xs.find? (fun r => holds r.cond p) = some r) (ht : r.target = .jump c)
    (hc : call c = some v) : scan holds call p xs = some v := by
  induction xs with
  | nil => cases hfind
  | cons x xs ih =>
    cases hm : holds x.cond p with
    | false =>
      rw [List.find?_cons_of_neg (by simp [hm])] at hfind
      rw [scan_cons_no hm, ih hfind]
    | true =>
      rw [List.find?_cons_of_pos (by simp [hm])] at hfind
      obtain rfl := Option.some.inj hfind
      exact scan_cons_jump hm ht hc

end Scan

end Netfilter
