import Mathlib

/-!
# Queries

The parts of SQL that a `SELECT … FROM … WHERE … ORDER BY … LIMIT 1 FOR UPDATE SKIP LOCKED` is made
of, over tables that are lists of rows.  A value that may be null is an `Option`.

* `Truth` — conditions are true, false or unknown; `WHERE` keeps the rows of which they are true.
* `leftJoin`, `innerJoin`, `groupBy`, `sum`, `count`, `exist` — what a `FROM` and a subquery do.
* `asc`, `desc`, `lex` — the keys of an `ORDER BY`.
* `FirstUnlocked` — the row that comes back; rows that the keys do not tell apart come in any order.
  `FirstUnlocked.best` says that it is the best of the rows that nobody has locked.
-/

namespace Query

variable {α β κ ρ : Type}

/-! ## Conditions -/

/-- What a condition can be; `none` is unknown. -/
abbrev Truth := Option Bool

/-- Is the row kept? -/
def holds (t : Truth) : Bool := t == some true

def and : Truth → Truth → Truth
  | some false, _ => some false
  | some true, t => t
  | none, some false => some false
  | none, _ => none

def or : Truth → Truth → Truth
  | some true, _ => some true
  | some false, t => t
  | none, some true => some true
  | none, _ => none

def not (t : Truth) : Truth := t.map (!·)

/-- A comparison with null is unknown. -/
def compares (r : α → α → Bool) (a b : Option α) : Truth := a.bind fun a => b.map (r a)

/-- The operator `=`. -/
def eq [BEq α] (a b : Option α) : Truth := compares (· == ·) a b

def isNull (a : Option α) : Truth := some a.isNone

/-- The conjunction that a `WHERE` with these fragments is. -/
def allOf (conditions : List (ρ → Truth)) (row : ρ) : Truth :=
  conditions.foldr (fun condition t => and (condition row) t) (some true)

/-- A fragment that is pushed for a list with members. -/
def unlessEmpty {φ : Type} (l : List α) (fragment : φ) : List φ :=
  if l.isEmpty then [] else [fragment]

@[simp] lemma holds_some (b : Bool) : holds (some b) = b := by cases b <;> rfl

@[simp] lemma holds_and (a b : Truth) : holds (and a b) = (holds a && holds b) := by
  rcases a with _ | _ | _ <;> rcases b with _ | _ | _ <;> rfl

@[simp] lemma holds_or (a b : Truth) : holds (or a b) = (holds a || holds b) := by
  rcases a with _ | _ | _ <;> rcases b with _ | _ | _ <;> rfl

@[simp] lemma holds_compares (r : α → α → Bool) (a b : Option α) :
    holds (compares r a b) = a.any fun a => b.any (r a) := by
  cases a <;> cases b <;> simp [compares, holds]

@[simp] lemma holds_eq_some [BEq α] (a : Option α) (b : α) :
    holds (eq a (some b)) = (a == some b) := by
  cases a <;> simp [eq]

@[simp] lemma holds_isNull (a : Option α) : holds (isNull a) = a.isNone := holds_some _

/-- `a IS NULL OR a < b` -/
lemma holds_isNull_or {r : α → α → Bool} {a : Option α} {b : α} :
    holds (or (isNull a) (compares r a (some b))) = true ↔ ∀ x ∈ a, r x b = true := by
  cases a <;> simp

/-- Negation turns a condition round that is not unknown. -/
lemma holds_not_some (b : Bool) : holds (not (some b)) = !b := holds_some _

lemma holds_allOf {conditions : List (ρ → Truth)} {row : ρ} :
    holds (allOf conditions row) = conditions.all fun condition => holds (condition row) := by
  induction conditions with
  | nil => rfl
  | cons condition conditions ih => simpa [allOf] using congrArg (holds (condition row) && ·) ih

/-- Fragments that are there for a value that may be missing. -/
@[simp] lemma all_toList (o : Option α) (p : α → Bool) : o.toList.all p = o.all p := by
  cases o <;> simp

variable {l xs : List α} {on : α → β → Truth} {ys : List β} {x : α}

/-- A fragment that says nothing for the empty list might as well be pushed. -/
lemma all_unlessEmpty {fragment : ρ → Truth} {row : ρ}
    (h : l = [] → holds (fragment row) = true) :
    ((unlessEmpty l fragment).all fun condition => holds (condition row))
      = holds (fragment row) := by
  unfold unlessEmpty
  split_ifs with hempty
  · exact (h (List.isEmpty_iff.1 hempty)).symm
  · simp

/-! ## Subqueries and joins -/

/-- `EXISTS (SELECT 1 FROM rows WHERE condition)` -/
def exist (rows : List α) (condition : α → Truth) : Truth :=
  some (rows.any fun row => holds (condition row))

/-- `SELECT COUNT(*) FROM rows WHERE condition` -/
def count (rows : List α) (condition : α → Truth) : ℕ :=
  (rows.filter fun row => holds (condition row)).length

/-- `SUM`, which is null of no rows. -/
def sum (values : List Int) : Option Int := if values.isEmpty then none else some values.sum

def coalesce (a : Option α) (default : α) : α := a.getD default

/-- The groups of a `GROUP BY`. -/
def groupBy [DecidableEq κ] (key : α → κ) (rows : List α) : List (κ × List α) :=
  (rows.map key).dedup.map fun k => (k, rows.filter (key · = k))

/-- `LEFT JOIN`: a row without a partner is kept, with nulls. -/
def leftJoin (on : α → β → Truth) (xs : List α) (ys : List β) : List (α × Option β) :=
  xs.flatMap fun x =>
    match ys.filter fun y => holds (on x y) with
    | [] => [(x, none)]
    | partners => partners.map fun y => (x, some y)

def innerJoin (on : α → β → Truth) (xs : List α) (ys : List β) : List (α × β) :=
  xs.flatMap fun x => (ys.filter fun y => holds (on x y)).map fun y => (x, y)

lemma mem_groupBy [DecidableEq κ] {key : α → κ} {rows : List α} {k : κ} {group : List α} :
    (k, group) ∈ groupBy key rows ↔
      (∃ row ∈ rows, key row = k) ∧ group = rows.filter (key · = k) := by
  simp only [groupBy, List.mem_map, List.mem_dedup, Prod.mk.injEq]
  constructor
  · rintro ⟨k', hk', rfl, rfl⟩
    exact ⟨hk', rfl⟩
  · rintro ⟨hk, rfl⟩
    exact ⟨k, hk, rfl, rfl⟩

lemma mem_leftJoin {y : Option β} :
    (x, y) ∈ leftJoin on xs ys ↔ x ∈ xs ∧
      ((y = none ∧ ∀ z ∈ ys, holds (on x z) = false) ∨
        ∃ z ∈ ys, holds (on x z) = true ∧ y = some z) := by
  simp only [leftJoin, List.mem_flatMap]
  constructor
  · rintro ⟨x', hx', hmem⟩
    split at hmem
    case h_1 hnone =>
      obtain ⟨rfl, rfl⟩ := Prod.mk.inj (List.mem_singleton.1 hmem)
      refine ⟨hx', .inl ⟨rfl, fun z hz => ?_⟩⟩
      simpa using List.filter_eq_nil_iff.1 hnone z hz
    case h_2 =>
      obtain ⟨z, hz, heq⟩ := List.mem_map.1 hmem
      obtain ⟨rfl, rfl⟩ := Prod.mk.inj heq
      obtain ⟨hz, hon⟩ := List.mem_filter.1 hz
      exact ⟨hx', .inr ⟨z, hz, hon, rfl⟩⟩
  · rintro ⟨hx, hy⟩
    refine ⟨x, hx, ?_⟩
    rcases hy with ⟨rfl, hnone⟩ | ⟨z, hz, hon, rfl⟩
    · have hfilter : ys.filter (fun z => holds (on x z)) = [] :=
        List.filter_eq_nil_iff.2 fun z hz => by simp [hnone z hz]
      simp [hfilter]
    · have hfilter : z ∈ ys.filter (fun z => holds (on x z)) := List.mem_filter.2 ⟨hz, hon⟩
      split
      case h_1 hnone => simp [hnone] at hfilter
      case h_2 => exact List.mem_map.2 ⟨z, hfilter, rfl⟩

lemma exists_leftJoin (on : α → β → Truth) (ys : List β) (hx : x ∈ xs) :
    ∃ y, (x, y) ∈ leftJoin on xs ys := by
  by_cases h : ∃ z ∈ ys, holds (on x z) = true
  · obtain ⟨z, hz, hon⟩ := h
    exact ⟨some z, mem_leftJoin.2 ⟨hx, .inr ⟨z, hz, hon, rfl⟩⟩⟩
  · refine ⟨none, mem_leftJoin.2 ⟨hx, .inl ⟨rfl, fun z hz => ?_⟩⟩⟩
    simpa using not_and.1 (not_exists.1 h z) hz

lemma mem_innerJoin {y : β} :
    (x, y) ∈ innerJoin on xs ys ↔ x ∈ xs ∧ y ∈ ys ∧ holds (on x y) = true := by
  simp only [innerJoin, List.mem_flatMap, List.mem_map, List.mem_filter, Prod.mk.injEq]
  constructor
  · rintro ⟨x', hx', y', ⟨hy', hon⟩, rfl, rfl⟩
    exact ⟨hx', hy', hon⟩
  · rintro ⟨hx, hy, hon⟩
    exact ⟨x, hx, y, ⟨hy, hon⟩, rfl, rfl⟩

/-! ## Order -/

/-- Values with null above all of them. -/
def nullsLast (a : Option α) : WithTop α := a

/-- `ASC`, which puts nulls last. -/
def asc [LinearOrder α] (f : ρ → Option α) (a b : ρ) : Ordering :=
  compare (nullsLast (f a)) (nullsLast (f b))

/-- `DESC`, which puts nulls first. -/
def desc [LinearOrder α] (f : ρ → Option α) (a b : ρ) : Ordering := asc f b a

/-- The order of a list of keys. -/
def lex : List (ρ → ρ → Ordering) → ρ → ρ → Ordering
  | [], _, _ => .eq
  | key :: keys, a, b => (key a b).then (lex keys a b)

lemma lex_append {keys keys' : List (ρ → ρ → Ordering)} {a b : ρ} :
    lex (keys ++ keys') a b = (lex keys a b).then (lex keys' a b) := by
  induction keys with
  | nil => rfl
  | cons key keys ih => simp only [List.cons_append, lex, ih, Ordering.then_assoc]

lemma compare_nullsLast [LinearOrder α] (a b : α) :
    compare (nullsLast (some a)) (nullsLast (some b)) = compare a b := by
  simp only [LinearOrder.compare_eq_compareOfLessAndEq, compareOfLessAndEq]
  exact if_congr WithTop.coe_lt_coe rfl (if_congr WithTop.coe_inj rfl rfl)

lemma isLE_compare [LinearOrder α] {a b : α} : (compare a b).isLE = true ↔ a ≤ b := by
  rw [Ordering.isLE_iff_ne_gt]
  exact compare_le_iff_le

@[simp] lemma asc_some [LinearOrder α] (f : ρ → α) (a b : ρ) :
    asc (fun r => some (f r)) a b = compare (f a) (f b) := compare_nullsLast _ _

@[simp] lemma desc_some [LinearOrder α] (f : ρ → α) (a b : ρ) :
    desc (fun r => some (f r)) a b = compare (f b) (f a) := compare_nullsLast _ _

lemma lex_unlessEmpty {key : ρ → ρ → Ordering} {a b : ρ} :
    lex (unlessEmpty l key) a b = if l.isEmpty then .eq else key a b := by
  unfold unlessEmpty
  split_ifs
  · rfl
  · exact Ordering.then_eq

/-- The row that `ORDER BY keys LIMIT 1 FOR UPDATE SKIP LOCKED` returns. -/
def FirstUnlocked (keys : List (ρ → ρ → Ordering)) (locked : ρ → Bool) (rows : List ρ)
    (answer : Option ρ) : Prop :=
  ∃ sorted : List ρ, sorted.Perm rows ∧ sorted.Pairwise (fun a b => (lex keys a b).isLE) ∧
    answer = sorted.find? (!locked ·)

section FirstUnlocked

variable {keys : List (ρ → ρ → Ordering)} {locked : ρ → Bool} {rows : List ρ} {answer : Option ρ}

/-- A row comes back if one is not locked. -/
lemma FirstUnlocked.isSome_iff (h : FirstUnlocked keys locked rows answer) :
    answer.isSome = true ↔ ∃ row ∈ rows, locked row = false := by
  obtain ⟨sorted, hperm, -, rfl⟩ := h
  simp [List.find?_isSome, hperm.mem_iff]

/-- **It is the best of the rows that are not locked.** -/
lemma FirstUnlocked.best (h : FirstUnlocked keys locked rows answer) {row : ρ}
    (hrow : answer = some row) :
    row ∈ rows ∧ locked row = false ∧
      ∀ other ∈ rows, locked other = false → other = row ∨ (lex keys row other).isLE = true := by
  obtain ⟨sorted, hperm, hsorted, rfl⟩ := h
  obtain ⟨hlocked, before, after, hsplit, hbefore⟩ := List.find?_eq_some_iff_append.1 hrow
  have hmem : row ∈ sorted := by simp [hsplit]
  refine ⟨hperm.mem_iff.1 hmem, by simpa using hlocked, fun other hother hfree => ?_⟩
  rw [← hperm.mem_iff, hsplit, List.mem_append, List.mem_cons] at hother
  rcases hother with hother | hother | hother
  · simpa [hfree] using hbefore other hother
  · exact .inl hother
  · rw [hsplit, List.pairwise_append, List.pairwise_cons] at hsorted
    exact .inr (hsorted.2.1.1 other hother)

/-- There is always an answer when the keys compare some rank. -/
lemma exists_firstUnlocked {ι : Type} [LinearOrder ι] {rank : ρ → ι}
    (hrank : ∀ a b, lex keys a b = compare (rank a) (rank b)) (locked : ρ → Bool) (rows : List ρ) :
    ∃ answer, FirstUnlocked keys locked rows answer := by
  let le (a b : ρ) : Prop := rank a ≤ rank b
  have htotal : Std.Total le := ⟨fun a b => le_total _ _⟩
  have htrans : IsTrans ρ le := ⟨fun a b c => le_trans⟩
  refine ⟨_, rows.insertionSort le, List.perm_insertionSort _ _, ?_, rfl⟩
  refine (List.pairwise_insertionSort le rows).imp fun {a b} hle => ?_
  rw [hrank]
  exact isLE_compare.2 hle

end FirstUnlocked

end Query
