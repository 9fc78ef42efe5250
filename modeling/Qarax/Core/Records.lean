import Mathlib

/-!
# Rows and documents

What a service keeps in a database: tables, which are lists of rows with a key, and JSON documents
in columns of them.

* `Rows.update` — `UPDATE … WHERE key = k`; `Rows.forall_update` says what then holds of all rows.
* `Rows.total` — `SELECT SUM(…)` over the rows of one owner, and what each statement does to it.
* `Json` — documents with the operations of a JSON library on objects.
* `Json.text` — the `->>` operator: the member of an object as a text.
-/

namespace Rows

variable {α κ : Type} [DecidableEq κ] {key : α → κ} {k : κ} {f : α → α} {rows : List α}

/-- Change the rows with that key. -/
def update (key : α → κ) (k : κ) (f : α → α) (rows : List α) : List α :=
  rows.map fun r => if key r = k then f r else r

lemma mem_update {r : α} : r ∈ update key k f rows ↔
    (∃ r₀ ∈ rows, key r₀ = k ∧ f r₀ = r) ∨ (r ∈ rows ∧ key r ≠ k) := by
  simp only [update, List.mem_map]
  constructor
  · rintro ⟨r₀, hr₀, rfl⟩
    split_ifs with hk
    · exact .inl ⟨r₀, hr₀, hk, rfl⟩
    · exact .inr ⟨hr₀, hk⟩
  · rintro (⟨r₀, hr₀, hk, rfl⟩ | ⟨hr, hk⟩)
    · exact ⟨r₀, hr₀, if_pos hk⟩
    · exact ⟨r, hr, if_neg hk⟩

/-- A property of all rows after an update. -/
lemma forall_update {P : α → Prop} : (∀ r ∈ update key k f rows, P r) ↔
    ∀ r ∈ rows, (key r = k → P (f r)) ∧ (key r ≠ k → P r) := by
  constructor
  · intro h r hr
    exact ⟨fun hk => h _ (mem_update.2 (.inl ⟨r, hr, hk, rfl⟩)),
      fun hk => h _ (mem_update.2 (.inr ⟨hr, hk⟩))⟩
  · intro h r hr
    rcases mem_update.1 hr with ⟨r₀, hr₀, hk, rfl⟩ | ⟨hr, hk⟩
    · exact (h r₀ hr₀).1 hk
    · exact (h r hr).2 hk

/-- Keys are not changed. -/
lemma map_update {β : Type} {g : α → β} (hf : ∀ r, g (f r) = g r) :
    (update key k f rows).map g = rows.map g := by
  rw [update, List.map_map]
  refine List.map_congr_left fun r _ => ?_
  rw [Function.comp_apply]
  split_ifs
  · exact hf r
  · rfl

/-- The key itself is kept where rows are written. -/
lemma map_key_update (hf : ∀ r, key r = k → key (f r) = k) :
    (update key k f rows).map key = rows.map key := by
  rw [update, List.map_map]
  refine List.map_congr_left fun r _ => ?_
  rw [Function.comp_apply]
  split_ifs with hk
  · rw [hf r hk, hk]
  · rfl

/-- Listing rows among which the updated one is not. -/
lemma filter_update {p : α → Bool}
    (h : ∀ r ∈ rows, key r = k → p r = false ∧ p (f r) = false) :
    (update key k f rows).filter p = rows.filter p := by
  induction rows with
  | nil => rfl
  | cons r rows ih =>
    have hrest := ih fun r hr => h r (by simp [hr])
    by_cases hk : key r = k
    · obtain ⟨hp, hf⟩ := h r (by simp) hk
      simpa [update, hk, hp, hf] using hrest
    · by_cases hp : p r = true
      · simpa [update, hk, hp] using hrest
      · simpa [update, hk, hp] using hrest

lemma update_of_not_mem (h : k ∉ rows.map key) : update key k f rows = rows := by
  refine (List.map_congr_left fun r hr => ?_).trans (List.map_id rows)
  have hk : key r ≠ k := by
    rintro rfl
    exact h (List.mem_map_of_mem hr)
  exact if_neg hk

/-- A sum over the rows changes in one summand. -/
lemma sum_map_update {M : Type} [AddCommMonoid M] (g : α → M) {r : α}
    (hnodup : (rows.map key).Nodup) (hr : r ∈ rows) :
    ((update key (key r) f rows).map g).sum + g r = (rows.map g).sum + g (f r) := by
  induction rows with
  | nil => cases hr
  | cons a rows ih =>
    rw [List.map_cons, List.nodup_cons] at hnodup
    rcases List.mem_cons.1 hr with rfl | hr
    · have hrest : update key (key r) f rows = rows := update_of_not_mem hnodup.1
      simp only [update, List.map_cons, if_true, List.sum_cons] at hrest ⊢
      rw [hrest]
      abel
    · have hne : key a ≠ key r := fun heq => hnodup.1 (heq ▸ List.mem_map_of_mem hr)
      have hstep := ih hnodup.2 hr
      simp only [update, List.map_cons, if_neg hne, List.sum_cons] at hstep ⊢
      rw [add_assoc, hstep, add_assoc]

/-- Rows are deleted together with what is read off them. -/
lemma filterMap_filter {β : Type} {g : α → Option β} {p : α → Bool} {q : β → Bool}
    (h : ∀ r ∈ rows, ∀ b, g r = some b → p r = q b) :
    (rows.filter p).filterMap g = (rows.filterMap g).filter q := by
  rw [List.filterMap_filter, List.filter_filterMap]
  refine List.filterMap_congr fun r hr => ?_
  cases hg : g r with
  | none => simp
  | some b => simp [h r hr b hg, Option.filter]

/-- `SELECT SUM(weight) … WHERE owner = o`. -/
def total {M : Type} [AddCommMonoid M] (owner : α → κ) (weight : α → M) (o : κ)
    (rows : List α) : M :=
  ((rows.filter fun r => owner r = o).map weight).sum

section Total

variable {M : Type} [AddCommMonoid M] {owner : α → κ} {weight : α → M} {o : κ} {r : α}

/-- What one row adds to the sum. -/
def share (owner : α → κ) (weight : α → M) (o : κ) (r : α) : M :=
  if owner r = o then weight r else 0

lemma total_cons : total owner weight o (r :: rows)
    = share owner weight o r + total owner weight o rows := by
  by_cases h : owner r = o
  · simp [total, share, h]
  · simp [total, share, h]

lemma total_eq_sum : total owner weight o rows = (rows.map (share owner weight o)).sum := by
  induction rows with
  | nil => rfl
  | cons r rows ih => rw [total_cons, ih, List.map_cons, List.sum_cons]

lemma total_update (owner : α → κ) (weight : α → M) (o : κ) (hnodup : (rows.map key).Nodup)
    (hr : r ∈ rows) :
    total owner weight o (update key (key r) f rows) + share owner weight o r
      = total owner weight o rows + share owner weight o (f r) := by
  rw [total_eq_sum, total_eq_sum]
  exact sum_map_update _ hnodup hr

/-- The row is deleted. -/
lemma total_delete (owner : α → κ) (weight : α → M) (o : κ) (hnodup : (rows.map key).Nodup)
    (hr : r ∈ rows) :
    total owner weight o (rows.filter fun r' => key r' ≠ key r) + share owner weight o r
      = total owner weight o rows := by
  induction rows with
  | nil => cases hr
  | cons a rows ih =>
    rw [List.map_cons, List.nodup_cons] at hnodup
    rcases List.mem_cons.1 hr with rfl | hr
    · have hrest : rows.filter (fun r' => key r' ≠ key r) = rows := by
        refine List.filter_eq_self.2 fun r' hr' => decide_eq_true fun heq => hnodup.1 ?_
        exact heq ▸ List.mem_map_of_mem hr'
      rw [List.filter_cons_of_neg (by simp), hrest, total_cons, add_comm]
    · have hne : key a ≠ key r := fun heq => hnodup.1 (heq ▸ List.mem_map_of_mem hr)
      rw [List.filter_cons_of_pos (by simpa using hne), total_cons, total_cons, add_assoc,
        ih hnodup.2 hr]

end Total

/-- What is found under a key is a row with that key. -/
lemma mem_of_find? {r : α} (h : rows.find? (fun r => decide (key r = k)) = some r) :
    r ∈ rows ∧ key r = k :=
  ⟨List.mem_of_find?_eq_some h, by simpa using List.find?_some h⟩

/-- A row is found under its key, if no other row has that key. -/
lemma find?_of_mem {r : α} (hkeys : (rows.map key).Nodup) (hr : r ∈ rows) :
    rows.find? (fun r' => decide (key r' = key r)) = some r := by
  obtain ⟨found, hfound⟩ : ∃ found, rows.find? (fun r' => decide (key r' = key r)) = some found :=
    Option.isSome_iff_exists.1 (List.find?_isSome.2 ⟨r, hr, by simp⟩)
  obtain ⟨hmem, hkey⟩ := mem_of_find? hfound
  rw [hfound, List.inj_on_of_nodup_map hkeys hmem hr hkey]

/-- Looking up the row that was updated. -/
lemma find?_update_self (hf : ∀ r, key r = k → key (f r) = k) :
    (update key k f rows).find? (fun r => decide (key r = k))
      = (rows.find? (fun r => decide (key r = k))).map f := by
  induction rows with
  | nil => rfl
  | cons r rows ih =>
    by_cases hk : key r = k
    · simp [update, hk, hf r hk]
    · simpa [update, hk] using ih

/-- Looking up another row. -/
lemma find?_update_of_ne {k' : κ} (hk : k' ≠ k)
    (hf : ∀ r, key r = k → key (f r) = k) :
    (update key k f rows).find? (fun r => decide (key r = k'))
      = rows.find? (fun r => decide (key r = k')) := by
  induction rows with
  | nil => rfl
  | cons r rows ih =>
    by_cases hr : key r = k
    · simpa [update, hr, hf r hr, hk.symm] using ih
    · by_cases hr' : key r = k'
      · simp [update, hr', hk]
      · simpa [update, hr, hr'] using ih

section Lookup

variable {β : Type} [BEq κ] [LawfulBEq κ] {l : List (κ × β)} {k' : κ} {v : β}

lemma lookup_filter_ne (h : k' ≠ k) (l : List (κ × β)) :
    (l.filter fun e => e.1 ≠ k).lookup k' = l.lookup k' := by
  induction l with
  | nil => rfl
  | cons e l ih =>
    obtain ⟨a, b⟩ := e
    by_cases ha : a = k
    · subst ha
      rw [List.filter_cons_of_neg (by simp), ih, List.lookup_cons, beq_false_of_ne h]
    · rw [List.filter_cons_of_pos (by simpa using ha), List.lookup_cons, List.lookup_cons, ih]

lemma lookup_filter_self (k : κ) (l : List (κ × β)) :
    (l.filter fun e => e.1 ≠ k).lookup k = none := by
  rw [List.lookup_eq_none_iff]
  intro e he
  have hne : e.1 ≠ k := by simpa using (List.mem_filter.1 he).2
  simpa using hne.symm

/-- Entries that agree on a key are looked up in any order. -/
lemma lookup_of_forall (hall : ∀ e ∈ l, e.1 = k → e.2 = v) (hmem : ∃ e ∈ l, e.1 = k) :
    l.lookup k = some v := by
  induction l with
  | nil => simp at hmem
  | cons e l ih =>
    rw [List.forall_mem_cons] at hall
    by_cases he : e.1 = k
    · rw [List.lookup_cons, he, beq_self_eq_true, hall.1 he]
    · rw [List.lookup_cons, beq_false_of_ne (Ne.symm he)]
      simp only [List.exists_mem_cons_iff, he, false_or] at hmem
      exact ih hall.2 hmem

end Lookup

end Rows

/-- JSON documents. -/
inductive Json where
  | null
  | bool (b : Bool)
  | num (literal : String)
  | str (s : String)
  | arr (items : List Json)
  | obj (members : List (String × Json))

namespace Json

/-- Documents that are objects. -/
def isObject : Json → Bool
  | .obj _ => true
  | _ => false

def isNull : Json → Bool
  | .null => true
  | _ => false

/-- The member of an object. -/
def get? : Json → String → Option Json
  | .obj members, k => members.lookup k
  | _, _ => none

def asStr : Json → Option String
  | .str s => some s
  | _ => none

def asBool : Json → Option Bool
  | .bool b => some b
  | _ => none

/-- A number that is a signed integer of 64 bits. -/
def asInt64 : Json → Option Int
  | .num literal => literal.toInt?.filter fun n => -2 ^ 63 ≤ n && n < 2 ^ 63
  | _ => none

/-- Insert into an object, in place of what was there; other documents stay as they are. -/
def insert (j : Json) (k : String) (v : Json) : Json :=
  match j with
  | .obj members => .obj ((k, v) :: members.filter fun m => m.1 ≠ k)
  | j => j

/-- Remove from an object. -/
def remove (j : Json) (k : String) : Json :=
  match j with
  | .obj members => .obj (members.filter fun m => m.1 ≠ k)
  | j => j

/-- The members of both, those of the second in place of those of the first. -/
def extend (members more : List (String × Json)) : List (String × Json) :=
  more ++ members.filter fun m => (more.lookup m.1).isNone

/-- The text of a member that is a string. -/
def text (j : Json) (k : String) : Option String := (j.get? k).bind asStr

variable {k k' : String} {v j : Json}

@[simp] lemma isObject_insert : (j.insert k v).isObject = j.isObject := by cases j <;> rfl

@[simp] lemma isObject_remove : (j.remove k).isObject = j.isObject := by cases j <;> rfl

lemma get?_of_not_isObject (h : j.isObject = false) : j.get? k = none := by
  cases j with
  | obj members => cases h
  | _ => rfl

lemma get?_insert_self (h : j.isObject = true) : (j.insert k v).get? k = some v := by
  cases j with
  | obj members => simp [insert, get?]
  | _ => cases h

@[simp] lemma get?_insert_of_ne (h : k' ≠ k) : (j.insert k v).get? k' = j.get? k' := by
  cases j with
  | obj members =>
    rw [insert, get?, List.lookup_cons, beq_false_of_ne h]
    exact Rows.lookup_filter_ne h members
  | _ => rfl

@[simp] lemma get?_remove_self : (j.remove k).get? k = none := by
  cases j with
  | obj members => exact Rows.lookup_filter_self k members
  | _ => rfl

end Json
