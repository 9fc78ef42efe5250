import Mathlib

/-!
# Ordered collections

A set or a map that is kept in the order of its keys forgets how it was filled: two lists with the
same members give the same set.

* `set` — the members of a list, in order and once.
* `group` — the rows of each key, in the order they came, by ascending key.
* `last_of_flatMap` — where the last result of a loop over entries in order comes from.
* `take_insertionSort_iff` — which items are the first ones.
* `Assoc` — a map, as its entries in the order of their keys.
-/

namespace Sorted

variable {α κ : Type} [LinearOrder κ]

def set (l : List κ) : List κ := l.dedup.insertionSort (· ≤ ·)

@[simp] lemma mem_set {l : List κ} {k : κ} : k ∈ set l ↔ k ∈ l := by
  simp [set]

lemma nodup_set (l : List κ) : (set l).Nodup :=
  (List.perm_insertionSort _ _).nodup_iff.2 l.nodup_dedup

lemma sorted_set (l : List κ) : (set l).Pairwise (· ≤ ·) := List.pairwise_insertionSort _ _

lemma strict_set (l : List κ) : (set l).Pairwise (· < ·) := by
  have h := (sorted_set l).and (nodup_set l)
  exact h.imp fun h => lt_of_le_of_ne h.1 h.2

lemma insertionSort_set (l : List κ) : (set l).insertionSort (· ≤ ·) = set l :=
  (sorted_set l).insertionSort_eq

/-- **Filling order is forgotten.** -/
lemma set_congr {l l' : List κ} (h : ∀ k, k ∈ l ↔ k ∈ l') : set l = set l' := by
  refine List.Perm.eq_of_pairwise (fun a b _ _ => le_antisymm) (sorted_set l) (sorted_set l') ?_
  rw [List.perm_ext_iff_of_nodup (nodup_set l) (nodup_set l')]
  simpa using h

/-- The rows of each key. -/
def group (key : α → κ) (rows : List α) : List (κ × List α) :=
  (set (rows.map key)).map fun k => (k, rows.filter (key · = k))

lemma group_keys (key : α → κ) (rows : List α) :
    (group key rows).map Prod.fst = set (rows.map key) := by
  simp [group, Function.comp_def]

lemma mem_group {key : α → κ} {rows : List α} {k : κ} {rs : List α} :
    (k, rs) ∈ group key rows ↔ (∃ r ∈ rows, key r = k) ∧ rs = rows.filter (key · = k) := by
  simp only [group, List.mem_map, mem_set, Prod.mk.injEq]
  constructor
  · rintro ⟨k', hk', rfl, rfl⟩
    exact ⟨hk', rfl⟩
  · rintro ⟨hk, rfl⟩
    exact ⟨k, hk, rfl, rfl⟩

/-- The last result of a loop over a list in order comes from the last entry that has results. -/
lemma last_of_flatMap {β : Type} {R : α → α → Prop} {f : α → List β} {r : β} : ∀ {l : List α},
    l.Pairwise R → (l.flatMap f).getLast? = some r →
      ∃ a ∈ l, r ∈ f a ∧ ∀ b ∈ l, f b ≠ [] → b = a ∨ R b a
  | [], _, h => by simp at h
  | a :: l, hl, h => by
      obtain ⟨ha, hl⟩ := List.pairwise_cons.1 hl
      rw [List.flatMap_cons, List.getLast?_append, Option.or_eq_some_iff] at h
      rcases h with h | ⟨hnone, h⟩
      · obtain ⟨a', ha', hr, hlast⟩ := last_of_flatMap hl h
        refine ⟨a', List.mem_cons_of_mem _ ha', hr, ?_⟩
        rintro b hb hne
        rcases List.mem_cons.1 hb with rfl | hb
        · exact .inr (ha a' ha')
        · exact hlast b hb hne
      · refine ⟨a, List.mem_cons_self, List.mem_of_getLast? h, ?_⟩
        rintro b hb hne
        rcases List.mem_cons.1 hb with rfl | hb
        · exact .inl rfl
        · rw [List.getLast?_eq_none_iff, List.flatMap_eq_nil_iff] at hnone
          exact absurd (hnone b hb) hne

section Take

variable {key : α → κ} {l first : List α} {a b : α}

lemma le_of_mem_take_drop {n : ℕ} (ha : a ∈ (l.insertionSort fun a b => key a ≤ key b).take n)
    (hb : b ∈ (l.insertionSort fun a b => key a ≤ key b).drop n) : key a ≤ key b := by
  have htotal : Std.Total fun a b : α => key a ≤ key b := ⟨fun a b => le_total _ _⟩
  have htrans : IsTrans α fun a b => key a ≤ key b := ⟨fun a b c => le_trans⟩
  have hsorted := List.pairwise_insertionSort (fun a b : α => key a ≤ key b) l
  rw [← List.take_append_drop n (l.insertionSort fun a b => key a ≤ key b)] at hsorted
  exact (List.pairwise_append.1 hsorted).2.2 a ha b hb

/-- **The first items by their keys** are these exactly if they are all there and every other one
comes after them. -/
lemma take_insertionSort_iff (hkeys : (l.map key).Nodup) (hfirst : first.Nodup) :
    (∀ a, a ∈ (l.insertionSort fun a b => key a ≤ key b).take first.length ↔ a ∈ first) ↔
      (∀ a ∈ first, a ∈ l) ∧ ∀ b ∈ l, b ∉ first → ∀ a ∈ first, key a < key b := by
  set sorted := l.insertionSort fun a b => key a ≤ key b with hsorted
  have hmem : ∀ {a}, a ∈ sorted ↔ a ∈ l := fun {a} => List.mem_insertionSort _
  have hsplit : ∀ {a}, a ∈ l → a ∈ sorted.take first.length ∨ a ∈ sorted.drop first.length := by
    intro a ha
    rw [← List.mem_append, List.take_append_drop]
    exact hmem.2 ha
  have hnodup : sorted.Nodup := (List.perm_insertionSort _ _).nodup_iff.2 (hkeys.of_map _)
  constructor
  · intro h
    refine ⟨fun a ha => hmem.1 (List.mem_of_mem_take ((h a).2 ha)), fun b hb hnot a ha => ?_⟩
    have hdrop := (hsplit hb).resolve_left fun htake => hnot ((h b).1 htake)
    refine lt_of_le_of_ne (le_of_mem_take_drop ((h a).2 ha) hdrop) fun heq => hnot ?_
    have hal := hmem.1 (List.mem_of_mem_take ((h a).2 ha))
    rwa [← List.inj_on_of_nodup_map hkeys hal hb heq]
  · rintro ⟨hsub, hafter⟩
    have hlength : (sorted.take first.length).length = first.length := by
      have hle : first.length ≤ sorted.length :=
        (hfirst.subperm fun a ha => hmem.2 (hsub a ha)).length_le
      rw [List.length_take, min_eq_left hle]
    -- an item among the first ones that is not wanted would have all the wanted ones before it
    have htake : ∀ a ∈ sorted.take first.length, a ∈ first := by
      intro a ha
      by_contra hnot
      have hall : ∀ c ∈ a :: first, c ∈ sorted.take first.length := by
        intro c hc
        rcases List.mem_cons.1 hc with rfl | hc
        · exact ha
        · refine (hsplit (hsub c hc)).resolve_right fun hdrop => ?_
          have hlt := hafter a (hmem.1 (List.mem_of_mem_take ha)) hnot c hc
          exact absurd (le_of_mem_take_drop ha hdrop) hlt.not_ge
      have hle := ((List.nodup_cons.2 ⟨hnot, hfirst⟩).subperm hall).length_le
      rw [hlength, List.length_cons] at hle
      omega
    have hperm : (sorted.take first.length).Perm first :=
      ((hnodup.sublist (List.take_sublist _ _)).subperm htake).perm_of_length_le hlength.ge
    exact fun a => hperm.mem_iff

end Take

/-! ## Maps -/

/-- **A map, in the order of its keys**, so that equal maps are the same list. -/
@[ext] structure Assoc (κ β : Type) [LinearOrder κ] where
  entries : List (κ × β)
  sorted : entries.Pairwise fun a b => a.1 < b.1

namespace Assoc

variable {β : Type} {k : κ} {v : β}

/-- The entry in its place, instead of one with its key. -/
def insertEntry (k : κ) (v : β) : List (κ × β) → List (κ × β)
  | [] => [(k, v)]
  | e :: entries =>
    if k < e.1 then (k, v) :: e :: entries
    else if k = e.1 then (k, v) :: entries
    else e :: insertEntry k v entries

variable {entries : List (κ × β)}

lemma key_insertEntry {e : κ × β} (h : e ∈ insertEntry k v entries) :
    e.1 = k ∨ e ∈ entries := by
  induction entries with
  | nil => exact .inl (congrArg Prod.fst (List.mem_singleton.1 h))
  | cons e' entries ih =>
    rw [insertEntry] at h
    split_ifs at h
    · rcases List.mem_cons.1 h with rfl | h
      · exact .inl rfl
      · exact .inr h
    · rcases List.mem_cons.1 h with rfl | h
      · exact .inl rfl
      · exact .inr (List.mem_cons_of_mem _ h)
    · rcases List.mem_cons.1 h with rfl | h
      · exact .inr List.mem_cons_self
      · exact (ih h).imp_right (List.mem_cons_of_mem _)

lemma pairwise_insertEntry (h : entries.Pairwise fun a b => a.1 < b.1) :
    (insertEntry k v entries).Pairwise fun a b => a.1 < b.1 := by
  induction entries with
  | nil => exact List.pairwise_singleton _ _
  | cons e entries ih =>
    obtain ⟨hfirst, hrest⟩ := List.pairwise_cons.1 h
    rw [insertEntry]
    split_ifs with hlt heq
    · refine List.pairwise_cons.2 ⟨fun e' he' => ?_, h⟩
      rcases List.mem_cons.1 he' with rfl | he'
      · exact hlt
      · exact hlt.trans (hfirst e' he')
    · exact List.pairwise_cons.2 ⟨fun e' he' => heq ▸ hfirst e' he', hrest⟩
    · refine List.pairwise_cons.2 ⟨fun e' he' => ?_, ih hrest⟩
      rcases key_insertEntry he' with hkey | he'
      · rw [hkey]
        exact lt_of_le_of_ne (not_lt.1 hlt) (Ne.symm heq)
      · exact hfirst e' he'

def insert (m : Assoc κ β) (e : κ × β) : Assoc κ β :=
  ⟨insertEntry e.1 e.2 m.entries, pairwise_insertEntry m.sorted⟩

/-- The map of these entries; of two with one key the later stays. -/
def ofList (entries : List (κ × β)) : Assoc κ β := entries.foldl insert ⟨[], .nil⟩

lemma insertEntry_of_forall_lt (h : ∀ e ∈ entries, e.1 < k) :
    insertEntry k v entries = entries ++ [(k, v)] := by
  induction entries with
  | nil => rfl
  | cons e entries ih =>
    obtain ⟨hlt, hrest⟩ := List.forall_mem_cons.1 h
    rw [insertEntry, if_neg hlt.not_gt, if_neg hlt.ne', ih hrest, List.cons_append]

lemma foldl_insert (m : Assoc κ β) : ∀ entries : List (κ × β),
    (m.entries ++ entries).Pairwise (fun a b => a.1 < b.1) →
      (entries.foldl insert m).entries = m.entries ++ entries
  | [], _ => (List.append_nil _).symm
  | e :: entries, h => by
      have hlast : (m.insert e).entries = m.entries ++ [e] :=
        insertEntry_of_forall_lt fun e' he' =>
          (List.pairwise_append.1 h).2.2 e' he' e List.mem_cons_self
      have hpairwise : ((m.insert e).entries ++ entries).Pairwise fun a b => a.1 < b.1 := by
        rwa [hlast, List.append_assoc]
      rw [List.foldl_cons, foldl_insert (m.insert e) entries hpairwise, hlast, List.append_assoc]
      rfl

/-- **A map is that of its entries.** -/
lemma ofList_entries (m : Assoc κ β) : ofList m.entries = m :=
  Assoc.ext (foldl_insert ⟨[], .nil⟩ m.entries m.sorted)

end Assoc

end Sorted
