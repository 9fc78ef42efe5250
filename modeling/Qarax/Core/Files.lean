import Mathlib.Logic.Function.Basic
import Mathlib.Data.List.Basic

/-!
# Files

A file system as programs see it that create files, write through handles, rename and unlink.
Entries lead from paths to files, and a handle keeps to its file whatever happens to the entry.
There are no hard links: the structure carries the proof that no two entries lead to one file.

* `Fs`, `create`, `writeAt`, `setLen`, `rename`, `unlink` — the operations.
* `Same fs fs' p` — the entry at `p` and the file behind it are as they were.
* `same_create`, `same_put`, `same_rename`, `same_unlink` — what each leaves alone.
-/

namespace Files

variable {π β : Type}

structure Fs (π β : Type) where
  entry : π → Option Nat
  data : Nat → List β
  /-- The file that comes next. -/
  next : Nat
  bounded : ∀ p n, entry p = some n → n < next
  single : ∀ p q n, entry p = some n → entry q = some n → p = q

/-- What is read at a path. -/
def Fs.read (fs : Fs π β) (p : π) : Option (List β) := (fs.entry p).map fs.data

/-- No files at all. -/
def Fs.empty : Fs π β where
  entry := fun _ => none
  data := fun _ => []
  next := 0
  bounded := fun _ _ h => by cases h
  single := fun _ _ _ h _ => by cases h

section Operations

variable [DecidableEq π]

/-- What a file holds is replaced. -/
def Fs.put (fs : Fs π β) (n : Nat) (bytes : List β) : Fs π β :=
  { fs with data := Function.update fs.data n bytes }

/-- A new empty file, at a path where there is none. -/
def Fs.add (fs : Fs π β) (p : π) : Fs π β where
  entry := Function.update fs.entry p (some fs.next)
  data := Function.update fs.data fs.next []
  next := fs.next + 1
  bounded := by
    intro q n h
    by_cases hq : q = p
    · subst hq
      rw [Function.update_self] at h
      cases h
      exact Nat.lt_succ_self _
    · rw [Function.update_of_ne hq] at h
      exact Nat.lt_succ_of_lt (fs.bounded q n h)
  single := by
    intro q r n hq hr
    have hold : ∀ x, x ≠ p → Function.update fs.entry p (some fs.next) x = some n → n < fs.next :=
      fun x hx h => fs.bounded x n (by rwa [Function.update_of_ne hx] at h)
    have hnew : Function.update fs.entry p (some fs.next) p = some n → n = fs.next := fun h => by
      rw [Function.update_self] at h
      exact (Option.some.inj h).symm
    by_cases hqp : q = p <;> by_cases hrp : r = p
    · rw [hqp, hrp]
    · subst hqp
      exact absurd (hold r hrp hr) (hnew hq ▸ Nat.lt_irrefl _)
    · subst hrp
      exact absurd (hold q hqp hq) (hnew hr ▸ Nat.lt_irrefl _)
    · rw [Function.update_of_ne hqp] at hq
      rw [Function.update_of_ne hrp] at hr
      exact fs.single q r n hq hr

/-- `open(2)` with `O_CREAT | O_TRUNC`: the handle, and the file system with the file empty. -/
def Fs.create (fs : Fs π β) (p : π) : Nat × Fs π β :=
  match fs.entry p with
  | some n => (n, fs.put n [])
  | none => (fs.next, fs.add p)

/-- Bytes at an offset; a hole before them reads as zeros. -/
def overlay [Inhabited β] (old : List β) (offset : Nat) (bytes : List β) : List β :=
  old.take offset ++ List.replicate (offset - old.length) default ++ bytes ++
    old.drop (offset + bytes.length)

/-- `write(2)` through a handle that stands at the offset. -/
def Fs.writeAt [Inhabited β] (fs : Fs π β) (handle offset : Nat) (bytes : List β) : Fs π β :=
  fs.put handle (overlay (fs.data handle) offset bytes)

/-- An entry is taken away. -/
def Fs.drop (fs : Fs π β) (p : π) : Fs π β :=
  { fs with
    entry := Function.update fs.entry p none
    bounded := by
      intro q n h
      by_cases hq : q = p
      · subst hq
        simp at h
      · exact fs.bounded q n (by rwa [Function.update_of_ne hq] at h)
    single := by
      intro q r n hq hr
      have hne : ∀ x, Function.update fs.entry p none x = some n → fs.entry x = some n := by
        intro x hx
        by_cases hxp : x = p
        · subst hxp
          simp at hx
        · rwa [Function.update_of_ne hxp] at hx
      exact fs.single q r n (hne q hq) (hne r hr) }

/-- `unlink(2)`; fails if there is no entry. -/
def Fs.unlink (fs : Fs π β) (p : π) : Option (Fs π β) :=
  match fs.entry p with
  | some _ => some (fs.drop p)
  | none => none

/-- The entry of a file is moved, over whatever was there. -/
def Fs.move (fs : Fs π β) (p q : π) (n : Nat) (hp : fs.entry p = some n) : Fs π β where
  entry := Function.update (Function.update fs.entry p none) q (some n)
  data := fs.data
  next := fs.next
  bounded := by
    intro r m h
    by_cases hr : r = q
    · subst hr
      rw [Function.update_self] at h
      cases h
      exact fs.bounded p n hp
    · rw [Function.update_of_ne hr] at h
      exact (fs.drop p).bounded r m h
  single := by
    -- the moved file has no entry but the new one
    have hgone : ∀ x, (fs.drop p).entry x ≠ some n := by
      intro x hx
      by_cases hxp : x = p
      · subst hxp
        simp [Fs.drop] at hx
      · exact hxp (fs.single x p n ((Function.update_of_ne hxp _ _).symm.trans hx) hp)
    intro r s m hr hs
    by_cases hrq : r = q <;> by_cases hsq : s = q
    · rw [hrq, hsq]
    · subst hrq
      rw [Function.update_self] at hr
      cases hr
      rw [Function.update_of_ne hsq] at hs
      exact absurd hs (hgone s)
    · subst hsq
      rw [Function.update_self] at hs
      cases hs
      rw [Function.update_of_ne hrq] at hr
      exact absurd hr (hgone r)
    · rw [Function.update_of_ne hrq] at hr
      rw [Function.update_of_ne hsq] at hs
      exact (fs.drop p).single r s m hr hs

/-- `rename(2)`; fails if there is nothing to rename. -/
def Fs.rename (fs : Fs π β) (p q : π) : Option (Fs π β) :=
  match h : fs.entry p with
  | some n => if p = q then some fs else some (fs.move p q n h)
  | none => none

end Operations

/-! ## What an operation leaves alone -/

/-- The entry and the file behind it are as they were. -/
def Same (fs fs' : Fs π β) (p : π) : Prop :=
  fs'.entry p = fs.entry p ∧ ∀ n, fs.entry p = some n → fs'.data n = fs.data n

lemma Same.refl (fs : Fs π β) (p : π) : Same fs fs p := ⟨rfl, fun _ _ => rfl⟩

variable {p : π}

/-- A file stays when another one is written. -/
lemma same_put {fs : Fs π β} {n : Nat} {bytes : List β} (h : fs.entry p ≠ some n) :
    Same fs (fs.put n bytes) p := by
  refine ⟨rfl, fun m hm => Function.update_of_ne ?_ _ _⟩
  rintro rfl
  exact h hm

/-- Writing on at the end appends. -/
lemma data_writeAt_length [Inhabited β] (fs : Fs π β) (n : Nat) (bytes : List β) :
    (fs.writeAt n (fs.data n).length bytes).data n = fs.data n ++ bytes := by
  have hrest : (fs.data n).drop ((fs.data n).length + bytes.length) = [] :=
    List.drop_eq_nil_of_le (Nat.le_add_right _ _)
  refine (Function.update_self _ _ _).trans ?_
  rw [overlay, List.take_length, Nat.sub_self, List.replicate_zero, List.append_nil, hrest,
    List.append_nil]

section Frames

variable [DecidableEq π]

variable {fs : Fs π β}

lemma same_add {p q : π} (h : q ≠ p) : Same fs (fs.add p) q := by
  refine ⟨Function.update_of_ne h _ _, fun n hn => Function.update_of_ne ?_ _ _⟩
  exact Nat.ne_of_lt (fs.bounded q n hn)

lemma same_create {p q : π} (h : q ≠ p) : Same fs (fs.create p).2 q := by
  unfold Fs.create
  split
  next n hp => exact same_put fun hq => h (fs.single q p n hq hp)
  next => exact same_add h

lemma same_drop {p q : π} (h : q ≠ p) : Same fs (fs.drop p) q :=
  ⟨Function.update_of_ne h _ _, fun _ _ => rfl⟩

lemma same_unlink {fs' : Fs π β} {p q : π} (h : q ≠ p) (hu : fs.unlink p = some fs') :
    Same fs fs' q := by
  unfold Fs.unlink at hu
  split at hu
  next => cases hu; exact same_drop h
  next => cases hu

lemma same_rename {fs' : Fs π β} {p q r : π} (hp : r ≠ p) (hq : r ≠ q)
    (hr : fs.rename p q = some fs') : Same fs fs' r := by
  unfold Fs.rename at hr
  split at hr
  next n h =>
    split_ifs at hr
    · cases hr
      exact Same.refl fs r
    · cases hr
      refine ⟨?_, fun _ _ => rfl⟩
      exact (Function.update_of_ne hq _ _).trans (Function.update_of_ne hp _ _)
  next => cases hr

/-! ## What an operation does -/

/-- The file that was created is at its path, and empty. -/
lemma create_spec (fs : Fs π β) (p : π) :
    (fs.create p).2.entry p = some (fs.create p).1 ∧ (fs.create p).2.data (fs.create p).1 = [] := by
  unfold Fs.create
  split
  next n hp => exact ⟨hp, Function.update_self _ _ _⟩
  next => exact ⟨Function.update_self _ _ _, Function.update_self _ _ _⟩

lemma rename_spec {fs' : Fs π β} {p q : π} {n : Nat} (hp : fs.entry p = some n)
    (h : fs.rename p q = some fs') : fs'.entry q = some n ∧ fs'.data n = fs.data n := by
  unfold Fs.rename at h
  split at h
  next m hm =>
    cases hp.symm.trans hm
    split_ifs at h with hpq
    · cases h
      exact ⟨hpq ▸ hp, rfl⟩
    · cases h
      exact ⟨Function.update_self _ _ _, rfl⟩
  next => cases h

end Frames

end Files
