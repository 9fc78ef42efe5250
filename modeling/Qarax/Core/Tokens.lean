import Mathlib.Data.List.DropRight
import Mathlib.Data.List.Infix
import Mathlib.Tactic.Common

/-!
# Searching a line of separated tokens

Tools print records as lines of tokens joined by one separator, and programs search such lines for
a pattern that itself spans a separator.  What the pattern finds is then two adjacent tokens: it
ends the first and starts the second.

* `Tokens.line` — the joined text.
* `Tokens.Follows a b ts` — a token that ends in `a` is directly followed by one that starts with
  `b`.
* `Tokens.infix_line_iff` — searching the text for `a`, separator, `b` is `Follows`.
* `Tokens.follows_options` — in a list of flags with values, only a flag and its value can be
  found, provided that the second half of the pattern does not look like a flag.
* `Tokens.splitOnce`, `Tokens.rsplitOnce` — a text taken apart at its first or last separator.
* `Tokens.trim` — a text without what is at its ends.
-/

namespace Tokens

variable {α : Type}

/-- The tokens joined by the separator. -/
def line (sep : α) : List (List α) → List α
  | [] => []
  | [t] => t
  | t :: t' :: ts => t ++ sep :: line sep (t' :: ts)

/-- Some token ends in `a` and the next one starts with `b`. -/
def Follows (a b : List α) : List (List α) → Prop
  | t :: t' :: ts => (a <:+ t ∧ b <+: t') ∨ Follows a b (t' :: ts)
  | _ => False

variable {sep : α} {a b : List α}

variable {t : List α} {ts : List (List α)}

/-- The first token of a line is what is before the first separator. -/
lemma append_sep_inj {t' r r' : List α} (ht : sep ∉ t) (ht' : sep ∉ t')
    (h : t ++ sep :: r = t' ++ sep :: r') : t = t' ∧ r = r' := by
  rcases List.append_eq_append_iff.1 h with ⟨c, hc, hr⟩ | ⟨c, hc, hr⟩
  all_goals
    cases c with
    | nil => simp_all
    | cons x c =>
      simp only [List.cons_append, List.cons.injEq] at hr
      simp_all

/-- The first half of a pattern without separators, found across the end of a token. -/
lemma append_cons_eq_iff {r u v : List α} (ha : sep ∉ a) (ht : sep ∉ t)
    (h : u ++ (a ++ sep :: b) ++ v = t ++ sep :: r) :
    (u ++ a = t ∧ b ++ v = r) ∨ ∃ w, r = w ++ (a ++ sep :: b) ++ v := by
  have h' : (u ++ a) ++ sep :: (b ++ v) = t ++ sep :: r := by simpa using h
  rcases List.append_eq_append_iff.1 h' with ⟨c, hc, hr⟩ | ⟨c, hc, hr⟩
  · cases c with
    | nil => simp_all
    | cons x c =>
      simp only [List.cons_append, List.cons.injEq] at hr
      exact absurd (by simp [hc, ← hr.1]) ht
  · cases c with
    | nil => simp_all
    | cons x c =>
      simp only [List.cons_append, List.cons.injEq] at hr
      obtain ⟨rfl, rfl⟩ := hr
      rcases List.append_eq_append_iff.1 hc with ⟨d, -, hd⟩ | ⟨d, -, hd⟩
      · exact absurd (by simp [hd]) ha
      · cases d with
        | nil =>
          rw [List.nil_append] at hd
          exact absurd (by simp [← hd]) ha
        | cons y d =>
          simp only [List.cons_append, List.cons.injEq] at hd
          exact .inr ⟨d, by simp [hd.2]⟩

/-- A pattern without separators at the front of a line is at the front of its first token. -/
lemma isPrefix_line_iff (hb : sep ∉ b) :
    b <+: line sep (t :: ts) ↔ b <+: t := by
  cases ts with
  | nil => rfl
  | cons t' ts =>
    rw [line]
    constructor
    · rintro ⟨v, hv⟩
      rcases List.append_eq_append_iff.1 hv with ⟨c, hc, -⟩ | ⟨c, hc, hr⟩
      · exact ⟨c, hc.symm⟩
      · cases c with
        | nil => exact ⟨[], by simpa using hc⟩
        | cons x c =>
          simp only [List.cons_append, List.cons.injEq] at hr
          exact absurd (by simp [hc, ← hr.1]) hb
    · exact fun h => h.trans (List.prefix_append _ _)

/-- **Searching a line for a pattern that spans one separator** finds two adjacent tokens. -/
theorem infix_line_iff (ha : sep ∉ a) (hb : sep ∉ b) :
    ∀ {ts : List (List α)}, (∀ t ∈ ts, sep ∉ t) →
      ((a ++ sep :: b) <:+: line sep ts ↔ Follows a b ts)
  | [], _ => by simp [line, Follows]
  | [t], h => by
      simp only [line, Follows, iff_false]
      intro hi
      exact h t (by simp) (hi.subset (by simp))
  | t :: t' :: ts, h => by
      have ih : (a ++ sep :: b) <:+: line sep (t' :: ts) ↔ Follows a b (t' :: ts) :=
        infix_line_iff ha hb fun x hx => h x (by simp_all)
      rw [Follows, ← ih, line]
      constructor
      · rintro ⟨u, v, huv⟩
        rcases append_cons_eq_iff ha (h t (by simp)) huv with ⟨h₁, h₂⟩ | ⟨w, hw⟩
        · exact .inl ⟨⟨u, h₁⟩, (isPrefix_line_iff hb).1 ⟨v, h₂⟩⟩
        · exact .inr ⟨w, v, hw.symm⟩
      · rintro (⟨⟨u, hu⟩, hp⟩ | hi)
        · obtain ⟨v, hv⟩ : b <+: line sep (t' :: ts) := (isPrefix_line_iff hb).2 hp
          exact ⟨u, v, by simp [← hu, ← hv]⟩
        · exact hi.trans ⟨t ++ [sep], [], by simp⟩

/-- Lines are joined as their tokens are. -/
lemma line_append (hts : ts ≠ []) :
    ∀ {us : List (List α)}, us ≠ [] → line sep (us ++ ts) = line sep us ++ sep :: line sep ts
  | [u], _ => by
      cases ts with
      | nil => exact absurd rfl hts
      | cons t ts => rfl
  | u :: u' :: us, _ => by
      have ih : line sep ((u' :: us) ++ ts) = line sep (u' :: us) ++ sep :: line sep ts :=
        line_append hts (List.cons_ne_nil u' us)
      rw [List.cons_append] at ih
      rw [List.cons_append, List.cons_append, line, ih, line]
      simp

/-- Adjacent tokens are found together. -/
lemma line_infix {us : List (List α)} (hts : ts ≠ []) (h : ts <:+: us) :
    line sep ts <:+: line sep us := by
  obtain ⟨xs, ys, rfl⟩ := h
  have hmid : line sep ts <:+: line sep (ts ++ ys) := by
    cases ys with
    | nil => rw [List.append_nil]
    | cons y ys => exact ⟨[], _, (line_append (List.cons_ne_nil y ys) hts).symm⟩
  cases xs with
  | nil => exact hmid
  | cons x xs =>
    rw [List.append_assoc, line_append (by simp [hts]) (List.cons_ne_nil x xs)]
    exact hmid.trans ⟨line sep (x :: xs) ++ [sep], [], by simp⟩

/-! ## Flags and values -/

/-- Flags with the value each group of them takes, as they stand in the line. -/
def options (os : List (List (List α) × List α)) : List (List α) :=
  os.flatMap fun o => o.1 ++ [o.2]

lemma follows_cons_not (h : ∀ t' ∈ ts.head?, ¬ b <+: t') :
    Follows a b (t :: ts) ↔ Follows a b ts := by
  cases ts with
  | nil => simp [Follows]
  | cons t' ts => simp [Follows, h t' (by simp)]

/-- Flags that do not look like the second half of the pattern: only the last one of the group can
be found, with the value. -/
lemma follows_flags {v : List α} {rest : List (List α)} (hv : ∀ t ∈ rest.head?, ¬ b <+: t) :
    ∀ {fs : List (List α)} {f : List α}, (∀ t ∈ fs ++ [f], ¬ b <+: t) →
      (Follows a b (fs ++ [f] ++ v :: rest) ↔ (a <:+ f ∧ b <+: v) ∨ Follows a b rest)
  | [], f, _ => by
      simp only [List.nil_append, List.cons_append, Follows]
      rw [follows_cons_not hv]
  | g :: gs, f, h => by
      rw [List.cons_append, List.cons_append, follows_cons_not, follows_flags hv]
      · exact fun t ht => h t (by simp_all)
      · intro t ht
        refine h t ?_
        cases gs <;> simp_all

/-- **Only a flag and its own value can be found** when no flag starts like the second half of the
pattern. -/
theorem follows_options : ∀ {os : List (List (List α) × List α)},
    (∀ o ∈ os, o.1 ≠ []) → (∀ o ∈ os, ∀ f ∈ o.1, ¬ b <+: f) →
      (Follows a b (options os) ↔ ∃ o ∈ os, ∃ f ∈ o.1.getLast?, a <:+ f ∧ b <+: o.2)
  | [], _, _ => by simp [options, Follows]
  | (fs, v) :: os, hne, h => by
      have ih : Follows a b (options os) ↔ ∃ o ∈ os, ∃ f ∈ o.1.getLast?, a <:+ f ∧ b <+: o.2 :=
        follows_options (fun o ho => hne o (by simp [ho])) (fun o ho => h o (by simp [ho]))
      have hrest : ∀ t ∈ (options os).head?, ¬ b <+: t := by
        cases os with
        | nil => simp [options]
        | cons o os =>
          rcases o with ⟨_ | ⟨f, fs'⟩, v'⟩
          · exact absurd rfl (hne ([], v') (by simp))
          · intro t ht
            refine h (f :: fs', v') (by simp) t ?_
            simp_all [options]
      have hfs : fs ≠ [] := hne (fs, v) (by simp)
      have hlast := List.dropLast_append_getLast hfs
      have step : Follows a b (fs.dropLast ++ [fs.getLast hfs] ++ v :: options os) ↔
          (a <:+ fs.getLast hfs ∧ b <+: v) ∨ Follows a b (options os) :=
        follows_flags hrest (by rw [hlast]; exact h (fs, v) (by simp))
      rw [hlast] at step
      have hcons : options ((fs, v) :: os) = fs ++ v :: options os := by simp [options]
      rw [hcons, step, ih]
      simp [List.getLast?_eq_getLast_of_ne_nil hfs]

/-! ## Splitting once -/

section SplitOnce

variable [DecidableEq α]

/-- What is before and after the first separator. -/
def splitOnce (sep : α) : List α → Option (List α × List α)
  | [] => none
  | x :: xs => if x = sep then some ([], xs) else (splitOnce sep xs).map fun p => (x :: p.1, p.2)

/-- What is before and after the last separator. -/
def rsplitOnce (sep : α) (l : List α) : Option (List α × List α) :=
  (splitOnce sep l.reverse).map fun p => (p.2.reverse, p.1.reverse)

lemma splitOnce_eq_none : ∀ {l : List α}, splitOnce sep l = none ↔ sep ∉ l
  | [] => by simp [splitOnce]
  | x :: xs => by
      have ih : splitOnce sep xs = none ↔ sep ∉ xs := splitOnce_eq_none
      by_cases hx : x = sep
      · simp [splitOnce, hx]
      · simp [splitOnce, hx, ih, Ne.symm hx]

lemma splitOnce_append {a b : List α} (ha : sep ∉ a) :
    splitOnce sep (a ++ sep :: b) = some (a, b) := by
  induction a with
  | nil => simp [splitOnce]
  | cons x xs ih =>
    simp only [List.mem_cons, not_or] at ha
    simp [splitOnce, Ne.symm ha.1, ih ha.2]

lemma splitOnce_eq_some {l a b : List α} :
    splitOnce sep l = some (a, b) ↔ l = a ++ sep :: b ∧ sep ∉ a := by
  constructor
  · intro h
    induction l generalizing a with
    | nil => cases h
    | cons x xs ih =>
      by_cases hx : x = sep
      · simp only [splitOnce, hx, if_true, Option.some_inj, Prod.mk.injEq] at h
        obtain ⟨rfl, rfl⟩ := h
        simp [hx]
      · simp only [splitOnce, hx, if_false, Option.map_eq_some_iff, Prod.exists] at h
        obtain ⟨a, b, hxs, heq⟩ := h
        obtain ⟨rfl, rfl⟩ := Prod.mk.inj heq
        obtain ⟨rfl, ha⟩ := ih hxs
        exact ⟨rfl, by simp [Ne.symm hx, ha]⟩
  · rintro ⟨rfl, ha⟩
    exact splitOnce_append ha

lemma rsplitOnce_eq_none {l : List α} : rsplitOnce sep l = none ↔ sep ∉ l := by
  simp [rsplitOnce, splitOnce_eq_none]

lemma rsplitOnce_append {a b : List α} (hb : sep ∉ b) :
    rsplitOnce sep (a ++ sep :: b) = some (a, b) := by
  have h : splitOnce sep (b.reverse ++ sep :: a.reverse) = some (b.reverse, a.reverse) :=
    splitOnce_append (by simpa using hb)
  simp [rsplitOnce, h]

lemma rsplitOnce_eq_some {l a b : List α} (h : rsplitOnce sep l = some (a, b)) :
    l = a ++ sep :: b ∧ sep ∉ b := by
  obtain ⟨⟨b', a'⟩, hsplit, heq⟩ := Option.map_eq_some_iff.1 h
  obtain ⟨rfl, rfl⟩ := Prod.mk.inj heq
  obtain ⟨hl, hb⟩ := splitOnce_eq_some.1 hsplit
  exact ⟨by simpa using congrArg List.reverse hl, by simpa using hb⟩

end SplitOnce

/-! ## Trimming -/

section Trim

variable {β : Type} {p : α → Bool}

/-- Without the letters of that kind at both ends. -/
def trim (p : α → Bool) (text : List α) : List α := (text.dropWhile p).rdropWhile p

lemma trim_map {q : β → Bool} {f : α → β} (hf : ∀ a, q (f a) = p a) (text : List α) :
    trim q (text.map f) = (trim p text).map f := by
  have hcomp : q ∘ f = p := funext hf
  rw [trim, trim, List.dropWhile_map, hcomp, List.rdropWhile, List.rdropWhile, ← List.map_reverse,
    List.dropWhile_map, hcomp, ← List.map_reverse]

@[simp] lemma trim_trim (text : List α) : trim p (trim p text) = trim p text := by
  have hhead : (trim p text).dropWhile p = trim p text := by
    refine List.dropWhile_eq_self_iff.2 fun hlt => ?_
    obtain ⟨rest, hrest⟩ : trim p text <+: text.dropWhile p := List.rdropWhile_prefix p _
    have hlt' : 0 < (text.dropWhile p).length := by
      rw [← hrest, List.length_append]
      omega
    have hsame : (text.dropWhile p)[0] = (trim p text)[0] := by
      simp only [← hrest, List.getElem_append_left hlt]
    rw [← hsame]
    exact List.dropWhile_get_zero_not p text hlt'
  rw [trim, hhead, trim, List.rdropWhile_idempotent]

end Trim

end Tokens
