import Qarax.Core.Sorted
import Qarax.Core.Tokens
import Qarax.Node.Networking.Validate

/-!
# `cpu_list.rs`, `host_numa.rs`: lists of CPUs as texts

The CPUs of a NUMA node are stored as a text: every number when the host is initialised, ranges
from `expand_cpu_list_to_string`.  `expand_cpu_list` reads both.
-/

namespace Qarax.CpuList

/-- `str::parse::<i32>`. -/
def parseI32 : List Char → Option Int
  | '-' :: ds => (parseDigits ds).bind fun n => if n ≤ 2 ^ 31 then some (-n) else none
  | '+' :: ds | ds => (parseDigits ds).bind fun n => if n < 2 ^ 31 then some n else none

/-- `s..=e` -/
def upTo (s e : Int) : List Int := (List.range (e + 1 - s).toNat).map fun i : ℕ => s + i

/-- What one part of the text adds to the list. -/
def expandPart (part : List Char) : List Int :=
  let part := Tokens.trim isWhitespace part
  if part = [] then []
  else match Tokens.splitOnce '-' part with
    | some (start, stop) => match parseI32 start, parseI32 stop with
      | some s, some e => upTo s e
      | _, _ => []
    | none => (parseI32 part).toList

def expandCpuList (cpuList : String) : List Int :=
  ((cpuList.toList.splitOn ',').flatMap expandPart).insertionSort (· ≤ ·)

/-- `to_string` of an `i32`. -/
def render (c : Int) : List Char := if c < 0 then '-' :: Nat.toDigits 10 (-c).toNat
  else Nat.toDigits 10 c.toNat

def renderRange (start stop : Int) : List Char :=
  if start = stop then render start else render start ++ '-' :: render stop

/-- The loop over the CPUs after the first.  `end + 1` must not overflow. -/
def ranges (start stop : Int) : List Int → Option (List (List Char))
  | [] => some [renderRange start stop]
  | cpu :: rest =>
    if stop + 1 = 2 ^ 31 then none
    else if cpu = stop + 1 then ranges start cpu rest
    else (ranges cpu cpu rest).map (renderRange start stop :: ·)

/-- `join(",")` -/
def join (parts : List (List Char)) : String := String.ofList ([','].intercalate parts)

def expandCpuListToString (cpus : List Int) : Option String :=
  match (cpus.insertionSort (· ≤ ·)).dedup with
  | [] => some ""
  | first :: rest => (ranges first first rest).map join

/-- The text that `init` stores. -/
def plainCpuList (cpus : List Int) : String := join (cpus.map render)

/-! ## Reading what was written -/

/-- The parts of a text that have no separator in them. -/
lemma expandCpuList_join {parts : List (List Char)} (h : ∀ p ∈ parts, ',' ∉ p) :
    expandCpuList (join parts) = (parts.flatMap expandPart).insertionSort (· ≤ ·) := by
  rcases eq_or_ne parts [] with rfl | hne
  · decide
  · rw [expandCpuList, join, String.toList_ofList, List.splitOn_intercalate _ h hne]

/-- A CPU as the texts name it. -/
def IsCpu (c : Int) : Prop := 0 ≤ c ∧ c < 2 ^ 31

variable {c start stop : Int}

lemma render_cpu (hc : IsCpu c) : render c = Nat.toDigits 10 c.toNat := if_neg (not_lt.2 hc.1)

lemma render_ne_nil (hc : IsCpu c) : render c ≠ [] := by
  rw [render_cpu hc]
  exact Nat.toDigits_ne_nil

lemma isDigit_of_mem_render (hc : IsCpu c) : ∀ x ∈ render c, x.isDigit = true := by
  intro x hx
  rw [render_cpu hc] at hx
  exact Nat.isDigit_of_mem_toDigits (by decide) le_rfl hx

lemma parseI32_render (hc : IsCpu c) : parseI32 (render c) = some c := by
  have hdigits := isDigit_of_mem_render hc
  have hparse : parseDigits (render c) = some c.toNat := by
    rw [parseDigits_eq, if_pos ⟨render_ne_nil hc, List.all_eq_true.2 hdigits⟩, render_cpu hc,
      Nat.ofDigitChars_ten_toDigits]
  unfold parseI32
  split <;> rename_i heq
  · simp [heq] at hdigits
  · simp [heq] at hdigits
  · have hlt : c.toNat < 2 ^ 31 := by have := hc.2; omega
    rw [hparse, Option.bind_some, if_pos hlt, Int.toNat_of_nonneg hc.1]

lemma trim_letters {part : List Char} (h : ∀ x ∈ part, x.isDigit = true ∨ x = '-') :
    Tokens.trim isWhitespace part = part := by
  have hspace : ∀ x ∈ part, isWhitespace x = false := by
    intro x hx
    rcases h x hx with hd | rfl
    · have hnat : 48 ≤ x.toNat ∧ x.toNat ≤ 57 := by
        simpa [Char.isDigit, UInt32.le_iff_toNat_le] using hd
      simp only [isWhitespace, Bool.or_eq_false_iff, Bool.and_eq_false_iff, decide_eq_false_iff_not,
        beq_eq_false_iff_ne]
      omega
    · decide
  rw [Tokens.trim, List.dropWhile_eq_self_iff.2 fun _ => by simp [hspace],
    List.rdropWhile_eq_self_iff]
  simp [hspace]

@[simp] lemma upTo_self (s : Int) : upTo s s = [s] := by simp [upTo]

lemma upTo_succ (h : start ≤ stop) : upTo start (stop + 1) = upTo start stop ++ [stop + 1] := by
  have hlen : (stop + 1 + 1 - start).toNat = (stop + 1 - start).toNat + 1 := by omega
  have hlast : start + ((stop + 1 - start).toNat : Int) = stop + 1 := by omega
  rw [upTo, hlen, List.range_succ, List.map_append, List.map_singleton, hlast]
  rfl

lemma expandPart_renderRange (hs : IsCpu start) (he : IsCpu stop) :
    expandPart (renderRange start stop) = upTo start stop ∧ ',' ∉ renderRange start stop := by
  have hdash : '-' ∉ render start := fun h => by simpa using isDigit_of_mem_render hs _ h
  have hletters : ∀ x ∈ renderRange start stop, x.isDigit = true ∨ x = '-' := by
    intro x hx
    rw [renderRange] at hx
    split_ifs at hx
    · exact .inl (isDigit_of_mem_render hs x hx)
    · rcases List.mem_append.1 hx with hx | hx
      · exact .inl (isDigit_of_mem_render hs x hx)
      · exact (List.mem_cons.1 hx).elim .inr fun hx => .inl (isDigit_of_mem_render he x hx)
  refine ⟨?_, fun h => by simpa using hletters _ h⟩
  simp only [expandPart, trim_letters hletters]
  rcases eq_or_ne start stop with rfl | hne
  · simp [renderRange, render_ne_nil hs, Tokens.splitOnce_eq_none.2 hdash, parseI32_render hs]
  · simp [renderRange, hne, Tokens.splitOnce_append hdash, parseI32_render hs, parseI32_render he]

lemma ranges_eq : ∀ {rest : List Int} {start stop : Int}, IsCpu start → start ≤ stop →
    (stop :: rest).Pairwise (· < ·) → (∀ c ∈ stop :: rest, IsCpu c) →
    ∃ parts, ranges start stop rest = some parts ∧ (∀ p ∈ parts, ',' ∉ p) ∧
      parts.flatMap expandPart = upTo start stop ++ rest
  | [], start, stop, hs, hle, _, hcpu => by
      have h := expandPart_renderRange hs (hcpu stop List.mem_cons_self)
      exact ⟨_, rfl, by simpa using h.2, by simp [h.1]⟩
  | cpu :: rest, start, stop, hs, hle, hlt, hcpu => by
      obtain ⟨hstop, hrest⟩ := List.forall_mem_cons.1 hcpu
      obtain ⟨hlt, hpair⟩ := List.pairwise_cons.1 hlt
      have hnext := hlt cpu List.mem_cons_self
      have hmax := (hrest cpu List.mem_cons_self).2
      simp only [ranges, if_neg (show stop + 1 ≠ 2 ^ 31 by omega)]
      split_ifs with heq
      · obtain ⟨parts, hparts, hsep, hflat⟩ := ranges_eq hs (by omega) hpair hrest
        refine ⟨parts, hparts, hsep, hflat.trans ?_⟩
        rw [heq, upTo_succ hle, List.append_assoc]
        rfl
      · obtain ⟨parts, hparts, hsep, hflat⟩ :=
          ranges_eq (hrest cpu List.mem_cons_self) le_rfl hpair hrest
        obtain ⟨hpart, hcomma⟩ := expandPart_renderRange hs hstop
        refine ⟨_, by rw [hparts]; rfl, List.forall_mem_cons.2 ⟨hcomma, hsep⟩, ?_⟩
        rw [List.flatMap_cons, hpart, hflat, upTo_self]
        rfl

lemma dedup_insertionSort (xs : List Int) :
    (xs.insertionSort (· ≤ ·)).dedup = Sorted.set xs := by
  refine List.Perm.eq_of_pairwise (fun a b _ _ => le_antisymm)
    ((List.pairwise_insertionSort _ _).sublist (List.dedup_sublist _)) (Sorted.sorted_set xs) ?_
  rw [List.perm_ext_iff_of_nodup (List.nodup_dedup _) (Sorted.nodup_set xs)]
  simp

/-- **CPU lists are read back**: from ranges in order and without repetition, and from the stored
numbers as the same set. -/
theorem cpuList_round_trip {xs : List Int} (h : ∀ c ∈ xs, 0 ≤ c ∧ c < 2 ^ 31) :
    (∃ text, expandCpuListToString xs = some text ∧ expandCpuList text = Sorted.set xs) ∧
      ∀ c, c ∈ expandCpuList (plainCpuList xs) ↔ c ∈ xs := by
  refine ⟨?_, fun c => ?_⟩
  · have hsorted := Sorted.insertionSort_set xs
    have hlt := Sorted.strict_set xs
    have hcpu : ∀ c ∈ Sorted.set xs, IsCpu c := fun c hc => h c (Sorted.mem_set.1 hc)
    simp only [expandCpuListToString, dedup_insertionSort]
    cases hset : Sorted.set xs with
    | nil => exact ⟨_, rfl, by decide⟩
    | cons first rest =>
      rw [hset] at hlt hcpu hsorted
      obtain ⟨parts, hparts, hsep, hflat⟩ :=
        ranges_eq (hcpu first List.mem_cons_self) le_rfl hlt hcpu
      rw [upTo_self] at hflat
      refine ⟨join parts, congrArg (Option.map join) hparts, ?_⟩
      rw [expandCpuList_join hsep, hflat]
      exact hsorted
  · have hpart : ∀ c ∈ xs, expandPart (render c) = [c] ∧ ',' ∉ render c := fun c hc => by
      simpa [renderRange] using expandPart_renderRange (h c hc) (h c hc)
    rw [plainCpuList, expandCpuList_join (List.forall_mem_map.2 fun c hc => (hpart c hc).2),
      List.mem_insertionSort, List.flatMap_map, List.flatMap_congr fun c hc => (hpart c hc).1]
    simp

theorem cpuList_round_trip_max :
    expandCpuListToString [5, 2147483647, 3, 4, 5] = some "3-5,2147483647" ∧
      expandCpuList "3-5,2147483647" = [3, 4, 5, 2147483647] := by
  obtain ⟨⟨text, htext, hread⟩, -⟩ := @cpuList_round_trip [5, 2147483647, 3, 4, 5] (by decide)
  have heq : expandCpuListToString [5, 2147483647, 3, 4, 5] = some "3-5,2147483647" := by
    decide +kernel
  obtain rfl : "3-5,2147483647" = text := Option.some.inj (heq.symm.trans htext)
  exact ⟨heq, hread⟩

end Qarax.CpuList
