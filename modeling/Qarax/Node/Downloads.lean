import Qarax.Core.Files
import Qarax.Core.Interleave

/-!
# Downloads side by side

`do_download` writes what it fetches to a temporary file next to the destination and renames it when
all is written; on a failure it removes the temporary file.  The temporary file has the name of the
destination, with its extension replaced by `tmp`.

A path is the directory that it leads to and the component in it with which its text ends, so that
whatever directories are named alike or reached through links is settled before.

* `fileStem`, `withExtension` — of `std::path`.
* `Download.next` — the statements of `do_download`, each of which may fail.
* `Independent` — two downloads deliver, and keep their hands off each other's files, in every
  interleaving.
* `downloads_independent_iff` — exactly the downloads whose temporary files, where they can be
  created at all, are neither one file nor a destination of the other are independent.
* `atomic_iff` — a download replaces its destination at once unless it is its own temporary file.
-/

namespace Qarax.Transfer

open Machine Interleave Files

/-! ## Paths

The temporary file is a file only if its path ends in a name.  `..` leads to a directory, in which
`File::create` fails. -/

/-- `Path::file_stem`: the name up to its last dot, unless that is its beginning. -/
def fileStem (name : String) : String :=
  let before := ((name.toList.reverse.dropWhile (· != '.')).drop 1).reverse
  if name = ".." ∨ before = [] then name else String.ofList before

/-- **`Path::with_extension`**.  It cuts off the extension but not the dot, and sets the new one on
what is left.  Of `..a` that is `..`, which has no file name and stays as it is. -/
def withExtension (name extension : String) : String :=
  if name = ".." ∨ fileStem name = "." then ".." else fileStem name ++ "." ++ extension

example : ["disk.qcow2", "disk", ".hidden", "a.b.c", "..a", ".."].map (withExtension · "tmp") =
    ["disk.tmp", "disk.tmp", ".hidden.tmp", "a.b.tmp", "..", ".."] := by decide

/-- The last of the components of a path, which leave out empty names and `.`. -/
def isComponent (name : String) : Bool := name ≠ "" && name ≠ "." && '/' ∉ name.toList

structure FilePath (δ : Type) where
  dir : δ
  name : String
  component : isComponent name = true
  deriving DecidableEq

lemma mem_of_mem_fileStem {name : String} {c : Char} (h : c ∈ (fileStem name).toList) :
    c ∈ name.toList := by
  simp only [fileStem] at h
  split_ifs at h
  · exact h
  · rw [String.toList_ofList, List.mem_reverse] at h
    exact List.mem_reverse.1 ((List.dropWhile_sublist _).mem (List.mem_of_mem_drop h))

lemma isComponent_withExtension {name : String} (h : isComponent name = true) :
    isComponent (withExtension name "tmp") = true := by
  unfold withExtension
  split_ifs
  · decide
  · simp only [isComponent, Bool.and_eq_true, decide_eq_true_eq] at h ⊢
    have hlen : (fileStem name ++ "." ++ "tmp").length = (fileStem name).length + 1 + 3 := by
      rw [String.length_append, String.length_append]
      rfl
    refine ⟨⟨fun heq => ?_, fun heq => ?_⟩, fun hmem => h.2 (mem_of_mem_fileStem ?_)⟩
    · rw [heq] at hlen
      cases hlen
    · rw [heq] at hlen
      cases hlen
    · simpa using hmem

variable {δ : Type} [DecidableEq δ]

/-- `dest.with_extension("tmp")` -/
def FilePath.tmp (dest : FilePath δ) : FilePath δ :=
  ⟨dest.dir, withExtension dest.name "tmp", isComponent_withExtension dest.component⟩

/-- A directory, whatever is on the disk. -/
def FilePath.isParent (path : FilePath δ) : Bool := path.name = ".."

omit [DecidableEq δ] in
lemma FilePath.isParent_tmp {path : FilePath δ} (h : path.isParent = true) :
    path.tmp.isParent = true := by
  simp_all [FilePath.isParent, FilePath.tmp, withExtension]

/-! ## `do_download` -/

abbrev Disk (δ : Type) := Fs (FilePath δ) UInt8

/-- Where a download is; `handle` is that of the temporary file. -/
inductive DownloadAt where
  | createDirAll
  | get
  | createTmp
  | write (handle offset : Nat) (rest : List (List UInt8))
  | rename
  | removeTmp
  | done
  | failed
  deriving DecidableEq

/-- A download, with the chunks of the body that its source sends. -/
structure Download (δ : Type) where
  dest : FilePath δ
  chunks : List (List UInt8)
  pc : DownloadAt

/-- What a statement comes to.  A write that fails may have written a part. -/
inductive IoResult where
  | ok
  | err (written : Nat)

namespace Download

def start (dest : FilePath δ) (chunks : List (List UInt8)) : Download δ :=
  ⟨dest, chunks, .createDirAll⟩

def goto (t : Download δ) (pc : DownloadAt) : Download δ := { t with pc }

/-- The next statement. -/
def next (fs : Disk δ) (t : Download δ) (r : IoResult) : Option (Download δ × Disk δ) :=
  match t.pc, r with
  | .createDirAll, .ok => some (t.goto .get, fs)
  | .get, .ok => some (t.goto .createTmp, fs)
  | .createTmp, .ok =>
    if t.dest.tmp.isParent then some (t.goto .failed, fs)
    else some (t.goto (.write (fs.create t.dest.tmp).1 0 t.chunks), (fs.create t.dest.tmp).2)
  | .write handle offset (chunk :: rest), .ok =>
    some (t.goto (.write handle (offset + chunk.length) rest), fs.writeAt handle offset chunk)
  | .write handle offset (chunk :: _), .err written =>
    some (t.goto .removeTmp, fs.writeAt handle offset (chunk.take written))
  | .write _ _ [], .ok => some (t.goto .rename, fs)
  | .write _ _ [], .err _ => some (t.goto .removeTmp, fs)
  | .rename, .ok =>
    match fs.rename t.dest.tmp t.dest with
    | some fs' => some (t.goto .done, fs')
    | none => some (t.goto .failed, fs)
  | .removeTmp, .ok => some (t.goto .failed, (fs.unlink t.dest.tmp).getD fs)
  | .createDirAll, .err _ | .get, .err _ | .createTmp, .err _ | .rename, .err _
  | .removeTmp, .err _ => some (t.goto .failed, fs)
  | .done, _ | .failed, _ => none

end Download

/-! ## What a download relies on -/

/-- The temporary file holds what has been written so far, and the destination in the end all. -/
def Download.Holds (fs : Disk δ) (t : Download δ) : Prop :=
  match t.pc with
  | .write handle offset rest => t.dest.tmp.isParent = false ∧ fs.entry t.dest.tmp = some handle ∧
      offset = (fs.data handle).length ∧ fs.data handle ++ rest.flatten = t.chunks.flatten
  | .rename => t.dest.tmp.isParent = false ∧
      ∃ n, fs.entry t.dest.tmp = some n ∧ fs.data n = t.chunks.flatten
  | .removeTmp => t.dest.tmp.isParent = false
  | .done => ∃ n, fs.entry t.dest = some n ∧ fs.data n = t.chunks.flatten
  | _ => True

omit [DecidableEq δ] in
lemma Download.Holds.of_same {fs fs' : Disk δ} {t : Download δ} (htmp : Same fs fs' t.dest.tmp)
    (hdest : Same fs fs' t.dest) (h : t.Holds fs) : t.Holds fs' := by
  unfold Download.Holds at h ⊢
  cases hpc : t.pc with
  | write handle offset rest =>
    rw [hpc] at h
    obtain ⟨hfile, hentry, hoff, hdata⟩ := h
    refine ⟨hfile, by rw [htmp.1, hentry], ?_, ?_⟩ <;> rwa [htmp.2 handle hentry]
  | rename =>
    rw [hpc] at h
    obtain ⟨hfile, n, hentry, hdata⟩ := h
    exact ⟨hfile, n, by rw [htmp.1, hentry], by rw [htmp.2 n hentry, hdata]⟩
  | done =>
    rw [hpc] at h
    obtain ⟨n, hentry, hdata⟩ := h
    exact ⟨n, by rw [hdest.1, hentry], by rw [hdest.2 n hentry, hdata]⟩
  | removeTmp => rwa [hpc] at h
  | _ => trivial

/-- What a statement leaves behind: its download still holds, and other paths are as they were.
Without a temporary file all are. -/
def Download.Kept (fs : Disk δ) (t t' : Download δ) (fs' : Disk δ) : Prop :=
  (t'.dest = t.dest ∧ t'.chunks = t.chunks) ∧ t'.Holds fs' ∧
    ∀ p, (t.dest.tmp.isParent = false → p ≠ t.dest.tmp ∧ p ≠ t.dest) → Same fs fs' p

omit [DecidableEq δ] in
lemma Download.kept_goto {fs : Disk δ} {t : Download δ} {pc : DownloadAt}
    (h : (t.goto pc).Holds fs) : t.Kept fs (t.goto pc) fs :=
  ⟨⟨rfl, rfl⟩, h, fun p _ => Same.refl fs p⟩

lemma Download.kept_next {fs fs' : Disk δ} {t t' : Download δ} {r : IoResult} (h : t.Holds fs)
    (hn : t.next fs r = some (t', fs')) : t.Kept fs t' fs' := by
  unfold Download.Holds at h
  cases hpc : t.pc with
  | createDirAll | get =>
    cases r <;> simp only [Download.next, hpc] at hn <;> cases hn <;> exact kept_goto trivial
  | createTmp =>
    cases r <;> simp only [Download.next, hpc] at hn
    · split_ifs at hn with hfile <;> cases hn
      · exact kept_goto trivial
      · rw [Bool.not_eq_true] at hfile
        obtain ⟨hentry, hdata⟩ := create_spec fs t.dest.tmp
        refine ⟨⟨rfl, rfl⟩, ⟨hfile, hentry, ?_, ?_⟩, fun p hp => same_create (hp hfile).1⟩
        · rw [hdata]
          rfl
        · rw [hdata]
          rfl
    · cases hn
      exact kept_goto trivial
  | write handle offset rest =>
    rw [hpc] at h
    obtain ⟨hfile, hentry, hoff, hdata⟩ := h
    have hsame : ∀ bytes p, (t.dest.tmp.isParent = false → p ≠ t.dest.tmp ∧ p ≠ t.dest) →
        Same fs (fs.writeAt handle offset bytes) p := fun bytes p hp =>
      same_put fun hp' => (hp hfile).1 (fs.single _ _ _ hp' hentry)
    cases rest <;> cases r <;> simp only [Download.next, hpc] at hn <;> cases hn
    · exact kept_goto ⟨hfile, handle, hentry, (List.append_nil _).symm.trans hdata⟩
    · exact kept_goto hfile
    · subst hoff
      refine ⟨⟨rfl, rfl⟩, ⟨hfile, hentry, ?_, ?_⟩, hsame _⟩
      · rw [data_writeAt_length, List.length_append]
      · rw [data_writeAt_length, List.append_assoc]
        exact hdata
    · exact ⟨⟨rfl, rfl⟩, hfile, hsame _⟩
  | rename =>
    rw [hpc] at h
    obtain ⟨hfile, n, hentry, hdata⟩ := h
    cases r <;> simp only [Download.next, hpc] at hn
    · split at hn <;> cases hn
      next hren =>
        obtain ⟨hnew, hsame⟩ := rename_spec hentry hren
        exact ⟨⟨rfl, rfl⟩, ⟨n, hnew, hsame.trans hdata⟩,
          fun p hp => same_rename (hp hfile).1 (hp hfile).2 hren⟩
      next => exact kept_goto trivial
    · cases hn
      exact kept_goto trivial
  | removeTmp =>
    rw [hpc] at h
    cases r <;> simp only [Download.next, hpc] at hn <;> cases hn
    · refine ⟨⟨rfl, rfl⟩, trivial, fun p hp => ?_⟩
      cases hun : fs.unlink t.dest.tmp with
      | none => exact Same.refl fs p
      | some fs₁ => exact same_unlink (hp h).1 hun
    · exact kept_goto trivial
  | done | failed => simp [Download.next, hpc] at hn

/-! ## Two downloads -/

/-- A download that says it is done has left its source's bytes at the destination. -/
def Delivered (fs : Disk δ) (t : Download δ) : Prop :=
  t.pc = .done → fs.read t.dest = some t.chunks.flatten

/-- A file that is there stays there, with what it holds. -/
def Spared (fs fs' : Disk δ) (p : FilePath δ) : Prop :=
  ∀ n, fs.entry p = some n → fs'.entry p = some n ∧ fs'.data n = fs.data n

abbrev Pair (δ : Type) := Pool (Disk δ) (Download δ)

/-- The statements of the downloads, in any order; none is begun in between. -/
def stepDownloads : Pair δ → Act (Download δ) IoResult → Option (Pair δ) :=
  step (fun _ => false) Download.next

/-- **Downloads that are independent**, whatever their sources send and whatever is on the disk. -/
def Independent (dest₁ dest₂ : FilePath δ) : Prop :=
  ∀ fs chunks₁ chunks₂ (p : Pair δ),
    Reach stepDownloads (fun _ _ => True)
      (· = ⟨fs, [.start dest₁ chunks₁, .start dest₂ chunks₂]⟩) p →
    (∀ t ∈ p.tasks, Delivered p.shared t) ∧
    ∀ i r p', stepDownloads p (.run i r) = some p' → ∀ t, Other p i t →
      Spared p.shared p'.shared t.dest ∧ Spared p.shared p'.shared t.dest.tmp

/-- The temporary file of a download to `dest`, if it can be created, is neither the other
destination nor its temporary file. -/
def FilePath.clears (dest other : FilePath δ) : Bool :=
  dest.tmp.isParent || (other.tmp ≠ dest.tmp && other ≠ dest.tmp)

/-- The temporary files are two, and neither is the destination of the other download. -/
def apart (dest₁ dest₂ : FilePath δ) : Bool := dest₁.clears dest₂ && dest₂.clears dest₁

section Pair

variable {dest₁ dest₂ : FilePath δ}

lemma clears_iff : dest₁.clears dest₂ = true ↔
    (dest₁.tmp.isParent = false → dest₂.tmp ≠ dest₁.tmp ∧ dest₂ ≠ dest₁.tmp) := by
  cases h : dest₁.tmp.isParent <;> simp [FilePath.clears, h]

lemma apart_symm (h : apart dest₁ dest₂ = true) : apart dest₂ dest₁ = true := by
  rwa [apart, Bool.and_comm]

/-- Downloads whose files are apart leave each other's files alone. -/
lemma Download.same_of_apart {fs fs' : Disk δ} {t t' u : Download δ}
    (hk : t.Kept fs t' fs') (h : apart t.dest u.dest = true) :
    Same fs fs' u.dest ∧ Same fs fs' u.dest.tmp := by
  rw [apart, Bool.and_eq_true] at h
  refine ⟨hk.2.2 _ fun hfile => ?_, hk.2.2 _ fun hfile => ?_⟩
  all_goals obtain ⟨htmp, hdest⟩ := clears_iff.1 h.1 hfile
  · exact ⟨hdest, fun heq => htmp (heq ▸ rfl)⟩
  · refine ⟨htmp, fun heq => ?_⟩
    -- a destination that is the other's temporary path is no directory, or has no temporary file
    cases hparent : u.dest.tmp.isParent with
    | false => exact (clears_iff.1 h.2 hparent).2 heq.symm
    | true => simp [FilePath.isParent_tmp (heq ▸ hparent)] at hfile

lemma holds_of_apart (h : apart dest₁ dest₂ = true) {fs : Disk δ}
    {chunks₁ chunks₂ : List (List UInt8)} {p : Pair δ}
    (hp : Reach stepDownloads (fun _ _ => True)
      (· = ⟨fs, [.start dest₁ chunks₁, .start dest₂ chunks₂]⟩) p) :
    Inv (fun _ => True) Download.Holds (fun t u => apart t.dest u.dest = true) p := by
  refine reach_inv (fun t u => apart_symm) ?_ (fun _ _ _ hb => by cases hb) ?_ hp
  · rintro _ rfl
    refine ⟨trivial, fun i t ht => ?_, fun i j t u hij ht hu => ?_⟩
    · rcases i with - | - | i <;> cases ht <;> trivial
    · rcases i with - | - | i <;> rcases j with - | - | j <;> cases ht <;> cases hu
      · exact absurd rfl hij
      · exact h
      · exact apart_symm h
      · exact absurd rfl hij
  · intro p i r t t' fs' hinv _ ht hn
    have hk := Download.kept_next (hinv.each i t ht) hn
    refine ⟨trivial, hk.2.1, fun u _ hu hap => ?_⟩
    obtain ⟨hdest, htmp⟩ := Download.same_of_apart hk hap
    refine ⟨hu.of_same htmp hdest, ?_⟩
    rwa [hk.1.1]

/-- A disk with one file, of one byte. -/
def oneFile (p : FilePath δ) : Disk δ := (Fs.empty.add p).put 0 [0]

/-- Creating the temporary file empties what is there. -/
lemma not_spared_create (p : FilePath δ) : ¬ Spared (oneFile p) ((oneFile p).create p).2 p := by
  intro h
  have hentry : (oneFile p).entry p = some 0 := Function.update_self _ _ _
  have hnew : ((oneFile p).create p).2.data 0 = [] := by
    rw [Fs.create, hentry]
    rfl
  rw [(h 0 hentry).2] at hnew
  cases hnew

/-- A download that can create its temporary file empties what is there: it has to be clear of
the other's files. -/
lemma Download.clears_of_spared {t : Download δ} {u : FilePath δ} (hpc : t.pc = .createTmp)
    (h : ∀ t' fs', t.next (oneFile t.dest.tmp) .ok = some (t', fs') →
      Spared (oneFile t.dest.tmp) fs' u ∧ Spared (oneFile t.dest.tmp) fs' u.tmp) :
    t.dest.clears u = true := by
  refine clears_iff.2 fun hfile => ?_
  obtain ⟨hdest, htmp⟩ := h _ _ (by simp only [Download.next, hpc, hfile]; rfl)
  exact ⟨fun heq => not_spared_create _ (heq ▸ htmp),
    fun heq => not_spared_create t.dest.tmp (by rwa [heq] at hdest)⟩

/-- **Independent downloads.**  Two downloads are independent exactly when their temporary files,
where they can be created, are two, and neither is the destination of the other. -/
theorem downloads_independent_iff (dest₁ dest₂ : FilePath δ) :
    Independent dest₁ dest₂ ↔ apart dest₁ dest₂ = true := by
  constructor
  · intro h
    rw [apart, Bool.and_eq_true]
    -- one download is about to create its temporary file, the other has done nothing
    refine ⟨(?_ : (Download.mk dest₁ [] .createTmp).dest.clears dest₂ = true),
      (?_ : (Download.mk dest₂ [] .createTmp).dest.clears dest₁ = true)⟩
    · refine Download.clears_of_spared rfl fun t' fs' hn => ?_
      exact (h (oneFile dest₁.tmp) [] [] _ (reach_of_run (.start rfl) (by simp [Along])
        (show run stepDownloads _ [.run 0 .ok, .run 0 .ok] = some _ from rfl))).2 0 .ok _
        (step_of_next rfl hn) _ ⟨1, by decide, rfl⟩
    · refine Download.clears_of_spared rfl fun t' fs' hn => ?_
      exact (h (oneFile dest₂.tmp) [] [] _ (reach_of_run (.start rfl) (by simp [Along])
        (show run stepDownloads _ [.run 1 .ok, .run 1 .ok] = some _ from rfl))).2 1 .ok _
        (step_of_next rfl hn) _ ⟨0, by decide, rfl⟩
  · intro h fs chunks₁ chunks₂ p hp
    have hinv := holds_of_apart h hp
    refine ⟨fun t ht hdone => ?_, fun i r p' hs t ⟨j, hj, ht⟩ => ?_⟩
    · obtain ⟨i, hi⟩ := List.getElem?_of_mem ht
      have hholds := hinv.each i t hi
      rw [Download.Holds, hdone] at hholds
      obtain ⟨n, hentry, hdata⟩ := hholds
      rw [Fs.read, hentry, Option.map_some, hdata]
    · obtain ⟨u, u', fs', hu, hn, rfl⟩ := step_run hs
      have hk := Download.kept_next (hinv.each i u hu) hn
      obtain ⟨hdest, htmp⟩ := Download.same_of_apart hk (hinv.apart i j u t (Ne.symm hj) hu ht)
      exact ⟨fun n hn => ⟨hdest.1.trans hn, hdest.2 n hn⟩,
        fun n hn => ⟨htmp.1.trans hn, htmp.2 n hn⟩⟩

end Pair

/-- Two formats of one image: both are written to `image.tmp`, and the download of the first is done
with the byte of the second. -/
theorem second_format_delivered :
    (run stepDownloads (⟨Fs.empty, [.start ⟨(), "image.raw", by decide⟩ [[1]],
        .start ⟨(), "image.qcow2", by decide⟩ [[2]]]⟩ : Pair Unit)
      [.run 0 .ok, .run 0 .ok, .run 0 .ok, .run 1 .ok, .run 1 .ok, .run 1 .ok, .run 0 .ok,
        .run 1 .ok, .run 0 .ok, .run 0 .ok]).map
      (fun p => (p.tasks.map (·.pc), p.shared.read ⟨(), "image.raw", by decide⟩)) =
    some ([.done, .write 0 1 []], some [2]) := by
  decide +kernel

/-! ## One download -/

/-- **The destination is replaced at once**: at every point of a download, also of one that fails,
it reads as before or as all that the source sends. -/
def Atomic (dest : FilePath δ) : Prop :=
  ∀ fs chunks (s : Download δ × Disk δ),
    Reach (fun s r => Download.next s.2 s.1 r) (fun _ _ => True) ((.start dest chunks, fs) = ·) s →
    s.2.read dest = fs.read dest ∨ s.2.read dest = some chunks.flatten

/-- Before the rename the destination is left alone. -/
lemma Download.same_dest {fs fs' : Disk δ} {t t' : Download δ} {r : IoResult}
    (hne : t.dest.tmp.isParent = false → t.dest ≠ t.dest.tmp) (h : t.Holds fs)
    (hn : t.next fs r = some (t', fs')) : Same fs fs' t.dest ∨ t'.pc = .done := by
  unfold Download.Holds at h
  unfold Download.next at hn
  split at hn
  case h_3 => -- the creation
    split_ifs at hn with hfile <;> cases hn
    · exact .inl (Same.refl fs _)
    · exact .inl (same_create (hne (by simpa using hfile)))
  case h_4 hpc | h_5 hpc => -- writes
    cases hn
    rw [hpc] at h
    exact .inl (same_put fun hdest => hne h.1 (fs.single _ _ _ hdest h.2.1))
  case h_8 => split at hn <;> cases hn <;> first | exact .inr rfl | exact .inl (Same.refl fs _)
  case h_9 hpc => -- the removal
    cases hn
    rw [hpc] at h
    cases hun : fs.unlink t.dest.tmp with
    | none => exact .inl (Same.refl fs _)
    | some fs₁ => exact .inl (same_unlink (hne h) hun)
  all_goals cases hn <;> exact .inl (Same.refl fs _)

/-- **Replacing at once.**  A destination is replaced at once if it is not its own temporary file,
or if no temporary file can be created, and only then. -/
theorem atomic_iff (dest : FilePath δ) :
    Atomic dest ↔ dest ≠ dest.tmp ∨ dest.tmp.isParent = true := by
  constructor
  · intro h
    by_contra hno
    simp only [not_or, ne_eq, not_not, Bool.not_eq_true] at hno
    obtain ⟨heq, hfile⟩ := hno
    have hcreated : ((oneFile dest).create dest.tmp).2.read dest = (oneFile dest).read dest ∨
        ((oneFile dest).create dest.tmp).2.read dest = some [1] := by
      let created := (oneFile dest).create dest.tmp
      have hrun : run (fun s r => Download.next s.2 s.1 r) (.start dest [[1]], oneFile dest)
          [.ok, .ok, .ok] = some (⟨dest, [[1]], .write created.1 0 [[1]]⟩, created.2) := by
        simp [run, Download.next, Download.start, Download.goto, hfile, created]
      exact h _ _ _ (reach_of_run (.start rfl) (by simp [Along]) hrun)
    obtain ⟨hentry, hdata⟩ := create_spec (oneFile dest) dest
    rw [← heq, Fs.read, hentry, Option.map_some, hdata] at hcreated
    simp [oneFile, Fs.add, Fs.put, Fs.read, Fs.empty] at hcreated
  · intro hdest fs chunks s hs
    have hne (hfile : dest.tmp.isParent = false) : dest ≠ dest.tmp :=
      hdest.resolve_right (by simp [hfile])
    refine (hs.invariant (I := fun s => (s.1.Holds s.2 ∧ s.1.dest = dest ∧ s.1.chunks = chunks) ∧
      (s.2.read dest = fs.read dest ∨ s.2.read dest = some chunks.flatten)) ?_ ?_).2
    · rintro _ rfl
      exact ⟨⟨trivial, rfl, rfl⟩, .inl rfl⟩
    · rintro ⟨t, fs₀⟩ r ⟨t', fs'⟩ ⟨⟨hholds, rfl, rfl⟩, hread⟩ - hn
      obtain ⟨⟨hdest, hchunks⟩, hholds', -⟩ := Download.kept_next hholds hn
      refine ⟨⟨hholds', hdest, hchunks⟩, ?_⟩
      rcases Download.same_dest hne hholds hn with hsame | hdone
      · have heq : fs'.read t.dest = fs₀.read t.dest := by
          rw [Fs.read, hsame.1]
          exact Option.map_congr fun n hn => hsame.2 n hn
        rwa [heq]
      · rw [Download.Holds, hdone, hdest, hchunks] at hholds'
        obtain ⟨n, hentry, hdata⟩ := hholds'
        exact .inr (by rw [Fs.read, hentry, Option.map_some, hdata])

end Qarax.Transfer
