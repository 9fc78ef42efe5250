import Qarax.Control.Vms
import Qarax.Core.Machine

/-!
# Deleting a VM backup

The snapshot behind a VM backup is a directory that the node running the VM has written.  `DELETE`
asks the hosts that the pool is attached to and the VM's host of that moment to remove it, as far as
they are `Up`.

* `deleteSnapshotDir` — what a node does.
* `delete` — what the control plane does.
* `deleted_is_gone` — once the backup is deleted its directory is gone, provided that each deletion
  can still reach it.
-/

namespace Qarax.Backups

open Machine

/-! ## The node -/

/-- What `symlink_metadata` finds at a path. -/
inductive Entry where
  | dir (files : List String)
  | other

inductive SnapshotDeleteError where
  | invalidPath (reason : String)
  | notASnapshot
  | io

/-- How the file system answers; `remove_dir_all` may stop with some files left. -/
inductive Disk where
  | works
  | unreadable
  | stops (left : List String)

def cloudHvMarkers : List String := ["config.json", "state.json"]

def firecrackerMarkers : List String := ["mem.snap", "vm.snap"]

/-- `Path::components`, without the root. -/
def components (path : List Char) : List (List Char) :=
  (path.splitOn '/').filter fun c => c ≠ [] && c ≠ ['.']

/-- `delete_snapshot_dir`, after the `file://` of the URL. -/
def deleteSnapshotDir (path : List Char) (disk : Disk) (entry : Option Entry) :
    Except SnapshotDeleteError Bool × Option Entry :=
  if path.head? ≠ some '/' then (.error (.invalidPath "must be absolute"), entry)
  else if (components path).contains ['.', '.'] then
    (.error (.invalidPath "must not contain '..'"), entry)
  else if components path = [] then
    (.error (.invalidPath "refusing to delete the root directory"), entry)
  else
    match disk, entry with
    | .unreadable, _ => (.error .io, entry)
    | _, none => (.ok false, none)
    | _, some .other => (.error .notASnapshot, entry)
    | disk, some (.dir files) =>
      if !cloudHvMarkers.all files.contains && !firecrackerMarkers.all files.contains then
        (.error .notASnapshot, entry)
      else
        match disk with
        | .stops left => (.error .io, some (.dir left))
        | _ => (.ok true, none)

variable {path : List Char}

lemma deleteSnapshotDir_none (disk : Disk) : (deleteSnapshotDir path disk none).2 = none := by
  unfold deleteSnapshotDir
  grind

/-- Where the node reports success, no such directory is left. -/
lemma deleteSnapshotDir_ok {disk : Disk} {entry : Option Entry}
    (h : (deleteSnapshotDir path disk entry).1.isOk = true) :
    (deleteSnapshotDir path disk entry).2 = none := by
  unfold deleteSnapshotDir at h ⊢
  grind [Except.toBool]

/-! ## The control plane -/

/-- A storage pool: the hosts it is attached to, the backup's directory in it, and on which file
system each host has that directory.  The hosts of a shared pool have it on one. -/
structure Pool (κ : Type) where
  hosts : List Uuid
  path : List Char
  place : Uuid → κ

/-- What becomes of a call to a node; when it is lost, the node acts and does not get to answer. -/
inductive Call where
  | answered (disk : Disk)
  | lost (disk : Disk)
  | failed

structure BackupState (κ : Type) where
  vmHost : Option Uuid
  /-- The hosts with status `Up`. -/
  up : List Uuid
  /-- The backup's directory on each file system. -/
  entries : κ → Option Entry
  /-- Where taking the snapshot wrote it. -/
  wrote : List Uuid
  /-- The row of the backup, which is `Ready`. -/
  row : Bool
  deleted : Bool

inductive DeleteError where
  | notFound
  | internalServerError
  | unprocessableEntity (message : String)

inductive Action where
  /-- `create_vm_snapshot` for the backup: the files the node writes, and whether it answers and the
  VM resumes. -/
  | snapshot (files : List String) (ok : Bool)
  | migrate (target : Uuid)
  | setStatus (host : Uuid) (up : Bool)
  | delete (call : Uuid → Call)

section Model

variable {κ : Type} [DecidableEq κ] (pool : Pool κ) (up : List Uuid) (call : Uuid → Call)

/-- `delete_snapshot` on one host. -/
def deleteSnapshot (host : Uuid) (entries : κ → Option Entry) : Bool × (κ → Option Entry) :=
  match call host with
  | .answered disk =>
    let result := deleteSnapshotDir pool.path disk (entries (pool.place host))
    (result.1.isOk, Function.update entries (pool.place host) result.2)
  | .lost disk =>
    let result := deleteSnapshotDir pool.path disk (entries (pool.place host))
    (false, Function.update entries (pool.place host) result.2)
  | .failed => (false, entries)

/-- The loop over the candidates: how many were reached, unless a call fails. -/
def deleteOn : List Uuid → Nat → (κ → Option Entry) → Option Nat × (κ → Option Entry)
  | [], reached, entries => (some reached, entries)
  | host :: hosts, reached, entries =>
    if up.contains host then
      match deleteSnapshot pool call host entries with
      | (true, entries) => deleteOn hosts (reached + 1) entries
      | (false, entries) => (none, entries)
    else deleteOn hosts reached entries

/-- The hosts asked, each once; the source has them in the order of their ids. -/
def candidates (s : BackupState κ) : List Uuid := (pool.hosts ++ s.vmHost.toList).dedup

/-- `DELETE /backups/{id}`. -/
def delete (s : BackupState κ) : Except DeleteError Unit × BackupState κ :=
  if !s.row then (.error .notFound, s)
  else
    match deleteOn pool s.up call (candidates pool s) 0 s.entries with
    | (none, entries) => (.error .internalServerError, { s with entries })
    | (some 0, entries) =>
      (.error (.unprocessableEntity "no UP host can reach the backup's snapshot"),
        { s with entries })
    | (some _, entries) => (.ok (), { s with entries, row := false, deleted := true })

def step (s : BackupState κ) : Action → Option (BackupState κ)
  | .snapshot files ok =>
    if s.wrote = [] then
      s.vmHost.map fun host =>
        { s with
          entries := Function.update s.entries (pool.place host) (some (.dir files))
          wrote := [host]
          row := ok }
    else none
  | .migrate target => some { s with vmHost := some target }
  | .setStatus host true => some { s with up := s.up.insert host }
  | .setStatus host false => some { s with up := s.up.filter (· ≠ host) }
  | .delete call => some (delete pool call s).2

/-- **Deletions that can reach the data**: wherever the snapshot still is, one of the hosts asked
has it and is `Up`. -/
def reachable (s : BackupState κ) : Action → Bool
  | .delete _ => s.wrote.all fun writer =>
      (s.entries (pool.place writer)).isNone ||
        (candidates pool s).any fun host =>
          s.up.contains host && pool.place host = pool.place writer
  | _ => true

/-- The row stands for data that was written, and a deleted backup has none. -/
def Sound (s : BackupState κ) : Prop :=
  (s.row = true → s.wrote ≠ [] ∧ s.deleted = false) ∧
    (s.deleted = true → s.wrote ≠ [] ∧ ∀ writer ∈ s.wrote, s.entries (pool.place writer) = none)

variable {pool up call} {hosts : List Uuid} {n m : Nat} {entries entries' : κ → Option Entry}

/-- What is gone stays gone. -/
lemma deleteSnapshot_none {host : Uuid} {k : κ} (hk : entries k = none) :
    (deleteSnapshot pool call host entries).2 k = none := by
  unfold deleteSnapshot
  split <;> simp [Function.update_apply, hk]
  all_goals
    rintro rfl
    simp [hk, deleteSnapshotDir_none]

/-- A loop that no call ends has removed the directory from every host that is `Up`. -/
lemma deleteOn_gone {k : κ} (h : deleteOn pool up call hosts n entries = (some m, entries'))
    (hk : entries k = none ∨ ∃ host ∈ hosts, host ∈ up ∧ pool.place host = k) :
    entries' k = none := by
  induction hosts generalizing entries n with
  | nil => grind [deleteOn]
  | cons host hosts ih =>
    rw [deleteOn] at h
    split_ifs at h with hup
    · split at h
      next entries₁ hcall =>
        refine ih h ?_
        have hafter : (deleteSnapshot pool call host entries).2 = entries₁ := by rw [hcall]
        have hstays (hnone : entries k = none) : entries₁ k = none :=
          hafter ▸ deleteSnapshot_none hnone
        have hown : entries₁ (pool.place host) = none := by
          unfold deleteSnapshot at hcall
          split at hcall <;> simp only [Prod.mk.injEq, Bool.false_eq_true, false_and] at hcall
          rw [← hcall.2, Function.update_self, deleteSnapshotDir_ok hcall.1]
        grind
      next => cases h
    · grind

/-- A deletion that reaches the data removes it. -/
lemma delete_gone {s : BackupState κ} (hc : reachable pool s (.delete call) = true)
    (hd : (delete pool call s).1 = .ok ()) :
    ∀ writer ∈ s.wrote, (delete pool call s).2.entries (pool.place writer) = none := by
  intro writer hw
  have hreach := List.all_eq_true.1 hc writer hw
  simp only [Bool.or_eq_true, Option.isNone_iff_eq_none, List.any_eq_true, Bool.and_eq_true,
    List.contains_iff_mem, decide_eq_true_eq] at hreach
  unfold delete at hd ⊢
  split_ifs at hd ⊢
  split at hd <;> cases hd
  next hloop => exact deleteOn_gone hloop hreach

lemma sound_step {s s' : BackupState κ} {a : Action} (h : Sound pool s)
    (hc : reachable pool s a = true) (hs : step pool s a = some s') : Sound pool s' := by
  cases a with
  | snapshot files ok =>
    simp only [step] at hs
    split_ifs at hs with hnone
    obtain ⟨host, -, rfl⟩ := Option.map_eq_some_iff.1 hs
    grind [Sound]
  | migrate target =>
    cases hs
    exact h
  | setStatus host up => cases up <;> cases hs <;> exact h
  | delete call =>
    cases hs
    have hgone := delete_gone hc
    unfold delete at hgone ⊢
    grind [Sound]

/-- **A deleted backup leaves no data**, in every state reached by steps whose deletions can reach
it: no host on which taking the snapshot wrote the directory has it. -/
theorem deleted_is_gone {s : BackupState κ}
    (h : Reach (step pool) (fun s a => reachable pool s a = true)
      (fun s => s.wrote = [] ∧ s.row = false ∧ s.deleted = false) s) (hd : s.deleted = true) :
    ∀ writer ∈ s.wrote, s.entries (pool.place writer) = none := by
  have hsound : Sound pool s :=
    h.invariant (fun s hs => by simp [Sound, hs]) fun _ _ _ => sound_step
  exact (hsound.2 hd).2

end Model

/-! Two hosts with a local pool each; the pool of the first one holds the backup. -/

def hostA : Uuid := ⟨"5f0a1b2c-3d4e-4f5a-8b6c-7d8e9f0a1b2c"⟩

def hostB : Uuid := ⟨"6a1b2c3d-4e5f-4a6b-9c7d-8e9f0a1b2c3d"⟩

def localPool (hosts : List Uuid) : Pool Uuid where
  hosts := hosts
  path := "/var/lib/qarax/pool/9b".toList
  place := id

def running : BackupState Uuid where
  vmHost := some hostA
  up := [hostA, hostB]
  entries := fun _ => none
  wrote := []
  row := false
  deleted := false

def backup : Action := .snapshot ["config.json", "state.json"] true

def works : Uuid → Call := fun _ => .answered .works

theorem deletedInPlace_gone :
    ∃ s, run (step (localPool [hostA])) running [backup, .migrate hostB, .delete works] = some s ∧
      s.deleted = true ∧ s.wrote = [hostA] ∧ s.entries hostA = none := by
  refine (exists_reach (P := fun s => s.deleted = true ∧ s.wrote = [hostA]) ⟨rfl, rfl, rfl⟩ ?_).imp
    fun s h => ⟨h.1, h.2.1.1, h.2.1.2, deleted_is_gone h.2.2 h.2.1.1 hostA (by simp [h.2.1.2])⟩
  decide +kernel

/-- The VM was migrated away from a host that the pool is not attached to, or the host that has the
data is down while another one answers: the backup is deleted and its data stays. -/
theorem deleted_backup_left :
    (∃ s ∈ run (step (localPool [hostB])) running [backup, .migrate hostB, .delete works],
      s.deleted = true ∧ hostA ∈ s.wrote ∧ s.entries hostA ≠ none) ∧
    ∃ s ∈ run (step (localPool [hostA, hostB])) running
        [backup, .setStatus hostA false, .delete works],
      s.deleted = true ∧ hostA ∈ s.wrote ∧ s.entries hostA ≠ none := by
  decide +kernel

end Qarax.Backups
