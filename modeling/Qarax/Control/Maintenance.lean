import Qarax.Core.Interleave

/-!
# Maintenance mode

A restore of the database sets one flag for the time it takes, by a guard that clears the flag when
it is dropped.  The middleware and the background workers read the flag.

* `Maintenance.next` — a restore request; its client may go away, and then the handler is dropped
  while `pg_restore` runs on.
* `restore_covered` — who is kept away from the database while it is overwritten.
-/

namespace Qarax.Maintenance

open Machine Interleave

/-- Where a restore request is. -/
inductive RestorePc where
  | arrived
  /-- Reading the backup and its storage object. -/
  | load
  /-- In the half second after the guard was made. -/
  | entered
  | terminateSessions
  | pgRestore
  /-- `pg_restore` without a handler. -/
  | orphaned
  | ended
  deriving DecidableEq

def RestorePc.guarded : RestorePc → Bool
  | .entered | .terminateSessions | .pgRestore => true
  | _ => false

def RestorePc.overwrites : RestorePc → Bool
  | .pgRestore | .orphaned => true
  | _ => false

inductive RestoreOutcome where
  | ok
  | err
  /-- The client is gone, and the handler is dropped. -/
  | gone
  deriving DecidableEq

/-- `reject_maintenance_requests` lets the request through. -/
def passes (flag : Bool) (path : String) : Bool := !(flag && path ≠ "/")

inductive Worker where
  | vmMonitor | haMonitor | resourceMonitor | hookExecutor | sandboxReaper | sandboxPoolManager
  | storageCleanup
  deriving DecidableEq

/-- The worker's tick looks at the flag; that of `storage_cleanup` does not. -/
def Worker.checks : Worker → Bool
  | .storageCleanup => false
  | _ => true

/-- A tick begins a cycle. -/
def Worker.begins (flag : Bool) (w : Worker) : Bool := !(w.checks && flag)

/-- The next statement of `restore`, for a database backup; the shared state is the flag. -/
def next (flag : Bool) : RestorePc → RestoreOutcome → Option (RestorePc × Bool)
  | .arrived, _ => some (if passes flag "/backups/0/restore" then .load else .ended, flag)
  | .load, .ok => some (.entered, true)
  | .load, _ => some (.ended, flag)
  | .entered, .gone => some (.ended, false)
  | .entered, _ => some (.terminateSessions, flag)
  | .terminateSessions, .ok => some (.pgRestore, flag)
  | .terminateSessions, _ => some (.ended, false)
  | .pgRestore, .gone => some (.orphaned, false)
  | .pgRestore, _ => some (.ended, false)
  | .orphaned, _ => some (.ended, flag)
  | .ended, _ => none

abbrev Api : Type := Pool Bool RestorePc

def Api.step : Api → Act RestorePc RestoreOutcome → Option Api :=
  Interleave.step (· = .arrived) next

def Api.overwritten (p : Api) : Bool := p.tasks.any (·.overwrites)

/-- **Guards in turn.**  No handler is dropped while its `pg_restore` runs, and a guard is dropped
only when no other request has one. -/
def Api.inTurn (p : Api) : Act RestorePc RestoreOutcome → Bool
  | .spawn _ => true
  | .run i o =>
      p.tasks[i]?.all fun pc =>
        !(pc = .pgRestore && o = .gone) &&
          (!(pc.guarded && (next p.shared pc o).any (!·.1.guarded)) ||
            (p.tasks.eraseIdx i).all (!·.guarded))

/-- No request has a guard without the flag. -/
def Covered (flag : Bool) (pc : RestorePc) : Prop :=
  (pc.guarded = true → flag = true) ∧ pc ≠ .orphaned

lemma covered_of_reach {p : Api}
    (h : Reach Api.step (fun p a => p.inTurn a = true) (· = ⟨false, []⟩) p) :
    Inv (fun _ => True) Covered (fun _ _ => True) p := by
  refine reach_inv (fun _ _ _ => trivial) ?_ ?_ ?_ h
  · rintro _ rfl
    exact inv_nil rfl trivial
  · intro p t _ hb _
    cases of_decide_eq_true hb
    exact ⟨by simp [Covered, RestorePc.guarded], fun _ _ => trivial⟩
  · intro p i o t t' flag hinv hok ht hn
    have ht' := hinv.each i t ht
    simp only [Api.inTurn, ht, Option.all_some, hn, Option.any_some, Bool.and_eq_true,
      Bool.or_eq_true, List.all_eq_true, Bool.not_eq_true'] at hok
    refine ⟨trivial, ?_, fun u hu hold _ => ⟨?_, trivial⟩⟩
    · cases t <;> cases o <;> grind -ring -linarith [next, Covered, RestorePc.guarded]
    · have hall := fun h => hok.2.resolve_left h u hu
      cases t <;> cases o <;> grind -ring -linarith [next, Covered, RestorePc.guarded]

/-- **Kept away from the database.**  In every run in which guards are dropped in turn: while the
database is overwritten the flag is set, no API request passes, and every worker but the storage
cleanup is kept from beginning a cycle. -/
theorem restore_covered {p : Api}
    (h : Reach Api.step (fun p a => p.inTurn a = true) (· = ⟨false, []⟩) p)
    (ho : p.overwritten = true) :
    p.shared = true ∧ (∀ path, path ≠ "/" → passes p.shared path = false) ∧
      ∀ w : Worker, w.begins p.shared = false ↔ w ≠ .storageCleanup := by
  obtain ⟨pc, hpc, hover⟩ := List.any_eq_true.1 ho
  obtain ⟨i, hi⟩ := List.getElem?_of_mem hpc
  obtain ⟨hflag, horphan⟩ := (covered_of_reach h).each i pc hi
  have hset : p.shared = true := by
    refine hflag ?_
    cases pc <;> first | exact absurd rfl horphan | rfl | cases hover
  refine ⟨hset, fun path hpath => by simp [passes, hset, hpath], fun w => ?_⟩
  rw [hset]
  cases w <;> decide

/-- One restore to its `pg_restore`. -/
def restoring (i : Nat) : List (Act RestorePc RestoreOutcome) :=
  [.run i .ok, .run i .ok, .run i .ok, .run i .ok]

theorem one_restore_covered :
    ∃ p, run Api.step ⟨false, []⟩ (.spawn .arrived :: restoring 0) = some p ∧
      p.overwritten = true ∧ passes p.shared "/vms" = false := by
  refine (exists_reach (by rfl) ?_).imp fun p h =>
    ⟨h.1, h.2.1, (restore_covered h.2.2 h.2.1).2.1 _ (by decide)⟩
  decide +kernel

/-- The storage cleanup begins a cycle in every state.  Of two restores that arrive together the
first to end clears the flag for both, and a client that goes away clears it while `pg_restore`
runs. -/
theorem restore_uncovered :
    (∀ flag, Worker.storageCleanup.begins flag = true) ∧
    (run Api.step ⟨false, []⟩ ([.spawn .arrived, .spawn .arrived, .run 1 .ok] ++ restoring 0 ++
        [.run 1 .ok, .run 1 .ok, .run 1 .ok, .run 0 .ok])).map
        (fun p => (p.overwritten, p.shared)) = some (true, false) ∧
    (run Api.step ⟨false, []⟩ (.spawn .arrived :: restoring 0 ++ [.run 0 .gone])).map
        (fun p => (p.overwritten, p.shared)) = some (true, false) := by
  decide +kernel

end Qarax.Maintenance
