import Qarax.Control.StartCommit

/-!
# Leaving transitional statuses

A start and a restore write `Pending`, a migration `Migrating`, a commit `Committing`, and a VM
created from an image begins as `Pending`.  Each of them has several returns between that write and
its last one, in the handler and in the job.

* `Task.abandons` — the statements whose failure returns without another write of the status.
* `Task.Leaves` — what a flow still owes: its last write is not transitional.
* A commit restores the status it has read before `try_set_committing`, which is another statement;
  `VmPool.stopsApart` keeps stops out from between the two.
-/

namespace Qarax.Tasks

open Interleave Machine

/-! ## Flows on their own -/

/-- The status is not transitional, or there is no row. -/
def VmShared.settled (s : VmShared) : Bool := s.status.all (!·.transitional)

/-- `start_vm_internal`, `commit`, `restore_vm_from_snapshot`, `migrate` and
`create_vm_with_image_internal`. -/
def Task.isFlow : Task → Bool
  | .startGet .request | .commitGet | .restoreGet | .migrateGet _ | .createImage .insert _ _ => true
  | _ => false

/-- If this fails, the flow is over and the status stays. -/
def Task.abandons : Task → Bool
  | .start _ .markRunning _ _ | .start _ .firstCheck _ _ => true
  | .commit .checks _ _ | .commit .createJob _ _ => true
  | .restore .object _ => true
  | .migrate .createJob _ _ _ | .migrate .markRunning _ _ _ => true
  | .createImage .createJob _ _ | .createImage .markRunning _ _ => true
  | _ => false

/-- The final write of the status. -/
def Task.writesLast : Task → Bool
  | .start _ .revert _ _ | .start _ .restore _ _ | .start _ .setRunning _ _ => true
  | .commit .restore _ _ => true
  | .restore .setUnknown _ | .restore .setRunning _ => true
  | .migrate .setOriginal _ _ _ | .migrate .restore _ _ _ => true
  | .createImage .setCreated _ _ | .createImage .setUnknown _ _ => true
  | _ => false

/-- Final writes succeed, and so do the statements that a flow does not recover from. -/
def recovers (c : Task × VmShared) (o : Outcome) : Bool :=
  !(c.1.abandons || c.1.writesLast) || o = .ok

/-- A request about a VM that is not in a transitional status. -/
def Begun (c : Task × VmShared) : Prop := c.1.isFlow = true ∧ c.2.settled = true

/-- **What a flow owes.**  Where it may return, the status is settled; and what it will write is not
transitional. -/
def Task.Leaves (settled : Bool) : Task → Prop
  | .startGet caller => caller = .request ∧ settled = true
  | .start caller pc original _ => caller = .request ∧ original.transitional = false ∧
      (pc = .check ∨ pc = .setPending → settled = true)
  | .commitGet | .restoreGet | .migrateGet _ | .ended => settled = true
  | .commitSet previous => previous.transitional = false ∧ settled = true
  | .commit _ previous _ => previous.transitional = false
  | .restore pc _ => pc = .lookup ∨ pc = .setPending → settled = true
  | .migrate pc original _ _ => original.transitional = false ∧
      (pc = .checks ∨ pc = .setMigrating ∨ pc = .deleteSource → settled = true)
  | .createImage pc _ _ => pc = .insert → settled = true
  | _ => False

section Flows

variable {s s' s₁ : VmShared} {t t' : Task} {o : Outcome}

lemma settled_of_row (h : s'.row = s.row) : s'.settled = s.settled := by
  simp only [VmShared.settled, VmShared.status, h]

lemma settled_writeStatus {status : VmStatus} (h : status.transitional = false) :
    (s.writeStatus status).settled = true := by
  cases hr : s.row <;> simp [VmShared.settled, VmShared.status, VmShared.writeStatus, hr, h]

lemma settled_of_status {r : TaskRow} (hr : s.row = some r) (hs : s.settled = true) :
    r.status.transitional = false := by
  simpa [VmShared.settled, VmShared.status, hr] using hs

lemma leaves_query {done failed : Task} (h : query s o (done, s₁) failed = some (t', s'))
    (hdone : done.Leaves s₁.settled) (hfailed : failed.Leaves s.settled) :
    t'.Leaves s'.settled := by
  exact query_ind (Q := fun t s => t.Leaves s.settled) h (fun _ => hdone) fun _ => hfailed

lemma leaves_ok {done failed : Task} (h : query s o (done, s₁) failed = some (t', s'))
    (ho : o = .ok) (hdone : done.Leaves s₁.settled) : t'.Leaves s'.settled := by
  subst ho
  cases h
  exact hdone

/-- Nodes do not touch the row. -/
lemma leaves_nodeCall {effect : Option VmShared} {done failed : Task}
    (h : nodeCall s o effect done failed = some (t', s'))
    (heffect : ∀ s₁, effect = some s₁ → s₁.row = s.row) (hdone : done.Leaves s.settled)
    (hfailed : failed.Leaves s.settled) : t'.Leaves s'.settled := by
  refine nodeCall_ind (Q := fun t s => t.Leaves s.settled) h (fun s₁ he _ => ?_) (fun _ => hfailed)
    fun s₁ he _ => ?_
  · rwa [settled_of_row (heffect _ he)]
  · rwa [settled_of_row (heffect _ he)]

lemma of_recovers (h : recovers (t, s) o = true) (ht : (t.abandons || t.writesLast) = true) :
    o = .ok := by
  simpa [recovers, ht] using h

variable {original : VmStatus} {hostId : Uuid}

lemma leaves_start {pc : StartPc} (h : startNext s .request pc original hostId o = some (t', s'))
    (ht : (Task.start .request pc original hostId).Leaves s.settled)
    (hok : recovers (.start .request pc original hostId, s) o = true) : t'.Leaves s'.settled := by
  obtain ⟨-, horiginal, hsettled⟩ := ht
  have later (pc : StartPc) (b : Bool) (hpc : ¬ (pc = .check ∨ pc = .setPending)) :
      (Task.start .request pc original hostId).Leaves b := ⟨rfl, horiginal, fun h => (hpc h).elim⟩
  cases pc with
  | check =>
    have hs := hsettled (.inl rfl)
    exact leaves_query h ⟨rfl, horiginal, fun _ => hs⟩ hs
  | setPending => exact leaves_query h (later _ _ (by simp)) (hsettled (.inr rfl))
  | setup | firewall => exact leaves_query h (later _ _ (by simp)) (later _ _ (by simp))
  | revert | restore => exact leaves_ok h (of_recovers hok rfl) (settled_writeStatus horiginal)
  | setRunning => exact leaves_ok h (of_recovers hok rfl) (settled_writeStatus rfl)
  | markRunning => exact leaves_ok h (of_recovers hok rfl) (later _ _ (by simp))
  | firstCheck =>
    simp only [startNext] at h
    split at h
    · refine leaves_ok h (of_recovers hok rfl) (later _ _ ?_)
      split_ifs <;> simp
    · rename_i hnone
      refine leaves_ok h (of_recovers hok rfl) ?_
      simp [Task.Leaves, VmShared.settled, VmShared.status, hnone]
  | createVm =>
    exact leaves_nodeCall h (fun _ => row_register) (later _ _ (by simp)) (later _ _ (by simp))
  | cleanup =>
    exact leaves_nodeCall h (fun _ => row_unregister) (later _ _ (by simp)) (later _ _ (by simp))
  | startVm | forceStop =>
    exact leaves_nodeCall h (fun _ => row_registered) (later _ _ (by simp)) (later _ _ (by simp))
  | secondCheck | thirdCheck =>
    simp only [startNext] at h
    split at h <;> exact leaves_query h (later _ _ (by simp)) (later _ _ (by simp))

lemma leaves_commit {pc : CommitPc} {previous replaced : VmStatus}
    (h : commitNext s pc previous replaced o = some (t', s'))
    (hprevious : previous.transitional = false)
    (hok : recovers (.commit pc previous replaced, s) o = true) : t'.Leaves s'.settled := by
  cases pc with
  | checks | createJob => exact leaves_ok h (of_recovers hok rfl) hprevious
  | markRunning | copyAndSwap => exact leaves_query h hprevious hprevious
  | restore => exact leaves_ok h (of_recovers hok rfl) (settled_writeStatus hprevious)

lemma leaves_restore {pc : RestorePc} (h : restoreNext s pc hostId o = some (t', s'))
    (ht : (Task.restore pc hostId).Leaves s.settled)
    (hok : recovers (.restore pc hostId, s) o = true) : t'.Leaves s'.settled := by
  cases pc with
  | lookup => exact leaves_query h (fun _ => ht (.inl rfl)) (ht (.inl rfl))
  | setPending => exact leaves_query h (by simp [Task.Leaves]) (ht (.inr rfl))
  | object => exact leaves_ok h (of_recovers hok rfl) (by simp [Task.Leaves])
  | restoreVm =>
    refine leaves_nodeCall h (fun s₁ hs => ?_) (by simp [Task.Leaves]) (by simp [Task.Leaves])
    cases hs
    rfl
  | setUnknown | setRunning =>
    exact leaves_ok h (of_recovers hok rfl) (settled_writeStatus rfl)

lemma leaves_migrate {pc : MigratePc} {source target : Uuid}
    (h : migrateNext s pc original source target o = some (t', s'))
    (ht : (Task.migrate pc original source target).Leaves s.settled)
    (hok : recovers (.migrate pc original source target, s) o = true) : t'.Leaves s'.settled := by
  obtain ⟨horiginal, hsettled⟩ := ht
  have later (pc : MigratePc) (b : Bool)
      (hpc : ¬ (pc = .checks ∨ pc = .setMigrating ∨ pc = .deleteSource)) :
      (Task.migrate pc original source target).Leaves b := ⟨horiginal, fun h => (hpc h).elim⟩
  cases pc with
  | checks =>
    have hs := hsettled (.inl rfl)
    exact leaves_query h ⟨horiginal, fun _ => hs⟩ hs
  | setMigrating => exact leaves_query h (later _ _ (by simp)) (hsettled (.inr (.inl rfl)))
  | createJob | markRunning => exact leaves_ok h (of_recovers hok rfl) (later _ _ (by simp))
  | receive =>
    exact leaves_nodeCall h (fun _ => row_register) (later _ _ (by simp)) (later _ _ (by simp))
  | send =>
    exact leaves_nodeCall h (fun _ => row_registered) (later _ _ (by simp)) (later _ _ (by simp))
  | setHost => exact leaves_query h (later _ _ (by simp)) (later _ _ (by simp))
  | setOriginal =>
    exact leaves_ok h (of_recovers hok rfl) ⟨horiginal, fun _ => settled_writeStatus horiginal⟩
  | deleteSource =>
    have hs := hsettled (.inr (.inr rfl))
    exact leaves_nodeCall h (fun _ => row_unregister) hs hs
  | restore => exact leaves_ok h (of_recovers hok rfl) (settled_writeStatus horiginal)

lemma leaves_image {pc : ImagePc} {imageRef : String}
    (h : imageNext s pc hostId imageRef o = some (t', s'))
    (ht : (Task.createImage pc hostId imageRef).Leaves s.settled)
    (hok : recovers (.createImage pc hostId imageRef, s) o = true) : t'.Leaves s'.settled := by
  cases pc with
  | insert =>
    simp only [imageNext] at h
    split_ifs at h
    exact leaves_query h (by simp [Task.Leaves]) (ht rfl)
  | createJob | markRunning =>
    exact leaves_ok h (of_recovers hok rfl) (by simp [Task.Leaves])
  | pull => exact leaves_query h (by simp [Task.Leaves]) (by simp [Task.Leaves])
  | setCreated | setUnknown =>
    exact leaves_ok h (of_recovers hok rfl) (settled_writeStatus rfl)

lemma leaves_next (ht : t.Leaves s.settled) (hok : recovers (t, s) o = true)
    (h : t.next s o = some (t', s')) : t'.Leaves s'.settled := by
  cases t with
  | startGet caller =>
    obtain ⟨rfl, hs⟩ := ht
    refine leaves_query h ?_ hs
    split
    · rename_i r hr
      split_ifs
      · exact ⟨rfl, settled_of_status hr hs, fun _ => hs⟩
      · exact hs
    · exact hs
  | start caller pc original hostId =>
    obtain ⟨rfl, -⟩ := id ht
    exact leaves_start h ht hok
  | commitGet =>
    refine leaves_query h ?_ ht
    split
    · rename_i r hr
      split_ifs
      · exact ⟨settled_of_status hr ht, ht⟩
      · exact ht
    · exact ht
  | commitSet previous =>
    obtain ⟨hprevious, hs⟩ := ht
    simp only [Task.next, commitSet] at h
    split at h
    · split_ifs at h
      · exact leaves_query h hprevious hs
      · exact leaves_query h hs hs
    · exact leaves_query h hs hs
  | commit pc previous replaced => exact leaves_commit h ht hok
  | restoreGet =>
    refine leaves_query h ?_ ht
    split
    · split_ifs
      · exact fun _ => ht
      · exact ht
    · exact ht
  | restore pc hostId => exact leaves_restore h ht hok
  | migrateGet target =>
    refine leaves_query h ?_ ht
    split
    · rename_i r hr
      split_ifs
      · exact ⟨settled_of_status hr ht, fun _ => ht⟩
      · exact ht
    · exact ht
  | migrate pc original source target => exact leaves_migrate h ht hok
  | createImage pc hostId imageRef => exact leaves_image h ht hok
  | ended => cases h
  | _ => exact ht.elim

lemma leaves_of_reach {c : Task × VmShared}
    (h : Reach alone (fun c o => recovers c o = true) Begun c) : c.1.Leaves c.2.settled := by
  refine h.invariant (I := fun c => c.1.Leaves c.2.settled) (fun c hc => ?_)
    fun c o c' hinv hok hs => leaves_next hinv hok hs
  obtain ⟨t, s⟩ := c
  obtain ⟨hflow, hsettled⟩ := hc
  cases t with
  | startGet caller => cases caller <;> first | exact ⟨rfl, hsettled⟩ | cases hflow
  | createImage pc hostId imageRef => exact fun _ => hsettled
  | commitGet | restoreGet | migrateGet => exact hsettled
  | _ => cases hflow

end Flows

/-! ## What a commit restores -/

/-- A commit at any of its statements. -/
def Task.isCommit : Task → Bool
  | .commitGet | .commitSet _ | .commit _ _ _ => true
  | _ => false

/-- Between the reading of the status and `try_set_committing`. -/
def Task.hasRead : Task → Bool
  | .commitSet _ => true
  | _ => false

/-- **Commits one after the other, and stops.**  A stop does not change the status between the two
statements of a commit. -/
def VmPool.stopsApart (p : VmPool) : Act Task Outcome → Bool
  | .spawn t => t = .stop || (t = .commitGet && p.tasks.all (!·.isCommit))
  | .run i o => p.tasks[i]? ≠ some .stopWrite || o ≠ .ok || p.shared.status = some .shutdown ||
      p.tasks.all (!·.hasRead)

/-- What a commit knows of the status, and that the others are stops. -/
def Task.Restores (s : VmShared) : Task → Prop
  | .commitSet previous => s.status = some previous
  | .commit _ previous replaced => previous = replaced
  | .commitGet | .stop | .stopWrite | .ended => True
  | _ => False

/-- One of two tasks is not a commit. -/
def Task.OneCommit (t u : Task) : Prop := t.isCommit = false ∨ u.isCommit = false

/-- What a statement of a commit or a stop does. -/
structure Restored (s : VmShared) (t : Task) (o : Outcome) (t' : Task) (s' : VmShared) : Prop where
  own : t'.Restores s'
  row : s'.row.isSome = true
  commit : t'.isCommit = true → t.isCommit = true
  status : t.isCommit = true ∨ s'.status = s.status ∨
    t = .stopWrite ∧ o = .ok ∧ s'.status = some .shutdown

lemma restored_next {s s' : VmShared} {t t' : Task} {o : Outcome} (ht : t.Restores s)
    (hrow : s.row.isSome = true) (h : t.next s o = some (t', s')) : Restored s t o t' s' := by
  obtain ⟨r, hr⟩ := Option.isSome_iff_exists.1 hrow
  cases t with
  | commitGet =>
    simp only [Task.next, commitGet, hr] at h
    refine query_ind h (fun _ => ⟨?_, hrow, fun _ => rfl, .inl rfl⟩)
      fun _ => ⟨trivial, hrow, fun _ => rfl, .inl rfl⟩
    split_ifs
    · simp [Task.Restores, VmShared.status, hr]
    · trivial
  | commitSet previous =>
    simp only [Task.next, commitSet, hr] at h
    refine query_ind h (fun _ => ?_) fun _ => ⟨trivial, hrow, fun _ => rfl, .inl rfl⟩
    split_ifs
    · refine ⟨?_, by simpa using hrow, fun _ => rfl, .inl rfl⟩
      simpa [Task.Restores, VmShared.status, hr, eq_comm] using ht
    · exact ⟨trivial, hrow, fun _ => rfl, .inl rfl⟩
  | commit pc previous replaced =>
    cases pc <;> refine query_ind h (fun _ => ?_) fun _ => ?_
    all_goals exact ⟨by first | exact ht | trivial, by simpa using hrow, fun _ => rfl, .inl rfl⟩
  | stop =>
    exact query_ind h (fun _ => ⟨trivial, hrow, id, .inr (.inl rfl)⟩)
      fun _ => ⟨trivial, hrow, id, .inr (.inl rfl)⟩
  | stopWrite =>
    refine query_ind h (fun ho => ?_) fun _ => ⟨trivial, hrow, id, .inr (.inl rfl)⟩
    exact ⟨trivial, by simpa using hrow, id, .inr (.inr ⟨rfl, ho, status_writeStatus _ hrow⟩)⟩
  | ended => cases h
  | _ => exact ht.elim

variable {p : VmPool}

/-- The others keep what they know. -/
lemma Restored.others {i : Nat} {o : Outcome} {t t' u : Task} {s' : VmShared}
    (h : Restored p.shared t o t' s') (hok : VmPool.stopsApart p (.run i o) = true)
    (ht : p.tasks[i]? = some t) (hmem : u ∈ p.tasks) (hu : u.Restores p.shared)
    (happart : t.OneCommit u) : u.Restores s' := by
  cases u with
  | commitSet previous =>
    have hstatus : s'.status = p.shared.status := by
      rcases h.status with hc | hs | ⟨rfl, rfl, hs⟩
      · exact absurd (happart.resolve_left (by simp [hc])) (by simp [Task.isCommit])
      · exact hs
      · -- the stop finds `Shutdown`, since this commit has read
        have hread : p.tasks.all (!·.hasRead) = false := by
          simpa using ⟨_, hmem, rfl⟩
        rw [hs]
        simpa [VmPool.stopsApart, ht, hread, eq_comm] using hok
    exact hstatus.trans hu
  | _ => exact hu

lemma restores_of_reach (h : Reach VmPool.step (fun p a => VmPool.stopsApart p a = true) AtRest p) :
    Inv (fun s => s.row.isSome = true) (fun s t => t.Restores s) Task.OneCommit p := by
  refine reach_inv (fun _ _ => Or.symm) (fun p hp => ?_) (fun p t hok _ _ => ?_)
    (fun p i o t t' s' hinv hok ht hn => ?_) h
  · exact inv_nil hp.1 hp.2
  · simp only [VmPool.stopsApart, Bool.or_eq_true, Bool.and_eq_true, decide_eq_true_eq] at hok
    rcases hok with rfl | ⟨rfl, hnone⟩
    · exact ⟨trivial, fun u _ => .inl rfl⟩
    · exact ⟨trivial, fun u hu => .inr (by simpa using List.all_eq_true.1 hnone u hu)⟩
  · have hr := restored_next (hinv.each i t ht) hinv.shared hn
    refine ⟨hr.row, hr.own, fun u hu hrestores happart => ?_⟩
    refine ⟨hr.others hok ht (List.mem_of_mem_eraseIdx hu) hrestores happart, ?_⟩
    refine happart.imp_left fun ht => ?_
    rw [← Bool.not_eq_true]
    exact fun ht' => by simp [hr.commit ht'] at ht

/-- **Transitional statuses are left**, whatever fails apart from the statements that a flow does
not recover from; **and a commit restores what it has replaced**, if no stop comes between its
reading of the status and `try_set_committing`. -/
theorem transitional_statuses_undone (s : VmShared) (p : VmPool) :
    (Reach alone (fun c o => recovers c o = true) Begun (.ended, s) → s.settled = true) ∧
    (Reach VmPool.step (fun p a => VmPool.stopsApart p a = true) AtRest p →
      ∀ (i : Nat) (previous replaced : VmStatus) (p' : VmPool),
        p.tasks[i]? = some (.commit .restore previous replaced) →
        VmPool.step p (.run i .ok) = some p' → p'.shared.status = some replaced) := by
  constructor
  · exact leaves_of_reach
  · intro h i previous replaced p' hi hs
    have hinv := restores_of_reach h
    have heq : previous = replaced := hinv.each i _ hi
    obtain ⟨t, t', s', ht, hn, rfl⟩ := step_run hs
    cases hi.symm.trans ht
    cases hn
    rw [← heq]
    exact status_writeStatus _ hinv.shared

section Runs

/-- `create_vm` fails on the node. -/
def failedStart : List Outcome := [.ok, .ok, .ok, .ok, .ok, .ok, .fails, .ok]

/-- A stop is asked for before the commit reads, and has its answer when the commit is at work. -/
def stopMeanwhile : List (Act Task Outcome) :=
  [.spawn .stop, .spawn .commitGet, .run 1 .ok, .run 0 .ok, .run 1 .ok, .run 1 .ok, .run 0 .ok,
    .run 1 .ok, .run 1 .ok, .run 1 .fails]

theorem failedStart_and_stopMeanwhile_undone :
    (∃ s, run alone (.startGet .request, createdVm.shared) failedStart = some (.ended, s) ∧
      s.settled = true) ∧
    ∃ p p', run VmPool.step createdVm stopMeanwhile = some p ∧
      p.tasks = [.ended, .commit .restore .created .created] ∧ p.shared.status = some .shutdown ∧
      VmPool.step p (.run 1 .ok) = some p' ∧ p'.shared.status = some .created := by
  have hstart : (run alone (.startGet .request, createdVm.shared) failedStart).map (·.1)
        = some .ended ∧
      Along alone (fun c o => recovers c o = true) (.startGet .request, createdVm.shared)
        failedStart := by
    decide +kernel
  have hcommit : (run VmPool.step createdVm stopMeanwhile).map
        (fun p => (p.tasks, p.shared.status, (VmPool.step p (.run 1 .ok)).isSome))
        = some ([.ended, .commit .restore .created .created], some .shutdown, true) ∧
      Along VmPool.step (fun p a => VmPool.stopsApart p a = true) createdVm stopMeanwhile := by
    decide +kernel
  obtain ⟨⟨_, s⟩, hc, rfl⟩ := Option.map_eq_some_iff.1 hstart.1
  obtain ⟨p, hp, hfields⟩ := Option.map_eq_some_iff.1 hcommit.1
  simp only [Prod.mk.injEq] at hfields
  obtain ⟨htasks, hstatus, hstep⟩ := hfields
  obtain ⟨p', hp'⟩ := Option.isSome_iff_exists.1 hstep
  refine ⟨⟨s, hc, ?_⟩, p, p', hp, htasks, hstatus, hp', ?_⟩
  · exact (transitional_statuses_undone s p).1 (reach_of_run (.start ⟨rfl, rfl⟩) hstart.2 hc)
  · exact (transitional_statuses_undone s p).2 (reach_of_run (.start ⟨rfl, rfl⟩) hcommit.2 hp)
      1 .created .created p' (by rw [htasks]; rfl) hp'

/-- Where a flow stands, and the status. -/
def outcome (t : Task) (p : VmPool) (os : List Outcome) : Option (Task × Option VmStatus) :=
  (run alone (t, p.shared) os).map fun c => (c.1, c.2.status)

/-- A stop comes between the two statements of a commit. -/
def stopBetween : List (Act Task Outcome) :=
  [.spawn .commitGet, .run 0 .ok, .spawn .stop, .run 1 .ok, .run 1 .ok, .run 0 .ok, .run 0 .ok,
    .run 0 .ok, .run 0 .ok, .run 0 .ok, .run 0 .ok]

/-- **One failed statement leaves each of the flows in its transitional status**, and a commit makes
a VM `Created` whose `Shutdown` it has replaced. -/
theorem transitional_statuses_stay :
    outcome (.startGet .request) createdVm [.ok, .ok, .ok, .ok, .fails]
        = some (.ended, some .pending) ∧
      outcome .commitGet createdVm [.ok, .ok, .fails] = some (.ended, some .committing) ∧
      outcome .restoreGet createdVm [.ok, .ok, .ok, .fails] = some (.ended, some .pending) ∧
      outcome (.migrateGet ⟨"host-b"⟩) runningVm [.ok, .ok, .ok, .fails]
        = some (.ended, some .migrating) ∧
      outcome (.createImage .insert ⟨"host-a"⟩ "app:1") ⟨⟨none, 0, [], []⟩, []⟩ [.ok, .fails]
        = some (.ended, some .pending) ∧
      (run VmPool.step createdVm (stopBetween.take 6)).map (fun p => (p.tasks, p.shared.status))
        = some ([.commit .checks .created .shutdown, .ended], some .committing) ∧
      (run VmPool.step createdVm stopBetween).map (fun p => (p.tasks, p.shared.status))
        = some ([.ended, .ended], some .created) := by
  decide +kernel

end Runs

end Qarax.Tasks
