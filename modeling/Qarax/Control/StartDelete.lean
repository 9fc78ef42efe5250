import Qarax.Control.StartCommit

/-!
# No instance is left on the node

`DELETE /vms/{id}` calls `delete_vm` on the node only if the VM "was ever provisioned there", which
it takes from the status: not if it reads `Created` or `Pending`.  A start job that has created the
VM on the node looks at the row once more and cleans up if it is gone; after that it does not.

* `VmPool.tidy` — with a `DELETE`: what it reads tells whether the VM is on the node, and nothing is
  created there behind its back.
* `VmPool.careful` — without one: a job from `Created` does not fail after its second check.
* `no_instance_left` — then nothing stays on the node.
* `instance_left` — both ways in which something does.
-/

namespace Qarax.Tasks

open Interleave Machine

/-! ## Starts and a deletion

A deletion makes up to three statements: it reads the row, it calls `delete_vm` if the status that
it has read says that the VM is on the node, and it deletes the row.  From the second statement on
(from the first, if there is no call) nobody but a start job removes the instance. -/

/-- A start of the VM on that host, or its deletion. -/
def Task.concerns (hostId : Uuid) : Task → Bool
  | .startGet .request | .deleteGet | .deleteNode _ | .deleteRow | .ended => true
  | .start .request _ _ hostId' => hostId' = hostId
  | _ => false

/-- A job that finds the row gone and cleans up, or is about to. -/
def Task.cleansUp : Task → Bool
  | .start _ .secondCheck _ _ | .start _ .cleanup _ _ => true
  | _ => false

/-- The row is gone, or a deletion has nothing left to do but delete it. -/
def VmPool.leaving (p : VmPool) : Bool := p.shared.row.isNone || p.tasks.any (· = .deleteRow)

/-- **What a deletion would need.**

* A deletion that reads `Created` or `Pending`, and so will not call the node, reads it while the
  node has no instance or a job is to clean up; one that calls the node is answered.
* From there on no `create_vm` takes effect without its answer, and no job passes the check after
  its `create_vm`.
* A clean-up does not fail. -/
def VmPool.tidy (hostId : Uuid) (p : VmPool) : Act Task Outcome → Bool
  | .spawn t => t = .startGet .request || t = .deleteGet
  | .run i o => p.tasks[i]?.all fun t => match t with
      | .deleteGet => p.shared.row.all fun r =>
          (r.status ≠ .created && r.status ≠ .pending) || hostId ∉ p.shared.instances ||
            p.tasks.any (·.cleansUp)
      | .deleteNode _ | .start _ .cleanup _ _ => hostId ∉ p.shared.instances || o ≠ .fails
      | .start _ .createVm _ _ => !p.leaving || o ≠ .unanswered
      | .start _ .secondCheck _ _ => !p.leaving || p.shared.row.isNone || o ≠ .ok
      | _ => true

/-- The VM is on that host, and nothing is under way. -/
def RestsOn (hostId : Uuid) (p : VmPool) : Prop :=
  p.tasks = [] ∧ p.shared.row.map (·.hostId) = some hostId

/-- **What a start or a deletion does**: an instance that nobody will look for is cleaned up by this
task, or it was there before and so was the one who cleans up. -/
structure Sweeps (hostId : Uuid) (p : VmPool) (i : Nat) (t t' : Task) (s' : VmShared) : Prop where
  concerns : t'.concerns hostId = true
  row : ∀ r, s'.row = some r → r.hostId = hostId
  orphan : VmPool.leaving ⟨s', p.tasks.set i t'⟩ = true → hostId ∈ s'.instances →
    t'.cleansUp = true ∨ t.cleansUp = false ∧ hostId ∈ p.shared.instances ∧
      (p.leaving = true ∨ ∃ u ∈ p.tasks, u.cleansUp = true)

variable {p : VmPool}

section Statements

variable {i : Nat} {s' s₁ : VmShared} {t t' : Task} {o : Outcome} {hostId : Uuid}

@[simp] lemma concerns_start (pc : StartPc) (original : VmStatus) :
    (Task.start .request pc original hostId).concerns hostId = true := by
  simp [Task.concerns]

/-- The row is not about to go because of a task that does not come to delete it. -/
lemma leaving_of_set (hne : t' ≠ .deleteRow) (hrow : s'.row.isNone = p.shared.row.isNone)
    (h : VmPool.leaving ⟨s', p.tasks.set i t'⟩ = true) : p.leaving = true := by
  simp only [VmPool.leaving, Bool.or_eq_true, hrow, List.any_eq_true, decide_eq_true_eq] at h ⊢
  refine h.imp_right ?_
  rintro ⟨u, hu, rfl⟩
  exact (List.mem_or_eq_of_mem_set hu).elim (⟨_, ·, rfl⟩) fun heq => absurd heq.symm hne

/-- A statement that leaves the node alone, and the row where it is. -/
lemma Sweeps.quiet (hrow : ∀ r, p.shared.row = some r → r.hostId = hostId)
    (hsame : s' = p.shared ∨ ∃ status, s' = p.shared.writeStatus status) (ht : t.cleansUp = false)
    (hne : t' ≠ .deleteRow) (h : t'.concerns hostId = true) : Sweeps hostId p i t t' s' := by
  obtain rfl | ⟨status, rfl⟩ := hsame
  · exact ⟨h, hrow, fun hl hmem => .inr ⟨ht, hmem, .inl (leaving_of_set hne rfl hl)⟩⟩
  · refine ⟨h, fun r hr => ?_, fun hl hmem => .inr ⟨ht, hmem, .inl (leaving_of_set hne ?_ hl)⟩⟩
    · obtain ⟨r₀, hr₀, rfl⟩ := Option.map_eq_some_iff.1 hr
      exact hrow r₀ hr₀
    · simp [VmShared.writeStatus]

lemma Sweeps.of_query {done failed : Task}
    (h : query p.shared o (done, s₁) failed = some (t', s'))
    (hrow : ∀ r, p.shared.row = some r → r.hostId = hostId)
    (hsame : s₁ = p.shared ∨ ∃ status, s₁ = p.shared.writeStatus status) (ht : t.cleansUp = false)
    (hdone : done ≠ .deleteRow ∧ done.concerns hostId = true)
    (hfailed : failed ≠ .deleteRow ∧ failed.concerns hostId = true) : Sweeps hostId p i t t' s' :=
  query_ind h (fun _ => .quiet hrow hsame ht hdone.1 hdone.2)
    fun _ => .quiet hrow (.inl rfl) ht hfailed.1 hfailed.2

/-- A call about the VM on the node, which is not `create_vm` or `delete_vm`. -/
lemma Sweeps.of_registered {pc : StartPc} {original : VmStatus} {done failed : StartPc}
    (h : nodeCall p.shared o (p.shared.registered hostId) (.start .request done original hostId)
      (.start .request failed original hostId) = some (t', s'))
    (hrow : ∀ r, p.shared.row = some r → r.hostId = hostId)
    (ht : (Task.start .request pc original hostId).cleansUp = false) :
    Sweeps hostId p i (.start .request pc original hostId) t' s' := by
  refine nodeCall_ind h (fun s₁ he _ => ?_) (fun _ => .quiet hrow (.inl rfl) ht (by simp) (by simp))
    fun s₁ he _ => ?_
  all_goals
    obtain ⟨-, rfl⟩ := registered_eq he
    exact .quiet hrow (.inl rfl) ht (by simp) (by simp)

lemma sweeps_start {pc : StartPc} {original : VmStatus}
    (h : startNext p.shared .request pc original hostId o = some (t', s'))
    (hrow : ∀ r, p.shared.row = some r → r.hostId = hostId)
    (hcleanup : pc = .cleanup → hostId ∈ p.shared.instances → o ≠ .fails)
    (hcreate : pc = .createVm → p.leaving = true → o ≠ .unanswered)
    (hcheck : pc = .secondCheck → p.leaving = true → p.shared.row ≠ none → o ≠ .ok) :
    Sweeps hostId p i (.start .request pc original hostId) t' s' := by
  have here (pc : StartPc) : Task.start .request pc original hostId ≠ .deleteRow ∧
      (Task.start .request pc original hostId).concerns hostId = true := by simp
  have done : Task.ended ≠ .deleteRow ∧ Task.ended.concerns hostId = true := by simp [Task.concerns]
  cases pc with
  | check | markRunning => exact .of_query h hrow (.inl rfl) rfl (here _) done
  | setPending => exact .of_query h hrow (.inr ⟨_, rfl⟩) rfl (here _) done
  | setup | firewall => exact .of_query h hrow (.inl rfl) rfl (here _) (here _)
  | revert | restore | setRunning => exact .of_query h hrow (.inr ⟨_, rfl⟩) rfl done done
  | firstCheck =>
    simp only [startNext] at h
    split at h
    · exact .of_query h hrow (.inl rfl) rfl (here _) done
    · exact .of_query h hrow (.inl rfl) rfl done done
  | createVm =>
    refine nodeCall_ind h (fun s₁ he _ => ?_)
      (fun _ => .quiet hrow (.inl rfl) rfl (here _).1 (here _).2) fun s₁ he ho => ?_
    · obtain ⟨-, rfl⟩ := register_eq he
      exact ⟨(here _).2, hrow, fun _ _ => .inl rfl⟩
    · obtain ⟨-, rfl⟩ := register_eq he
      exact ⟨(here _).2, hrow, fun hl _ =>
        absurd ho (hcreate rfl (leaving_of_set (here _).1 rfl hl))⟩
  | secondCheck =>
    simp only [startNext] at h
    split at h
    · rename_i r hr
      -- a job that passes its check does so while nobody deletes the row
      refine query_ind h (fun ho => ?_) fun _ => ⟨(here _).2, hrow, fun _ _ => .inl rfl⟩
      exact ⟨(here _).2, hrow, fun hl _ =>
        absurd ho (hcheck rfl (leaving_of_set (here _).1 rfl hl) (by simp [hr]))⟩
    · exact query_ind h (fun _ => ⟨(here _).2, hrow, fun _ _ => .inl rfl⟩)
        fun _ => ⟨(here _).2, hrow, fun _ _ => .inl rfl⟩
  | cleanup =>
    refine nodeCall_ind h (fun s₁ he _ => ?_)
      (fun ho => ⟨(here _).2, hrow, fun _ hmem => absurd ho (hcleanup rfl hmem)⟩) fun s₁ he _ => ?_
    all_goals
      obtain ⟨-, rfl⟩ := unregister_eq he
      exact ⟨(here _).2, hrow, fun _ hmem => by simp at hmem⟩
  | thirdCheck =>
    simp only [startNext] at h
    split at h <;> exact .of_query h hrow (.inl rfl) rfl (here _) (here _)
  | startVm | forceStop => exact .of_registered h hrow rfl

/-- **The call of a deletion** removes the instance; without the row there is no call. -/
lemma sweeps_deleteNode {status : VmStatus} (h : deleteNode p.shared o = some (t', s'))
    (hrow : ∀ r, p.shared.row = some r → r.hostId = hostId)
    (hok : hostId ∈ p.shared.instances → o ≠ .fails) :
    Sweeps hostId p i (.deleteNode status) t' s' := by
  unfold deleteNode at h
  split at h
  · rename_i r hr
    obtain rfl := hrow r hr
    refine nodeCall_ind h (fun s₁ he _ => ?_)
      (fun ho => ⟨rfl, hrow, fun _ hmem => absurd ho (hok hmem)⟩) fun s₁ he _ => ?_
    all_goals
      obtain ⟨-, rfl⟩ := unregister_eq he
      exact ⟨rfl, hrow, fun _ hmem => by simp at hmem⟩
  · rename_i hnone
    have hleaving : p.leaving = true := by simp [VmPool.leaving, hnone]
    exact query_ind h (fun _ => ⟨rfl, hrow, fun _ hmem => .inr ⟨rfl, hmem, .inl hleaving⟩⟩)
      fun _ => ⟨rfl, hrow, fun _ hmem => .inr ⟨rfl, hmem, .inl hleaving⟩⟩

lemma sweeps_deleteGet (h : deleteGet p.shared o = some (t', s'))
    (hrow : ∀ r, p.shared.row = some r → r.hostId = hostId)
    (hok : ∀ r, p.shared.row = some r → r.status = .created ∨ r.status = .pending →
      hostId ∈ p.shared.instances → ∃ u ∈ p.tasks, u.cleansUp = true) :
    Sweeps hostId p i .deleteGet t' s' := by
  refine query_ind h (fun _ => ?_) fun _ => .quiet hrow (.inl rfl) rfl (by simp) rfl
  cases hr : p.shared.row with
  | none => exact .quiet hrow (.inl rfl) rfl (by simp) rfl
  | some r =>
    simp only
    split_ifs with hstatus
    · exact .quiet hrow (.inl rfl) rfl (by simp) rfl
    · -- the node will not be asked
      refine ⟨rfl, hrow, fun _ hmem => .inr ⟨rfl, hmem, .inr (hok r hr ?_ hmem)⟩⟩
      tauto

lemma sweeps_next (ht : p.tasks[i]? = some t) (hconcerns : t.concerns hostId = true)
    (hrow : ∀ r, p.shared.row = some r → r.hostId = hostId)
    (hok : VmPool.tidy hostId p (.run i o) = true) (h : t.next p.shared o = some (t', s')) :
    Sweeps hostId p i t t' s' := by
  simp only [VmPool.tidy, ht, Option.all_some] at hok
  cases t with
  | startGet caller =>
    cases caller with
    | failover => cases hconcerns
    | request =>
      refine .of_query h hrow (.inl rfl) rfl ?_ ⟨by simp [Caller.onError], rfl⟩
      cases hr : p.shared.row with
      | none => exact ⟨by simp [Caller.onError], rfl⟩
      | some r =>
        obtain rfl := hrow r hr
        simp only
        split_ifs
        · exact ⟨by simp, concerns_start _ _⟩
        · exact ⟨by simp [Caller.onError], rfl⟩
  | start caller pc original hostId' =>
    cases caller with
    | failover => cases hconcerns
    | request =>
      obtain rfl : hostId' = hostId := by simpa [Task.concerns] using hconcerns
      refine sweeps_start h hrow ?_ ?_ ?_
      · rintro rfl hmem
        simpa [hmem] using hok
      · rintro rfl hleaving
        simpa [hleaving] using hok
      · rintro rfl hleaving hsome
        simpa [hleaving, hsome] using hok
  | deleteGet =>
    refine sweeps_deleteGet h hrow fun r hr hstatus hmem => ?_
    rcases hstatus with hstatus | hstatus <;> simpa [hr, hstatus, hmem] using hok
  | deleteNode status => exact sweeps_deleteNode h hrow fun hmem => by simpa [hmem] using hok
  | deleteRow =>
    have hleaving : p.leaving = true := by
      simp only [VmPool.leaving, Bool.or_eq_true, List.any_eq_true]
      exact .inr ⟨_, List.mem_of_getElem? ht, by simp⟩
    exact query_ind h
      (fun _ => ⟨rfl, (fun r hr => by cases hr), fun _ hmem => .inr ⟨rfl, hmem, .inl hleaving⟩⟩)
      fun _ => ⟨rfl, hrow, fun _ hmem => .inr ⟨rfl, hmem, .inl hleaving⟩⟩
  | ended => cases h
  | _ => cases hconcerns

end Statements

/-- **No instance is left alone**: while the row goes, somebody is to clean up. -/
structure Swept (hostId : Uuid) (p : VmPool) : Prop where
  tasks : ∀ t ∈ p.tasks, t.concerns hostId = true
  row : ∀ r, p.shared.row = some r → r.hostId = hostId
  orphan : p.leaving = true → hostId ∈ p.shared.instances → ∃ t ∈ p.tasks, t.cleansUp = true

variable {hostId : Uuid}

lemma swept_step {p' : VmPool} {a : Act Task Outcome} (hinv : Swept hostId p)
    (hok : VmPool.tidy hostId p a = true) (h : VmPool.step p a = some p') : Swept hostId p' := by
  cases a with
  | spawn t =>
    obtain ⟨-, rfl⟩ := step_spawn h
    simp only [VmPool.tidy, Bool.or_eq_true, decide_eq_true_eq] at hok
    refine ⟨fun u hu => ?_, hinv.row, fun hleaving hmem => ?_⟩
    · rcases List.mem_append.1 hu with hu | hu
      · exact hinv.tasks u hu
      · obtain rfl := List.mem_singleton.1 hu
        rcases hok with rfl | rfl <;> rfl
    · have hbefore : p.leaving = true := by
        rcases hok with rfl | rfl <;> simpa [VmPool.leaving] using hleaving
      obtain ⟨u, hu, hc⟩ := hinv.orphan hbefore hmem
      exact ⟨u, List.mem_append_left _ hu, hc⟩
  | run i o =>
    obtain ⟨t, t', s', ht, hn, rfl⟩ := step_run h
    have hs := sweeps_next ht (hinv.tasks t (List.mem_of_getElem? ht)) hinv.row hok hn
    refine ⟨fun u hu => ?_, hs.row, fun hleaving hmem => ?_⟩
    · rcases List.mem_or_eq_of_mem_set hu with hu | rfl
      · exact hinv.tasks u hu
      · exact hs.concerns
    · rcases hs.orphan hleaving hmem with hc | ⟨hc, hmem, hbefore⟩
      · exact ⟨t', List.mem_set (List.getElem?_eq_some_iff.1 ht).1 t', hc⟩
      · -- this task does not clean up, so another one does
        obtain ⟨u, hu, hcu⟩ := hbefore.elim (hinv.orphan · hmem) id
        obtain ⟨j, hj⟩ := List.mem_iff_getElem?.1 hu
        have hij : i ≠ j := by
          rintro rfl
          cases ht.symm.trans hj
          simp [hc] at hcu
        exact ⟨u, List.mem_iff_getElem?.2 ⟨j, by rwa [List.getElem?_set_ne hij]⟩, hcu⟩

lemma swept_of_reach
    (h : Reach VmPool.step (fun p a => VmPool.tidy hostId p a = true) (RestsOn hostId) p) :
    Swept hostId p := by
  refine h.invariant (fun p hp => ?_) fun p a p' hinv hok hs => swept_step hinv hok hs
  obtain ⟨htasks, hrow⟩ := hp
  obtain ⟨r, hr, rfl⟩ := Option.map_eq_some_iff.1 hrow
  refine ⟨by simp [htasks], fun r' hr' => ?_, fun hleaving _ => ?_⟩
  · cases hr.symm.trans hr'
    rfl
  · simp [VmPool.leaving, htasks, hr] at hleaving

/-! ## Starts alone -/

/-- After these a failing job from `Created` does not clean up, or leaves `Pending`. -/
def StartPc.pastCleanup : StartPc → Bool
  | .markRunning | .firstCheck | .thirdCheck | .startVm | .firewall | .restore => true
  | _ => false

/-- **What a start would need.**  `Pending` is written over the status that was read; a job from
`Created` fails only in `create_vm`, without effect, or at its second check, and then its clean-up
does not fail. -/
def VmPool.careful (p : VmPool) : Act Task Outcome → Bool
  | .spawn t => t = .startGet .request
  | .run i o => p.tasks[i]?.all fun t => match t with
      | .start _ .setPending original _ => o ≠ .ok || p.shared.status = some original
      | .start _ .cleanup .created _ => o ≠ .fails
      | .start _ .createVm .created _ => o ≠ .unanswered
      | .start _ pc .created _ => !pc.pastCleanup || o = .ok
      | _ => true

/-- A VM that is `Created` has no instance on its host. -/
def VmShared.Consistent (hostId : Uuid) (s : VmShared) : Prop :=
  ∃ r, s.row = some r ∧ r.hostId = hostId ∧ (r.status = .created → hostId ∉ s.instances)

/-- Nothing is under way. -/
def Provisioned (hostId : Uuid) (p : VmPool) : Prop := p.tasks = [] ∧ p.shared.Consistent hostId

/-- What a start from `Created` knows of the node. -/
def StartPc.Knows (hostId : Uuid) (s : VmShared) : StartPc → Prop
  | .check | .setPending => True
  | .setup | .revert | .markRunning | .firstCheck | .createVm | .restore => hostId ∉ s.instances
  | .secondCheck | .cleanup | .thirdCheck | .startVm | .firewall | .setRunning => True
  | .forceStop => False

/-- What a start relies on. -/
def Task.Starts (hostId : Uuid) (s : VmShared) : Task → Prop
  | .startGet caller => caller = .request
  | .start caller pc original hostId' => caller = .request ∧ hostId' = hostId ∧
      original.startable = true ∧ ((Task.start caller pc original hostId').heldStatus ≠ none →
        s.status = some .pending ∧ (original = .created → pc.Knows hostId s))
  | .ended => True
  | _ => False

/-- What a statement of a start does: nothing shared changes, or it holds the column, or the column
was free. -/
structure Starting (hostId : Uuid) (s : VmShared) (t : Task) (t' : Task) (s' : VmShared) :
    Prop where
  consistent : s'.Consistent hostId
  own : t'.Starts hostId s'
  column : t.heldStatus ≠ none ∨ s.status ≠ some .pending ∨ s' = s ∧ t'.heldStatus = none

variable {s s' : VmShared}

/-- The others keep what they rely on. -/
lemma Starting.others {t t' u : Task} (h : Starting hostId s t t' s') (hu : u.Starts hostId s)
    (happart : t.Apart u) : u.Starts hostId s' ∧ t'.Apart u := by
  have hfree (hnone : u.heldStatus = none) : u.Starts hostId s' ∧ t'.Apart u := by
    refine ⟨?_, .inr hnone⟩
    cases u with
    | start caller pc original hostId' =>
      exact ⟨hu.1, hu.2.1, hu.2.2.1, fun hheld => absurd hnone hheld⟩
    | _ => exact hu
  rcases h.column with ht | hs | ⟨rfl, ht'⟩
  · exact hfree (happart.resolve_left ht)
  · by_cases hnone : u.heldStatus = none
    · exact hfree hnone
    · cases u with
      | start caller pc original hostId' => exact absurd (hu.2.2.2 hnone).1 hs
      | commit | restore => exact hu.elim
      | _ => exact absurd rfl hnone
  · exact ⟨hu, .inl ht'⟩

section Job

variable {s s' : VmShared} {t' : Task} {o : Outcome} {hostId : Uuid} {pc : StartPc}
  {original : VmStatus}

/-- While `Pending`, the VM may have an instance or not. -/
lemma VmShared.Consistent.of_row (h : s.Consistent hostId) (hpending : s.status = some .pending)
    (hrow : s'.row = s.row) : s'.Consistent hostId := by
  obtain ⟨r, hr, hh, -⟩ := h
  have hstatus : r.status = .pending := by simpa [VmShared.status, hr] using hpending
  exact ⟨r, hrow.trans hr, hh, fun hcreated => by simp [hstatus] at hcreated⟩

lemma VmShared.Consistent.writeStatus (h : s.Consistent hostId) {status : VmStatus}
    (hstatus : status = .created → hostId ∉ s.instances) :
    (s.writeStatus status).Consistent hostId := by
  obtain ⟨r, hr, hh, -⟩ := h
  exact ⟨{ r with status }, by simp [VmShared.writeStatus, hr], hh, hstatus⟩

/-- A job goes on. -/
lemma Starting.go_on {pc' : StartPc} (hs : s.Consistent hostId)
    (hpending : s.status = some .pending)
    (hstart : original.startable = true)
    (hheld : (Task.start .request pc original hostId).heldStatus ≠ none) (hrow : s'.row = s.row)
    (hknows : original = .created → pc'.Knows hostId s') :
    Starting hostId s (.start .request pc original hostId)
      (.start .request pc' original hostId) s' := by
  refine ⟨hs.of_row hpending hrow, ⟨rfl, rfl, hstart, fun _ => ⟨?_, hknows⟩⟩, .inl hheld⟩
  rw [VmShared.status, hrow]
  exact hpending

/-- A job ends. -/
lemma Starting.ends (hs : s'.Consistent hostId)
    (hheld : (Task.start .request pc original hostId).heldStatus ≠ none) :
    Starting hostId s (.start .request pc original hostId) .ended s' := ⟨hs, trivial, .inl hheld⟩

/-- The statements of a job, from `setup` to its last write. -/
lemma starting_job (h : startNext s .request pc original hostId o = some (t', s'))
    (hs : s.Consistent hostId) (hstart : original.startable = true)
    (hheld : (Task.start .request pc original hostId).heldStatus ≠ none)
    (hpending : s.status = some .pending) (hknows : original = .created → pc.Knows hostId s)
    (hcleanup : pc = .cleanup → original = .created → o ≠ .fails)
    (hcreate : pc = .createVm → original = .created → o ≠ .unanswered)
    (hpast : pc.pastCleanup = true → original = .created → o = .ok) :
    Starting hostId s (.start .request pc original hostId) t' s' := by
  obtain ⟨r, hr, -⟩ := id hs
  have go_on {pc' : StartPc} {s' : VmShared} (hrow : s'.row = s.row)
      (hknows : original = .created → pc'.Knows hostId s') :=
    Starting.go_on hs hpending hstart hheld hrow hknows
  cases pc with
  | check | setPending => exact absurd rfl hheld
  | setup =>
    exact query_ind h (fun _ => go_on rfl hknows) fun _ => go_on rfl hknows
  | revert | restore =>
    exact query_ind h (fun _ => .ends (hs.writeStatus hknows) hheld) fun _ => .ends hs hheld
  | setRunning =>
    exact query_ind h (fun _ => .ends (hs.writeStatus (by simp)) hheld) fun _ => .ends hs hheld
  | markRunning =>
    exact query_ind h (fun _ => go_on rfl hknows) fun _ => .ends hs hheld
  | firstCheck =>
    simp only [startNext, hr] at h
    refine query_ind h (fun _ => ?_) fun _ => .ends hs hheld
    split_ifs with hcreated
    · exact go_on rfl hknows
    · exact go_on rfl fun hc => absurd hc hcreated
  | createVm =>
    exact nodeCall_ind h (fun _ he _ => go_on (row_register he) fun _ => trivial)
      (fun _ => go_on rfl hknows)
      fun _ he ho => go_on (row_register he) fun hc => absurd ho (hcreate rfl hc)
  | secondCheck =>
    simp only [startNext, hr] at h
    exact query_ind h (fun _ => go_on rfl fun _ => trivial) fun _ => go_on rfl fun _ => trivial
  | cleanup =>
    refine nodeCall_ind h (fun s₁ he _ => ?_)
      (fun ho => go_on rfl fun hc => absurd ho (hcleanup rfl hc)) fun s₁ he _ => ?_
    all_goals
      obtain ⟨-, rfl⟩ := unregister_eq he
      exact go_on rfl fun _ => by simp [StartPc.Knows]
  | thirdCheck =>
    simp only [startNext, hr] at h
    exact query_ind h (fun _ => go_on rfl fun _ => trivial)
      fun ho => go_on rfl fun hc => by simp [hpast rfl hc] at ho
  | startVm =>
    exact nodeCall_ind h (fun _ he _ => go_on (row_registered he) fun _ => trivial)
      (fun ho => go_on rfl fun hc => by simp [hpast rfl hc] at ho)
      fun _ he ho => go_on (row_registered he) fun hc => by simp [hpast rfl hc] at ho
  | firewall =>
    exact query_ind h (fun _ => go_on rfl fun _ => trivial)
      fun ho => go_on rfl fun hc => by simp [hpast rfl hc] at ho
  | forceStop =>
    exact nodeCall_ind h (fun _ he _ => go_on (row_registered he) fun hc => (hknows hc).elim)
      (fun _ => go_on rfl fun hc => (hknows hc).elim)
      fun _ he _ => go_on (row_registered he) fun hc => (hknows hc).elim

end Job

lemma starting_next {i : Nat} {o : Outcome} {t t' : Task} (ht : p.tasks[i]? = some t)
    (hs : p.shared.Consistent hostId) (hstarts : t.Starts hostId p.shared)
    (hok : VmPool.careful p (.run i o) = true) (h : t.next p.shared o = some (t', s')) :
    Starting hostId p.shared t t' s' := by
  simp only [VmPool.careful, ht, Option.all_some] at hok
  obtain ⟨r, hr, rfl, hcreated⟩ := id hs
  cases t with
  | startGet caller =>
    obtain rfl := hstarts
    simp only [Task.next, startGet, hr] at h
    refine query_ind h (fun _ => ?_) fun _ => ⟨hs, trivial, .inr (.inr ⟨rfl, rfl⟩)⟩
    split_ifs with hst
    · exact ⟨hs, ⟨rfl, rfl, hst, fun hheld => absurd rfl hheld⟩, .inr (.inr ⟨rfl, rfl⟩)⟩
    · exact ⟨hs, trivial, .inr (.inr ⟨rfl, rfl⟩)⟩
  | start caller pc original hostId' =>
    obtain ⟨rfl, rfl, hst, hrelies⟩ := hstarts
    by_cases hheld : (Task.start .request pc original r.hostId).heldStatus = none
    · cases pc with
      | check =>
        refine query_ind h (fun _ => ?_) fun _ => ⟨hs, trivial, .inr (.inr ⟨rfl, rfl⟩)⟩
        exact ⟨hs, ⟨rfl, rfl, hst, fun hheld => absurd rfl hheld⟩, .inr (.inr ⟨rfl, rfl⟩)⟩
      | setPending =>
        refine query_ind h (fun ho => ?_) fun _ => ⟨hs, trivial, .inr (.inr ⟨rfl, rfl⟩)⟩
        -- the row still has the status that was read
        have hsame : p.shared.status = some original := by simpa [ho] using hok
        have hrow : r.status = original := by simpa [VmShared.status, hr] using hsame
        refine ⟨hs.writeStatus (by simp), ⟨rfl, rfl, hst, fun _ => ⟨?_, fun hc => ?_⟩⟩,
          .inr (.inl ?_)⟩
        · exact status_writeStatus _ (by simp [hr])
        · exact hcreated (hrow.trans hc)
        · rw [hsame]
          rintro ⟨⟩
          cases hst
      | _ => simp [Task.heldStatus] at hheld
    · obtain ⟨hpending, hknows⟩ := hrelies hheld
      refine starting_job h hs hst hheld hpending hknows ?_ ?_ ?_
      · rintro rfl rfl
        simpa using hok
      · rintro rfl rfl
        simpa using hok
      · rintro hpast rfl
        cases pc <;> simp_all [StartPc.pastCleanup]
  | ended => cases h
  | _ => exact hstarts.elim

lemma starts_of_reach
    (h : Reach VmPool.step (fun p a => VmPool.careful p a = true) (Provisioned hostId) p) :
    Inv (fun s => s.Consistent hostId) (fun s t => t.Starts hostId s) Task.Apart p := by
  refine reach_inv (fun _ _ => Or.symm) (fun p hp => ?_) (fun p t hok _ _ => ?_)
    (fun p i o t t' s' hinv hok ht hn => ?_) h
  · exact inv_nil hp.1 hp.2
  · obtain rfl : t = .startGet .request := by simpa [VmPool.careful] using hok
    exact ⟨rfl, fun u _ => .inl rfl⟩
  · have hs := starting_next ht hinv.shared (hinv.each i t ht) hok hn
    exact ⟨hs.consistent, hs.own, fun u _ => hs.others⟩

/-! ## Both -/

/-- The statements of the job, after the handler has returned. -/
def StartPc.inJob : StartPc → Bool
  | .check | .setPending | .setup | .revert => false
  | _ => true

/-- A start of which every call succeeds. -/
def everyCallSucceeds : List Outcome := List.replicate 12 .ok

/-- A `Created` VM without an instance can be started. -/
lemma start_succeeds {r : TaskRow} (hr : s.row = some r) (hh : r.hostId = hostId)
    (hstatus : r.status = .created) (hfree : hostId ∉ s.instances) :
    ∃ s', run alone (.startGet .request, s) everyCallSucceeds = some (.ended, s') ∧
      s'.status = some .running ∧ hostId ∈ s'.instances := by
  subst hh
  simp [everyCallSucceeds, run, alone, Task.next, startGet, startNext, query, ignored, nodeCall, hr,
    hstatus, VmStatus.startable, VmShared.writeStatus, VmShared.register, VmShared.registered,
    hfree, VmShared.status]

/-- A careful job from `Created` that does not get to its last write ends by restoring `Created`. -/
lemma failed_job_restores {pc : StartPc} {o : Outcome}
    (h : startNext s .request pc .created hostId o = some (.ended, s')) (hjob : pc.inJob = true)
    (hpc : pc ≠ .setRunning) (hrow : s.row.isSome = true)
    (hpast : pc.pastCleanup = true → o = .ok) :
    pc = .restore ∧ s' = s.writeStatus .created := by
  obtain ⟨r, hr⟩ := Option.isSome_iff_exists.1 hrow
  cases pc with
  | restore =>
    obtain rfl := hpast rfl
    cases h
    exact ⟨rfl, rfl⟩
  | markRunning | thirdCheck | firewall | firstCheck =>
    obtain rfl := hpast rfl
    simp [startNext, query, hr] at h
  | secondCheck =>
    cases o <;> simp [startNext, query, hr] at h
  | createVm | cleanup | startVm | forceStop =>
    cases o <;> simp [startNext, nodeCall] at h
  | setRunning => exact absurd rfl hpc
  | check | setPending | setup | revert => cases hjob

/-- **No instance is left on the node**: by starts and deletions, if a deletion that reads `Created`
or `Pending` is right about the node and no job passes its check while the row is about to go; and
by a start job from `Created` that fails, so that a later start can succeed, if it fails where it
cleans up. -/
theorem no_instance_left (hostId : Uuid) :
    (∀ p : VmPool, Reach VmPool.step (fun p a => VmPool.tidy hostId p a = true) (RestsOn hostId) p →
      (∀ t ∈ p.tasks, t = .ended) → p.shared.row = none → hostId ∉ p.shared.instances) ∧
    ∀ p : VmPool, Reach VmPool.step (fun p a => VmPool.careful p a = true) (Provisioned hostId) p →
      ∀ (i : Nat) (pc : StartPc) (o : Outcome) (p' : VmPool),
        p.tasks[i]? = some (.start .request pc .created hostId) → pc.inJob = true →
        pc ≠ .setRunning → VmPool.careful p (.run i o) = true → VmPool.step p (.run i o) = some p' →
        p'.tasks[i]? = some .ended →
        hostId ∉ p'.shared.instances ∧
          ∃ s, run alone (.startGet .request, p'.shared) everyCallSucceeds = some (.ended, s) ∧
            s.status = some .running ∧ hostId ∈ s.instances := by
  constructor
  · intro p h hended hrow hmem
    have hleaving : p.leaving = true := by simp [VmPool.leaving, hrow]
    obtain ⟨t, ht, hc⟩ := (swept_of_reach h).orphan hleaving hmem
    rw [hended t ht] at hc
    cases hc
  · intro p h i pc o p' hi hjob hpc hok hs hended
    have hinv := starts_of_reach h
    obtain ⟨t, t', s', ht, hn, rfl⟩ := step_run hs
    cases hi.symm.trans ht
    rw [List.getElem?_set_self (List.getElem?_eq_some_iff.1 ht).1] at hended
    cases hended
    obtain ⟨r, hr, hh, -⟩ := hinv.shared
    have hpast : pc.pastCleanup = true → o = .ok := fun hpast => by
      cases pc <;> simp_all [VmPool.careful, StartPc.pastCleanup]
    obtain ⟨rfl, rfl⟩ := failed_job_restores hn hjob hpc (by simp [hr]) hpast
    have hknows := ((hinv.each i _ hi).2.2.2 (by simp [Task.heldStatus])).2 rfl
    refine ⟨hknows, start_succeeds (r := { r with status := .created }) ?_ hh rfl hknows⟩
    simp [VmShared.writeStatus, hr]

section Runs

/-- The first `n` statements of a start. -/
def startUpTo (n : Nat) : List (Act Task Outcome) :=
  .spawn (.startGet .request) :: List.replicate n (.run 0 .ok)

/-- The row is deleted before the second check of the job. -/
def deletedBeforeCheck : List (Act Task Outcome) :=
  startUpTo 7 ++ [.spawn .deleteGet, .run 1 .ok, .run 1 .ok, .run 0 .ok, .run 0 .ok, .run 0 .ok]

/-- `create_vm` fails on the node. -/
def createVmRefused : List (Act Task Outcome) := startUpTo 6 ++ [.run 0 .fails]

/-- The VM is started; then it is deleted on its node, and its row. -/
def deletedWhileRunning : List (Act Task Outcome) :=
  startUpTo 12 ++ [.spawn .deleteGet, .run 1 .ok, .run 1 .ok, .run 1 .ok]

theorem deletedBeforeCheck_and_createVmRefused_leave_none :
    (∀ acts ∈ [deletedBeforeCheck, deletedWhileRunning],
      ∃ p, run VmPool.step createdVm acts = some p ∧
        p.tasks = [.ended, .ended] ∧ p.shared.row = none ∧
        (⟨"host-a"⟩ : Uuid) ∉ p.shared.instances) ∧
    ∃ p p', run VmPool.step createdVm createVmRefused = some p ∧
      VmPool.step p (.run 0 .ok) = some p' ∧ p'.tasks = [.ended] ∧
      (⟨"host-a"⟩ : Uuid) ∉ p'.shared.instances ∧
      ∃ s, run alone (.startGet .request, p'.shared) everyCallSucceeds = some (.ended, s) ∧
        s.status = some .running ∧ (⟨"host-a"⟩ : Uuid) ∈ s.instances := by
  have hdelete : ∀ acts ∈ [deletedBeforeCheck, deletedWhileRunning],
      (∃ p ∈ run VmPool.step createdVm acts, p.tasks = [.ended, .ended] ∧ p.shared.row = none) ∧
        Along VmPool.step (fun p a => VmPool.tidy ⟨"host-a"⟩ p a = true) createdVm acts := by
    decide +kernel
  have hstart : (run VmPool.step createdVm createVmRefused).map
        (fun p => (p.tasks, VmPool.careful p (.run 0 .ok),
          (VmPool.step p (.run 0 .ok)).map (·.tasks)))
        = some ([.start .request .restore .created ⟨"host-a"⟩], true, some [.ended]) ∧
      Along VmPool.step (fun p a => VmPool.careful p a = true) createdVm createVmRefused := by
    decide +kernel
  constructor
  · intro acts hacts
    obtain ⟨p, hp, ⟨htasks, hrow⟩, hreach⟩ :=
      exists_reach (show RestsOn ⟨"host-a"⟩ createdVm from ⟨rfl, rfl⟩) (hdelete acts hacts)
    exact ⟨p, hp, htasks, hrow, (no_instance_left ⟨"host-a"⟩).1 p hreach (by simp [htasks]) hrow⟩
  · obtain ⟨q, hq, hfields⟩ := Option.map_eq_some_iff.1 hstart.1
    simp only [Prod.mk.injEq] at hfields
    obtain ⟨htasks, hcareful, hstep⟩ := hfields
    obtain ⟨q', hq', htasks'⟩ := Option.map_eq_some_iff.1 hstep
    refine ⟨q, q', hq, hq', htasks', ?_⟩
    have hstart₀ : Provisioned ⟨"host-a"⟩ createdVm := ⟨rfl, _, rfl, rfl, fun _ => by decide⟩
    exact (no_instance_left ⟨"host-a"⟩).2 q
      (reach_of_run (.start hstart₀) hstart.2 hq) 0 .restore .ok
      q' (by rw [htasks]; rfl) rfl (by simp) hcareful hq' (by rw [htasks']; rfl)

/-- The row is deleted after the second check of the job. -/
def deletedAfterCheck : List (Act Task Outcome) :=
  startUpTo 8 ++ [.spawn .deleteGet, .run 1 .ok, .run 1 .ok, .run 0 .ok, .run 0 .ok]

/-- `start_vm` fails on the node. -/
def startVmFails : List (Act Task Outcome) := startUpTo 9 ++ [.run 0 .fails, .run 0 .ok]

/-- **Both leave an instance**: a deletion that reads `Pending`, and a start that fails after
`create_vm`; the node then refuses the `create_vm` of the next start. -/
theorem instance_left :
    (run VmPool.step createdVm deletedAfterCheck).map
        (fun p => (p.tasks, p.shared.row, p.shared.instances))
      = some ([.ended, .ended], none, [⟨"host-a"⟩]) ∧
    (run VmPool.step createdVm startVmFails).map
        (fun p => (p.tasks, p.shared.status, p.shared.instances,
          (run alone (.startGet .request, p.shared) everyCallSucceeds).isSome))
      = some ([.ended], some .created, [⟨"host-a"⟩], false) := by
  decide +kernel

end Runs

end Qarax.Tasks
