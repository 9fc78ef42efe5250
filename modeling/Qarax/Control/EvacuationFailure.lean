import Qarax.Core.Machine
import Qarax.Control.Evacuation

/-!
# Evacuations that fail

An evacuation has many exits.  The handler gives up before it has written anything, or after it has
put the host into maintenance; the job gives up between the VMs, or in the middle of one.
`fail_host_evacuation` puts the status of the host back as long as no VM was moved.

Here the statements of `evacuateNext` run one after the other, each with any outcome, next to the
status of the job.  Nothing else writes meanwhile, so the status that a VM had when the evacuation
reached it is the one it had before.

* `EvacRun.next` — one statement.
* `failurePathWrites` — what the failure path writes is written.
* `Undone` — what is left of an evacuation that failed.
* `evacuation_undone_iff` — this is so unless the job cannot be created, or its end cannot be
  recorded.
-/

namespace Qarax

namespace Evacuation

open Machine

inductive JobStatus where
  | pending
  | running
  | completed
  | failed
  deriving DecidableEq

/-- The evacuation, its tables and its job.  A VM counts as moved once its node has sent it. -/
structure EvacRun where
  pc : EvacPc
  db : EvacDb
  job : Option JobStatus
  moved : List Uuid

/-- What a statement does to the row of the job; `fail` ends with `mark_failed_with_result`. -/
def jobAfter (job : Option JobStatus) (o : Outcome) : EvacPc → Option JobStatus
  | .createJob _ => if o = .ok then some .pending else job
  | .markRunning _ => if o = .ok then some .running else job
  | .load j => if j.todo = [] ∧ o = .ok then some .completed else job
  | .fail _ => if o = .ok then some .failed else job
  | _ => job

def movedAfter (moved : List Uuid) (o : Outcome) : EvacPc → List Uuid
  | .transfer _ plan => if o = .ok then plan.vmId :: moved else moved
  | _ => moved

def EvacRun.next (settings : SchedulingSettings) (hostId : Uuid) (s : EvacRun) (o : Outcome) :
    Option EvacRun :=
  (evacuateNext settings hostId s.db o s.pc).map fun (pc, db) =>
    ⟨pc, db, jobAfter s.job o s.pc, movedAfter s.moved o s.pc⟩

def EvacRun.start (db : EvacDb) : EvacRun := ⟨.get, db, none, []⟩

/-- The status of a VM. -/
def EvacDb.vmStatus (db : EvacDb) (vmId : Uuid) : Option VmStatus :=
  (db.cluster.vm? vmId).map (·.status)

/-- Writes of a status on the failure path succeed. -/
def failurePathWrites (s : EvacRun) (o : Outcome) : Bool :=
  match s.pc with
  | .restoreVm _ _ | .fail _ => o = .ok
  | _ => true

/-- **What is left of an evacuation that failed.** -/
structure Undone (hostId : Uuid) (db : EvacDb) (s : EvacRun) : Prop where
  host : s.moved = [] → s.db.statusOf hostId = db.statusOf hostId
  job : s.moved ≠ [] → s.db.statusOf hostId = some .maintenance ∧ s.job = some .failed
  vms : ∀ vmId, vmId ∉ s.moved → s.db.vmStatus vmId = db.vmStatus vmId

/-- **The job is created and its end recorded**, unless the host was in maintenance before and no VM
was moved. -/
def recorded (s : EvacRun) (o : Outcome) : Bool :=
  match s.pc with
  | .createJob job => o = .ok || job.originalHostStatus = .maintenance
  | .load job => o = .ok || job.todo ≠ [] ||
      (job.moved = [] && job.originalHostStatus = .maintenance)
  | _ => true

/-! ## Statuses -/

section Statuses

variable {db : EvacDb} {hostId vmId id : Uuid}

lemma vmStatus_setVmStatus_self (status : VmStatus) :
    (db.setVmStatus vmId status).vmStatus vmId = (db.vmStatus vmId).map fun _ => status := by
  have hfind : (db.setVmStatus vmId status).cluster.vm? vmId
      = (db.cluster.vm? vmId).map fun vm => { vm with status } :=
    Rows.find?_update_self fun _ h => h
  rw [EvacDb.vmStatus, hfind, EvacDb.vmStatus, Option.map_map, Option.map_map]
  rfl

lemma vmStatus_setVmStatus_of_ne (h : id ≠ vmId) (status : VmStatus) :
    (db.setVmStatus vmId status).vmStatus id = db.vmStatus id :=
  congrArg (Option.map _) (Rows.find?_update_of_ne h fun _ hid => hid)

lemma vmStatus_updateHostId (target : Uuid) :
    (db.updateHostId vmId target).vmStatus id = db.vmStatus id := by
  by_cases h : id = vmId
  · subst h
    have hfind : (db.updateHostId id target).cluster.vm? id
        = (db.cluster.vm? id).map fun vm => { vm with hostId := some target } :=
      Rows.find?_update_self fun _ h => h
    rw [EvacDb.vmStatus, hfind, EvacDb.vmStatus, Option.map_map]
    rfl
  · exact congrArg (Option.map _) (Rows.find?_update_of_ne h fun _ hid => hid)

end Statuses

/-! ## What the evacuation has read -/

/-- What `plan_vm_migration` has read of the VM is still so. -/
def PlanStage.Reads (db : EvacDb) (vmId : Uuid) : PlanStage → Prop
  | .getVm => True
  | .sourceHost vm | .targetHost vm _ => db.vmStatus vmId = some vm.status
  | .checks plan => plan.vmId = vmId ∧ db.vmStatus vmId = some plan.originalStatus

def PlanStep.Reads (db : EvacDb) (vmId : Uuid) : PlanStep → Prop
  | .next stage => stage.Reads db vmId
  | .planned plan => plan.vmId = vmId ∧ db.vmStatus vmId = some plan.originalStatus
  | .unprocessable | .failed => True

def Search.Reads (db : EvacDb) (vmId : Uuid) : Search → Prop
  | .request | .pick _ => True
  | .plan _ _ stage => stage.Reads db vmId

def SearchStep.Reads (db : EvacDb) (vmId : Uuid) : SearchStep → Prop
  | .next search => search.Reads db vmId
  | .planned plan => plan.vmId = vmId ∧ db.vmStatus vmId = some plan.originalStatus
  | .failed => True

section Reads

variable {settings : SchedulingSettings} {db : EvacDb} {o : Outcome} {vmId : Uuid}

lemma planNext_reads (targetHostId : Uuid) {stage : PlanStage} (h : stage.Reads db vmId) :
    (planNext db.cluster o vmId targetHostId stage).Reads db vmId := by
  cases stage with
  | getVm =>
    simp only [planNext]
    split
    · trivial
    · next vm hvm =>
        have hfound : db.cluster.vm? vmId = some vm := by
          split_ifs at hvm
          exact hvm
        split_ifs
        · exact congrArg (Option.map _) hfound
        · trivial
  | sourceHost vm =>
    simp only [planNext]
    split
    · trivial
    · split
      · trivial
      · exact h
  | targetHost vm source =>
    simp only [planNext]
    split
    · trivial
    · split_ifs
      · trivial
      · exact ⟨rfl, h⟩
  | checks plan =>
    cases o with
    | ok =>
      simp only [planNext]
      split_ifs
      · exact h
      · trivial
    | refused => trivial
    | fail => trivial

lemma searchNext_reads {vm : ScheduledVm} {sourceHostId : Uuid} {search : Search}
    (h : search.Reads db vm.id) :
    (searchNext settings db o vm sourceHostId search).Reads db vm.id := by
  cases search with
  | request =>
    simp only [searchNext]
    split_ifs <;> trivial
  | pick request =>
    simp only [searchNext]
    split <;> trivial
  | plan request candidateId stage =>
    have hplan := @planNext_reads db o vm.id candidateId stage h
    simp only [searchNext]
    split
    · next hstep => rwa [hstep] at hplan
    · next hstep => rwa [hstep] at hplan
    · trivial
    · trivial

end Reads

/-! ## How far the evacuation is -/

/-- Whether the host is in maintenance on account of the evacuation. -/
inductive Phase where
  /-- Not yet; the status that the handler has read. -/
  | before (original : Option HostStatus)
  /-- With the status to go back to, and the VMs that count as evacuated. -/
  | during (original : HostStatus) (evacuated : List Uuid)

def EvacPc.phase : EvacPc → Phase
  | .get | .done => .before none
  | .list original | .check original _ _ _ | .setMaintenance original _ => .before (some original)
  | .createJob job | .markRunning job | .load job | .search job _ _ | .setMigrating job _
  | .transfer job _ | .updateStatus job _ | .restoreVm job _ | .fail job =>
    .during job.originalHostStatus job.moved
  | .updateHostId job plan => .during job.originalHostStatus (job.moved ++ [plan.vmId])

def Phase.Holds (hostId : Uuid) (before db : EvacDb) (moved : List Uuid) : Phase → Prop
  | .before original => db.statusOf hostId = before.statusOf hostId ∧ moved = [] ∧
      ∀ status ∈ original, before.statusOf hostId = some status
  | .during original evacuated => db.statusOf hostId = some .maintenance ∧
      before.statusOf hostId = some original ∧ (evacuated = [] ↔ moved = [])

/-- The VM whose status is `Migrating` on account of the evacuation. -/
def EvacPc.inTransit : EvacPc → Option PlannedVmMigration
  | .transfer _ plan | .restoreVm _ plan => some plan
  | _ => none

/-- The VM that was sent last. -/
def EvacPc.sent : EvacPc → Option PlannedVmMigration
  | .updateHostId _ plan | .updateStatus _ plan => some plan
  | _ => none

/-- What the evacuation carries from one statement to the next. -/
def EvacPc.Carries (db : EvacDb) : EvacPc → Prop
  | .createJob job => job.moved = []
  | .search _ vm looking => looking.Reads db vm.id
  | .setMigrating _ plan => db.vmStatus plan.vmId = some plan.originalStatus
  | _ => True

/-- **Nothing is written but what the evacuation can undo**, as long as it is not done. -/
structure Progress (hostId : Uuid) (before : EvacDb) (s : EvacRun) : Prop where
  phase : s.pc.phase.Holds hostId before s.db s.moved
  vms : ∀ vmId, vmId ∉ s.moved → (∀ plan ∈ s.pc.inTransit, plan.vmId ≠ vmId) →
    s.db.vmStatus vmId = before.vmStatus vmId
  transit : ∀ plan ∈ s.pc.inTransit, (s.db.vmStatus plan.vmId).isSome = true ∧
    (plan.vmId ∉ s.moved → before.vmStatus plan.vmId = some plan.originalStatus)
  sent : ∀ plan ∈ s.pc.sent, plan.vmId ∈ s.moved
  carries : s.pc.Carries s.db
  job : s.job ≠ some .failed

section Progress

variable {settings : SchedulingSettings} {hostId : Uuid} {before : EvacDb} {s s' : EvacRun}
  {o : Outcome}

lemma Progress.start (db : EvacDb) : Progress hostId db (.start db) :=
  ⟨⟨rfl, rfl, nofun⟩, fun _ _ _ => rfl, nofun, nofun, trivial, nofun⟩

/-- A statement that writes neither hosts nor VMs. -/
lemma Progress.go {pc : EvacPc} {job : Option JobStatus} (h : Progress hostId before s)
    (hphase : pc.phase = s.pc.phase) (htransit : s.pc.inTransit = none)
    (htransit' : pc.inTransit = none) (hsent : pc.sent = none) (hcarries : pc.Carries s.db)
    (hjob : job ≠ some .failed) :
    Progress hostId before ⟨pc, s.db, job, s.moved⟩ where
  phase := by
    show pc.phase.Holds hostId before s.db s.moved
    rw [hphase]
    exact h.phase
  vms vmId hmoved _ := h.vms vmId hmoved (by simp [htransit])
  transit := by simp [htransit']
  sent := by simp [hsent]
  carries := hcarries
  job := hjob

/-- No VM is under way, so no VM that was not moved has another status. -/
lemma Progress.vms_of_none (h : Progress hostId before s) (htransit : s.pc.inTransit = none)
    {vmId : Uuid} (hmoved : vmId ∉ s.moved) : s.db.vmStatus vmId = before.vmStatus vmId :=
  h.vms vmId hmoved (by simp [htransit])

section Job

variable {db : EvacDb} {status : Option JobStatus} {moved : List Uuid} {job : EvacJob}
  {plan : PlannedVmMigration}

lemma Progress.setMigrating
    (h : Progress hostId before ⟨.setMigrating job plan, db, status, moved⟩) :
    Progress hostId before
      ⟨.transfer job plan, db.setVmStatus plan.vmId .migrating, status, moved⟩ := by
  have hread : db.vmStatus plan.vmId = some plan.originalStatus := h.carries
  refine ⟨h.phase, fun vmId hmoved hne => ?_, fun plan' hplan => ?_, nofun, trivial, h.job⟩
  · exact (vmStatus_setVmStatus_of_ne (Ne.symm (hne plan rfl)) _).trans (h.vms_of_none rfl hmoved)
  · cases hplan
    refine ⟨?_, fun hmoved => (h.vms_of_none rfl hmoved).symm.trans hread⟩
    rw [vmStatus_setVmStatus_self, hread]
    rfl

/-- The VM is sent. -/
lemma Progress.transferred (h : Progress hostId before ⟨.transfer job plan, db, status, moved⟩) :
    Progress hostId before ⟨.updateHostId job plan, db, status, plan.vmId :: moved⟩ := by
  obtain ⟨hhost, horiginal, -⟩ := h.phase
  refine ⟨⟨hhost, horiginal, by simp⟩, fun vmId hnot _ => ?_, nofun, fun plan' hplan => ?_, trivial,
    h.job⟩
  · rw [List.mem_cons, not_or] at hnot
    refine h.vms vmId hnot.2 fun plan' hplan => ?_
    cases hplan
    exact Ne.symm hnot.1
  · cases hplan
    exact List.mem_cons_self

/-- A VM that could not be sent has its status back. -/
lemma Progress.restoreVm (h : Progress hostId before ⟨.restoreVm job plan, db, status, moved⟩) :
    Progress hostId before
      ⟨.fail job, db.setVmStatus plan.vmId plan.originalStatus, status, moved⟩ := by
  refine ⟨h.phase, fun vmId hmoved _ => ?_, nofun, nofun, trivial, h.job⟩
  obtain ⟨hrow, horiginal⟩ := h.transit plan rfl
  by_cases heq : vmId = plan.vmId
  · obtain ⟨old, hold⟩ := Option.isSome_iff_exists.1 hrow
    have hback : (db.setVmStatus plan.vmId plan.originalStatus).vmStatus plan.vmId
        = some plan.originalStatus := by
      rw [vmStatus_setVmStatus_self, hold]
      rfl
    rw [heq]
    exact hback.trans (horiginal (heq ▸ hmoved)).symm
  · refine (vmStatus_setVmStatus_of_ne heq _).trans (h.vms vmId hmoved fun plan' hplan => ?_)
    cases hplan
    exact Ne.symm heq

/-- The host is put into maintenance. -/
lemma Progress.maintenance {original : HostStatus} {residents : List ScheduledVm} {ids : List Uuid}
    (h : Progress hostId before ⟨.setMaintenance original residents, db, status, moved⟩) :
    Progress hostId before ⟨.createJob ⟨original, ids, []⟩, db.setHostStatus hostId .maintenance,
      status, moved⟩ := by
  obtain ⟨hsame, hmoved, horiginal⟩ := h.phase
  have hfound := horiginal original rfl
  refine ⟨⟨statusOf_setHostStatus db hostId .maintenance ?_, hfound,
    ⟨fun _ => hmoved, fun _ => rfl⟩⟩, h.vms, nofun, nofun, rfl, h.job⟩
  rw [hsame, hfound]
  rfl

/-- The status of a VM that was moved is written. -/
lemma Progress.updateStatus {vmStatus : VmStatus}
    (h : Progress hostId before ⟨.updateStatus job plan, db, status, moved⟩) :
    Progress hostId before ⟨.load job, db.setVmStatus plan.vmId vmStatus, status, moved⟩ := by
  refine ⟨h.phase, fun vmId hmoved _ => ?_, nofun, nofun, trivial, h.job⟩
  have hne : vmId ≠ plan.vmId := fun heq => hmoved (heq ▸ h.sent plan rfl)
  exact (vmStatus_setVmStatus_of_ne hne _).trans (h.vms_of_none rfl hmoved)

end Job

/-- **One statement**, as long as the evacuation is not done. -/
lemma Progress.next (h : Progress hostId before s) (hwrites : failurePathWrites s o = true)
    (hs : s.next settings hostId o = some s') (hdone : s'.pc ≠ .done) :
    Progress hostId before s' := by
  obtain ⟨pc, db, job, moved⟩ := s
  obtain ⟨⟨pc', db'⟩, hnext, rfl⟩ := Option.map_eq_some_iff.1 hs
  cases goes_of_evacuateNext hnext with
  | quit | uncreated | completed | uncompleted | left | undone | notUndone =>
    exact absurd rfl hdone
  | got hhost =>
    obtain ⟨hsame, hmoved, -⟩ := h.phase
    refine { h with phase := ⟨hsame, hmoved, fun status hstatus => ?_⟩, carries := trivial }
    cases hstatus
    exact hsame.symm.trans (congrArg (Option.map _) hhost)
  | listed => cases db.residents hostId <;> exact h.go rfl rfl rfl rfl trivial h.job
  | @checked _ _ _ todo => cases todo <;> exact h.go rfl rfl rfl rfl trivial h.job
  | checking | unplanned | notMigrating => exact h.go rfl rfl rfl rfl trivial h.job
  | maintenance => exact h.maintenance
  | created ho | marked ho => exact h.go rfl rfl rfl rfl trivial (by simp [jobAfter, ho])
  | unmarked ho => exact h.go rfl rfl rfl rfl trivial (by simpa [jobAfter, ho] using h.job)
  | loaded htodo | unloaded htodo =>
    exact h.go rfl rfl rfl rfl trivial (by simpa [jobAfter, htodo] using h.job)
  | @searching _ vm search search' hstep =>
    have hreads := @searchNext_reads settings db o vm hostId search h.carries
    rw [hstep] at hreads
    exact h.go rfl rfl rfl rfl hreads h.job
  | @planned _ vm search plan hstep =>
    have hreads := @searchNext_reads settings db o vm hostId search h.carries
    rw [hstep] at hreads
    obtain ⟨hid, hstatus⟩ := hreads
    exact h.go rfl rfl rfl rfl ((congrArg db.vmStatus hid).trans hstatus) h.job
  | migrating => exact h.setMigrating
  | sent ho =>
    simp only [movedAfter, if_pos ho]
    exact h.transferred
  | unsent ho =>
    simp only [movedAfter, if_neg ho]
    exact ⟨h.phase, h.vms, h.transit, nofun, trivial, h.job⟩
  | moved =>
    exact ⟨h.phase, fun vmId hmoved _ => (vmStatus_updateHostId _).trans (h.vms_of_none rfl hmoved),
      nofun, h.sent, trivial, h.job⟩
  | unmoved =>
    exact ⟨h.phase, fun vmId hmoved _ => h.vms_of_none rfl hmoved, nofun, h.sent, trivial, h.job⟩
  | updated => exact h.updateStatus
  | stale => exact h.go rfl rfl rfl rfl trivial h.job
  | restored => exact h.restoreVm
  | unrestored ho => exact absurd (of_decide_eq_true hwrites) ho

/-- The handler gives up before it has written anything. -/
lemma Progress.undone_before {original : Option HostStatus} {job : Option JobStatus}
    (h : Progress hostId before s) (hphase : s.pc.phase = .before original)
    (htransit : s.pc.inTransit = none) :
    Undone hostId before ⟨.done, s.db, job, s.moved⟩ := by
  have hholds := h.phase
  rw [hphase] at hholds
  obtain ⟨hsame, hmoved, -⟩ := hholds
  exact ⟨fun _ => hsame, fun hne => absurd hmoved hne, fun vmId hnot => h.vms_of_none htransit hnot⟩

/-- The evacuation ends with the host in maintenance and no failed job. -/
lemma Progress.undone_during {status : HostStatus} {evacuated : List Uuid} {job : Option JobStatus}
    (h : Progress hostId before s) (hphase : s.pc.phase = .during status evacuated)
    (htransit : s.pc.inTransit = none) (hjob : job ≠ some .failed) :
    Undone hostId before ⟨.done, s.db, job, s.moved⟩ ↔ evacuated = [] ∧ status = .maintenance := by
  have hholds := h.phase
  rw [hphase] at hholds
  obtain ⟨hhost, horiginal, hcount⟩ := hholds
  constructor
  · intro hundone
    have hmoved : s.moved = [] := by
      by_contra hne
      exact hjob (hundone.job hne).2
    have hsame := hundone.host hmoved
    rw [hhost, horiginal] at hsame
    exact ⟨hcount.2 hmoved, (Option.some.inj hsame).symm⟩
  · rintro ⟨hnone, rfl⟩
    have hmoved := hcount.1 hnone
    exact ⟨fun _ => hhost.trans horiginal.symm, fun hne => absurd hmoved hne,
      fun vmId hnot => h.vms_of_none htransit hnot⟩

/-- The failure path puts the status of the host back. -/
lemma Progress.undone_fail {job : EvacJob} {db : EvacDb} {status : Option JobStatus}
    {moved : List Uuid} (h : Progress hostId before ⟨.fail job, db, status, moved⟩)
    (hnone : job.moved = []) : Undone hostId before
      ⟨.done, db.setHostStatus hostId job.originalHostStatus, some .failed, moved⟩ := by
  obtain ⟨hhost, horiginal, hcount⟩ := h.phase
  have hrestored := statusOf_setHostStatus db hostId job.originalHostStatus (by
    rw [hhost]
    rfl)
  exact ⟨fun _ => hrestored.trans horiginal.symm, fun hne => absurd (hcount.1 hnone) hne,
    fun vmId hnot => h.vms_of_none rfl hnot⟩

/-- It leaves the host in maintenance, since VMs were moved. -/
lemma Progress.undone_left {job : EvacJob} {db : EvacDb} {status : Option JobStatus}
    {moved : List Uuid} (h : Progress hostId before ⟨.fail job, db, status, moved⟩)
    (hmoved : job.moved ≠ []) : Undone hostId before ⟨.done, db, some .failed, moved⟩ := by
  obtain ⟨hhost, -, hcount⟩ := h.phase
  exact ⟨fun hnone => absurd (hcount.2 hnone) hmoved, fun _ => ⟨hhost, rfl⟩,
    fun vmId hnot => h.vms_of_none rfl hnot⟩

/-- **The last statement**: what is left is undone exactly if the job and its end are recorded. -/
lemma Progress.undone_iff (h : Progress hostId before s) (hwrites : failurePathWrites s o = true)
    (hs : s.next settings hostId o = some s') (hdone : s'.pc = .done)
    (hfailed : s'.job ≠ some .completed) : Undone hostId before s' ↔ recorded s o = true := by
  obtain ⟨pc, db, job, moved⟩ := s
  obtain ⟨⟨pc', db'⟩, hnext, rfl⟩ := Option.map_eq_some_iff.1 hs
  replace hdone : pc' = .done := hdone
  cases goes_of_evacuateNext hnext with
  | @quit pc hearly =>
    cases pc with
    | get | list | check | setMaintenance => exact iff_of_true (h.undone_before rfl rfl) rfl
    | _ => cases hearly
  | uncreated ho =>
    simp only [jobAfter, if_neg ho]
    refine (h.undone_during rfl rfl h.job).trans ?_
    simp [recorded, ho, show EvacJob.moved _ = [] from h.carries]
  | completed htodo ho => exact absurd (by simp [jobAfter, htodo, ho]) hfailed
  | uncompleted htodo ho =>
    simp only [jobAfter, htodo, true_and, if_neg ho]
    refine (h.undone_during rfl rfl h.job).trans ?_
    simp [recorded, ho, htodo]
  | left hmoved =>
    simp only [jobAfter, if_pos (of_decide_eq_true hwrites)]
    exact iff_of_true (h.undone_left hmoved) rfl
  | undone hnone =>
    simp only [jobAfter, if_pos (of_decide_eq_true hwrites)]
    exact iff_of_true (h.undone_fail hnone) rfl
  | notUndone ho => exact absurd (of_decide_eq_true hwrites) ho
  | listed => cases hresidents : db.residents hostId <;> rw [hresidents] at hdone <;> cases hdone
  | @checked _ _ _ todo => cases todo <;> cases hdone
  | _ => cases hdone

/-- A statement that does not end the evacuation meets the condition. -/
lemma recorded_of_next (hs : s.next settings hostId o = some s') (hdone : s'.pc ≠ .done) :
    recorded s o = true := by
  obtain ⟨pc, db, job, moved⟩ := s
  obtain ⟨⟨pc', db'⟩, hnext, rfl⟩ := Option.map_eq_some_iff.1 hs
  cases goes_of_evacuateNext hnext with
  | quit | uncreated | completed | uncompleted => exact absurd rfl hdone
  | created ho => simp [recorded, ho]
  | loaded htodo | unloaded htodo => simp [recorded, htodo]
  | _ => rfl

/-- **Every evacuation that ends without having completed its job**: the status of the host, the job
and the statuses of the VMs are as they are to be exactly if the job is created and its end is
recorded. -/
theorem evacuation_undone_iff {db : EvacDb} {outcomes : List Outcome}
    (hwrites : Along (EvacRun.next settings hostId) (fun s o => failurePathWrites s o = true)
      (.start db) outcomes)
    (hrun : run (EvacRun.next settings hostId) (.start db) outcomes = some s)
    (hdone : s.pc = .done) (hfailed : s.job ≠ some .completed) :
    Undone hostId db s ↔
      Along (EvacRun.next settings hostId) (fun s o => recorded s o = true) (.start db)
        outcomes := by
  have hstart : Progress hostId db (.start db) := .start db
  have hpc : (EvacRun.start db).pc ≠ .done := nofun
  generalize EvacRun.start db = s₀ at hwrites hrun hstart hpc
  induction outcomes generalizing s₀ with
  | nil =>
    cases hrun
    exact absurd hdone hpc
  | cons o outcomes ih =>
    obtain ⟨s₁, hnext, hrun⟩ := Option.bind_eq_some_iff.1 hrun
    obtain ⟨hwrite, hwrites⟩ := hwrites
    by_cases hend : s₁.pc = .done
    · cases outcomes with
      | nil =>
        cases hrun
        refine (hstart.undone_iff hwrite hnext hend hfailed).trans ?_
        exact ⟨fun hrecorded => ⟨hrecorded, fun _ _ => trivial⟩, And.left⟩
      | cons o' outcomes => simp [run, EvacRun.next, hend, evacuateNext] at hrun
    · refine (ih s₁ (hwrites s₁ hnext) hrun (hstart.next hwrite hnext hend) hend).trans ?_
      refine ⟨fun halong => ⟨recorded_of_next hnext hend, fun s' hs' => ?_⟩,
        fun halong => halong.2 s₁ hnext⟩
      rw [Option.mem_def, hnext] at hs'
      cases hs'
      exact halong

end Progress

/-! ## Two VMs -/

def twoVms : EvacDb :=
  (twoHosts [runningVm ⟨"vm-1"⟩ ⟨"host-a"⟩, runningVm ⟨"vm-2"⟩ ⟨"host-a"⟩]).shared

/-- The first VM is moved, and the second cannot be sent. -/
def secondFails : List Outcome := List.replicate 36 .ok ++ [.fail, .ok, .ok]

theorem secondFails_undone :
    ∃ s ∈ run (EvacRun.next noOversubscription ⟨"host-a"⟩) (.start twoVms) secondFails,
      s.pc = .done ∧ s.moved = [⟨"vm-1"⟩] ∧ s.db.statusOf ⟨"host-a"⟩ = some .maintenance ∧
      s.job = some .failed ∧ s.db.vmStatus ⟨"vm-2"⟩ = some .running := by
  have hrun : (∃ s ∈ run (EvacRun.next noOversubscription ⟨"host-a"⟩) (.start twoVms) secondFails,
      s.pc = .done ∧ s.moved = [⟨"vm-1"⟩] ∧ s.job ≠ some .completed) ∧
      Along (EvacRun.next noOversubscription ⟨"host-a"⟩)
        (fun s o => failurePathWrites s o = true) (.start twoVms) secondFails ∧
      Along (EvacRun.next noOversubscription ⟨"host-a"⟩)
        (fun s o => recorded s o = true) (.start twoVms) secondFails ∧
      twoVms.vmStatus ⟨"vm-2"⟩ = some .running := by decide +kernel
  obtain ⟨⟨s, hs, hdone, hmoved, hfailed⟩, hwrites, hrecorded, hvm⟩ := hrun
  have hundone := (evacuation_undone_iff hwrites hs hdone hfailed).2 hrecorded
  obtain ⟨hhost, hjob⟩ := hundone.job (by simp [hmoved])
  exact ⟨s, hs, hdone, hmoved, hhost, hjob, (hundone.vms _ (by simp [hmoved])).trans hvm⟩

/-- **The job cannot be created**, and the host stays in maintenance with no VM moved; **its end
cannot be recorded**, and the job is never failed. -/
theorem job_not_recorded :
    (∃ s ∈ run (EvacRun.next noOversubscription ⟨"host-a"⟩) (.start twoVms)
        (List.replicate 15 .ok ++ [.fail]),
      s.pc = .done ∧ s.moved = [] ∧ s.job = none ∧ twoVms.statusOf ⟨"host-a"⟩ = some .up ∧
      s.db.statusOf ⟨"host-a"⟩ = some .maintenance) ∧
    ∃ s ∈ run (EvacRun.next noOversubscription ⟨"host-a"⟩) (.start twoVms)
        (List.replicate 39 .ok ++ [.fail]),
      s.pc = .done ∧ s.moved = [⟨"vm-2"⟩, ⟨"vm-1"⟩] ∧ s.job = some .running := by
  decide +kernel

end Evacuation

end Qarax
