import Qarax.Node.Lifecycle
import Qarax.Core.Effect

/-!
# Live migration

`execute_planned_vm_migration`: the target node is asked to receive the VM, the source node to send
it, then the row is given its new host and the source cleans up.  Each of the five calls may fail.
A failure of the first two ends the procedure; the others are logged and ignored.

`migration_leaves_one_copy_iff` says for which failures exactly one known copy is left.
-/

namespace Qarax

/-- What `plan_vm_migration` has decided. -/
structure MigrationPlan where
  vmId : Uuid
  sourceHostId : Uuid
  targetHostId : Uuid
  originalStatus : VmStatus
  disks : List DiskConfig

inductive MigrationError where
  /-- `receive_migration failed: …` -/
  | receiveMigration
  /-- `send_migration failed: …` -/
  | sendMigration
  | database
  | deleteVm

/-- The two nodes and the row of the VM. -/
structure MigrationWorld where
  source : List VmInstance
  target : List VmInstance
  hostId : Uuid
  status : VmStatus
  /-- The host in the row whenever the source was asked to delete the VM. -/
  deletesAskedAt : List Uuid

/-- How the calls go.  Sending fails only with the VM still running on the source. -/
structure MigrationFaults where
  receive : Proc.Fault
  sendFails : Bool
  updateHostId : Proc.Fault
  updateStatus : Proc.Fault
  delete : Proc.Fault

abbrev Migrating := Proc MigrationError MigrationWorld

/-- A request to the target node. -/
def onTarget (e : MigrationError)
    (f : List VmInstance → Except VmManagerError (List VmInstance)) : Migrating Unit := fun w =>
  match f w.target with
  | .ok target => (.ok (), { w with target })
  | .error _ => (.error e, w)

/-- A request to the source node. -/
def onSource (e : MigrationError)
    (f : List VmInstance → Except VmManagerError (List VmInstance)) : Migrating Unit := fun w =>
  match f w.source with
  | .ok source => (.ok (), { w with source })
  | .error _ => (.error e, w)

def executePlannedVmMigration (plan : MigrationPlan) (faults : MigrationFaults) :
    Migrating Unit := do
  let vmConfig : VmConfig := ⟨plan.vmId, plan.disks, none⟩
  Proc.call faults.receive .receiveMigration
    (onTarget .receiveMigration (VmManager.receiveMigration vmConfig))
  Proc.call (if faults.sendFails then .lost else .none) .sendMigration
    (onSource .sendMigration (VmManager.sendMigration plan.vmId))
  let _ ← Proc.attempt (Proc.call faults.updateHostId .database
    (Proc.modify fun w => { w with hostId := plan.targetHostId }))
  let _ ← Proc.attempt (Proc.call faults.updateStatus .database
    (Proc.modify fun w => { w with status := plan.originalStatus }))
  Proc.modify fun w => { w with deletesAskedAt := w.hostId :: w.deletesAskedAt }
  let _ ← Proc.attempt (Proc.call faults.delete .deleteVm
    (onSource .deleteVm (VmManager.deleteVm plan.vmId)))
  pure ()

/-- A guest runs on the node. -/
def Runs (vmId : Uuid) (vms : List VmInstance) : Prop :=
  ∃ i, instance? vmId vms = some i ∧ (i.status = .running ∨ i.status = .paused)

/-- Before the migration: the VM runs on its host, and nothing was deleted yet. -/
structure MigrationWorld.Ready (plan : MigrationPlan) (w : MigrationWorld) : Prop where
  runs : Runs plan.vmId w.source
  hostId : w.hostId = plan.sourceHostId
  hosts : plan.sourceHostId ≠ plan.targetHostId
  deletes : w.deletesAskedAt = []

/-- **One known copy.**  After success the row names the target, and it did so when the source was
asked to delete the VM.  After a failure the VM runs on the source, where the row says, and the
target has nothing of it. -/
def OneCopy (plan : MigrationPlan) (r : Except MigrationError Unit × MigrationWorld) : Prop :=
  match r.1 with
  | .ok () => r.2.hostId = plan.targetHostId ∧ ∀ h ∈ r.2.deletesAskedAt, h = plan.targetHostId
  | .error _ => Runs plan.vmId r.2.source ∧ r.2.hostId = plan.sourceHostId ∧
      instance? plan.vmId r.2.target = none

section Migration

variable {plan : MigrationPlan} {faults : MigrationFaults} {w : MigrationWorld}

/-- The target node after it was asked to receive the VM. -/
def placeholder (plan : MigrationPlan) : VmInstance :=
  ⟨plan.vmId, plan.disks.map mapDisk, .created⟩

lemma receiveMigration_of_registered (h : instance? plan.vmId w.target ≠ none) :
    onTarget .receiveMigration (VmManager.receiveMigration ⟨plan.vmId, plan.disks, none⟩) w
      = (.error .receiveMigration, w) := by
  have hsome : (instance? plan.vmId w.target).isSome = true := Option.isSome_iff_ne_none.2 h
  simp [onTarget, VmManager.receiveMigration, hsome]

lemma receiveMigration_of_new (h : instance? plan.vmId w.target = none) :
    onTarget .receiveMigration (VmManager.receiveMigration ⟨plan.vmId, plan.disks, none⟩) w
      = (.ok (), { w with target := placeholder plan :: w.target }) := by
  simp [onTarget, VmManager.receiveMigration, h, placeholder]

lemma sendMigration_of_runs (h : Runs plan.vmId w.source) :
    ∃ source, onSource .sendMigration (VmManager.sendMigration plan.vmId) w
      = (.ok (), { w with source }) := by
  obtain ⟨i, hi, -⟩ := h
  exact ⟨updateInstance plan.vmId (fun _ => { i with status := .shutdown }) w.source, by
    simp [onSource, VmManager.sendMigration, VmManager.onInstance, hi, Except.map]⟩

/-- Asking the source to clean up changes nothing that the row says. -/
lemma deleteVm_row (plan : MigrationPlan) (fault : Proc.Fault) (w : MigrationWorld) :
    ∃ source, (Proc.call fault .deleteVm (onSource .deleteVm (VmManager.deleteVm plan.vmId)) w).2
      = { w with source } := by
  have hrun : ∃ source, (onSource .deleteVm (VmManager.deleteVm plan.vmId) w).2
      = { w with source } := by
    unfold onSource
    split
    · exact ⟨_, rfl⟩
    · exact ⟨w.source, rfl⟩
  cases fault with
  | none => exact hrun
  | lost => exact ⟨w.source, rfl⟩
  | unanswered => exact hrun

/-- The row after `update_host_id`. -/
def MigrationFaults.hostAfter (faults : MigrationFaults) (plan : MigrationPlan)
    (w : MigrationWorld) : Uuid :=
  if faults.updateHostId = .lost then w.hostId else plan.targetHostId

/-- **When the VM was sent**, the procedure succeeds. -/
lemma execute_of_sent (hnew : instance? plan.vmId w.target = none) (hruns : Runs plan.vmId w.source)
    (hreceive : faults.receive = .none) (hsend : faults.sendFails = false)
    (hdeletes : w.deletesAskedAt = []) :
    ∃ w', executePlannedVmMigration plan faults w = (.ok (), w') ∧
      w'.hostId = faults.hostAfter plan w ∧ w'.deletesAskedAt = [faults.hostAfter plan w] := by
  obtain ⟨source, hsent⟩ := sendMigration_of_runs
    (w := { w with target := placeholder plan :: w.target }) hruns
  unfold executePlannedVmMigration
  rw [hreceive, hsend, if_neg Bool.false_ne_true, Proc.call_none, Proc.call_none,
    Proc.bind_ok_run (receiveMigration_of_new hnew), Proc.bind_ok_run hsent, Proc.attempt_bind,
    Proc.attempt_bind, Proc.modify_bind,
    Proc.attempt_bind, Proc.pure_run]
  obtain ⟨cleaned, hcleaned⟩ := deleteVm_row plan faults.delete _
  refine ⟨_, rfl, ?_, ?_⟩
  all_goals
    rw [hcleaned]
    cases hhost : faults.updateHostId <;> cases faults.updateStatus <;>
      simp [MigrationFaults.hostAfter, hhost, hdeletes]

/-- When the VM was not sent, the placeholder stays. -/
lemma execute_of_not_sent (hnew : instance? plan.vmId w.target = none)
    (hreceive : faults.receive = .none) (hsend : faults.sendFails = true) :
    executePlannedVmMigration plan faults w
      = (.error .sendMigration, { w with target := placeholder plan :: w.target }) := by
  unfold executePlannedVmMigration
  rw [hreceive, hsend, if_pos rfl, Proc.call_none, Proc.bind_ok_run (receiveMigration_of_new hnew),
    Proc.bind_error_run (Proc.call_lost _ _ _)]

lemma execute_of_not_received {e : MigrationError} {w' : MigrationWorld}
    (h : Proc.call faults.receive .receiveMigration (onTarget .receiveMigration
      (VmManager.receiveMigration ⟨plan.vmId, plan.disks, none⟩)) w = (.error e, w')) :
    executePlannedVmMigration plan faults w = (.error e, w') :=
  Proc.bind_error_run h

lemma instance?_placeholder (vms : List VmInstance) :
    instance? plan.vmId (placeholder plan :: vms) ≠ none := by
  simp [instance?, placeholder]

end Migration

/-- **Exactly one known copy is left** if the target does not know the VM yet, and either the
request to receive it has no effect, or VM and row both reach the target. -/
theorem migration_leaves_one_copy_iff {plan : MigrationPlan} {faults : MigrationFaults}
    {w : MigrationWorld} (h : w.Ready plan) :
    OneCopy plan (executePlannedVmMigration plan faults w) ↔
      instance? plan.vmId w.target = none ∧
        (faults.receive = .lost ∨
          faults.receive = .none ∧ faults.sendFails = false ∧ faults.updateHostId ≠ .lost) := by
  by_cases hnew : instance? plan.vmId w.target = none
  · cases hreceive : faults.receive with
    | lost =>
      rw [execute_of_not_received (by rw [hreceive, Proc.call_lost])]
      simp [OneCopy, h.runs, h.hostId, hnew]
    | unanswered =>
      rw [execute_of_not_received (by rw [hreceive, Proc.call_unanswered])]
      simp [OneCopy, receiveMigration_of_new hnew, instance?_placeholder]
    | none =>
      cases hsend : faults.sendFails with
      | true =>
        rw [execute_of_not_sent hnew hreceive hsend]
        simp [OneCopy, instance?_placeholder]
      | false =>
        obtain ⟨w', hrun, hhost, hdeletes⟩ :=
          execute_of_sent hnew h.runs hreceive hsend h.deletes
        rw [hrun]
        by_cases hlost : faults.updateHostId = .lost
        · simp [OneCopy, hhost, MigrationFaults.hostAfter, hlost, h.hostId, h.hosts]
        · simp [OneCopy, hhost, hdeletes, MigrationFaults.hostAfter, hlost, hnew]
  · -- the target refuses, or its refusal gets lost
    have hrefused := receiveMigration_of_registered hnew
    have hrun : ∃ e, executePlannedVmMigration plan faults w = (.error e, w) := by
      cases hreceive : faults.receive with
      | none => exact ⟨_, execute_of_not_received (by rw [hreceive, Proc.call_none, hrefused])⟩
      | lost => exact ⟨_, execute_of_not_received (by rw [hreceive, Proc.call_lost])⟩
      | unanswered =>
        exact ⟨_, execute_of_not_received (by rw [hreceive, Proc.call_unanswered, hrefused])⟩
    obtain ⟨e, hrun⟩ := hrun
    rw [hrun]
    simp [OneCopy, hnew]

section Runs

def migrationPlan : MigrationPlan := ⟨⟨"vm-1"⟩, ⟨"host-a"⟩, ⟨"host-b"⟩, .running, []⟩

/-- The VM runs on the source; the target does not know it. -/
def beforeMigration : MigrationWorld where
  source := [⟨⟨"vm-1"⟩, [], .running⟩]
  target := []
  hostId := ⟨"host-a"⟩
  status := .migrating
  deletesAskedAt := []

lemma ready_beforeMigration : beforeMigration.Ready migrationPlan :=
  ⟨⟨_, rfl, .inl rfl⟩, rfl, by decide, rfl⟩

def noFaults : MigrationFaults := ⟨.none, false, .none, .none, .none⟩

theorem migration_without_faults_leaves_one_copy :
    beforeMigration.Ready migrationPlan ∧
      OneCopy migrationPlan (executePlannedVmMigration migrationPlan noFaults beforeMigration) :=
  ⟨ready_beforeMigration,
    (migration_leaves_one_copy_iff ready_beforeMigration).2 ⟨rfl, .inr ⟨rfl, rfl, by decide⟩⟩⟩

def notSent : Except MigrationError Unit × MigrationWorld :=
  executePlannedVmMigration migrationPlan { noFaults with sendFails := true } beforeMigration

def rowNotUpdated : Except MigrationError Unit × MigrationWorld :=
  executePlannedVmMigration migrationPlan { noFaults with updateHostId := .lost } beforeMigration

/-- **Two ways to lose track.**  A VM that could not be sent leaves an instance on the target; a row
that could not be updated names the source, which is then told to delete the VM. -/
theorem failed_migration_leaves_two_copies :
    (notSent.1 = .error .sendMigration ∧ (instance? ⟨"vm-1"⟩ notSent.2.target).isSome = true) ∧
      rowNotUpdated.1 = .ok () ∧ rowNotUpdated.2.hostId = ⟨"host-a"⟩ ∧
      rowNotUpdated.2.deletesAskedAt = [⟨"host-a"⟩] ∧
      instance? ⟨"vm-1"⟩ rowNotUpdated.2.source = none :=
  ⟨⟨rfl, rfl⟩, rfl, rfl, rfl, rfl⟩

end Runs

end Qarax
