import Qarax.Control.Transitional

/-!
# What a failed failover leaves

`execute_failover` moves the row to the target host as `Created` and calls `start_vm_internal`.  If
that returns an error, `revert_failover_state` puts the row back, so that a later cycle takes the VM
up again.  But `start_vm_internal` returns when it has spawned its job, and the job only knows the
status it has read, `Created`.

`Task.strands` are the statements whose failure nobody answers with the way back.
-/

namespace Qarax.Tasks

open Machine

/-- A later cycle takes the VM up: it should run, and its host is down. -/
def VmShared.isCandidate (s : VmShared) : Bool :=
  s.row.any fun r => r.status.failoverable && r.hostId ∈ s.down

/-- The VM runs where it has been moved to. -/
def VmShared.runsOn (s : VmShared) (hostId : Uuid) : Bool :=
  s.row.any fun r => r.status = .running && r.hostId = hostId && hostId ∈ s.instances

/-- The write of `Created` and the way back, and all that the job does up to its last write. -/
def Task.strands : Task → Bool
  | .failover pc _ _ _ => pc = .setCreated || pc = .revertHost || pc = .revertStatus
  | .start _ pc _ _ => pc ≠ .check && pc ≠ .setPending && pc ≠ .setup && pc ≠ .revert
  | _ => false

/-- Nothing fails that strands the VM. -/
def retries (c : Task × VmShared) (o : Outcome) : Bool := !c.1.strands || o = .ok

/-- A failover of a candidate begins. -/
def Detected (target : Uuid) (c : Task × VmShared) : Prop :=
  c.1 = .failoverGet target ∧ c.2.isCandidate = true

/-- The row is on that host. -/
def VmShared.OnHost (s : VmShared) (hostId : Uuid) : Prop := ∃ r, s.row = some r ∧ r.hostId = hostId

/-- What the way back needs. -/
structure Caller.Returns (target : Uuid) (s : VmShared) (status : VmStatus) (dead target' : Uuid) :
    Prop where
  target : target' = target
  status : status.failoverable = true
  dead : dead ∈ s.down

/-- **What a failover and its job know.** -/
def Task.Retries (target : Uuid) (s : VmShared) : Task → Prop
  | .failoverGet target' => target' = target ∧ s.isCandidate = true
  | .failover pc status dead target' => Caller.Returns target s status dead target' ∧
      match pc with
      | .pickHost | .deleteOld | .setConfig | .setHost | .revertConfig => s.isCandidate = true
      | .setCreated => s.OnHost target
      | .revertHost => s.row.isSome = true
      | .gpus => s.OnHost target ∧ s.status = some .created
      | .revertStatus => s.OnHost dead
  | .startGet (.failover status dead target') => Caller.Returns target s status dead target' ∧
      s.OnHost target ∧ s.status = some .created
  | .start (.failover status dead target') pc original hostId =>
    Caller.Returns target s status dead target' ∧ s.OnHost target ∧ original = .created ∧
    hostId = target ∧
    match pc with
    | .check | .setPending | .setup | .revert | .markRunning | .firstCheck | .createVm => True
    | .secondCheck | .thirdCheck | .startVm | .firewall | .setRunning => target ∈ s.instances
    | .cleanup | .forceStop | .restore => False
  | .ended => s.runsOn target = true ∨ s.isCandidate = true
  | _ => False

section Statements

variable {s s' s₁ : VmShared} {t t' : Task} {o : Outcome} {target : Uuid}

variable {hostId : Uuid} {status : VmStatus}

lemma VmShared.OnHost.writeStatus (h : s.OnHost hostId) (status : VmStatus) :
    (s.writeStatus status).OnHost hostId := by
  obtain ⟨r, hr, hh⟩ := h
  exact ⟨{ r with status }, by simp [VmShared.writeStatus, hr], hh⟩

lemma onHost_writeHostId (hrow : s.row.isSome = true) (hostId : Uuid) :
    (s.writeHostId hostId).OnHost hostId := by
  obtain ⟨r, hr⟩ := Option.isSome_iff_exists.1 hrow
  exact ⟨{ r with hostId }, by simp [VmShared.writeHostId, hr], rfl⟩

lemma VmShared.OnHost.isSome (h : s.OnHost hostId) : s.row.isSome = true := by
  obtain ⟨r, hr, -⟩ := h
  simp [hr]

lemma isSome_of_isCandidate (h : s.isCandidate = true) : s.row.isSome = true := by
  cases hr : s.row <;> simp_all [VmShared.isCandidate]

lemma retries_query {done failed : Task} (h : query s o (done, s₁) failed = some (t', s'))
    (hdone : done.Retries target s₁) (hfailed : failed.Retries target s) :
    t'.Retries target s' := by
  exact query_ind (Q := fun t s => t.Retries target s) h (fun _ => hdone) fun _ => hfailed

lemma retries_ok {done failed : Task} (h : query s o (done, s₁) failed = some (t', s'))
    (ho : o = .ok) (hdone : done.Retries target s₁) : t'.Retries target s' := by
  subst ho
  cases h
  exact hdone

lemma of_retries (h : retries (t, s) o = true) (ht : t.strands = true) : o = .ok := by
  simpa [retries, ht] using h

lemma retries_failover {pc : FailoverPc} {dead target' : Uuid}
    (h : failoverNext s pc status dead target' o = some (t', s'))
    (ht : (Task.failover pc status dead target').Retries target s)
    (hok : retries (.failover pc status dead target', s) o = true) : t'.Retries target s' := by
  obtain ⟨hback, hpc⟩ := ht
  have htarget := hback.target
  subst htarget
  cases pc with
  | pickHost =>
    simp only [failoverNext] at h
    split_ifs at h
    · exact retries_query h (.inr hpc) (.inr hpc)
    · exact retries_query h ⟨hback, hpc⟩ (.inr hpc)
  | deleteOld =>
    -- the row and the hosts that are down stay as they are
    refine nodeCall_ind (Q := fun t s => t.Retries target' s) h (fun s₁ he _ => ?_)
      (fun _ => ⟨hback, hpc⟩) fun s₁ he _ => ?_
    all_goals
      obtain ⟨-, rfl⟩ := unregister_eq he
      exact ⟨⟨rfl, hback.status, hback.dead⟩, hpc⟩
  | setConfig => exact retries_query h ⟨hback, hpc⟩ (.inr hpc)
  | setHost =>
    exact retries_query h ⟨⟨rfl, hback.status, hback.dead⟩,
      onHost_writeHostId (isSome_of_isCandidate hpc) _⟩ (.inr hpc)
  | setCreated =>
    exact retries_ok h (of_retries hok rfl) ⟨⟨rfl, hback.status, hback.dead⟩,
      hpc.writeStatus _, status_writeStatus _ hpc.isSome⟩
  | gpus => exact retries_query h ⟨hback, hpc⟩ ⟨hback, hpc.1.isSome⟩
  | revertHost =>
    exact retries_ok h (of_retries hok rfl) ⟨⟨rfl, hback.status, hback.dead⟩,
      onHost_writeHostId hpc _⟩
  | revertStatus =>
    obtain ⟨r, hr, hh⟩ := hpc
    refine retries_ok h (of_retries hok rfl) ⟨⟨rfl, hback.status, hback.dead⟩, ?_⟩
    simp [VmShared.isCandidate, VmShared.writeStatus, hr, hh, hback.status, hback.dead]
  | revertConfig => exact retries_query h (.inr hpc) (.inr hpc)

lemma retries_start {dead target' : Uuid} {pc : StartPc} {original : VmStatus}
    (h : startNext s (.failover status dead target') pc original hostId o = some (t', s'))
    (ht : (Task.start (.failover status dead target') pc original hostId).Retries target s)
    (hok : retries (.start (.failover status dead target') pc original hostId, s) o = true) :
    t'.Retries target s' := by
  obtain ⟨hback, hon, rfl, rfl, hpc⟩ := ht
  have onError : (Caller.failover status dead target').onError.Retries hostId s :=
    ⟨hback, hon.isSome⟩
  obtain ⟨r, hr, hh⟩ := id hon
  cases pc with
  | check => exact retries_query h ⟨hback, hon, rfl, rfl, trivial⟩ onError
  | setPending =>
    exact retries_query h ⟨⟨hback.target, hback.status, hback.dead⟩, hon.writeStatus _, rfl, rfl,
      trivial⟩ onError
  | setup =>
    exact retries_query h ⟨hback, hon, rfl, rfl, trivial⟩ ⟨hback, hon, rfl, rfl, trivial⟩
  | revert =>
    exact retries_query h ⟨⟨hback.target, hback.status, hback.dead⟩, by simpa using hon.isSome⟩
      onError
  | markRunning => exact retries_ok h (of_retries hok rfl) ⟨hback, hon, rfl, rfl, trivial⟩
  | firstCheck =>
    simp only [startNext, hr] at h
    exact retries_ok h (of_retries hok rfl) ⟨hback, hon, rfl, rfl, trivial⟩
  | createVm =>
    obtain rfl := of_retries hok rfl
    obtain ⟨s₁, he, hd⟩ := Option.map_eq_some_iff.1 h
    cases hd
    obtain ⟨-, rfl⟩ := register_eq he
    exact ⟨⟨hback.target, hback.status, hback.dead⟩, hon, rfl, rfl, List.mem_cons_self⟩
  | secondCheck | thirdCheck =>
    simp only [startNext, hr] at h
    exact retries_ok h (of_retries hok rfl) ⟨hback, hon, rfl, rfl, hpc⟩
  | startVm =>
    obtain rfl := of_retries hok rfl
    obtain ⟨s₁, he, hd⟩ := Option.map_eq_some_iff.1 h
    cases hd
    obtain ⟨-, rfl⟩ := registered_eq he
    exact ⟨hback, hon, rfl, rfl, hpc⟩
  | firewall => exact retries_ok h (of_retries hok rfl) ⟨hback, hon, rfl, rfl, hpc⟩
  | setRunning =>
    refine retries_ok h (of_retries hok rfl) (.inl ?_)
    have hmem : hostId ∈ s.instances := hpc
    simp [VmShared.runsOn, VmShared.writeStatus, hr, hh, hmem]
  | cleanup | forceStop | restore => exact hpc.elim

lemma retries_next (ht : t.Retries target s) (hok : retries (t, s) o = true)
    (h : t.next s o = some (t', s')) : t'.Retries target s' := by
  cases t with
  | failoverGet target' =>
    obtain ⟨rfl, hs⟩ := ht
    refine retries_query h ?_ (.inr hs)
    split
    · rename_i r hr
      split_ifs with hcand
      · exact ⟨⟨rfl, hcand.1, hcand.2⟩, hs⟩
      · exact .inr hs
    · exact .inr hs
  | failover pc status dead target' => exact retries_failover h ht hok
  | startGet caller =>
    cases caller with
    | request => exact ht.elim
    | failover status dead target' =>
      obtain ⟨hback, hon, hstatus⟩ := ht
      obtain ⟨r, hr, hh⟩ := id hon
      have hcreated : r.status = .created := by simpa [VmShared.status, hr] using hstatus
      simp only [Task.next, startGet, hr, hcreated, hh] at h
      exact retries_query h ⟨hback, hon, rfl, rfl, trivial⟩ ⟨hback, hon.isSome⟩
  | start caller pc original hostId =>
    cases caller with
    | request => exact ht.elim
    | failover status dead target' => exact retries_start h ht hok
  | ended => cases h
  | _ => exact ht.elim

end Statements

/-- **A failover ends with the VM running on its target, or as a candidate again**, if nothing fails
whose failure is not answered by the way back. -/
theorem failover_runs_or_retries {target : Uuid} {s : VmShared}
    (h : Reach alone (fun c o => retries c o = true) (Detected target) (.ended, s)) :
    s.runsOn target = true ∨ s.isCandidate = true := by
  have hinv := h.invariant (I := fun c => c.1.Retries target c.2)
    (fun c hc => by obtain ⟨t, s⟩ := c; obtain ⟨rfl, hs⟩ := hc; exact ⟨rfl, hs⟩)
    (fun c o c' hinv hok hs => retries_next hinv hok hs)
  exact hinv

section Runs

/-- A VM that should run; its host does not answer. -/
def deadHostVm : VmPool :=
  ⟨⟨some ⟨.running, ⟨"host-a"⟩, some "app:1"⟩, 0, [⟨"host-a"⟩], [⟨"host-a"⟩]⟩, []⟩

/-- The target has no GPUs, or the start is refused: the row is put back. -/
def putBack : List Outcome := [.ok, .ok, .fails, .ok, .ok, .ok, .fails, .ok, .ok, .ok]

theorem putBack_retries :
    ∃ s, run alone (.failoverGet ⟨"host-b"⟩, deadHostVm.shared) putBack = some (.ended, s) ∧
      (s.runsOn ⟨"host-b"⟩ = true ∨ s.isCandidate = true) := by
  have hrun : (run alone (.failoverGet ⟨"host-b"⟩, deadHostVm.shared) putBack).map (·.1)
        = some .ended ∧
      Along alone (fun c o => retries c o = true) (.failoverGet ⟨"host-b"⟩, deadHostVm.shared)
        putBack := by
    decide +kernel
  obtain ⟨⟨_, s⟩, hs, rfl⟩ := Option.map_eq_some_iff.1 hrun.1
  exact ⟨s, hs, failover_runs_or_retries (reach_of_run (.start ⟨rfl, by decide⟩) hrun.2 hs)⟩

/-- The job's `create_vm` fails on the target. -/
def createVmFails : List Outcome :=
  [.ok, .ok, .fails, .ok, .ok, .ok, .ok, .ok, .ok, .ok, .ok, .ok, .ok, .fails, .ok]

/-- **The job strands the VM**: it is `Created` on the target, where no cycle looks for it. -/
theorem failover_strands :
    (run alone (.failoverGet ⟨"host-b"⟩, deadHostVm.shared) createVmFails).map
        (fun c => (c.1, c.2.row.map fun r => (r.status, r.hostId)))
      = some (.ended, some (.created, ⟨"host-b"⟩)) ∧
    (run alone (.failoverGet ⟨"host-b"⟩, deadHostVm.shared) createVmFails).map
        (fun c => (c.2.runsOn ⟨"host-b"⟩, c.2.isCandidate)) = some (false, false) := by
  decide +kernel

end Runs

end Qarax.Tasks
