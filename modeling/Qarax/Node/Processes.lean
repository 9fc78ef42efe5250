import Qarax.Core.Machine
import Qarax.Core.Records
import Qarax.Control.Vms

/-!
# The VMM processes of a node

Both managers of a node, of Cloud Hypervisor and of Firecracker, start a VMM process for each VM and
keep a table of instances.  An instance has a handle of its process if this run of the node agent
has spawned it: `recover_vms` finds the processes that have survived a crash by their sockets, and
enters them without one.

* `NodeProcesses` — the processes that are alive, the tables, and the files that `recover_vms`
  reads.
* `createVm`, `startVm`, `stopVm`, `forceStopVm`, `deleteVm`, `recoverVms` — of both managers
  (`cloud_hypervisor/manager/lifecycle.rs`, `firecracker/mod.rs`).
* `Held` — a handle is of the only process of its VM.
-/

namespace Qarax.Vmm

open Machine

inductive HypervisorType where
  | cloudHv
  | firecracker
  deriving DecidableEq

/-- A process that is alive. -/
structure VmmProcess where
  pid : Nat
  hypervisor : HypervisorType
  vmId : Uuid
  /-- The guest is booted and has not shut down. -/
  guestRuns : Bool

/-- The process at the other end of the socket; `preBoot` for a Firecracker VM that is not
started. -/
inductive ApiClient where
  | preBoot (pid : Nat)
  | running (pid : Nat)
  deriving DecidableEq

structure VmmInstance where
  hypervisor : HypervisorType
  vmId : Uuid
  /-- `None` for recovered VMs. -/
  process : Option Nat
  client : Option ApiClient
  deriving DecidableEq

/-- A socket in the runtime directory and the process that has bound it. -/
structure VmmSocket where
  hypervisor : HypervisorType
  vmId : Uuid
  pid : Nat

structure NodeProcesses where
  processes : List VmmProcess
  /-- The tables of both managers. -/
  vms : List VmmInstance
  sockets : List VmmSocket
  /-- The VMs whose configuration is persisted. -/
  configs : List (HypervisorType × Uuid)
  nextPid : Nat

inductive VmmError where
  | vmNotFound (id : Uuid)
  | vmAlreadyExists (id : Uuid)
  | processError

/-- What an operation returns, and the node after it. -/
abbrev VmmResult := Except VmmError Unit × NodeProcesses

namespace NodeProcesses

def instance? (n : NodeProcesses) (hypervisor : HypervisorType) (vmId : Uuid) :
    Option VmmInstance :=
  n.vms.find? fun i => i.hypervisor = hypervisor && i.vmId = vmId

def alive (n : NodeProcesses) (pid : Nat) : Bool := n.processes.any (·.pid = pid)

/-- The guest of the VM runs in one of the processes. -/
def guestRuns (n : NodeProcesses) (vmId : Uuid) : Bool :=
  n.processes.any fun p => p.vmId = vmId && p.guestRuns

def updateInstance (n : NodeProcesses) (i : VmmInstance) (f : VmmInstance → VmmInstance) :
    NodeProcesses :=
  { n with vms := Rows.update (fun j => (j.hypervisor, j.vmId)) (i.hypervisor, i.vmId) f n.vms }

/-- `kill` on a handle that is held. -/
def kill (n : NodeProcesses) (process : Option Nat) : NodeProcesses :=
  { n with processes := n.processes.filter fun p => some p.pid ≠ process }

/-- The guest in that process boots or shuts down. -/
def setGuest (n : NodeProcesses) (pid : Nat) (guestRuns : Bool) : NodeProcesses :=
  { n with processes := Rows.update VmmProcess.pid pid (fun p => { p with guestRuns }) n.processes }

def removeSocket (n : NodeProcesses) (hypervisor : HypervisorType) (vmId : Uuid) : NodeProcesses :=
  { n with sockets := n.sockets.filter fun s => !(s.hypervisor = hypervisor && s.vmId = vmId) }

/-- The new process binds the socket, and an instance with its handle is entered. -/
def register (n : NodeProcesses) (hypervisor : HypervisorType) (vmId : Uuid) : NodeProcesses :=
  let pid := n.nextPid
  let client := match hypervisor with
    | .cloudHv => .running pid
    | .firecracker => .preBoot pid
  { n with
    processes := ⟨pid, hypervisor, vmId, false⟩ :: n.processes
    vms := ⟨hypervisor, vmId, some pid, some client⟩ :: n.vms
    sockets := ⟨hypervisor, vmId, pid⟩ :: n.sockets
    nextPid := pid + 1 }

end NodeProcesses

/-! ## The managers -/

/-- What becomes of `create_vm` after its check of the table: a process that was spawned is killed
when `create_vm` fails, and a configuration that cannot be written is only logged. -/
inductive CreateOutcome where
  | fails
  | succeeds (persisted : Bool)
  deriving DecidableEq

def createVm (hypervisor : HypervisorType) (vmId : Uuid) (o : CreateOutcome) (n : NodeProcesses) :
    VmmResult :=
  match n.instance? hypervisor vmId with
  | some _ => (.error (.vmAlreadyExists vmId), n)
  | none =>
    -- an old socket is removed
    let n := n.removeSocket hypervisor vmId
    match o with
    | .fails => (.error .processError, n)
    | .succeeds persisted =>
      let n := n.register hypervisor vmId
      (.ok (), if persisted then { n with configs := (hypervisor, vmId) :: n.configs } else n)

/-- `ensure_vm_registered` of the Cloud Hypervisor manager. -/
def ensureVmRegistered (vmId : Uuid) (o : CreateOutcome) (n : NodeProcesses) : VmmResult :=
  if (n.instance? .cloudHv vmId).isSome then (.ok (), n)
  else if (.cloudHv, vmId) ∈ n.configs then createVm .cloudHv vmId o n
  else (.error (.vmNotFound vmId), n)

/-- The request to boot is served, or refused. -/
def boot (pid : Nat) (served : Bool) (n : NodeProcesses) : VmmResult :=
  if served then (.ok (), n.setGuest pid true) else (.error .processError, n)

/-- Firecracker loses its client in a start that fails. -/
def startVm (hypervisor : HypervisorType) (vmId : Uuid) (o : CreateOutcome) (served : Bool)
    (n : NodeProcesses) : VmmResult :=
  match hypervisor with
  | .cloudHv =>
    match ensureVmRegistered vmId o n with
    | (.error e, n) => (.error e, n)
    | (.ok (), n) => match n.instance? .cloudHv vmId with
        | some ⟨_, _, _, some (.running pid)⟩ => boot pid served n
        | _ => (.error (.vmNotFound vmId), n)
  | .firecracker => match n.instance? .firecracker vmId with
      | none => (.error (.vmNotFound vmId), n)
      | some i => match i.client with
          | some (.preBoot pid) =>
            let client := if served then some (.running pid) else none
            boot pid served (n.updateInstance i fun j => { j with client })
          | _ => (.error .processError, n)

/-- The guest is asked to shut down, if there is a client to ask; whether it has done so does not
matter for the result. -/
def stopVm (hypervisor : HypervisorType) (vmId : Uuid) (shutsDown : Bool) (n : NodeProcesses) :
    VmmResult :=
  match n.instance? hypervisor vmId with
  | none => (.error (.vmNotFound vmId), n)
  | some i => match i.client with
      | some (.running pid) => (.ok (), if shutsDown then n.setGuest pid false else n)
      | _ => (.ok (), n)

/-- The process is killed if its handle is held; the instance stays. -/
def forceStopVm (hypervisor : HypervisorType) (vmId : Uuid) (n : NodeProcesses) : VmmResult :=
  match n.instance? hypervisor vmId with
  | none => (.error (.vmNotFound vmId), n)
  | some i => (.ok (), (n.kill i.process).updateInstance i fun j => { j with process := none })

/-- `delete_vm` of Cloud Hypervisor asks it to shut the VM down, which does not end the process. -/
def sdkShutdown (i : VmmInstance) (shutsDown : Bool) (n : NodeProcesses) : NodeProcesses :=
  match i.hypervisor, i.client with
  | .cloudHv, some (.running pid) => if shutsDown then n.setGuest pid false else n
  | _, _ => n

def deleteVm (hypervisor : HypervisorType) (vmId : Uuid) (shutsDown : Bool) (n : NodeProcesses) :
    VmmResult :=
  match n.instance? hypervisor vmId with
  | none => (.error (.vmNotFound vmId), n)
  | some i =>
    let n := ((sdkShutdown i shutsDown n).kill i.process).removeSocket hypervisor vmId
    (.ok (), { n with
      vms := n.vms.filter fun j => !(j.hypervisor = hypervisor && j.vmId = vmId)
      configs := n.configs.filter (· ≠ (hypervisor, vmId)) })

/-- The instance that `recover_vms` enters for a socket: without a handle, and with Firecracker also
if the socket does not answer. -/
def recovered (n : NodeProcesses) (connects : HypervisorType → Uuid → Bool) (s : VmmSocket) :
    Option VmmInstance :=
  let attached := n.alive s.pid && connects s.hypervisor s.vmId
  let client := if attached then some (.running s.pid) else none
  if (s.hypervisor, s.vmId) ∈ n.configs ∧ (attached ∨ s.hypervisor = .firecracker) then
    some ⟨s.hypervisor, s.vmId, none, client⟩
  else none

/-- The node agent has crashed and is started again.  Its processes survive; the managers read the
runtime directory, if they can. -/
def restart (reads : HypervisorType → Bool) (connects : HypervisorType → Uuid → Bool)
    (n : NodeProcesses) : NodeProcesses :=
  { n with
    vms := (n.sockets.filter fun s => reads s.hypervisor).filterMap (recovered n connects) }

/-! ## Histories -/

inductive VmmAction where
  | create (hypervisor : HypervisorType) (vmId : Uuid) (o : CreateOutcome)
  | start (hypervisor : HypervisorType) (vmId : Uuid) (o : CreateOutcome) (served : Bool)
  | stop (hypervisor : HypervisorType) (vmId : Uuid) (shutsDown : Bool)
  | forceStop (hypervisor : HypervisorType) (vmId : Uuid)
  | delete (hypervisor : HypervisorType) (vmId : Uuid) (shutsDown : Bool)
  | restart (reads : HypervisorType → Bool) (connects : HypervisorType → Uuid → Bool)
  /-- A process ends by itself. -/
  | exits (pid : Nat)

def VmmAction.run (n : NodeProcesses) : VmmAction → VmmResult
  | .create hypervisor vmId o => createVm hypervisor vmId o n
  | .start hypervisor vmId o served => startVm hypervisor vmId o served n
  | .stop hypervisor vmId shutsDown => stopVm hypervisor vmId shutsDown n
  | .forceStop hypervisor vmId => forceStopVm hypervisor vmId n
  | .delete hypervisor vmId shutsDown => deleteVm hypervisor vmId shutsDown n
  | .restart reads connects => (.ok (), Vmm.restart reads connects n)
  | .exits pid => (.ok (), n.kill (some pid))

def NodeProcesses.step (n : NodeProcesses) (a : VmmAction) : Option NodeProcesses :=
  some (a.run n).2

/-- A node on which nothing has happened. -/
def NodeProcesses.fresh : NodeProcesses := ⟨[], [], [], [], 0⟩

def Fresh (n : NodeProcesses) : Prop := n = .fresh

/-- No process of the VM is alive. -/
def NodeProcesses.ended (n : NodeProcesses) (vmId : Uuid) : Bool :=
  n.processes.all (·.vmId ≠ vmId)

/-- A VM gets a process only if it has none, and no instance in a table. -/
def NodeProcesses.unused (n : NodeProcesses) (vmId : Uuid) : Bool :=
  n.ended vmId && n.vms.all (·.vmId ≠ vmId)

/-- **What ending a process needs**: its handle.  And a VM has one process at a time: `create_vm`,
also when `start_vm` calls it, looks at one table only. -/
def NodeProcesses.handled (n : NodeProcesses) : VmmAction → Bool
  | .create hypervisor vmId o =>
    o = .fails || (n.instance? hypervisor vmId).isSome || n.unused vmId
  | .start hypervisor vmId o _ =>
    hypervisor = .firecracker || o = .fails || (n.instance? .cloudHv vmId).isSome ||
      (.cloudHv, vmId) ∉ n.configs || n.unused vmId
  | .forceStop hypervisor vmId | .delete hypervisor vmId _ =>
    (n.instance? hypervisor vmId).all fun i => i.process.isSome || n.ended vmId
  | _ => true

/-- **A handle is of the only process of its VM.** -/
def Held (n : NodeProcesses) : Prop :=
  ∀ i ∈ n.vms, ∀ pid, i.process = some pid → ∀ p ∈ n.processes, p.vmId = i.vmId → p.pid = pid

/-- There are no new processes and no new handles. -/
structure Shrinks (n n' : NodeProcesses) : Prop where
  vms : ∀ i' ∈ n'.vms, ∀ pid, i'.process = some pid →
    ∃ i ∈ n.vms, i.vmId = i'.vmId ∧ i.process = some pid
  processes : ∀ p' ∈ n'.processes, ∃ p ∈ n.processes, p.vmId = p'.vmId ∧ p.pid = p'.pid

section Steps

variable {n n' n'' : NodeProcesses} {hypervisor : HypervisorType} {vmId : Uuid}

lemma Shrinks.refl (n : NodeProcesses) : Shrinks n n :=
  ⟨fun i hi _ hpid => ⟨i, hi, rfl, hpid⟩, fun p hp => ⟨p, hp, rfl, rfl⟩⟩

lemma Shrinks.trans (h : Shrinks n n') (h' : Shrinks n' n'') : Shrinks n n'' := by
  constructor
  · intro i'' hi'' pid hpid
    obtain ⟨i', hi', hid', hpid'⟩ := h'.vms i'' hi'' pid hpid
    obtain ⟨i, hi, hid, hpid''⟩ := h.vms i' hi' pid hpid'
    exact ⟨i, hi, hid.trans hid', hpid''⟩
  · intro p'' hp''
    obtain ⟨p', hp', hid', hpid'⟩ := h'.processes p'' hp''
    obtain ⟨p, hp, hid, hpid⟩ := h.processes p' hp'
    exact ⟨p, hp, hid.trans hid', hpid.trans hpid'⟩

lemma Held.shrinks (hn : Held n) (h : Shrinks n n') : Held n' := by
  intro i' hi' pid hpid p' hp' hvm
  obtain ⟨i, hi, hid, hpid'⟩ := h.vms i' hi' pid hpid
  obtain ⟨p, hp, hpvm, hppid⟩ := h.processes p' hp'
  rw [← hppid]
  exact hn i hi pid hpid' p hp (by rw [hpvm, hvm, hid])

lemma shrinks_kill (process : Option Nat) : Shrinks n (n.kill process) :=
  ⟨(Shrinks.refl n).vms, fun p hp => ⟨p, (List.mem_filter.1 hp).1, rfl, rfl⟩⟩

lemma shrinks_setGuest (pid : Nat) (guestRuns : Bool) : Shrinks n (n.setGuest pid guestRuns) := by
  refine ⟨(Shrinks.refl n).vms, fun p hp => ?_⟩
  rcases Rows.mem_update.1 hp with ⟨p₀, hp₀, -, rfl⟩ | ⟨hp, -⟩
  · exact ⟨p₀, hp₀, rfl, rfl⟩
  · exact ⟨p, hp, rfl, rfl⟩

variable {i : VmmInstance} {o : CreateOutcome}

lemma shrinks_updateInstance {f : VmmInstance → VmmInstance}
    (hf : ∀ j pid, (f j).process = some pid → j.process = some pid)
    (hid : ∀ j, (f j).vmId = j.vmId) : Shrinks n (n.updateInstance i f) := by
  refine ⟨fun j hj pid hpid => ?_, (Shrinks.refl n).processes⟩
  rcases Rows.mem_update.1 hj with ⟨j₀, hj₀, -, rfl⟩ | ⟨hj, -⟩
  · exact ⟨j₀, hj₀, (hid j₀).symm, hf j₀ pid hpid⟩
  · exact ⟨j, hj, rfl, hpid⟩

lemma process_of_recovered {connects : HypervisorType → Uuid → Bool} {s : VmmSocket}
    (h : recovered n connects s = some i) : i.process = none := by
  simp only [recovered] at h
  split_ifs at h <;> cases h <;> rfl

lemma shrinks_restart (reads : HypervisorType → Bool) (connects : HypervisorType → Uuid → Bool) :
    Shrinks n (restart reads connects n) := by
  refine ⟨fun i hi pid hpid => ?_, (Shrinks.refl n).processes⟩
  obtain ⟨s, -, hs⟩ := List.mem_filterMap.1 hi
  cases (process_of_recovered hs).symm.trans hpid

/-- A VM that has no process and no instance gets both. -/
lemma Held.register (hn : Held n) (hypervisor : HypervisorType) (h : n.unused vmId = true) :
    Held (n.register hypervisor vmId) := by
  simp only [NodeProcesses.unused, NodeProcesses.ended, Bool.and_eq_true, List.all_eq_true,
    decide_eq_true_eq] at h
  intro i hi pid hpid p hp hvm
  rcases List.mem_cons.1 hi with rfl | hi <;> rcases List.mem_cons.1 hp with rfl | hp
  · exact Option.some.inj hpid
  · exact absurd hvm (h.1 p hp)
  · exact absurd hvm.symm (h.2 i hi)
  · exact hn i hi pid hpid p hp hvm

lemma held_createVm (hn : Held n)
    (h : o = .fails ∨ (n.instance? hypervisor vmId).isSome = true ∨ n.unused vmId = true) :
    Held (createVm hypervisor vmId o n).2 := by
  unfold createVm
  split
  · exact hn
  · rename_i hnone
    have hsocket : Held (n.removeSocket hypervisor vmId) := hn
    cases o with
    | fails => exact hsocket
    | succeeds persisted =>
      have hunused : (n.removeSocket hypervisor vmId).unused vmId = true := by
        rcases h with h | h | h
        · cases h
        · simp [hnone] at h
        · exact h
      have hreg := hsocket.register hypervisor hunused
      simp only
      split_ifs
      · exact hreg
      · exact hreg

lemma shrinks_boot (pid : Nat) (served : Bool) : Shrinks n (boot pid served n).2 := by
  unfold boot
  split_ifs
  · exact shrinks_setGuest _ _
  · exact .refl n

lemma held_startVm (hn : Held n) {served : Bool}
    (h : n.handled (.start hypervisor vmId o served) = true) :
    Held (startVm hypervisor vmId o served n).2 := by
  cases hypervisor with
  | cloudHv =>
    have hregistered : Held (ensureVmRegistered vmId o n).2 := by
      unfold ensureVmRegistered
      split_ifs with hsome hconfig
      · exact hn
      · refine held_createVm hn ?_
        simpa [NodeProcesses.handled, hsome, hconfig] using h
      · exact hn
    simp only [startVm]
    split
    · rename_i n' hn'
      rw [hn'] at hregistered
      exact hregistered
    · rename_i n' hn'
      rw [hn'] at hregistered
      split
      · exact hregistered.shrinks (shrinks_boot _ _)
      · exact hregistered
  | firecracker =>
    simp only [startVm]
    split
    · exact hn
    · split
      · refine hn.shrinks (.trans (shrinks_updateInstance ?_ ?_) (shrinks_boot _ _))
        · exact fun _ _ => id
        · exact fun _ => rfl
      · exact hn

lemma shrinks_stopVm (shutsDown : Bool) : Shrinks n (stopVm hypervisor vmId shutsDown n).2 := by
  unfold stopVm
  split
  · exact .refl n
  · split
    · simp only
      split_ifs
      · exact shrinks_setGuest _ _
      · exact .refl n
    · exact .refl n

lemma shrinks_forceStopVm : Shrinks n (forceStopVm hypervisor vmId n).2 := by
  unfold forceStopVm
  split
  · exact .refl n
  · exact (shrinks_kill _).trans
      (shrinks_updateInstance (fun _ _ hpid => by cases hpid) fun _ => rfl)

lemma shrinks_sdkShutdown (i : VmmInstance) (shutsDown : Bool) :
    Shrinks n (sdkShutdown i shutsDown n) := by
  unfold sdkShutdown
  split
  · split_ifs
    · exact shrinks_setGuest _ _
    · exact .refl n
  · exact .refl n

lemma shrinks_deleteVm (shutsDown : Bool) : Shrinks n (deleteVm hypervisor vmId shutsDown n).2 := by
  unfold deleteVm
  split
  · exact .refl n
  · rename_i i hi
    have hkill := (shrinks_sdkShutdown (n := n) i shutsDown).trans (shrinks_kill i.process)
    exact ⟨fun j hj => hkill.vms j (List.mem_filter.1 hj).1, hkill.processes⟩

/-- **Handles stay of the only process**, along histories that meet the condition. -/
lemma held_run (hn : Held n) {a : VmmAction} (hok : n.handled a = true) : Held (a.run n).2 := by
  cases a with
  | create hypervisor vmId o =>
    refine held_createVm hn ?_
    simpa [NodeProcesses.handled, or_assoc] using hok
  | start hypervisor vmId o served => exact held_startVm hn hok
  | stop hypervisor vmId shutsDown => exact hn.shrinks (shrinks_stopVm shutsDown)
  | forceStop hypervisor vmId => exact hn.shrinks shrinks_forceStopVm
  | delete hypervisor vmId shutsDown => exact hn.shrinks (shrinks_deleteVm shutsDown)
  | restart reads connects => exact hn.shrinks (shrinks_restart reads connects)
  | exits pid => exact hn.shrinks (shrinks_kill (some pid))

/-- `kill` on the handle of an instance ends the VM, or it was ended. -/
lemma ended_kill (hn : Held n) (hi : i ∈ n.vms)
    (h : i.process.isSome = true ∨ n.ended i.vmId = true) (hs : Shrinks n n') :
    ∀ p ∈ (n'.kill i.process).processes, p.vmId ≠ i.vmId := by
  intro p' hp' hvm
  obtain ⟨hp', hpid⟩ := List.mem_filter.1 hp'
  obtain ⟨p, hp, hpvm, hppid⟩ := hs.processes p' hp'
  rcases h with h | h
  · obtain ⟨pid, hprocess⟩ := Option.isSome_iff_exists.1 h
    have hsame := hn i hi pid hprocess p hp (hpvm.trans hvm)
    simp [hprocess, ← hppid, hsame] at hpid
  · have hother := List.all_eq_true.1 h p hp
    simp [hpvm, hvm] at hother

lemma mem_of_instance? (h : n.instance? hypervisor vmId = some i) :
    i ∈ n.vms ∧ i.hypervisor = hypervisor ∧ i.vmId = vmId := by
  have hfound := List.find?_some h
  simp only [Bool.and_eq_true, decide_eq_true_eq] at hfound
  exact ⟨List.mem_of_find?_eq_some h, hfound⟩

end Steps

/-- **Force-stop and delete end the VMM process** in every history in which they find its handle (or
no process), and a VM gets a process only if it has none. -/
theorem forceStop_and_delete_end_process {n : NodeProcesses}
    (h : Reach NodeProcesses.step (fun n a => n.handled a = true) Fresh n)
    (hypervisor : HypervisorType) (vmId : Uuid) (a : VmmAction)
    (ha : a = .forceStop hypervisor vmId ∨ ∃ shutsDown, a = .delete hypervisor vmId shutsDown)
    (hok : n.handled a = true) (hreturns : (a.run n).1.isOk = true) :
    ∀ p ∈ (a.run n).2.processes, p.vmId ≠ vmId := by
  have hheld : Held n := by
    refine h.invariant (fun n hn => ?_) fun n a n' hinv hok hs => ?_
    · obtain rfl := hn
      exact fun i hi => absurd hi (by simp [NodeProcesses.fresh])
    · cases hs
      exact held_run hinv hok
  cases hi : n.instance? hypervisor vmId with
  | none =>
    rcases ha with rfl | ⟨shutsDown, rfl⟩ <;>
      simp [VmmAction.run, forceStopVm, deleteVm, hi, Except.isOk, Except.toBool] at hreturns
  | some i =>
    obtain ⟨hmem, -, rfl⟩ := mem_of_instance? hi
    have hprocess : i.process.isSome = true ∨ n.ended i.vmId = true := by
      rcases ha with rfl | ⟨shutsDown, rfl⟩ <;> simpa [NodeProcesses.handled, hi] using hok
    rcases ha with rfl | ⟨shutsDown, rfl⟩
    · simp only [VmmAction.run, forceStopVm, hi]
      exact ended_kill hheld hmem hprocess (.refl n)
    · simp only [VmmAction.run, deleteVm, hi]
      exact ended_kill hheld hmem hprocess (shrinks_sdkShutdown i shutsDown)

section Runs

/-- A VM of Cloud Hypervisor and one of Firecracker are created and started, and the first is
stopped. -/
def twoVms : List VmmAction :=
  [.create .cloudHv ⟨"vm-1"⟩ (.succeeds true), .start .cloudHv ⟨"vm-1"⟩ .fails true,
    .create .firecracker ⟨"vm-2"⟩ (.succeeds true), .start .firecracker ⟨"vm-2"⟩ .fails true,
    .stop .cloudHv ⟨"vm-1"⟩ true]

theorem twoVms_end :
    ∃ n, run NodeProcesses.step .fresh twoVms = some n ∧ n.processes.map (·.pid) = [1, 0] ∧
      (∀ p ∈ (VmmAction.run n (.forceStop .firecracker ⟨"vm-2"⟩)).2.processes, p.vmId ≠ ⟨"vm-2"⟩) ∧
      ∀ p ∈ (VmmAction.run n (.delete .cloudHv ⟨"vm-1"⟩ false)).2.processes, p.vmId ≠ ⟨"vm-1"⟩ := by
  have hrun : (run NodeProcesses.step .fresh twoVms).map (fun n => (n.processes.map (·.pid),
        n.handled (.forceStop .firecracker ⟨"vm-2"⟩), n.handled (.delete .cloudHv ⟨"vm-1"⟩ false),
        (VmmAction.run n (.forceStop .firecracker ⟨"vm-2"⟩)).1.isOk,
        (VmmAction.run n (.delete .cloudHv ⟨"vm-1"⟩ false)).1.isOk))
        = some ([1, 0], true, true, true, true) ∧
      Along NodeProcesses.step (fun n a => n.handled a = true) .fresh twoVms := by
    decide +kernel
  obtain ⟨n, hn, hfields⟩ := Option.map_eq_some_iff.1 hrun.1
  simp only [Prod.mk.injEq] at hfields
  obtain ⟨hpids, hstop, hdelete, hstopped, hdeleted⟩ := hfields
  have hfresh : Fresh .fresh := rfl
  have hreach := reach_of_run (.start hfresh) hrun.2 hn
  exact ⟨n, hn, hpids,
    forceStop_and_delete_end_process hreach .firecracker ⟨"vm-2"⟩ _ (.inl rfl) hstop hstopped,
    forceStop_and_delete_end_process hreach .cloudHv ⟨"vm-1"⟩ _
      (.inr ⟨false, rfl⟩) hdelete hdeleted⟩

/-- The node agent crashes, and both managers find their VM again. -/
def recoveredVms : List VmmAction := twoVms ++ [.restart (fun _ => true) fun _ _ => true]

/-- **Recovered VMs are not ended**: both operations return `Ok`, and the processes stay. -/
theorem recovered_processes_survive :
    (run NodeProcesses.step .fresh (recoveredVms ++
        [.forceStop .cloudHv ⟨"vm-1"⟩, .forceStop .firecracker ⟨"vm-2"⟩])).map
        (fun n => n.processes.map (·.vmId)) = some [⟨"vm-2"⟩, ⟨"vm-1"⟩] ∧
    (run NodeProcesses.step .fresh (recoveredVms ++
        [.delete .cloudHv ⟨"vm-1"⟩ true, .delete .firecracker ⟨"vm-2"⟩ true])).map
        (fun n => (n.processes.map (·.vmId), n.vms)) = some ([⟨"vm-2"⟩, ⟨"vm-1"⟩], []) ∧
    (run NodeProcesses.step .fresh recoveredVms).map (fun n =>
        ((VmmAction.run n (.forceStop .cloudHv ⟨"vm-1"⟩)).1.isOk,
          (VmmAction.run n (.delete .firecracker ⟨"vm-2"⟩ true)).1.isOk)) = some (true, true) := by
  decide +kernel

end Runs

end Qarax.Vmm
