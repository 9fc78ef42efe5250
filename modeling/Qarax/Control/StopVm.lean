import Qarax.Node.Processes

/-!
# What a stop that returns 200 means

Three layers decide it.  The manager on the node answers `Ok` for a VM it has registered, whatever
came of its request or of the process (`lifecycle.rs`).  The client answers `NotFound` for a node it
cannot reach and for four codes of gRPC (`grpc_client.rs`).  The handler treats `NotFound` as
already stopped, writes `Shutdown` and releases the GPUs (`handlers/vm/handler.rs`).
-/

namespace Qarax.Vmm

/-- `tonic::Code` -/
inductive Code where
  | cancelled
  | unknown
  | invalidArgument
  | deadlineExceeded
  | notFound
  | alreadyExists
  | permissionDenied
  | resourceExhausted
  | failedPrecondition
  | aborted
  | outOfRange
  | unimplemented
  | internal
  | unavailable
  | dataLoss
  | unauthenticated

inductive StopKind where
  | stop
  | forceStop

/-! ## The node -/

/-- `map_vmm_error` -/
def mapVmmError : VmmError → Code
  | .vmNotFound _ => .notFound
  | .vmAlreadyExists _ => .alreadyExists
  | .processError => .internal

/-- The manager that has the VM in its table, Cloud Hypervisor's first. -/
def NodeProcesses.findManager (n : NodeProcesses) (vmId : Uuid) : Option HypervisorType :=
  if (n.instance? .cloudHv vmId).isSome then some .cloudHv
  else if (n.instance? .firecracker vmId).isSome then some .firecracker
  else none

/-- `stop_vm` and `force_stop_vm` of the service. -/
def serviceStop (kind : StopKind) (vmId : Uuid) (shutsDown : Bool) (n : NodeProcesses) :
    Except Code Unit × NodeProcesses :=
  match n.findManager vmId with
  | none => (.error .notFound, n)
  | some hypervisor =>
    let (result, n) := match kind with
      | .stop => stopVm hypervisor vmId shutsDown n
      | .forceStop => forceStopVm hypervisor vmId n
    (result.mapError mapVmmError, n)

/-! ## The client -/

/-- What becomes of a call: no connection; a status that does not come from the service, which may
have done its work or not; or the answer of the service. -/
inductive Rpc where
  | unreachable
  | fails (code : Code) (carriedOut : Bool)
  | answered

inductive ClientError where
  | notFound
  | other

/-- "VM or CH process gone — treat as already stopped" -/
def clientError : Code → ClientError
  | .notFound | .unknown | .unavailable | .internal => .notFound
  | _ => .other

/-- `NodeClient::stop_vm` and `NodeClient::force_stop_vm` -/
def clientStop (kind : StopKind) (vmId : Uuid) (rpc : Rpc) (shutsDown : Bool) (n : NodeProcesses) :
    Except ClientError Unit × NodeProcesses :=
  let (result, after) := serviceStop kind vmId shutsDown n
  match rpc with
  | .unreachable => (.error .notFound, n)
  | .fails code carriedOut => (.error (clientError code), if carriedOut then after else n)
  | .answered => (result.mapError clientError, after)

/-! ## The handlers -/

structure StopWorld where
  /-- The status of the VM, if there is a row with a host. -/
  status : Option VmStatus
  /-- The addresses of the GPUs that `host_gpus` has for the VM. -/
  gpus : List String
  node : NodeProcesses

/-- The queries of the handler that fail. -/
structure StopFaults where
  hostForVm : Bool
  updateStatus : Bool
  deallocateByVm : Bool

/-- The body of both handlers; the result is the status code of the response. -/
def stopWith (kind : StopKind) (vmId : Uuid) (faults : StopFaults) (rpc : Rpc) (shutsDown : Bool)
    (w : StopWorld) : Nat × StopWorld :=
  if faults.hostForVm then (500, w)
  else if w.status.isNone then (404, w)
  else
    let (result, node) := clientStop kind vmId rpc shutsDown w.node
    let w := { w with node }
    match result with
    | .error .other => (500, w)
    | .ok () | .error .notFound =>
      if faults.updateStatus then (500, w)
      else
        let w := { w with status := some .shutdown }
        (200, if faults.deallocateByVm then w else { w with gpus := [] })

/-- `POST /vms/{vm_id}/stop` -/
def stop := stopWith .stop

/-- `POST /vms/{vm_id}/force-stop` -/
def forceStop := stopWith .forceStop

/-! ## Which guests end -/

/-- The process that the operation of the node gets at: the one whose handle is held, or the one
whose guest shuts down on request. -/
def VmmInstance.target (i : VmmInstance) (kind : StopKind) (shutsDown : Bool) : Option Nat :=
  match kind, i.client with
  | .forceStop, _ => i.process
  | .stop, some (.running pid) => if shutsDown then some pid else none
  | .stop, _ => none

def NodeProcesses.target (n : NodeProcesses) (kind : StopKind) (vmId : Uuid) (shutsDown : Bool) :
    Option Nat :=
  (n.findManager vmId).bind fun hypervisor =>
    (n.instance? hypervisor vmId).bind fun i => i.target kind shutsDown

/-- The operation is carried out on the node. -/
def Rpc.carriedOut : Rpc → Bool
  | .unreachable => false
  | .fails _ carriedOut => carriedOut
  | .answered => true

/-- **What a stop needs**: the call is carried out, and gets at every process in which the guest
runs. -/
def NodeProcesses.reached (n : NodeProcesses) (kind : StopKind) (vmId : Uuid) (rpc : Rpc)
    (shutsDown : Bool) : Bool :=
  n.processes.all fun p => p.vmId ≠ vmId || !p.guestRuns ||
    rpc.carriedOut && n.target kind vmId shutsDown = some p.pid

section Guests

variable {n : NodeProcesses} {kind : StopKind} {vmId : Uuid} {shutsDown : Bool}

/-- The guest runs in a process other than that one. -/
def NodeProcesses.runsBeside (n : NodeProcesses) (vmId : Uuid) (process : Option Nat) : Prop :=
  ∃ p ∈ n.processes, p.vmId = vmId ∧ p.guestRuns = true ∧ process ≠ some p.pid

lemma guestRuns_iff : n.guestRuns vmId = true ↔ n.runsBeside vmId none := by
  simp [NodeProcesses.guestRuns, NodeProcesses.runsBeside]

lemma guestRuns_kill (process : Option Nat) :
    (n.kill process).guestRuns vmId = true ↔ n.runsBeside vmId process := by
  simp only [NodeProcesses.guestRuns, NodeProcesses.runsBeside, NodeProcesses.kill,
    List.any_eq_true,
    List.mem_filter, Bool.and_eq_true, decide_eq_true_eq, ne_eq]
  constructor
  · rintro ⟨p, ⟨hp, hne⟩, hvm, hguest⟩
    exact ⟨p, hp, hvm, hguest, fun h => hne h.symm⟩
  · rintro ⟨p, hp, hvm, hguest, hne⟩
    exact ⟨p, ⟨hp, fun h => hne h.symm⟩, hvm, hguest⟩

lemma guestRuns_setGuest (pid : Nat) :
    (n.setGuest pid false).guestRuns vmId = true ↔ n.runsBeside vmId (some pid) := by
  simp only [NodeProcesses.guestRuns, NodeProcesses.runsBeside, NodeProcesses.setGuest,
    List.any_eq_true, Rows.mem_update, Bool.and_eq_true, decide_eq_true_eq]
  constructor
  · rintro ⟨p, ⟨p₀, -, -, rfl⟩ | ⟨hp, hne⟩, hvm, hguest⟩
    · cases hguest
    · exact ⟨p, hp, hvm, hguest, fun h => hne (Option.some.inj h).symm⟩
  · rintro ⟨p, hp, hvm, hguest, hne⟩
    exact ⟨p, .inr ⟨hp, fun h => hne (by rw [h])⟩, hvm, hguest⟩

/-- **What the node ends**: the guest in the target, and no other. -/
lemma guestRuns_serviceStop :
    (serviceStop kind vmId shutsDown n).2.guestRuns vmId = true ↔
      n.runsBeside vmId (n.target kind vmId shutsDown) := by
  unfold serviceStop NodeProcesses.target
  cases hfind : n.findManager vmId with
  | none => exact guestRuns_iff
  | some hypervisor =>
    cases hi : n.instance? hypervisor vmId with
    | none => cases kind <;> simp [stopVm, forceStopVm, hi, guestRuns_iff]
    | some i =>
      simp only [Option.bind_some, hi]
      cases kind with
      | forceStop =>
        simp only [forceStopVm, hi, VmmInstance.target]
        exact guestRuns_kill i.process
      | stop =>
        simp only [stopVm, hi, VmmInstance.target]
        cases i.client with
        | none => exact guestRuns_iff
        | some client =>
          cases client with
          | preBoot pid => exact guestRuns_iff
          | running pid =>
            cases shutsDown
            · exact guestRuns_iff
            · exact guestRuns_setGuest pid

/-- What a call ends. -/
lemma guestRuns_clientStop (rpc : Rpc) :
    (clientStop kind vmId rpc shutsDown n).2.guestRuns vmId = true ↔
      n.runsBeside vmId (if rpc.carriedOut then n.target kind vmId shutsDown else none) := by
  unfold clientStop
  cases rpc with
  | unreachable => exact guestRuns_iff
  | fails code carriedOut =>
    cases carriedOut
    · exact guestRuns_iff
    · exact guestRuns_serviceStop
  | answered => exact guestRuns_serviceStop

lemma reached_iff (rpc : Rpc) : n.reached kind vmId rpc shutsDown = true ↔
    ¬ n.runsBeside vmId (if rpc.carriedOut then n.target kind vmId shutsDown else none) := by
  simp only [NodeProcesses.reached, NodeProcesses.runsBeside, List.all_eq_true, not_exists, not_and,
    not_not, Bool.or_eq_true, Bool.not_eq_true', decide_eq_true_eq, Bool.and_eq_true]
  refine forall₂_congr fun p _ => ?_
  cases rpc.carriedOut <;> by_cases hvm : p.vmId = vmId <;> cases p.guestRuns <;> simp [hvm]

end Guests

/-- The world after a stop that returns 200. -/
lemma stopWith_ok {kind : StopKind} {vmId : Uuid} {faults : StopFaults} {rpc : Rpc}
    {shutsDown : Bool}
    {w : StopWorld} (h : (stopWith kind vmId faults rpc shutsDown w).1 = 200) :
    (stopWith kind vmId faults rpc shutsDown w).2 =
      { status := some .shutdown
        gpus := if faults.deallocateByVm then w.gpus else []
        node := (clientStop kind vmId rpc shutsDown w.node).2 } := by
  unfold stopWith at h ⊢
  by_cases hhost : faults.hostForVm = true
  · simp [hhost] at h
  by_cases hrow : w.status.isNone = true
  · simp [hhost, hrow] at h
  by_cases hupdate : faults.updateStatus = true
  · rw [if_neg hhost, if_neg hrow] at h
    cases hresult : (clientStop kind vmId rpc shutsDown w.node).1 with
    | ok u => simp [hresult, hupdate] at h
    | error e => cases e <;> simp [hresult, hupdate] at h
  · rw [if_neg hhost, if_neg hrow] at h ⊢
    cases hresult : (clientStop kind vmId rpc shutsDown w.node).1 with
    | ok u => cases faults.deallocateByVm <;> simp [hresult, hupdate]
    | error e =>
      cases e with
      | notFound => cases faults.deallocateByVm <;> simp [hresult, hupdate]
      | other => simp [hresult] at h

/-- **A stop that returns 200** has written `Shutdown` and released the GPUs; the guest does not run
any more exactly if the call was carried out and got at every process in which it ran. -/
theorem stopped_iff_reached (kind : StopKind) (vmId : Uuid) (faults : StopFaults) (rpc : Rpc)
    (shutsDown : Bool) (w : StopWorld) (h : (stopWith kind vmId faults rpc shutsDown w).1 = 200) :
    (stopWith kind vmId faults rpc shutsDown w).2.status = some .shutdown ∧
    (faults.deallocateByVm = false → (stopWith kind vmId faults rpc shutsDown w).2.gpus = []) ∧
    ((stopWith kind vmId faults rpc shutsDown w).2.node.guestRuns vmId = false ↔
      w.node.reached kind vmId rpc shutsDown = true) := by
  rw [stopWith_ok h]
  refine ⟨rfl, fun hgpus => by simp [hgpus], ?_⟩
  rw [reached_iff, ← guestRuns_clientStop, Bool.not_eq_true]

section Runs

/-- The VM runs on the node, which has spawned its process. -/
def stopWorld (process : Option Nat) : StopWorld :=
  { status := some .running
    gpus := ["0000:01:00.0"]
    node :=
      { processes := [⟨0, .cloudHv, ⟨"vm-1"⟩, true⟩]
        vms := [⟨.cloudHv, ⟨"vm-1"⟩, process, some (.running 0)⟩]
        sockets := [⟨.cloudHv, ⟨"vm-1"⟩, 0⟩]
        configs := [(.cloudHv, ⟨"vm-1"⟩)]
        nextPid := 1 } }

/-- No query fails. -/
def noFaults : StopFaults := ⟨false, false, false⟩

theorem forceStop_with_handle_stops :
    (stopWith .forceStop ⟨"vm-1"⟩ noFaults .answered false (stopWorld (some 0))).1 = 200 ∧
    (stopWith .forceStop ⟨"vm-1"⟩ noFaults .answered false (stopWorld (some 0))).2.node.guestRuns
      ⟨"vm-1"⟩ = false := by
  have h200 :
      (stopWith .forceStop ⟨"vm-1"⟩ noFaults .answered false (stopWorld (some 0))).1 = 200 := by
    decide
  exact ⟨h200, (stopped_iff_reached .forceStop ⟨"vm-1"⟩ noFaults .answered false
    (stopWorld (some 0)) h200).2.2.2 (by decide)⟩

/-- A stop after which the guest runs, although the response is 200, the row says `Shutdown` and the
GPUs are released. -/
def missesGuest (kind : StopKind) (rpc : Rpc) (shutsDown : Bool) (process : Option Nat) : Bool :=
  let (code, w) := stopWith kind ⟨"vm-1"⟩ noFaults rpc shutsDown (stopWorld process)
  code = 200 && w.status = some .shutdown && w.gpus = [] && w.node.guestRuns ⟨"vm-1"⟩

/-- **The guest runs after a stop that returned 200**: of a node that cannot be reached, after each
of the four codes, when the hypervisor does not shut the VM down, and when a recovered VM is
force-stopped. -/
theorem guest_runs_after_stop :
    missesGuest .stop .unreachable true (some 0) = true ∧
      missesGuest .forceStop .unreachable true (some 0) = true ∧
      [Code.notFound, .unknown, .unavailable, .internal].all
        (fun code => missesGuest .stop (.fails code false) true (some 0)) = true ∧
      missesGuest .stop .answered false (some 0) = true ∧
      missesGuest .forceStop .answered true none = true := by
  decide

end Runs

end Qarax.Vmm
