import Qarax.Control.StopVm

/-!
# Starting a VM that was stopped

A start sends the definition of a VM to its node only when the row says `Created`.  From `Shutdown`
and `Unknown` the node has to have the VM still, with a process that can be booted.  What there is
on the node is the work of earlier starts and stops, and of the node agent when it is started again.

* `startJob`, `stopHandler`, `createHandler` — the handlers of `handlers/vm/handler.rs`, with the
  service of the node behind them.
* `Fleet.step` — histories of them on any number of VMs and nodes, with restarts of node agents.
* `bootable` — what the node needs to have for a start of a stopped VM.
* `Fleet.resumable` — operations after which the stopped VMs can be started.
* `stopped_starts_again_iff` — they can be started again as long as, and only as long as, the
  operations are such.
-/

namespace Qarax.StartAgain

open Machine Vmm

/-! ## The node -/

def clientPid : ApiClient → Nat
  | .preBoot pid => pid
  | .running pid => pid

/-- A request over the socket of the instance is served by a process that is alive, and only
then. -/
def answers (n : NodeProcesses) (hypervisor : HypervisorType) (vmId : Uuid) : Bool :=
  ((n.instance? hypervisor vmId).bind VmmInstance.client).any fun client =>
    n.alive (clientPid client)

/-- `start_vm` of the service. -/
def serviceStart (vmId : Uuid) (persisted : Bool) (n : NodeProcesses) :
    Except Code Unit × NodeProcesses :=
  match n.findManager vmId with
  | none => (.error .notFound, n)
  | some hypervisor =>
    let (result, n') :=
      startVm hypervisor vmId (.succeeds persisted) (answers n hypervisor vmId) n
    (result.mapError mapVmmError, n')

/-- `create_vm` of the service, by the hypervisor of the request. -/
def serviceCreate (vmId : Uuid) (hypervisor : HypervisorType) (persisted : Bool)
    (n : NodeProcesses) : Except Code Unit × NodeProcesses :=
  let (result, n') := createVm hypervisor vmId (.succeeds persisted) n
  (result.mapError mapVmmError, n')

/-! ## The handlers -/

structure VmRow where
  id : Uuid
  hypervisor : HypervisorType
  hostId : Uuid
  status : VmStatus

/-- The rows of `vms`, and the node of every host. -/
structure Fleet where
  vms : List VmRow
  nodes : Uuid → NodeProcesses

namespace Fleet

def vm? (w : Fleet) (vmId : Uuid) : Option VmRow := w.vms.find? fun vm => vm.id = vmId

def setStatus (w : Fleet) (vmId : Uuid) (status : VmStatus) : Fleet :=
  { w with vms := Rows.update VmRow.id vmId (fun vm => { vm with status }) w.vms }

def setNode (w : Fleet) (hostId : Uuid) (n : NodeProcesses) : Fleet :=
  { w with nodes := Function.update w.nodes hostId n }

end Fleet

/-- What can still go wrong in a start: the node cannot write the configuration, or the firewall
cannot be synchronized. -/
structure StartFlags where
  persisted : Bool
  firewallSynced : Bool

/-- The second half of a start job on the node, and whether the job completes. -/
def bootOnNode (vmId : Uuid) (flags : StartFlags) (n : NodeProcesses) : Bool × NodeProcesses :=
  let (started, n) := serviceStart vmId flags.persisted n
  if started.isOk then
    if flags.firewallSynced then (true, n) else (false, (serviceStop .forceStop vmId true n).2)
  else (false, n)

/-- A VM in `Created` state is created on the node first. -/
def startOnNode (vm : VmRow) (flags : StartFlags) (n : NodeProcesses) : Bool × NodeProcesses :=
  if vm.status = .created then
    let (created, n) := serviceCreate vm.id vm.hypervisor flags.persisted n
    if created.isOk then bootOnNode vm.id flags n else (false, n)
  else bootOnNode vm.id flags n

/-- `start_vm_internal` may start these. -/
def startable (status : VmStatus) : Bool :=
  status == .created || status == .shutdown || status == .unknown

/-- `start_vm_internal` and its job.  The row is `Pending` meanwhile; after a failure it has the
status it had before. -/
def startJob (flags : StartFlags) (w : Fleet) (vmId : Uuid) : Bool × Fleet :=
  match w.vm? vmId with
  | none => (false, w)
  | some vm =>
    if startable vm.status then
      let (completed, n) := startOnNode vm flags (w.nodes vm.hostId)
      let w := w.setNode vm.hostId n
      (completed, if completed then w.setStatus vmId .running else w)
    else (false, w)

/-- `stop` and `force_stop` with a node that answers. -/
def stopHandler (kind : StopKind) (shutsDown : Bool) (w : Fleet) (vmId : Uuid) : Fleet :=
  match w.vm? vmId with
  | none => w
  | some vm =>
    let (result, n) := clientStop kind vmId .answered shutsDown (w.nodes vm.hostId)
    let w := w.setNode vm.hostId n
    match result with
    | .error .other => w
    | .ok () | .error .notFound => w.setStatus vmId .shutdown

/-- A VM is created, and its image imported if it has one.  Nothing is sent to the node. -/
def createHandler (vmId : Uuid) (hypervisor : HypervisorType) (hostId : Uuid) (imageFails : Bool)
    (w : Fleet) : Fleet :=
  { w with vms := ⟨vmId, hypervisor, hostId, if imageFails then .unknown else .created⟩ :: w.vms }

/-! ## Histories -/

inductive Operation where
  | create (vmId : Uuid) (hypervisor : HypervisorType) (hostId : Uuid) (imageFails : Bool)
  | start (vmId : Uuid) (flags : StartFlags)
  | stop (kind : StopKind) (vmId : Uuid) (shutsDown : Bool)
  /-- The node agent is started again. -/
  | restart (hostId : Uuid) (reads : HypervisorType → Bool)
      (connects : HypervisorType → Uuid → Bool)

/-- A new VM has a new id. -/
def Fleet.step (w : Fleet) : Operation → Option Fleet
  | .create vmId hypervisor hostId imageFails =>
    if (w.vm? vmId).isSome then none
    else some (createHandler vmId hypervisor hostId imageFails w)
  | .start vmId flags => some (startJob flags w vmId).2
  | .stop kind vmId shutsDown => some (stopHandler kind shutsDown w vmId)
  | .restart hostId reads connects =>
    some (w.setNode hostId (Vmm.restart reads connects (w.nodes hostId)))

def NoVms (w : Fleet) : Prop := w.vms = [] ∧ ∀ hostId, w.nodes hostId = .fresh

def stopped (status : VmStatus) : Bool := status == .shutdown || status == .unknown

/-- **Every stopped VM can be started**: the next start job completes with the VM `Running`. -/
def Restartable (w : Fleet) : Prop :=
  ∀ vm ∈ w.vms, stopped vm.status = true → ∀ flags : StartFlags, flags.firewallSynced = true →
    (startJob flags w vm.id).1 = true ∧
      ((startJob flags w vm.id).2.vm? vm.id).map VmRow.status = some .running

/-! ## What a start needs -/

/-- The instance of the manager that is found. -/
def found (n : NodeProcesses) (vmId : Uuid) : Option VmmInstance :=
  (n.instance? .cloudHv vmId).or (n.instance? .firecracker vmId)

/-- The process that is asked to boot. -/
def pidToBoot (i : VmmInstance) : Option Nat :=
  match i.hypervisor, i.client with
  | .cloudHv, some (.running pid) => some pid
  | .firecracker, some (.preBoot pid) => some pid
  | _, _ => none

/-- **The node can boot the VM**: it has a process that is alive, of Cloud Hypervisor, or of
Firecracker and not booted yet. -/
def bootable (n : NodeProcesses) (vmId : Uuid) : Bool :=
  (found n vmId).any fun i => (pidToBoot i).any n.alive

/-- No handle of the process is held. -/
def unheld (n : NodeProcesses) (vmId : Uuid) : Bool :=
  (found n vmId).all fun i => i.process.isNone

/-- The agent finds the Cloud Hypervisor of the VM by its socket, and its configuration. -/
def recoverable (n : NodeProcesses) (reads : HypervisorType → Bool)
    (connects : HypervisorType → Uuid → Bool) (vmId : Uuid) : Bool :=
  reads .cloudHv && connects .cloudHv vmId && n.configs.contains (.cloudHv, vmId)
    && n.sockets.any fun s => s.hypervisor = .cloudHv && s.vmId = vmId && n.alive s.pid

/-- **Operations after which the stopped VMs can be started**: the import of an image does not fail;
a stop finds the VM bootable on its node, and a force-stop kills no process; the firewall of a VM
that was stopped is synchronized (or its process is not killed then); a restarted agent finds the
Cloud Hypervisors of the stopped VMs. -/
def Fleet.resumable (w : Fleet) : Operation → Bool
  | .create _ _ _ imageFails => !imageFails
  | .start vmId flags => (w.vm? vmId).all fun vm =>
    flags.firewallSynced || !stopped vm.status ||
      (unheld (w.nodes vm.hostId) vmId &&
        (found (w.nodes vm.hostId) vmId).all fun i => i.hypervisor = .cloudHv)
  | .stop .stop vmId _ => (w.vm? vmId).all fun vm => bootable (w.nodes vm.hostId) vmId
  | .stop .forceStop vmId _ => (w.vm? vmId).all fun vm =>
    bootable (w.nodes vm.hostId) vmId && unheld (w.nodes vm.hostId) vmId
  | .restart hostId reads connects => w.vms.all fun vm =>
    vm.hostId ≠ hostId || !stopped vm.status ||
      recoverable (w.nodes hostId) reads connects vm.id

/-! ## Instances and processes -/

section Node

variable {n n' n'' : NodeProcesses} {i : VmmInstance} {vmId : Uuid} {ids : List Uuid}

lemma bootable_iff : bootable n vmId = true ↔
    ∃ i pid, found n vmId = some i ∧ pidToBoot i = some pid ∧ n.alive pid = true := by
  simp only [bootable, Option.any_eq_true]
  constructor
  · rintro ⟨i, hi, pid, hpid, halive⟩
    exact ⟨i, pid, hi, hpid, halive⟩
  · rintro ⟨i, pid, hi, hpid, halive⟩
    exact ⟨i, hi, pid, hpid, halive⟩

lemma instance?_of_found (h : found n vmId = some i) :
    n.instance? i.hypervisor vmId = some i ∧ i ∈ n.vms ∧ i.vmId = vmId := by
  rcases Option.or_eq_some_iff.1 h with hi | ⟨-, hi⟩ <;>
    obtain ⟨hmem, hhypervisor, hid⟩ := mem_of_instance? hi <;>
    exact ⟨hhypervisor ▸ hi, hmem, hid⟩

lemma findManager_eq : n.findManager vmId = (found n vmId).map VmmInstance.hypervisor := by
  unfold NodeProcesses.findManager found
  cases hc : n.instance? .cloudHv vmId with
  | some i => simp [(mem_of_instance? hc).2.1]
  | none =>
    cases hf : n.instance? .firecracker vmId with
    | some i => simp [(mem_of_instance? hf).2.1]
    | none => rfl

variable {pid : Nat} {f : VmmInstance → VmmInstance}

lemma pidToBoot_eq_some (h : pidToBoot i = some pid) :
    ∃ client, i.client = some client ∧ clientPid client = pid := by
  unfold pidToBoot at h
  split at h
  · rename_i hclient
    exact ⟨_, hclient, Option.some.inj h⟩
  · rename_i hclient
    exact ⟨_, hclient, Option.some.inj h⟩
  · cases h

/-- The process with that id, if it is alive, is of that VM. -/
def Owned (n : NodeProcesses) (pid : Nat) (vmId : Uuid) : Prop :=
  pid < n.nextPid ∧ ∀ p ∈ n.processes, p.pid = pid → p.vmId = vmId

/-- The table of a node: instances of known VMs, each with a process of its own. -/
structure Sound (ids : List Uuid) (n : NodeProcesses) : Prop where
  known : ∀ i ∈ n.vms, i.vmId ∈ ids
  keys : (n.vms.map fun i => (i.hypervisor, i.vmId)).Nodup
  clients : ∀ i ∈ n.vms, ∀ client, i.client = some client → Owned n (clientPid client) i.vmId
  handles : ∀ i ∈ n.vms, ∀ pid, i.process = some pid → Owned n pid i.vmId ∧
    ∀ client, i.client = some client → clientPid client = pid
  sockets : ∀ s ∈ n.sockets, s.vmId ∈ ids ∧ Owned n s.pid s.vmId
  socketKeys : (n.sockets.map fun s => (s.hypervisor, s.vmId)).Nodup
  pids : ∀ p ∈ n.processes, p.pid < n.nextPid

/-- **What one VM's operations do**: they keep the table sound, and to the other VMs nothing. -/
def Local (ids : List Uuid) (vmId : Uuid) (n n' : NodeProcesses) : Prop :=
  Sound ids n → Sound ids n' ∧ ∀ other, other ≠ vmId → bootable n' other = bootable n other

lemma Local.refl (n : NodeProcesses) : Local ids vmId n n := fun h => ⟨h, fun _ _ => rfl⟩

lemma Local.trans (h : Local ids vmId n n') (h' : Local ids vmId n' n'') :
    Local ids vmId n n'' := by
  intro hn
  obtain ⟨hn', hsame⟩ := h hn
  obtain ⟨hn'', hsame'⟩ := h' hn'
  exact ⟨hn'', fun other hother => (hsame' other hother).trans (hsame other hother)⟩

/-- Processes only end, or change their guests. -/
lemma Sound.processes (h : Sound ids n) {processes : List VmmProcess}
    (hsub : ∀ p' ∈ processes, ∃ p ∈ n.processes, p.vmId = p'.vmId ∧ p.pid = p'.pid) :
    Sound ids { n with processes } := by
  have howned : ∀ pid vmId, Owned n pid vmId → Owned { n with processes } pid vmId := by
    rintro pid vmId ⟨hlt, hown⟩
    refine ⟨hlt, fun p' hp' hpid => ?_⟩
    obtain ⟨p, hp, hvm, hsame⟩ := hsub p' hp'
    rw [← hvm]
    exact hown p hp (hsame.trans hpid)
  exact {
    known := h.known
    keys := h.keys
    clients := fun i hi client hclient => howned _ _ (h.clients i hi client hclient)
    handles := fun i hi pid hpid =>
      ⟨howned _ _ (h.handles i hi pid hpid).1, (h.handles i hi pid hpid).2⟩
    sockets := fun s hs => ⟨(h.sockets s hs).1, howned _ _ (h.sockets s hs).2⟩
    socketKeys := h.socketKeys
    pids := fun p' hp' => by
      obtain ⟨p, hp, -, hsame⟩ := hsub p' hp'
      rw [← hsame]
      exact h.pids p hp }

lemma alive_setGuest (pid pid' : Nat) (guestRuns : Bool) :
    (n.setGuest pid guestRuns).alive pid' = n.alive pid' := by
  simp only [NodeProcesses.alive, NodeProcesses.setGuest, Rows.update, List.any_map]
  congr 1
  funext p
  simp only [Function.comp_apply]
  split_ifs <;> rfl

lemma bootable_setGuest (pid : Nat) (guestRuns : Bool) (vmId : Uuid) :
    bootable (n.setGuest pid guestRuns) vmId = bootable n vmId := by
  have halive : (n.setGuest pid guestRuns).alive = n.alive :=
    funext fun pid' => alive_setGuest pid pid' guestRuns
  simp only [bootable, halive]
  rfl

lemma local_setGuest (pid : Nat) (guestRuns : Bool) :
    Local ids vmId n (n.setGuest pid guestRuns) := fun h =>
  ⟨h.processes (shrinks_setGuest pid guestRuns).processes,
    fun other _ => bootable_setGuest pid guestRuns other⟩

lemma alive_kill {process : Option Nat} :
    (n.kill process).alive pid = true ↔ n.alive pid = true ∧ process ≠ some pid := by
  simp only [NodeProcesses.alive, NodeProcesses.kill, List.any_eq_true, List.mem_filter,
    decide_eq_true_eq]
  constructor
  · rintro ⟨p, ⟨hp, hne⟩, rfl⟩
    exact ⟨⟨p, hp, rfl⟩, hne.symm⟩
  · rintro ⟨⟨p, hp, rfl⟩, hne⟩
    exact ⟨p, ⟨hp, hne.symm⟩, rfl⟩

/-- A handle is of no other VM's process. -/
lemma local_kill (hi : i ∈ n.vms) (hid : i.vmId = vmId) : Local ids vmId n (n.kill i.process) := by
  intro h
  refine ⟨h.processes (shrinks_kill i.process).processes, fun other hother => ?_⟩
  rw [Bool.eq_iff_iff, bootable_iff, bootable_iff]
  refine exists_congr fun j => exists_congr fun pid => and_congr_right fun hj =>
    and_congr_right fun hpid => ?_
  rw [alive_kill]
  refine ⟨And.left, fun halive => ⟨halive, fun hprocess => hother ?_⟩⟩
  obtain ⟨-, hmem, hother⟩ := instance?_of_found hj
  obtain ⟨client, hclient, rfl⟩ := pidToBoot_eq_some hpid
  obtain ⟨p, hp, hsame⟩ := List.any_eq_true.1 halive
  have hsame : p.pid = clientPid client := by simpa using hsame
  rw [← hother, ← hid, ← (h.clients j hmem client hclient).2 p hp hsame]
  exact (h.handles i hi _ hprocess).1.2 p hp hsame

/-- An instance keeps what it is of, and gets no new process. -/
structure Narrows (i : VmmInstance) (f : VmmInstance → VmmInstance) : Prop where
  key : ∀ j, (f j).hypervisor = j.hypervisor ∧ (f j).vmId = j.vmId
  client : ∀ client, (f i).client = some client →
    ∃ client', i.client = some client' ∧ clientPid client' = clientPid client
  process : ∀ pid, (f i).process = some pid → i.process = some pid

lemma found_updateInstance (hf : Narrows i f) (vmId : Uuid) :
    found (n.updateInstance i f) vmId = (found n vmId).map fun j =>
      if (j.hypervisor, j.vmId) = (i.hypervisor, i.vmId) then f j else j := by
  have hlookup : ∀ hypervisor, (n.updateInstance i f).instance? hypervisor vmId
      = (n.instance? hypervisor vmId).map fun j =>
        if (j.hypervisor, j.vmId) = (i.hypervisor, i.vmId) then f j else j := by
    intro hypervisor
    simp only [NodeProcesses.instance?, NodeProcesses.updateInstance, Rows.update, List.find?_map]
    congr 2
    funext j
    simp only [Function.comp_apply]
    split_ifs
    · rw [(hf.key j).1, (hf.key j).2]
    · rfl
  simp only [found, hlookup, Option.map_or]

lemma eq_of_key (h : Sound ids n) {j : VmmInstance} (hj : j ∈ n.vms) (hi : i ∈ n.vms)
    (hkey : (j.hypervisor, j.vmId) = (i.hypervisor, i.vmId)) : j = i :=
  List.inj_on_of_nodup_map h.keys hj hi hkey

lemma local_updateInstance (hi : i ∈ n.vms) (hid : i.vmId = vmId)
    (hf : Narrows i f) : Local ids vmId n (n.updateInstance i f) := by
  intro h
  -- every instance afterwards is one from before, or the changed one
  have hcases : ∀ j' ∈ (n.updateInstance i f).vms, j' = f i ∨ j' ∈ n.vms := by
    intro j' hj'
    rcases Rows.mem_update.1 hj' with ⟨j, hj, hkey, rfl⟩ | ⟨hj', -⟩
    · exact .inl (congrArg f (eq_of_key h hj hi hkey))
    · exact .inr hj'
  refine ⟨{
    known := fun j' hj' => ?_
    keys := ?_
    clients := fun j' hj' client hclient => ?_
    handles := fun j' hj' pid hpid => ?_
    sockets := h.sockets
    socketKeys := h.socketKeys
    pids := h.pids }, fun other hother => ?_⟩
  · rcases hcases j' hj' with rfl | hj'
    · rw [(hf.key i).2]
      exact h.known i hi
    · exact h.known j' hj'
  · have hmap : (n.updateInstance i f).vms.map (fun i => (i.hypervisor, i.vmId))
        = n.vms.map fun i => (i.hypervisor, i.vmId) :=
      Rows.map_update fun j => by rw [(hf.key j).1, (hf.key j).2]
    rw [hmap]
    exact h.keys
  · rcases hcases j' hj' with rfl | hj'
    · obtain ⟨client', hclient', hpid⟩ := hf.client client hclient
      rw [(hf.key i).2, ← hpid]
      exact h.clients i hi client' hclient'
    · exact h.clients j' hj' client hclient
  · rcases hcases j' hj' with rfl | hj'
    · obtain ⟨howned, hsame⟩ := h.handles i hi pid (hf.process pid hpid)
      rw [(hf.key i).2]
      refine ⟨howned, fun client hclient => ?_⟩
      obtain ⟨client', hclient', hpid'⟩ := hf.client client hclient
      rw [← hpid']
      exact hsame client' hclient'
    · exact h.handles j' hj' pid hpid
  · have hfound : found (n.updateInstance i f) other = found n other := by
      rw [found_updateInstance hf]
      cases hj : found n other with
      | none => rfl
      | some j =>
        obtain ⟨-, -, hjid⟩ := instance?_of_found hj
        have hkey : (j.hypervisor, j.vmId) ≠ (i.hypervisor, i.vmId) := fun hkey =>
          hother (hjid.symm.trans ((congrArg Prod.snd hkey).trans hid))
        rw [Option.map_some, if_neg hkey]
    rw [bootable, hfound]
    rfl

/-- A VM gets an instance with a new process. -/
lemma local_register (hids : vmId ∈ ids) {hypervisor : HypervisorType}
    (hnone : n.instance? hypervisor vmId = none)
    (hsocket : ∀ s ∈ n.sockets, (s.hypervisor, s.vmId) ≠ (hypervisor, vmId)) :
    Local ids vmId n (n.register hypervisor vmId) := by
  intro h
  have howned : ∀ pid vmId', Owned n pid vmId' →
      Owned (n.register hypervisor vmId) pid vmId' := by
    rintro pid vmId' ⟨hlt, hown⟩
    exact ⟨Nat.lt_succ_of_lt hlt, List.forall_mem_cons.2 ⟨fun hpid => absurd hpid hlt.ne', hown⟩⟩
  have hnew : Owned (n.register hypervisor vmId) n.nextPid vmId := by
    refine ⟨Nat.lt_succ_self _, List.forall_mem_cons.2 ⟨fun _ => rfl, fun p hp hpid => ?_⟩⟩
    exact absurd hpid (h.pids p hp).ne
  refine ⟨{
    known := List.forall_mem_cons.2 ⟨hids, h.known⟩
    keys := List.nodup_cons.2 ⟨fun hkey => ?_, h.keys⟩
    clients := List.forall_mem_cons.2 ⟨fun client hclient => ?_,
      fun i hi client hclient => howned _ _ (h.clients i hi client hclient)⟩
    handles := List.forall_mem_cons.2 ⟨fun pid hpid => ?_,
      fun i hi pid hpid => (h.handles i hi pid hpid).imp_left (howned _ _)⟩
    sockets := List.forall_mem_cons.2 ⟨⟨hids, hnew⟩,
      fun s hs => (h.sockets s hs).imp_right (howned _ _)⟩
    socketKeys := List.nodup_cons.2 ⟨fun hkey => ?_, h.socketKeys⟩
    pids := List.forall_mem_cons.2 ⟨Nat.lt_succ_self _,
      fun p hp => Nat.lt_succ_of_lt (h.pids p hp)⟩ }, fun other hother => ?_⟩
  · obtain ⟨i, hi, hkey⟩ := List.mem_map.1 hkey
    have habsent := List.find?_eq_none.1 hnone i hi
    simp only [Prod.mk.injEq] at hkey
    simp [hkey.1, hkey.2] at habsent
  · have hpid : clientPid client = n.nextPid := by
      cases hypervisor <;> obtain rfl := Option.some.inj hclient <;> rfl
    rw [hpid]
    exact hnew
  · obtain rfl := Option.some.inj hpid
    refine ⟨hnew, fun client hclient => ?_⟩
    cases hypervisor <;> obtain rfl := Option.some.inj hclient <;> rfl
  · obtain ⟨s, hs, hkey⟩ := List.mem_map.1 hkey
    exact hsocket s hs hkey
  · have hlookup : ∀ hypervisor', (n.register hypervisor vmId).instance? hypervisor' other
        = n.instance? hypervisor' other := by
      intro hypervisor'
      simp only [NodeProcesses.instance?, NodeProcesses.register]
      rw [List.find?_cons_of_neg]
      simp [Ne.symm hother]
    have hfound : found (n.register hypervisor vmId) other = found n other := by
      rw [found, hlookup, hlookup, found]
    rw [Bool.eq_iff_iff, bootable_iff, bootable_iff, hfound]
    refine exists_congr fun j => exists_congr fun pid => and_congr_right fun hj =>
      and_congr_right fun hpid => ?_
    obtain ⟨-, hmem, -⟩ := instance?_of_found hj
    obtain ⟨client, hclient, rfl⟩ := pidToBoot_eq_some hpid
    have hne : n.nextPid ≠ clientPid client := (h.clients j hmem client hclient).1.ne'
    simp [NodeProcesses.alive, NodeProcesses.register, hne]

lemma local_removeSocket (hypervisor : HypervisorType) :
    Local ids vmId n (n.removeSocket hypervisor vmId) := fun h =>
  ⟨{ known := h.known
     keys := h.keys
     clients := h.clients
     handles := h.handles
     sockets := fun s hs => h.sockets s (List.mem_of_mem_filter hs)
     socketKeys := h.socketKeys.sublist (List.filter_sublist.map _)
     pids := h.pids }, fun _ _ => rfl⟩

/-! ## The service -/

lemma local_serviceCreate (hids : vmId ∈ ids) (hypervisor : HypervisorType) (persisted : Bool) :
    Local ids vmId n (serviceCreate vmId hypervisor persisted n).2 := by
  simp only [serviceCreate, createVm]
  cases hi : n.instance? hypervisor vmId with
  | some i => exact .refl n
  | none =>
    have hregistered : Local ids vmId n
        ((n.removeSocket hypervisor vmId).register hypervisor vmId) := by
      refine (local_removeSocket hypervisor).trans (local_register hids hi fun s hs => ?_)
      have hother := (List.mem_filter.1 hs).2
      simp only [Bool.not_eq_true', Bool.and_eq_false_imp, decide_eq_true_eq,
        decide_eq_false_iff_not] at hother
      exact fun hkey => hother (congrArg Prod.fst hkey) (congrArg Prod.snd hkey)
    cases persisted with
    | false => exact hregistered
    | true =>
      intro h
      obtain ⟨hsound, hsame⟩ := hregistered h
      exact ⟨⟨hsound.known, hsound.keys, hsound.clients, hsound.handles, hsound.sockets,
        hsound.socketKeys, hsound.pids⟩, hsame⟩

lemma serviceStop_none {kind : StopKind} {shutsDown : Bool} (h : found n vmId = none) :
    (serviceStop kind vmId shutsDown n).2 = n := by
  rw [serviceStop, findManager_eq, h]
  rfl

/-- Where the VM is found: a stop changes at most the guest, a force-stop kills the process whose
handle is held. -/
lemma serviceStop_some (shutsDown : Bool) (h : found n vmId = some i) :
    (∃ pid guestRuns, (serviceStop .stop vmId shutsDown n).2 = n ∨
      (serviceStop .stop vmId shutsDown n).2 = n.setGuest pid guestRuns) ∧
    (serviceStop .forceStop vmId shutsDown n).2
      = (n.kill i.process).updateInstance i fun j => { j with process := none } := by
  obtain ⟨hi, -, -⟩ := instance?_of_found h
  simp only [serviceStop, findManager_eq, h, Option.map_some, stopVm, forceStopVm, hi, and_true]
  cases i.client with
  | none => exact ⟨0, false, .inl rfl⟩
  | some client =>
    cases client with
    | preBoot pid => exact ⟨0, false, .inl rfl⟩
    | running pid =>
      cases shutsDown
      · exact ⟨0, false, .inl rfl⟩
      · exact ⟨pid, false, .inr rfl⟩

lemma narrows_forceStop (i : VmmInstance) : Narrows i fun j => { j with process := none } :=
  ⟨fun _ => ⟨rfl, rfl⟩, fun client hclient => ⟨client, hclient, rfl⟩, fun _ hpid => nomatch hpid⟩

lemma local_serviceStop (kind : StopKind) (shutsDown : Bool) :
    Local ids vmId n (serviceStop kind vmId shutsDown n).2 := by
  cases hi : found n vmId with
  | none =>
    rw [serviceStop_none hi]
    exact .refl n
  | some i =>
    obtain ⟨-, hmem, hid⟩ := instance?_of_found hi
    obtain ⟨⟨pid, guestRuns, hstop⟩, hforce⟩ := serviceStop_some shutsDown hi
    cases kind with
    | forceStop =>
      rw [hforce]
      exact (local_kill hmem hid).trans
        (local_updateInstance hmem hid (narrows_forceStop i))
    | stop =>
      rcases hstop with hstop | hstop <;> rw [hstop]
      · exact .refl n
      · exact local_setGuest pid guestRuns

lemma bootable_stop (shutsDown : Bool) :
    bootable (serviceStop .stop vmId shutsDown n).2 vmId = bootable n vmId := by
  cases hi : found n vmId with
  | none => rw [serviceStop_none hi]
  | some i =>
    obtain ⟨⟨pid, guestRuns, hstop⟩, -⟩ := serviceStop_some shutsDown hi
    rcases hstop with hstop | hstop <;> rw [hstop]
    exact bootable_setGuest pid guestRuns vmId

/-- **A force-stop** leaves a process to boot only where it kills none. -/
lemma bootable_forceStop (h : Sound ids n) (shutsDown : Bool) :
    bootable (serviceStop .forceStop vmId shutsDown n).2 vmId
      = (bootable n vmId && unheld n vmId) := by
  cases hi : found n vmId with
  | none => simp [serviceStop_none hi, bootable, hi]
  | some i =>
    obtain ⟨-, hmem, -⟩ := instance?_of_found hi
    have hfound : found ((n.kill i.process).updateInstance i fun j => { j with process := none })
        vmId = some { i with process := none } := by
      rw [found_updateInstance (narrows_forceStop i)]
      show (found n vmId).map _ = _
      rw [hi, Option.map_some, if_pos rfl]
    rw [(serviceStop_some shutsDown hi).2, Bool.eq_iff_iff, bootable_iff, hfound,
      Bool.and_eq_true, bootable_iff, hi]
    simp only [Option.some.injEq, unheld, hi, Option.all_some]
    constructor
    · rintro ⟨_, pid, rfl, hpid, halive⟩
      obtain ⟨halive, hne⟩ := alive_kill.1 halive
      obtain ⟨client, hclient, rfl⟩ := pidToBoot_eq_some hpid
      refine ⟨⟨i, _, rfl, hpid, halive⟩, ?_⟩
      cases hprocess : i.process with
      | none => rfl
      | some pid =>
        exact absurd (hprocess.trans
          (congrArg some ((h.handles i hmem pid hprocess).2 client hclient).symm)) hne
    · rintro ⟨⟨_, pid, rfl, hpid, halive⟩, hprocess⟩
      rw [Option.isNone_iff_eq_none] at hprocess
      exact ⟨_, pid, rfl, hpid, alive_kill.2 ⟨halive, by simp [hprocess]⟩⟩

lemma narrows_started (h : i.client = some (.preBoot pid)) :
    Narrows i fun j => { j with client := some (.running pid) } where
  key _ := ⟨rfl, rfl⟩
  client _ hclient :=
    ⟨_, h, show clientPid (.running pid) = _ from congrArg clientPid (Option.some.inj hclient)⟩
  process _ hpid := hpid

lemma narrows_lost : Narrows i fun j => { j with client := none } where
  key _ := ⟨rfl, rfl⟩
  client _ hclient := nomatch hclient
  process _ hpid := hpid

/-- **A start on the node**: it is refused and changes nothing; or Cloud Hypervisor boots the guest;
or Firecracker does, and has booted then; or Firecracker is dead, and its client lost. -/
inductive Started (n : NodeProcesses) (vmId : Uuid) : Except Code Unit × NodeProcesses → Prop
  | refused (code : Code) : bootable n vmId = false → Started n vmId (.error code, n)
  | cloudHv (i : VmmInstance) (pid : Nat) : found n vmId = some i → i.hypervisor = .cloudHv →
      bootable n vmId = true → Started n vmId (.ok (), n.setGuest pid true)
  | firecracker (i : VmmInstance) (pid : Nat) : found n vmId = some i →
      i.hypervisor = .firecracker → i.client = some (.preBoot pid) → bootable n vmId = true →
      Started n vmId
        (.ok (), (n.updateInstance i fun j => { j with client := some (.running pid) }).setGuest pid
          true)
  | lost (i : VmmInstance) (code : Code) : found n vmId = some i → bootable n vmId = false →
      Started n vmId (.error code, n.updateInstance i fun j => { j with client := none })

lemma started_serviceStart (n : NodeProcesses) (vmId : Uuid) (persisted : Bool) :
    Started n vmId (serviceStart vmId persisted n) := by
  cases hi : found n vmId with
  | none =>
    rw [serviceStart, findManager_eq, hi]
    exact .refused _ (by simp [bootable, hi])
  | some i =>
    obtain ⟨hinstance, -, -⟩ := instance?_of_found hi
    have hbootable : bootable n vmId = (pidToBoot i).any n.alive := by
      rw [bootable, hi, Option.any_some]
    have hanswers : answers n i.hypervisor vmId
        = i.client.any fun client => n.alive (clientPid client) := by
      rw [answers, hinstance, Option.bind_some]
    rw [serviceStart, findManager_eq, hi]
    simp only [Option.map_some, hanswers]
    obtain ⟨hypervisor, id, process, client⟩ := i
    cases hypervisor with
    | cloudHv =>
      simp only [startVm, ensureVmRegistered, hinstance, Option.isSome_some, if_true]
      cases client with
      | none => exact .refused _ hbootable
      | some client =>
        cases client with
        | preBoot pid => exact .refused _ hbootable
        | running pid =>
          simp only [boot, Option.any_some, clientPid]
          by_cases halive : n.alive pid = true
          · simp only [halive, if_true]
            exact .cloudHv _ pid hi rfl (hbootable.trans halive)
          · simp only [halive]
            exact .refused _ (hbootable.trans (Bool.eq_false_of_not_eq_true halive))
    | firecracker =>
      simp only [startVm, hinstance]
      cases client with
      | none => exact .refused _ hbootable
      | some client =>
        cases client with
        | running pid => exact .refused _ hbootable
        | preBoot pid =>
          simp only [boot, Option.any_some, clientPid]
          by_cases halive : n.alive pid = true
          · simp only [halive, if_true]
            exact .firecracker _ pid hi rfl rfl (hbootable.trans halive)
          · simp only [halive]
            exact .lost _ _ hi (hbootable.trans (Bool.eq_false_of_not_eq_true halive))

section Result

variable {r : Except Code Unit × NodeProcesses}

lemma Started.isOk (h : Started n vmId r) : r.1.isOk = bootable n vmId := by
  cases h with
  | refused code hboot => exact hboot.symm
  | lost i code _ hboot => exact hboot.symm
  | cloudHv i pid _ _ hboot => exact hboot.symm
  | firecracker i pid _ _ _ hboot => exact hboot.symm

lemma Started.locally (h : Started n vmId r) : Local ids vmId n r.2 := by
  cases h with
  | refused code _ => exact .refl n
  | lost i code hi _ =>
    obtain ⟨-, hmem, hid⟩ := instance?_of_found hi
    exact local_updateInstance hmem hid narrows_lost
  | cloudHv i pid _ _ _ => exact local_setGuest pid true
  | firecracker i pid hi _ hclient _ =>
    obtain ⟨-, hmem, hid⟩ := instance?_of_found hi
    exact (local_updateInstance hmem hid (narrows_started hclient)).trans
      (local_setGuest pid true)

/-- After a start the process of Cloud Hypervisor can be booted once more, and that of Firecracker
cannot. -/
lemma Started.again (h : Started n vmId r) (hboot : bootable n vmId = true) :
    (bootable r.2 vmId && unheld r.2 vmId)
      = (unheld n vmId && (found n vmId).all fun i => i.hypervisor = .cloudHv) := by
  cases h with
  | refused code hnot => rw [hboot] at hnot; cases hnot
  | lost i code _ hnot => rw [hboot] at hnot; cases hnot
  | cloudHv i pid hi hhypervisor _ =>
    simp only [bootable_setGuest, hboot, Bool.true_and, hi, Option.all_some, hhypervisor,
      decide_true, Bool.and_true]
    rfl
  | firecracker i pid hi hhypervisor hclient _ =>
    have hfound : found (n.updateInstance i fun j => { j with client := some (.running pid) })
        vmId = some { i with client := some (.running pid) } := by
      rw [found_updateInstance (narrows_started hclient), hi, Option.map_some, if_pos rfl]
    simp only [bootable_setGuest]
    simp [bootable, hfound, pidToBoot, hhypervisor, hi]

end Result

/-! ## The agent is started again -/

section Recovery

variable {reads : HypervisorType → Bool} {connects : HypervisorType → Uuid → Bool} {s : VmmSocket}

/-- What is entered for a socket: an instance without a handle, and a client only for a process that
is alive. -/
lemma of_recovered (h : Vmm.recovered n connects s = some i) :
    i.hypervisor = s.hypervisor ∧ i.vmId = s.vmId ∧ i.process = none ∧
      ((i.client = some (.running s.pid) ∧ n.alive s.pid = true ∧
          connects s.hypervisor s.vmId = true ∧ (s.hypervisor, s.vmId) ∈ n.configs) ∨
        i.client = none ∧ s.hypervisor = .firecracker) := by
  unfold Vmm.recovered at h
  simp only at h
  split_ifs at h with hentered hattached
  · obtain rfl := Option.some.inj h
    obtain ⟨halive, hconnects⟩ := Bool.and_eq_true_iff.1 hattached
    exact ⟨rfl, rfl, rfl, .inl ⟨rfl, halive, hconnects, hentered.1⟩⟩
  · obtain rfl := Option.some.inj h
    exact ⟨rfl, rfl, rfl, .inr ⟨rfl, hentered.2.resolve_left hattached⟩⟩

lemma mem_restart : i ∈ (Vmm.restart reads connects n).vms ↔
    ∃ s ∈ n.sockets, reads s.hypervisor = true ∧ Vmm.recovered n connects s = some i := by
  simp only [Vmm.restart, List.mem_filterMap, List.mem_filter, and_assoc]

lemma Sound.restart (h : Sound ids n) : Sound ids (Vmm.restart reads connects n) where
  known i hi := by
    obtain ⟨s, hs, -, hi⟩ := mem_restart.1 hi
    rw [(of_recovered hi).2.1]
    exact (h.sockets s hs).1
  keys := by
    have hsockets := List.pairwise_map.1 h.socketKeys
    refine List.pairwise_map.2 (List.pairwise_filterMap.2 ((hsockets.filter _).imp ?_))
    intro s s' hne i hi i' hi'
    rw [(of_recovered hi).1, (of_recovered hi).2.1, (of_recovered hi').1, (of_recovered hi').2.1]
    exact hne
  clients i hi client hclient := by
    obtain ⟨s, hs, -, hi⟩ := mem_restart.1 hi
    obtain ⟨-, hid, -, hcases⟩ := of_recovered hi
    rcases hcases with ⟨hrunning, -⟩ | ⟨hnone, -⟩
    · obtain rfl := Option.some.inj (hrunning.symm.trans hclient)
      rw [hid]
      exact (h.sockets s hs).2
    · rw [hnone] at hclient
      cases hclient
  handles i hi pid hpid := by
    obtain ⟨s, -, -, hi⟩ := mem_restart.1 hi
    rw [(of_recovered hi).2.2.1] at hpid
    cases hpid
  sockets := h.sockets
  socketKeys := h.socketKeys
  pids := h.pids

/-- **After a restart** a VM is bootable exactly if its Cloud Hypervisor is found. -/
lemma bootable_restart : bootable (Vmm.restart reads connects n) vmId
    = recoverable n reads connects vmId := by
  -- the instances of Cloud Hypervisor that are entered for the VM
  have hentered : ∀ i ∈ (Vmm.restart reads connects n).vms, i.hypervisor = .cloudHv →
      i.vmId = vmId → recoverable n reads connects vmId = true ∧
        ∃ pid, pidToBoot i = some pid ∧ n.alive pid = true := by
    intro i hi hhypervisor hid
    obtain ⟨s, hs, hreads, hi⟩ := mem_restart.1 hi
    obtain ⟨hsame, hsid, -, hcases⟩ := of_recovered hi
    rw [hhypervisor] at hsame
    rw [hid] at hsid
    rcases hcases with ⟨hclient, halive, hconnects, hconfig⟩ | ⟨-, hother⟩
    · rw [← hsame, ← hsid] at hconnects hconfig
      rw [← hsame] at hreads
      refine ⟨?_, s.pid, by simp [pidToBoot, hhypervisor, hclient], halive⟩
      simp only [recoverable, hreads, hconnects, List.contains_iff_mem.2 hconfig, Bool.true_and,
        List.any_eq_true, Bool.and_eq_true, decide_eq_true_eq]
      exact ⟨s, hs, ⟨hsame.symm, hsid.symm⟩, halive⟩
    · rw [← hsame] at hother
      cases hother
  rw [Bool.eq_iff_iff, bootable_iff]
  constructor
  · rintro ⟨i, pid, hi, hpid, -⟩
    obtain ⟨-, hmem, hid⟩ := instance?_of_found hi
    refine (hentered i hmem ?_ hid).1
    obtain ⟨s, -, -, hi⟩ := mem_restart.1 hmem
    obtain ⟨-, -, -, hcases⟩ := of_recovered hi
    cases hhypervisor : i.hypervisor with
    | cloudHv => rfl
    | firecracker => rcases hcases with ⟨hclient, -⟩ | ⟨hclient, -⟩ <;>
        simp [pidToBoot, hhypervisor, hclient] at hpid
  · intro hrecoverable
    have hfound : ((Vmm.restart reads connects n).instance? .cloudHv vmId).isSome = true := by
      simp only [recoverable, Bool.and_eq_true, List.any_eq_true, decide_eq_true_eq,
        List.contains_iff_mem] at hrecoverable
      obtain ⟨⟨⟨hreads, hconnects⟩, hconfig⟩, s, hs, ⟨hhypervisor, rfl⟩, halive⟩ := hrecoverable
      refine List.find?_isSome.2 ⟨⟨.cloudHv, s.vmId, none, some (.running s.pid)⟩,
        mem_restart.2 ⟨s, hs, hhypervisor ▸ hreads, ?_⟩, by simp⟩
      simp [Vmm.recovered, hhypervisor, hconfig, halive, hconnects]
    obtain ⟨i, hi⟩ := Option.isSome_iff_exists.1 hfound
    obtain ⟨hmem, hhypervisor, hid⟩ := mem_of_instance? hi
    obtain ⟨-, pid, hpid, halive⟩ := hentered i hmem hhypervisor hid
    exact ⟨i, pid, by rw [found, hi, Option.some_or], hpid, halive⟩

end Recovery

/-! ## A start job on the node -/

variable {flags : StartFlags}

lemma local_bootOnNode : Local ids vmId n (bootOnNode vmId flags n).2 := by
  have hstarted := started_serviceStart n vmId flags.persisted
  simp only [bootOnNode]
  split_ifs
  · exact hstarted.locally
  · exact hstarted.locally.trans (local_serviceStop .forceStop true)
  · exact hstarted.locally

lemma local_startOnNode {vm : VmRow} (hids : vm.id ∈ ids) :
    Local ids vm.id n (startOnNode vm flags n).2 := by
  have hcreate := local_serviceCreate (n := n) hids vm.hypervisor flags.persisted
  simp only [startOnNode]
  split_ifs
  · exact hcreate.trans local_bootOnNode
  · exact hcreate
  · exact local_bootOnNode

lemma bootOnNode_synced (hflags : flags.firewallSynced = true) :
    (bootOnNode vmId flags n).1 = bootable n vmId := by
  simp only [bootOnNode, hflags, if_true,
    (started_serviceStart n vmId flags.persisted).isOk]
  cases bootable n vmId <;> rfl

/-- Without its firewall the VM is stopped again. -/
lemma bootOnNode_unsynced (h : Sound ids n) (hboot : bootable n vmId = true)
    (hflags : flags.firewallSynced = false) :
    (bootOnNode vmId flags n).1 = false ∧
    bootable (bootOnNode vmId flags n).2 vmId
      = (unheld n vmId && (found n vmId).all fun i => i.hypervisor = .cloudHv) := by
  have hstarted := started_serviceStart n vmId flags.persisted
  have hok := hstarted.isOk.trans hboot
  simp only [bootOnNode, hok, hflags, if_true, Bool.false_eq_true, if_false, true_and]
  rw [bootable_forceStop (hstarted.locally h).1 true]
  exact hstarted.again hboot

end Node

/-! ## Fleets -/

/-- Ids are of one row, and the tables of the nodes are sound. -/
structure Kept (w : Fleet) : Prop where
  ids : (w.vms.map VmRow.id).Nodup
  nodes : ∀ hostId, Sound (w.vms.map VmRow.id) (w.nodes hostId)

/-- The stopped VMs are bootable on their nodes. -/
def Good (w : Fleet) : Prop :=
  ∀ vm ∈ w.vms, stopped vm.status = true → bootable (w.nodes vm.hostId) vm.id = true

section Fleets

variable {w w' : Fleet} {vm : VmRow} {vmId : Uuid} {flags : StartFlags} {n : NodeProcesses}

lemma mem_of_vm? (h : w.vm? vmId = some vm) : vm ∈ w.vms ∧ vm.id = vmId := Rows.mem_of_find? h

lemma Kept.vm?_of_mem (h : Kept w) (hvm : vm ∈ w.vms) : w.vm? vm.id = some vm :=
  Rows.find?_of_mem h.ids hvm

lemma startOnNode_stopped (h : stopped vm.status = true) :
    startOnNode vm flags n = bootOnNode vm.id flags n := by
  refine if_neg fun hcreated => ?_
  rw [hcreated] at h
  cases h

lemma startable_of_stopped {status : VmStatus} (h : stopped status = true) :
    startable status = true := by
  cases status <;> first | rfl | cases h

variable (h : Kept w)

include h

/-- **The next start completes where the VM is bootable.** -/
lemma restartable_iff : Restartable w ↔ Good w := by
  have hstart : ∀ vm ∈ w.vms, stopped vm.status = true → ∀ flags : StartFlags,
      flags.firewallSynced = true →
      (startJob flags w vm.id).1 = bootable (w.nodes vm.hostId) vm.id ∧
      ((startJob flags w vm.id).1 = true →
        ((startJob flags w vm.id).2.vm? vm.id).map VmRow.status = some .running) := by
    intro vm hvm hstopped flags hflags
    have hstatus : ∀ w' : Fleet, w'.vms = w.vms →
        ((w'.setStatus vm.id .running).vm? vm.id).map VmRow.status = some .running := by
      intro w' hw'
      have hfind : (w'.setStatus vm.id .running).vm? vm.id
          = (w'.vm? vm.id).map fun vm => { vm with status := .running } :=
        Rows.find?_update_self fun _ h => h
      rw [hfind, Fleet.vm?, hw', ← Fleet.vm?, h.vm?_of_mem hvm]
      rfl
    simp only [startJob, h.vm?_of_mem hvm, startable_of_stopped hstopped, if_true,
      startOnNode_stopped hstopped, bootOnNode_synced hflags, true_and]
    intro hboot
    rw [if_pos hboot]
    exact hstatus _ rfl
  constructor
  · intro hall vm hvm hstopped
    rw [← (hstart vm hvm hstopped ⟨true, true⟩ rfl).1]
    exact (hall vm hvm hstopped ⟨true, true⟩ rfl).1
  · intro hgood vm hvm hstopped flags hflags
    obtain ⟨hboot, hrunning⟩ := hstart vm hvm hstopped flags hflags
    have hcompleted := hboot.trans (hgood vm hvm hstopped)
    exact ⟨hcompleted, hrunning hcompleted⟩

lemma Kept.setNode {hostId : Uuid} (hn : Sound (w.vms.map VmRow.id) n) :
    Kept (w.setNode hostId n) := by
  refine ⟨h.ids, fun hostId' => ?_⟩
  simp only [Fleet.setNode, Function.update_apply]
  split_ifs
  · exact hn
  · exact h.nodes hostId'

lemma Kept.setStatus (vmId : Uuid) (status : VmStatus) :
    Kept (w.setStatus vmId status) := by
  have hids : (w.setStatus vmId status).vms.map VmRow.id = w.vms.map VmRow.id :=
    Rows.map_update fun _ => rfl
  refine ⟨hids ▸ h.ids, fun hostId => ?_⟩
  rw [hids]
  exact h.nodes hostId

/-- **One VM's operation on its node**, and the status that is written then. -/
lemma good_write (hgood : Good w) (hvm : w.vm? vmId = some vm)
    (hlocal : Local (w.vms.map VmRow.id) vmId (w.nodes vm.hostId) n) (status : VmStatus) :
    Good ((w.setNode vm.hostId n).setStatus vmId status) ↔
      (stopped status = true → bootable n vmId = true) := by
  obtain ⟨hmem, hid⟩ := mem_of_vm? hvm
  obtain ⟨-, hsame⟩ := hlocal (h.nodes vm.hostId)
  have hnode : (w.setNode vm.hostId n).nodes vm.hostId = n := Function.update_self ..
  refine Rows.forall_update.trans ⟨fun hall => ?_, fun hboot vm' hvm' => ⟨fun hid' => ?_, ?_⟩⟩
  · have hown := (hall vm hmem).1 hid
    rw [← hid, ← hnode]
    exact hown
  · obtain rfl : vm' = vm :=
      Option.some.inj ((h.vm?_of_mem hvm').symm.trans ((congrArg w.vm? hid').trans hvm))
    intro hstopped
    show bootable ((w.setNode vm'.hostId n).nodes vm'.hostId) vm'.id = true
    rw [hnode, hid]
    exact hboot hstopped
  · intro hid' hstopped
    have hold := hgood vm' hvm' hstopped
    show bootable ((w.setNode vm.hostId n).nodes vm'.hostId) vm'.id = true
    simp only [Fleet.setNode, Function.update_apply]
    split_ifs with hhost
    · rw [hsame vm'.id hid', ← hhost]
      exact hold
    · exact hold

/-- The status may stay. -/
lemma setStatus_self (hvm : w.vm? vmId = some vm) :
    (w.setNode vm.hostId n).setStatus vmId vm.status = w.setNode vm.hostId n := by
  have hrows : Rows.update VmRow.id vmId (fun r => { r with status := vm.status }) w.vms
      = w.vms := by
    refine (List.map_congr_left fun r hr => ?_).trans (List.map_id _)
    split_ifs with hid
    · obtain rfl : r = vm :=
        Option.some.inj ((h.vm?_of_mem hr).symm.trans ((congrArg w.vm? hid).trans hvm))
      rfl
    · rfl
  rw [Fleet.setStatus]
  exact congrArg (fun vms => (⟨vms, _⟩ : Fleet)) hrows

/-! ## One operation -/

omit h in
lemma clientStop_answered (vmId : Uuid) (n : NodeProcesses) (kind : StopKind) (shutsDown : Bool) :
    (clientStop kind vmId .answered shutsDown n).1 ≠ .error .other := by
  intro hother
  simp only [clientStop, serviceStop, findManager_eq] at hother
  cases hi : found n vmId with
  | none =>
    rw [hi] at hother
    cases hother
  | some i =>
    obtain ⟨hinstance, -, -⟩ := instance?_of_found hi
    cases kind with
    | forceStop =>
      simp only [hi, Option.map_some, forceStopVm, hinstance] at hother
      cases hother
    | stop =>
      simp only [hi, Option.map_some, stopVm, hinstance] at hother
      split at hother <;> cases hother

omit h in
lemma stopHandler_eq (hvm : w.vm? vmId = some vm) (kind : StopKind) (shutsDown : Bool) :
    stopHandler kind shutsDown w vmId
      = (w.setNode vm.hostId (serviceStop kind vmId shutsDown (w.nodes vm.hostId)).2).setStatus vmId
          .shutdown := by
  have hnode : (clientStop kind vmId .answered shutsDown (w.nodes vm.hostId)).2
      = (serviceStop kind vmId shutsDown (w.nodes vm.hostId)).2 := rfl
  have hresult := clientStop_answered vmId (w.nodes vm.hostId) kind shutsDown
  simp only [stopHandler, hvm, hnode]
  cases hr : (clientStop kind vmId .answered shutsDown (w.nodes vm.hostId)).1 with
  | ok u => rfl
  | error e =>
    cases e with
    | notFound => rfl
    | other => exact absurd hr hresult

/-- **One operation**: what it keeps, and when the stopped VMs can be started after it. -/
def Keeps (w' : Fleet) (resumable : Bool) : Prop := Kept w' ∧ (Good w' ↔ resumable = true)

variable (hgood : Good w)

include hgood

lemma keeps_refl : Keeps w true := ⟨h, iff_of_true hgood rfl⟩

lemma keeps_stop (kind : StopKind) (shutsDown : Bool) :
    Keeps (stopHandler kind shutsDown w vmId) (w.resumable (.stop kind vmId shutsDown)) := by
  cases hvm : w.vm? vmId with
  | none =>
    have hsame : stopHandler kind shutsDown w vmId = w := by simp only [stopHandler, hvm]
    have hok : w.resumable (.stop kind vmId shutsDown) = true := by
      cases kind <;> simp [Fleet.resumable, hvm]
    rw [hsame, hok]
    exact keeps_refl h hgood
  | some vm =>
    have hlocal : Local (w.vms.map VmRow.id) vmId (w.nodes vm.hostId)
        (serviceStop kind vmId shutsDown (w.nodes vm.hostId)).2 :=
      local_serviceStop kind shutsDown
    rw [stopHandler_eq hvm]
    refine ⟨(h.setNode (hlocal (h.nodes _)).1).setStatus _ _,
      (good_write h hgood hvm hlocal .shutdown).trans ?_⟩
    have hshutdown : stopped .shutdown = true := rfl
    rw [forall_prop_of_true hshutdown]
    cases kind with
    | stop => rw [bootable_stop, Fleet.resumable, hvm, Option.all_some]
    | forceStop =>
      rw [bootable_forceStop (h.nodes vm.hostId), Fleet.resumable, hvm, Option.all_some]

lemma keeps_start (flags : StartFlags) :
    Keeps (startJob flags w vmId).2 (w.resumable (.start vmId flags)) := by
  simp only [startJob, Fleet.resumable]
  cases hvm : w.vm? vmId with
  | none => exact keeps_refl h hgood
  | some vm =>
    obtain ⟨hmem, rfl⟩ := mem_of_vm? hvm
    have hlocal : Local (w.vms.map VmRow.id) vm.id (w.nodes vm.hostId)
        (startOnNode vm flags (w.nodes vm.hostId)).2 :=
      local_startOnNode (List.mem_map_of_mem hmem)
    have hsound := (hlocal (h.nodes vm.hostId)).1
    simp only [Option.all_some]
    -- a stopped VM is bootable, so that its start fails for want of a firewall only
    have hunsynced : stopped vm.status = true →
        (startOnNode vm flags (w.nodes vm.hostId)).1 = false → flags.firewallSynced = false := by
      intro hstopped hfailed
      by_contra hsynced
      rw [startOnNode_stopped hstopped, bootOnNode_synced (by simpa using hsynced),
        hgood vm hmem hstopped] at hfailed
      cases hfailed
    split_ifs with hstartable hcompleted
    · refine ⟨(h.setNode hsound).setStatus _ _, (good_write h hgood hvm hlocal .running).trans ?_⟩
      refine iff_of_true (fun hstopped => nomatch hstopped) ?_
      cases hstopped : stopped vm.status with
      | false => simp
      | true =>
        cases hsynced : flags.firewallSynced with
        | true => rfl
        | false =>
          rw [startOnNode_stopped hstopped, (bootOnNode_unsynced (h.nodes _)
            (hgood vm hmem hstopped) hsynced).1] at hcompleted
          cases hcompleted
    · refine ⟨h.setNode hsound, ?_⟩
      rw [← setStatus_self h hvm]
      refine (good_write h hgood hvm hlocal vm.status).trans ?_
      cases hstopped : stopped vm.status with
      | false => simp
      | true =>
        have hsynced := hunsynced hstopped (Bool.eq_false_of_not_eq_true hcompleted)
        rw [startOnNode_stopped hstopped, (bootOnNode_unsynced (h.nodes _)
          (hgood vm hmem hstopped) hsynced).2, hsynced]
        simp
    · have hstopped : stopped vm.status = false :=
        Bool.eq_false_of_not_eq_true fun hstopped => hstartable (startable_of_stopped hstopped)
      rw [hstopped, Bool.not_false, Bool.or_true, Bool.true_or]
      exact keeps_refl h hgood

omit hgood in
omit h in
lemma Sound.mono {ids ids' : List Uuid} (h : Sound ids n) (hsub : ids ⊆ ids') : Sound ids' n :=
  ⟨fun i hi => hsub (h.known i hi), h.keys, h.clients, h.handles,
    fun s hs => ⟨hsub (h.sockets s hs).1, (h.sockets s hs).2⟩, h.socketKeys, h.pids⟩

lemma keeps_create (hypervisor : HypervisorType) (hostId : Uuid)
    (imageFails : Bool) (hnew : w.vm? vmId = none) :
    Keeps (createHandler vmId hypervisor hostId imageFails w)
      (w.resumable (.create vmId hypervisor hostId imageFails)) := by
  have hids : vmId ∉ w.vms.map VmRow.id := by simpa [Fleet.vm?] using hnew
  have hnone : bootable (w.nodes hostId) vmId = false := by
    refine Bool.eq_false_of_not_eq_true fun hboot => hids ?_
    obtain ⟨i, -, hi, -⟩ := bootable_iff.1 hboot
    obtain ⟨-, hmem, hid⟩ := instance?_of_found hi
    exact hid ▸ (h.nodes hostId).known i hmem
  refine ⟨⟨List.nodup_cons.2 ⟨hids, h.ids⟩,
    fun hostId' => (h.nodes hostId').mono (List.subset_cons_self ..)⟩, ?_⟩
  have hold : ∀ vm ∈ w.vms, stopped vm.status = true →
      bootable (w.nodes vm.hostId) vm.id = true := hgood
  simp only [Good, createHandler, List.forall_mem_cons, hnone, Fleet.resumable, and_iff_left hold]
  cases imageFails <;> simp [stopped]

lemma keeps_restart (hostId : Uuid) (reads : HypervisorType → Bool)
    (connects : HypervisorType → Uuid → Bool) :
    Keeps (w.setNode hostId (Vmm.restart reads connects (w.nodes hostId)))
      (w.resumable (.restart hostId reads connects)) := by
  refine ⟨h.setNode (h.nodes hostId).restart, ?_⟩
  simp only [Fleet.resumable, List.all_eq_true, Bool.or_eq_true, decide_eq_true_eq]
  refine forall₂_congr fun vm hvm => ?_
  simp only [Fleet.setNode, Function.update_apply]
  by_cases hhost : vm.hostId = hostId
  · rw [if_pos hhost, bootable_restart]
    cases stopped vm.status <;> simp [hhost]
  · rw [if_neg hhost]
    exact iff_of_true (hgood vm hvm) (.inl (.inl hhost))

lemma keeps_step {a : Operation} (hs : w.step a = some w') :
    Keeps w' (w.resumable a) := by
  cases a with
  | create vmId hypervisor hostId imageFails =>
    simp only [Fleet.step] at hs
    split_ifs at hs with hnew
    obtain rfl := Option.some.inj hs
    exact keeps_create h hgood hypervisor hostId imageFails (by simpa using hnew)
  | start vmId flags =>
    obtain rfl := Option.some.inj hs
    exact keeps_start h hgood flags
  | stop kind vmId shutsDown =>
    obtain rfl := Option.some.inj hs
    exact keeps_stop h hgood kind shutsDown
  | restart hostId reads connects =>
    obtain rfl := Option.some.inj hs
    exact keeps_restart h hgood hostId reads connects

end Fleets

/-- **A stopped VM can be started again.**  In every history of operations that are all resumable,
the next start of a VM whose status is `Shutdown` or `Unknown` completes with the VM `Running`; that
goes on after the next operation if and only if it is resumable too. -/
theorem stopped_starts_again_iff {w w' : Fleet} {a : Operation}
    (h : Reach Fleet.step (fun w a => w.resumable a = true) NoVms w) (hs : w.step a = some w') :
    Restartable w ∧ (Restartable w' ↔ w.resumable a = true) := by
  have hkept : Kept w ∧ Good w := by
    refine h.invariant (I := fun w => Kept w ∧ Good w)
      (fun w hw => ⟨⟨?_, fun hostId => ?_⟩, ?_⟩) fun w a w' hw hok hs => ?_
    · simp [hw.1]
    · rw [hw.2 hostId]
      constructor <;> simp [NodeProcesses.fresh]
    · intro vm hvm
      rw [hw.1] at hvm
      cases hvm
    · obtain ⟨hkept, hiff⟩ := keeps_step hw.1 hw.2 hs
      exact ⟨hkept, hiff.2 hok⟩
  obtain ⟨hkept', hiff⟩ := keeps_step hkept.1 hkept.2 hs
  exact ⟨(restartable_iff hkept.1).2 hkept.2, (restartable_iff hkept').trans hiff⟩

/-- Every operation keeps the tables of the nodes sound, whether it succeeds or not. -/
lemma Kept.step {w w' : Fleet} {a : Operation} (h : Kept w) (hs : w.step a = some w') :
    Kept w' := by
  cases a with
  | create vmId hypervisor hostId imageFails =>
    simp only [Fleet.step] at hs
    split_ifs at hs with hnew
    obtain rfl := Option.some.inj hs
    have hids : vmId ∉ w.vms.map VmRow.id := by simpa [Fleet.vm?] using hnew
    exact ⟨List.nodup_cons.2 ⟨hids, h.ids⟩,
      fun hostId' => (h.nodes hostId').mono (List.subset_cons_self ..)⟩
  | start vmId flags =>
    obtain rfl := Option.some.inj hs
    simp only [startJob]
    split
    · exact h
    · rename_i vm hvm
      have hkept : Kept (w.setNode vm.hostId (startOnNode vm flags (w.nodes vm.hostId)).2) :=
        h.setNode (local_startOnNode (List.mem_map_of_mem (mem_of_vm? hvm).1) (h.nodes _)).1
      split_ifs
      · exact hkept.setStatus _ _
      · exact hkept
      · exact h
  | stop kind vmId shutsDown =>
    obtain rfl := Option.some.inj hs
    cases hvm : w.vm? vmId with
    | none => simpa only [stopHandler, hvm] using h
    | some vm =>
      rw [stopHandler_eq hvm]
      exact (h.setNode (local_serviceStop kind shutsDown (h.nodes _)).1).setStatus _ _
  | restart hostId reads connects =>
    obtain rfl := Option.some.inj hs
    exact h.setNode (h.nodes hostId).restart

/-- The process that an instance has a handle of or talks to is of the VM of the instance. -/
def LeadsToOwnVm (n : NodeProcesses) : Prop := ∀ i ∈ n.vms, ∀ p ∈ n.processes,
  i.process = some p.pid ∨ i.client.map clientPid = some p.pid → p.vmId = i.vmId

/-- **Instances lead to their own VMs** in every history, with restarts of the agents and operations
that fail. -/
theorem instances_lead_to_own_vm {w : Fleet} (h : Reach Fleet.step (fun _ _ => True) NoVms w)
    (hostId : Uuid) : LeadsToOwnVm (w.nodes hostId) := by
  have hkept : Kept w := by
    refine h.invariant (fun w hw => ⟨by simp [hw.1], fun hostId => ?_⟩) fun _ _ _ hw _ => hw.step
    rw [hw.2 hostId]
    constructor <;> simp [NodeProcesses.fresh]
  rintro i hi p hp (hhandle | hclient)
  · exact ((hkept.nodes hostId).handles i hi _ hhandle).1.2 p hp rfl
  · obtain ⟨client, hclient, hpid⟩ := Option.map_eq_some_iff.1 hclient
    exact ((hkept.nodes hostId).clients i hi client hclient).2 p hp hpid.symm

/-! Histories of one VM on one host. -/

def noVms : Fleet := ⟨[], fun _ => .fresh⟩

def started (hypervisor : HypervisorType) : List Operation :=
  [.create ⟨"vm"⟩ hypervisor ⟨"host"⟩ false, .start ⟨"vm"⟩ ⟨true, true⟩]

/-- The agent is started again and finds everything. -/
def restarted : Operation := .restart ⟨"host"⟩ (fun _ => true) fun _ _ => true

theorem stopped_cloudHv_starts : ∃ w w',
    run Fleet.step noVms (started .cloudHv ++ [.stop .stop ⟨"vm"⟩ true]) = some w ∧
      w.vms.map VmRow.status = [.shutdown] ∧ w.step restarted = some w' ∧
      Restartable w ∧ Restartable w' := by
  have hrun : (run Fleet.step noVms (started .cloudHv ++ [.stop .stop ⟨"vm"⟩ true])).map
      (fun w => (w.vms.map VmRow.status, w.resumable restarted)) = some ([.shutdown], true) := by
    decide +kernel
  have halong : Along Fleet.step (fun w a => w.resumable a = true) noVms
      (started .cloudHv ++ [.stop .stop ⟨"vm"⟩ true]) := by
    decide +kernel
  obtain ⟨w, hw, hfields⟩ := Option.map_eq_some_iff.1 hrun
  obtain ⟨hstatus, hok⟩ := Prod.mk.inj hfields
  have hreach := reach_of_run (.start ⟨rfl, fun _ => rfl⟩ : Reach Fleet.step
    (fun w a => w.resumable a = true) NoVms noVms) halong hw
  have h := stopped_starts_again_iff hreach (a := restarted) rfl
  exact ⟨w, _, hw, hstatus, rfl, h.1, h.2.2 hok⟩

theorem recovered_leads_to_own_vm :
    ∃ w ∈ run Fleet.step noVms (started .cloudHv ++ [restarted]),
      (w.nodes ⟨"host"⟩).vms.length = 1 ∧ LeadsToOwnVm (w.nodes ⟨"host"⟩) := by
  refine (exists_reach (P := fun w : Fleet => (w.nodes ⟨"host"⟩).vms.length = 1)
    ⟨rfl, fun _ => rfl⟩ ?_).imp fun w h => ⟨h.1, h.2.1, instances_lead_to_own_vm h.2.2 _⟩
  decide +kernel

/-- The status after a history, and whether the next start completes. -/
def outcome (history : List Operation) : Option (List VmStatus × Bool) :=
  (run Fleet.step noVms history).map fun w =>
    (w.vms.map VmRow.status, (startJob ⟨true, true⟩ w ⟨"vm"⟩).1)

/-- **VMs that cannot be started any more**: one of Cloud Hypervisor that was force-stopped, one of
Firecracker that was stopped, and one that was stopped before it was ever started. -/
theorem stopped_for_good :
    outcome (started .cloudHv ++ [.stop .forceStop ⟨"vm"⟩ true]) = some ([.shutdown], false) ∧
    outcome (started .firecracker ++ [.stop .stop ⟨"vm"⟩ true]) = some ([.shutdown], false) ∧
    outcome [.create ⟨"vm"⟩ .cloudHv ⟨"host"⟩ false, .stop .stop ⟨"vm"⟩ true]
      = some ([.shutdown], false) := by
  decide +kernel

end Qarax.StartAgain
