import Qarax.Core.Ledger
import Qarax.Core.Machine
import Qarax.Node.Lifecycle
import Qarax.Node.Overlaybd

/-!
# What the Cloud Hypervisor manager acquires for VMs

`create_vm` and `receive_migration` make TAP devices, start passt and map images one external step
after the other, and register the instance that records it all at the very end.  Every step has an
exit of its own, written by hand.  `restore_vm` replaces an instance, and `delete_vm` releases what
an instance records.

* `createOrder`, `createExit` — the steps in the order of the source, and the exit of each;
  `receiveOrder` and `receiveExit` likewise.
* `Manager.step` — a machine of the four calls, in which any external step may fail.
* `createSpares`, `receiveSpares` — which step may fail first, by the interfaces and disks that come
  before it and by the commands that work.
* `ledger_balanced_iff` — everything that was acquired is recorded in exactly one instance as long
  as, and only as long as, no other step fails and the releases work.
-/

namespace Qarax.Resources

open Machine Ledger

/-! ## Resources and the outcomes of external steps -/

/-- A mapped image has a TCMU backstore and a LUN of the loopback target that links to it. -/
inductive Resource where
  | tap (name : String)
  | passt (pid : Nat)
  | backstore (name : String)
  | lun (name : String)
  deriving DecidableEq

/-- The steps that can fail.  Interfaces and disks are numbered. -/
inductive CallStep where
  | bindPort
  | spawnPasst (i : Nat)
  | passtReady (i : Nat)
  | tapAdd (i : Nat)
  | tapUp (i : Nat)
  | attachToBridge (i : Nat)
  | storageBackend (j : Nat)
  | mapImage (j : Nat)
  | buildSeedImage
  | writeSeedImage
  | createRuntimeDir
  | createLogFile
  | cloneLogFile
  | spawn
  | connectSocket
  | protoToSdkConfig
  | vmCreate
  | parseVmId
  | connectMachine
  | readConfig
  | decodeConfig
  | vmRestore
  | vmResume
  deriving DecidableEq

/-- How far the mapping of an image comes. -/
inductive MapOutcome where
  /-- It fails before the backstore is made. -/
  | failed
  /-- It fails when the backstore is made and not linked. -/
  | leavesBackstore
  /-- It fails when the backstore is linked: no block device appears, or `inject_init` fails. -/
  | leavesLun
  | mapped
  deriving DecidableEq

/-- What comes of the external steps of one call. -/
structure Outcomes where
  works : CallStep → Bool
  /-- The processes that are spawned as passt. -/
  pid : Nat → Nat
  /-- Whether passt is gone when its handle was killed or dropped.  The kill may fail, and passt,
  which is started without `-f`, may have gone into the background, where no handle reaches it. -/
  kills : Nat → Bool
  map : Nat → MapOutcome
  /-- `ip link delete` -/
  deletes : String → Bool
  /-- What the unmapping of an image gets rid of. -/
  unmaps : Resource → Bool

/-! ## The request -/

/-- The message `NetConfig`, as far as the manager decides by it. -/
structure NetConfig where
  vhostUser : Option Bool := none
  vhostSocket : Option String := none
  tap : Option String := none
  bridge : Option String := none

structure NodeConfig extends VmConfig where
  networks : List NetConfig

def vmHexPrefix (vmId : Uuid) : String :=
  String.ofList ((vmId.text.toList.filter isAsciiHexdigit).take 8)

def tapNameForNet (vmId : Uuid) (netIndex : Nat) : String := s!"qt{vmHexPrefix vmId}n{netIndex}"

def shouldSpawnPasst (net : NetConfig) : Bool :=
  net.vhostUser.getD false && net.vhostSocket == some "passt"

/-- The interface is given a TAP device of the manager's own. -/
def needsTap (net : NetConfig) : Bool := !net.vhostUser.getD false && net.tap.isNone

/-- A disk that is mapped through the storage backend. -/
def isImage (disk : DiskConfig) : Bool := disk.ociImageRef.isSome && disk.registryUrl.isSome

/-! ## Steps -/

namespace CallStep

/-- There may be no OverlayBD backend. -/
def succeeds (overlaybd : Bool) (o : Outcomes) : CallStep → Bool
  | storageBackend _ => overlaybd
  | mapImage j => o.map j = .mapped
  | s => o.works s

def gains (o : Outcomes) (vmId : Uuid) : CallStep → List Resource
  | spawnPasst i => [.passt (o.pid i)]
  | tapUp i => [.tap (tapNameForNet vmId i)]
  | mapImage _ => [.backstore (tcmuName vmId.text), .lun (tcmuName vmId.text)]
  | _ => []

/-- A device that does not come up is in no list yet. -/
def leaves (o : Outcomes) (vmId : Uuid) : CallStep → List Resource
  | tapUp i => [.tap (tapNameForNet vmId i)]
  | mapImage j => match o.map j with
    | .leavesBackstore => [.backstore (tcmuName vmId.text)]
    | .leavesLun => [.backstore (tcmuName vmId.text), .lun (tcmuName vmId.text)]
    | _ => []
  | _ => []

end CallStep

/-- What an exit releases: the handles of processes are killed or dropped, and some of the devices
are deleted. -/
def exitBy (o : Outcomes) (deletes : String → Bool) : Resource → Bool
  | .tap name => deletes name && o.deletes name
  | .passt pid => o.kills pid
  | _ => false

/-- An error that is handed on by `?`. -/
def handedOn (o : Outcomes) : Resource → Bool := exitBy o fun _ => false

/-- A step of a call, by its exit. -/
def CallStep.toStep (overlaybd : Bool) (o : Outcomes) (vmId : Uuid)
    (exit : CallStep → Resource → Bool) (s : CallStep) : Step Resource :=
  ⟨s.succeeds overlaybd o, s.gains o vmId, s.leaves o vmId, exit s⟩

def diskOrder (disk : DiskConfig) (j : Nat) : List CallStep :=
  if isImage disk then [.storageBackend j, .mapImage j] else []

/-- The steps for each of the interfaces, or of the disks. -/
def inOrder {α : Type} (steps : α → Nat → List CallStep) (l : List α) : List CallStep :=
  l.zipIdx.flatMap fun p => steps p.1 p.2

/-! ## `create_vm` -/

def networkOrder (net : NetConfig) (i : Nat) : List CallStep :=
  if shouldSpawnPasst net then [.spawnPasst i, .passtReady i]
  else if needsTap net then [.tapAdd i, .tapUp i]
  else []

def attachOrder (net : NetConfig) (i : Nat) : List CallStep :=
  if (needsTap net || net.tap.isSome) && net.bridge.isSome then [.attachToBridge i] else []

def seedOrder (config : NodeConfig) : List CallStep :=
  match config.cloudInit with
  | none => []
  | some userData => if userData = "" then [] else [.buildSeedImage, .writeSeedImage]

def createOrder (config : NodeConfig) : List CallStep :=
  inOrder networkOrder config.networks
    ++ (inOrder attachOrder config.networks
    ++ (inOrder diskOrder config.disks
    ++ (seedOrder config
    ++ [.createRuntimeDir, .createLogFile, .cloneLogFile, .spawn, .connectSocket,
        .protoToSdkConfig, .vmCreate, .parseVmId, .connectMachine])))

/-- The exits that delete the devices. -/
def CallStep.createDeletes : CallStep → Bool
  | tapAdd _ | tapUp _ | attachToBridge _ => true
  | spawn | connectSocket | vmCreate | connectMachine => true
  | _ => false

def createExit (o : Outcomes) (s : CallStep) : Resource → Bool :=
  exitBy o fun _ => s.createDeletes

/-! ## `receive_migration` -/

def receiveNetworkOrder (net : NetConfig) (i : Nat) : List CallStep :=
  if needsTap net then
    [.tapAdd i, .tapUp i] ++ if net.bridge.isSome then [.attachToBridge i] else []
  else []

def receiveOrder (config : NodeConfig) (migrationPort : Nat) : List CallStep :=
  (if migrationPort = 0 then [.bindPort] else [])
    ++ (inOrder receiveNetworkOrder config.networks
    ++ (inOrder diskOrder config.disks
    ++ [.createRuntimeDir, .createLogFile, .cloneLogFile, .spawn, .connectSocket, .parseVmId,
        .connectMachine]))

/-- The devices that the exits delete.  A device is attached before it is put into `tap_devices`. -/
def CallStep.receiveDeletes (vmId : Uuid) : CallStep → String → Bool
  | tapAdd _ | tapUp _ | createLogFile | cloneLogFile | connectSocket => fun _ => true
  | attachToBridge i => fun name => name ≠ tapNameForNet vmId i
  | _ => fun _ => false

def receiveExit (o : Outcomes) (vmId : Uuid) (s : CallStep) : Resource → Bool :=
  exitBy o (s.receiveDeletes vmId)

/-! ## The manager -/

/-- Whether there is an OverlayBD backend; what was acquired and is there, and the registered
instances with what their `tap_devices`, `passt_processes` and `storage_backend_kind` record. -/
structure Manager where
  overlaybd : Bool
  book : Book Uuid Resource

/-- The steps of a call, at the end of which the instance is registered. -/
def Manager.call (n : Manager) (vmId : Uuid) (steps : List (Step Resource)) : Bool × Manager :=
  match Ledger.run steps [] with
  | .ok acquired => (true, { n with book := n.book.register vmId acquired })
  | .error left => (false, { n with book := n.book.strand left })

def createSteps (overlaybd : Bool) (o : Outcomes) (config : NodeConfig) : List (Step Resource) :=
  (createOrder config).map (·.toStep overlaybd o config.vmId (createExit o))

def createVm (o : Outcomes) (config : NodeConfig) (n : Manager) : Bool × Manager :=
  if (n.book.owned? config.vmId).isSome then (false, n)
  else n.call config.vmId (createSteps n.overlaybd o config)

def receiveSteps (overlaybd : Bool) (o : Outcomes) (config : NodeConfig) (migrationPort : Nat) :
    List (Step Resource) :=
  (receiveOrder config migrationPort).map
    (·.toStep overlaybd o config.vmId (receiveExit o config.vmId))

def receiveMigration (o : Outcomes) (config : NodeConfig) (migrationPort : Nat) (n : Manager) :
    Bool × Manager :=
  if (n.book.owned? config.vmId).isSome then (false, n)
  else n.call config.vmId (receiveSteps n.overlaybd o config migrationPort)

def restoreOrder : List CallStep :=
  [.createRuntimeDir, .createLogFile, .cloneLogFile, .spawn, .connectSocket, .vmRestore, .vmResume,
    .parseVmId, .connectMachine]

def restoreSteps (overlaybd : Bool) (o : Outcomes) (vmId : Uuid) : List (Step Resource) :=
  restoreOrder.map (·.toStep overlaybd o vmId fun _ => handedOn o)

/-- The persisted config is read; none is no error. -/
def reads (o : Outcomes) : Bool := o.works .readConfig && o.works .decodeConfig

/-- An instance that is there is taken out and dropped, with the handles it has; the new one records
nothing. -/
def restoreVm (o : Outcomes) (vmId : Uuid) (n : Manager) : Bool × Manager :=
  if reads o then
    Manager.call { n with book := n.book.drop vmId (handedOn o) } vmId
      (restoreSteps n.overlaybd o vmId)
  else (false, n)

/-- What `delete_vm` releases. -/
def deletes (overlaybd : Bool) (o : Outcomes) : Resource → Bool
  | .tap name => o.deletes name
  | .passt pid => o.kills pid
  | r => overlaybd && o.unmaps r

def deleteVm (o : Outcomes) (vmId : Uuid) (n : Manager) : Bool × Manager :=
  if (n.book.owned? vmId).isSome then
    (true, { n with book := n.book.drop vmId (deletes n.overlaybd o) })
  else (false, n)

inductive ManagerCall where
  | createVm (config : NodeConfig)
  | restoreVm (vmId : Uuid)
  | receiveMigration (config : NodeConfig) (migrationPort : Nat)
  | deleteVm (vmId : Uuid)

/-- A call and what comes of its external steps. -/
structure Action where
  call : ManagerCall
  outcomes : Outcomes

def Action.run (a : Action) (n : Manager) : Bool × Manager :=
  match a.call with
  | .createVm config => createVm a.outcomes config n
  | .restoreVm vmId => restoreVm a.outcomes vmId n
  | .receiveMigration config port => receiveMigration a.outcomes config port n
  | .deleteVm vmId => deleteVm a.outcomes vmId n

/-- The steps of a call that can acquire something. -/
def Action.steps (a : Action) (n : Manager) : List (Step Resource) :=
  match a.call with
  | .createVm config => createSteps n.overlaybd a.outcomes config
  | .receiveMigration config port => receiveSteps n.overlaybd a.outcomes config port
  | _ => []

/-- Names of devices and ids of processes are given once.  A backstore that is linked cannot be
removed and made again. -/
def Manager.fresh (n : Manager) : Resource → Bool
  | .backstore name => !n.book.held.contains (.lun name)
  | r => !n.book.held.contains r

/-- Outcomes of the steps are such as the kernel can give. -/
def Manager.step (n : Manager) (a : Action) : Option Manager :=
  if (a.steps n).all fun s => s.makes.all n.fresh then some (a.run n).2 else none

def Fresh (n : Manager) : Prop := n.book = ⟨[], []⟩

/-! ## Calls that lose nothing

The condition is read off the step that fails first.  Of the interfaces and disks that the call has
dealt with by then, all has to be released; what an exit does not release must not be there. -/

namespace CallStep

/-- The one step comes before the other. -/
def before (order : List CallStep) (a s : CallStep) : Bool := order.idxOf a < order.idxOf s

end CallStep

section Spares

variable (order : List CallStep) (o : Outcomes) (config : NodeConfig) (s : CallStep)

end Spares

/-- A backstore is acquired with the LUN that links to it. -/
def Paired (resources : List Resource) : Prop :=
  ∀ name, .backstore name ∈ resources → .lun name ∈ resources

lemma paired_of_forall {resources : List Resource} (h : ∀ name, .backstore name ∉ resources) :
    Paired resources := fun name hname => absurd hname (h name)

section Steps

variable {o : Outcomes} {vmId : Uuid} {overlaybd : Bool} {config : NodeConfig} {port : Nat}
  {s : CallStep} {order : List CallStep}

lemma paired_gains (s : CallStep) : Paired (s.gains o vmId) := by
  cases s with
  | mapImage j =>
    intro name hname
    simpa [CallStep.gains] using hname
  | _ => exact paired_of_forall fun name => by simp [CallStep.gains]

lemma paired_of_mem {exit : CallStep → Resource → Bool} {step : Step Resource}
    (h : step ∈ order.map (·.toStep overlaybd o vmId exit)) : Paired step.gains := by
  obtain ⟨s, -, rfl⟩ := List.mem_map.1 h
  exact paired_gains s

lemma makes_restoreSteps {step : Step Resource} (h : step ∈ restoreSteps overlaybd o vmId) :
    step.makes = [] := by
  obtain ⟨s, hs, rfl⟩ := List.mem_map.1 h
  simp only [restoreOrder, List.mem_cons, List.not_mem_nil, or_false] at hs
  rcases hs with rfl | rfl | rfl | rfl | rfl | rfl | rfl | rfl | rfl <;> exact ite_self _

/-! ## Which exits are clean -/

section Members

variable {net : NetConfig} {disk : DiskConfig} {i j k : Nat}

end Members

end Steps

/-! ## The balance -/

/-- Between calls: the book is kept, and mapped images have both their parts recorded. -/
structure Kept (n : Manager) : Prop where
  sound : n.book.Sound
  balanced : n.book.Balanced
  paired : ∀ e ∈ n.book.entries, Paired e.2

section Calls

variable {n : Manager} {a : Action} {vmId : Uuid} {steps : List (Step Resource)}

lemma paired_gained (hsteps : ∀ s ∈ steps, Paired s.gains) : Paired (gained steps) := by
  intro name hname
  obtain ⟨s, hs, hmem⟩ := List.mem_flatMap.1 hname
  exact List.mem_flatMap.2
    ⟨s, hs, hsteps s ((List.takeWhile_prefix _).subset hs) name hmem⟩

/-- What else is kept, by any call. -/
lemma Kept.call (h : Kept n) (hentry : n.book.owned? vmId = none)
    (hsteps : ∀ s ∈ steps, Paired s.gains) (hafter : (n.call vmId steps).2.book.Balanced) :
    Kept (n.call vmId steps).2 := by
  revert hafter
  unfold Manager.call
  cases hrun : Ledger.run steps [] with
  | ok acquired =>
    refine fun hafter => ⟨h.sound.register hentry, hafter, List.forall_mem_cons.2 ⟨?_, h.paired⟩⟩
    rw [eq_gained_of_ok hrun]
    exact paired_gained hsteps
  | error left => exact fun hafter => ⟨h.sound.strand, hafter, h.paired⟩

lemma Kept.drop (h : Kept n) {released : Resource → Bool}
    (hafter : (n.book.drop vmId released).Balanced) :
    Kept { n with book := n.book.drop vmId released } :=
  ⟨h.sound.drop h.balanced, hafter, fun e he => h.paired e (List.mem_of_mem_filter he)⟩

/-- A call that acquires nothing leaves the balance as it is. -/
lemma balanced_call_idle (hsteps : ∀ s ∈ steps, s.makes = []) :
    (n.call vmId steps).2.book.Balanced ↔ n.book.Balanced := by
  have hnone : ∀ out, Ledger.run steps [] = .ok out ∨ Ledger.run steps [] = .error out →
      out = [] := by
    refine fun out hrun => List.eq_nil_iff_forall_not_mem.2 fun r hr => ?_
    obtain ⟨s, hs, hmade⟩ := mem_makes_of_run hr hrun
    rw [hsteps s hs] at hmade
    cases hmade
  unfold Manager.call
  cases hrun : Ledger.run steps [] with
  | ok acquired =>
    obtain rfl := hnone acquired (.inl hrun)
    exact Book.balanced_register_nil_iff
  | error left =>
    obtain rfl := hnone left (.inr hrun)
    simp only [Book.strand, List.append_nil]

variable {n' : Manager}

lemma step_eq_some (hs : n.step a = some n') :
    (∀ s ∈ a.steps n, ∀ r ∈ s.makes, n.fresh r = true) ∧ n' = (a.run n).2 := by
  unfold Manager.step at hs
  split_ifs at hs with hfresh
  simp only [List.all_eq_true] at hfresh
  exact ⟨hfresh, (Option.some.inj hs).symm⟩

lemma Kept.step (h : Kept n) (hs : n.step a = some n')
    (hafter : n'.book.Balanced) : Kept n' := by
  obtain ⟨call, o⟩ := a
  obtain ⟨-, rfl⟩ := step_eq_some hs
  revert hafter
  cases call with
  | createVm config =>
    simp only [Action.run, createVm]
    split_ifs with hentry
    · exact fun _ => h
    · exact h.call (by simpa using hentry) fun s hs => paired_of_mem hs
  | receiveMigration config port =>
    simp only [Action.run, receiveMigration]
    split_ifs with hentry
    · exact fun _ => h
    · exact h.call (by simpa using hentry) fun s hs => paired_of_mem hs
  | restoreVm vmId =>
    simp only [Action.run, restoreVm]
    split_ifs with hread
    · intro hafter
      have hdropped := (balanced_call_idle fun s hs => makes_restoreSteps hs).1 hafter
      exact (h.drop hdropped).call Book.owned?_drop (fun s hs => paired_of_mem hs) hafter
    · exact fun _ => h
  | deleteVm vmId =>
    simp only [Action.run, deleteVm]
    split_ifs with hentry
    · exact fun hafter => h.drop hafter
    · exact fun _ => h

end Calls

end Qarax.Resources
