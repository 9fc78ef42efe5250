import Qarax.Core.Machine
import Qarax.Core.Records

/-!
# `overlaybd/manager.rs`: concurrent mounts

`mount` links the VM's TCMU backstore into a loopback target and waits for the kernel to make a
block device of it.  Which device that is it learns by comparing two listings of `/sys/block`.
Mounts of several VMs run at the same time, and nothing keeps one from seeing the other's device.

* `MountState.step` — the mounts, and the kernel, one effect at a time.
* `MountState.calm` — a device appears only while no other mount is between its two listings.
* `mounted_device_is_own` — then every mount returns the device of its own backstore.
-/

namespace Qarax

open Machine

def isAsciiHexdigit (c : Char) : Bool :=
  c.isDigit || ('a' ≤ c && c ≤ 'f') || ('A' ≤ c && c ≤ 'F')

/-- The name of the backstore; that of the loopback target is made in the same way. -/
def tcmuName (vmId : String) : String :=
  "obd-" ++ String.ofList ((vmId.toList.filter isAsciiHexdigit).take 12)

/-- An entry of `/sys/block`, with the backstore behind it if there is one. -/
structure BlockDevice where
  name : String
  backstore : Option String
  deriving DecidableEq

/-- Where a call of `mount` stands. -/
inductive MountPc where
  /-- Before the backstore is made. -/
  | backstore
  /-- Before `list_sd_devices`. -/
  | snapshot
  /-- Before the LUN is linked. -/
  | link (known : List String)
  /-- In `wait_for_new_sd_device`, after that many listings. -/
  | wait (known : List String) (polls : Nat)
  | done (path : String)
  | failed
  deriving DecidableEq

structure Mount where
  vmId : String
  pc : MountPc
  deriving DecidableEq

structure MountState where
  mounts : List Mount
  devices : List BlockDevice
  /-- Backstores that are linked and whose device has not appeared. -/
  linked : List String

inductive MountAction where
  | mount (vmId : String)
  /-- A call fails at any point. -/
  | fail (vmId : String)
  | makeBackstore (vmId : String)
  | snapshot (vmId : String)
  | link (vmId : String)
  /-- The kernel makes a device of a linked backstore. -/
  | appear (backstore name : String)
  /-- A listing with the device that is looked at first among the new ones. -/
  | poll (vmId : String) (first : String)

namespace MountState

def isSd (name : String) : Bool := name.toList.take 2 = ['s', 'd']

def listSdDevices (s : MountState) : List String := (s.devices.map BlockDevice.name).filter isSd

def mount? (s : MountState) (vmId : String) : Option Mount := s.mounts.find? (·.vmId = vmId)

def setPc (s : MountState) (vmId : String) (pc : MountPc) : MountState :=
  { s with mounts := Rows.update Mount.vmId vmId (fun m => { m with pc }) s.mounts }

/-- The directory of the backstore is there and cannot be removed. -/
def inUse (s : MountState) (backstore : String) : Bool :=
  s.linked.contains backstore || s.devices.any (·.backstore = some backstore)

/-- Ids of different VMs have different TCMU names, and a VM is mounted once. -/
def canMount (s : MountState) (vmId : String) : Bool :=
  s.mounts.all fun m => tcmuName m.vmId ≠ tcmuName vmId

def step (s : MountState) : MountAction → Option MountState
  | .mount vmId =>
    if s.canMount vmId then some { s with mounts := ⟨vmId, .backstore⟩ :: s.mounts } else none
  | .fail vmId => do
      let m ← s.mount? vmId
      match m.pc with
      | .done _ => none
      | _ => some (s.setPc vmId .failed)
  | .makeBackstore vmId => do
      let m ← s.mount? vmId
      match m.pc with
      | .backstore => some (s.setPc vmId (if s.inUse (tcmuName vmId) then .failed else .snapshot))
      | _ => none
  | .snapshot vmId => do
      let m ← s.mount? vmId
      match m.pc with
      | .snapshot => some (s.setPc vmId (.link s.listSdDevices))
      | _ => none
  | .link vmId => do
      let m ← s.mount? vmId
      match m.pc with
      | .link known =>
        some { s.setPc vmId (.wait known 0) with linked := tcmuName vmId :: s.linked }
      | _ => none
  | .appear backstore name =>
    if backstore ∈ s.linked && isSd name && s.devices.all (·.name ≠ name) then
      some { s with
        devices := ⟨name, some backstore⟩ :: s.devices
        linked := s.linked.erase backstore }
    else none
  | .poll vmId first => do
      let m ← s.mount? vmId
      match m.pc with
      | .wait known polls =>
        if 100 ≤ polls then some (s.setPc vmId .failed)
        else if s.listSdDevices.all (· ∈ known) then some (s.setPc vmId (.wait known (polls + 1)))
        else if first ∈ s.listSdDevices && first ∉ known then
          some (s.setPc vmId (.done s!"/dev/{first}"))
        else none
      | _ => none

/-- No call has been made; devices have different names. -/
def Fresh (s : MountState) : Prop :=
  s.mounts = [] ∧ s.linked = [] ∧ (s.devices.map BlockDevice.name).Nodup

end MountState

/-- The call has made its first listing and has not ended. -/
def MountPc.known? : MountPc → Option (List String)
  | .link known | .wait known _ => some known
  | _ => none

/-- **A device appears only while no other mount waits for one.** -/
def MountState.calm (s : MountState) : MountAction → Bool
  | .appear backstore _ =>
    s.mounts.all fun m => m.pc.known?.isNone || tcmuName m.vmId = backstore
  | _ => true

/-- What a call may rely on. -/
def Mount.Ok (devices : List BlockDevice) (m : Mount) : Prop :=
  match m.pc with
  | .link known | .wait known _ => ∀ d ∈ devices, MountState.isSd d.name = true → d.name ∉ known →
      d.backstore = some (tcmuName m.vmId)
  | .done path => ∃ d ∈ devices, path = s!"/dev/{d.name}" ∧ d.backstore = some (tcmuName m.vmId)
  | _ => True

structure Attributed (s : MountState) : Prop where
  names : (s.devices.map BlockDevice.name).Nodup
  tcmu : (s.mounts.map fun m => tcmuName m.vmId).Nodup
  ok : ∀ m ∈ s.mounts, m.Ok s.devices

section Attributed

variable {s s' : MountState} {vmId : String} {m : Mount}

lemma mem_of_mount? (h : s.mount? vmId = some m) : m ∈ s.mounts ∧ m.vmId = vmId :=
  ⟨List.mem_of_find?_eq_some h, by simpa using List.find?_some h⟩

/-- One call goes on. -/
lemma Attributed.setPc {pc : MountPc} {linked : List String} (h : Attributed s)
    (hpc : ∀ m ∈ s.mounts, m.vmId = vmId → Mount.Ok s.devices { m with pc }) :
    Attributed { s.setPc vmId pc with linked } := by
  refine ⟨h.names, ?_, ?_⟩
  · have hmap : (s.setPc vmId pc).mounts.map (fun m => tcmuName m.vmId)
        = s.mounts.map fun m => tcmuName m.vmId := Rows.map_update fun _ => rfl
    rw [hmap]
    exact h.tcmu
  · exact Rows.forall_update.2 fun m hm => ⟨fun hid => hpc m hm hid, fun _ => h.ok m hm⟩

/-- The call that was found is the only one for its VM. -/
lemma Attributed.eq_of_vmId {m' : Mount} (h : Attributed s) (hm : s.mount? vmId = some m)
    (hm' : m' ∈ s.mounts) (hid : m'.vmId = vmId) : m' = m := by
  obtain ⟨hmem, hvm⟩ := mem_of_mount? hm
  exact List.inj_on_of_nodup_map h.tcmu hm' hmem (by rw [hid, hvm])

/-- **The device that a listing finds is the call's own.** -/
lemma Mount.Ok.found {devices : List BlockDevice} {known : List String} {polls : Nat}
    {name : String}
    (h : m.Ok devices) (hpc : m.pc = .wait known polls)
    (hd : name ∈ (devices.map BlockDevice.name).filter MountState.isSd) (hn : name ∉ known) :
    Mount.Ok devices { m with pc := .done s!"/dev/{name}" } := by
  obtain ⟨hmem, hsd⟩ := List.mem_filter.1 hd
  obtain ⟨d, hdev, rfl⟩ := List.mem_map.1 hmem
  unfold Mount.Ok at h
  rw [hpc] at h
  exact ⟨d, hdev, rfl, h d hdev hsd hn⟩

/-- Another device, of a backstore that every waiting call takes for its own. -/
lemma Mount.Ok.appear {devices : List BlockDevice} {d : BlockDevice} (h : m.Ok devices)
    (hc : m.pc.known?.isNone = true ∨ d.backstore = some (tcmuName m.vmId)) :
    m.Ok (d :: devices) := by
  unfold Mount.Ok at h ⊢
  cases hpc : m.pc with
  | link known =>
    rw [hpc] at h
    simp only [hpc, MountPc.known?, Option.isNone_some, Bool.false_eq_true, false_or] at hc
    exact List.forall_mem_cons.2 ⟨fun _ _ => hc, h⟩
  | wait known polls =>
    rw [hpc] at h
    simp only [hpc, MountPc.known?, Option.isNone_some, Bool.false_eq_true, false_or] at hc
    exact List.forall_mem_cons.2 ⟨fun _ _ => hc, h⟩
  | done path =>
    rw [hpc] at h
    obtain ⟨d', hd', hpath⟩ := h
    exact ⟨d', List.mem_cons_of_mem _ hd', hpath⟩
  | backstore | snapshot | failed => trivial

lemma attributed_step {a : MountAction} (h : Attributed s) (hc : s.calm a = true)
    (hs : s.step a = some s') : Attributed s' := by
  cases a with
  | mount vmId =>
    simp only [MountState.step, Option.ite_none_right_eq_some, Option.some.injEq] at hs
    obtain ⟨hcan, rfl⟩ := hs
    refine ⟨h.names, List.nodup_cons.2 ⟨?_, h.tcmu⟩, List.forall_mem_cons.2 ⟨trivial, h.ok⟩⟩
    simpa [MountState.canMount] using hcan
  | fail vmId =>
    obtain ⟨m, -, hs⟩ := Option.bind_eq_some_iff.1 hs
    cases hpc : m.pc <;> rw [hpc] at hs <;> cases hs <;> exact h.setPc fun _ _ _ => trivial
  | makeBackstore vmId =>
    obtain ⟨m, -, hs⟩ := Option.bind_eq_some_iff.1 hs
    cases hpc : m.pc <;> rw [hpc] at hs <;> cases hs
    refine h.setPc fun m _ _ => ?_
    split_ifs <;> trivial
  | snapshot vmId =>
    obtain ⟨m, -, hs⟩ := Option.bind_eq_some_iff.1 hs
    cases hpc : m.pc <;> rw [hpc] at hs <;> cases hs
    refine h.setPc fun m _ _ d hd hsd hn => ?_
    exact absurd (List.mem_filter.2 ⟨List.mem_map_of_mem hd, hsd⟩) hn
  | link vmId =>
    obtain ⟨m, hm, hs⟩ := Option.bind_eq_some_iff.1 hs
    cases hpc : m.pc <;> rw [hpc] at hs <;> cases hs
    refine h.setPc fun m' hm' hid => ?_
    obtain rfl := h.eq_of_vmId hm hm' hid
    have hok := h.ok m' hm'
    unfold Mount.Ok at hok
    rw [hpc] at hok
    exact hok
  | appear backstore name =>
    simp only [MountState.step, Option.ite_none_right_eq_some, Bool.and_eq_true,
      List.all_eq_true, decide_eq_true_eq, Option.some.injEq] at hs
    obtain ⟨⟨-, hnew⟩, rfl⟩ := hs
    refine ⟨List.nodup_cons.2 ⟨by simpa using hnew, h.names⟩, h.tcmu, fun m hm => ?_⟩
    simp only [MountState.calm, List.all_eq_true, Bool.or_eq_true, decide_eq_true_eq] at hc
    exact (h.ok m hm).appear ((hc m hm).imp_right fun heq => by rw [heq])
  | poll vmId first =>
    obtain ⟨m, hm, hs⟩ := Option.bind_eq_some_iff.1 hs
    cases hpc : m.pc <;> rw [hpc] at hs <;> try cases hs
    next known polls =>
    simp only at hs
    split_ifs at hs with htime hnone hfirst
    · cases hs
      exact h.setPc fun _ _ _ => trivial
    · cases hs
      refine h.setPc fun m' hm' hid => ?_
      obtain rfl := h.eq_of_vmId hm hm' hid
      have hok := h.ok m' hm'
      unfold Mount.Ok at hok
      rw [hpc] at hok
      exact hok
    · cases hs
      refine h.setPc fun m' hm' hid => ?_
      obtain rfl := h.eq_of_vmId hm hm' hid
      simp only [Bool.and_eq_true, decide_eq_true_eq] at hfirst
      exact (h.ok m' hm').found hpc hfirst.1 hfirst.2

end Attributed

/-- **Every mount returns the device of its own backstore**, and mounts of different VMs return
different devices, as long as no device appears while another mount waits for its own. -/
theorem mounted_device_is_own {s : MountState}
    (h : Reach MountState.step (fun s a => s.calm a = true) MountState.Fresh s) :
    (∀ m ∈ s.mounts, ∀ path, m.pc = .done path → ∃ d ∈ s.devices, path = s!"/dev/{d.name}" ∧
      d.backstore = some (tcmuName m.vmId)) ∧
    ∀ m ∈ s.mounts, ∀ m' ∈ s.mounts, ∀ path, m.pc = .done path → m'.pc = .done path →
      m.vmId = m'.vmId := by
  have hattr : Attributed s := by
    refine h.invariant (fun s hf => ?_) fun s a s' ha hc hs => attributed_step ha hc hs
    obtain ⟨hmounts, -, hnames⟩ := hf
    exact ⟨hnames, by simp [hmounts], by simp [hmounts]⟩
  have hown : ∀ m ∈ s.mounts, ∀ path, m.pc = .done path → ∃ d ∈ s.devices,
      path = s!"/dev/{d.name}" ∧ d.backstore = some (tcmuName m.vmId) := by
    intro m hm path hpc
    have hok := hattr.ok m hm
    unfold Mount.Ok at hok
    rwa [hpc] at hok
  refine ⟨hown, fun m hm m' hm' path hpc hpc' => ?_⟩
  obtain ⟨d, hd, hpath, hback⟩ := hown m hm path hpc
  obtain ⟨d', hd', hpath', hback'⟩ := hown m' hm' path hpc'
  have hname : d.name = d'.name := by
    have happ : "/dev/" ++ d.name = "/dev/" ++ d'.name := hpath.symm.trans hpath'
    simpa using happ
  obtain rfl := List.inj_on_of_nodup_map hattr.names hd hd' hname
  have htcmu : tcmuName m.vmId = tcmuName m'.vmId := Option.some.inj (hback.symm.trans hback')
  rw [List.inj_on_of_nodup_map hattr.tcmu hm hm' htcmu]

/-! ## Runs -/

namespace Overlaybd

def vmA : String := "7c0a51de-23b4-4f6a-9d18-0e5b7a9c4f21"

def vmB : String := "e4f913b0-6a2c-4d75-8b30-5c1d8f2e7a96"

/-- A node with one disk of its own. -/
def node : MountState := ⟨[], [⟨"sda", none⟩], []⟩

def toLink (vmId : String) : List MountAction :=
  [.mount vmId, .makeBackstore vmId, .snapshot vmId, .link vmId]

/-- Both mounts are under way before a device appears. -/
def crossed : List MountAction :=
  toLink vmA ++ toLink vmB ++ [.appear (tcmuName vmA) "sdb", .poll vmB "sdb",
    .appear (tcmuName vmB) "sdc", .poll vmA "sdb"]

/-- One after the other. -/
def inTurn : List MountAction :=
  toLink vmA ++ [.appear (tcmuName vmA) "sdb", .poll vmA "sdb"] ++
    toLink vmB ++ [.poll vmB "sdb", .appear (tcmuName vmB) "sdc", .poll vmB "sdc"]

end Overlaybd

open Overlaybd in
theorem mounts_in_turn :
    ∃ s, run MountState.step node inTurn = some s ∧
      s.mounts = [⟨vmB, .done "/dev/sdc"⟩, ⟨vmA, .done "/dev/sdb"⟩] ∧
      ∃ d ∈ s.devices, "/dev/sdc" = s!"/dev/{d.name}" ∧ d.backstore = some (tcmuName vmB) := by
  refine (exists_reach ⟨rfl, rfl, by decide⟩ ?_).imp fun s h => ⟨h.1, h.2.1,
    (mounted_device_is_own h.2.2).1 ⟨vmB, .done "/dev/sdc"⟩ (by simp [h.2.1]) _ rfl⟩
  decide +kernel

open Overlaybd in
/-- Both calls return the device of the first VM. -/
theorem crossed_mounts_share_a_device :
    (run MountState.step node crossed).map (fun s => (s.mounts, s.devices))
      = some ([⟨vmB, .done "/dev/sdb"⟩, ⟨vmA, .done "/dev/sdb"⟩],
          [⟨"sdc", some (tcmuName vmB)⟩, ⟨"sdb", some (tcmuName vmA)⟩, ⟨"sda", none⟩]) := by
  decide +kernel

end Qarax
