import Qarax.Core.Tokens
import Qarax.Control.Vms
import Qarax.Node.Networking.Validate

/-!
# `handlers/vm/handler.rs`: the configuration of a NIC

A NIC is described to the node when the VM is started, by `build_create_vm_request`, and when it is
plugged into a running VM, by `net_config_for_hotplug`.  Each resolves the row of the NIC by itself.

* `hotplug_eq_cold_iff` — the two agree exactly on NICs without a network and on networks that are
  attached to the host.
-/

namespace Qarax.NicConfig

structure NetworkInterface where
  networkId : Option Uuid
  deviceId : String
  (tapName macAddress hostMac ipAddress : Option String)
  mtu : Int
  vhostUser : Bool
  (vhostSocket vhostMode : Option String)
  (numQueues queueSize : Int)
  (offloadTso offloadUfo offloadCsum : Bool)
  pciSegment : Int
  iommu : Bool

inductive VhostMode where
  | client | server

structure NetConfig where
  id : String
  (tap ip mask mac hostMac : Option String)
  mtu : Option Int
  vhostUser : Option Bool
  vhostSocket : Option String
  vhostMode : Option VhostMode
  (numQueues queueSize : Option Int)
  (offloadTso offloadUfo offloadCsum : Option Bool)
  pciSegment : Option Int
  iommu : Option Bool
  bridge : Option String

structure Network where
  subnet : String
  networkType : Option String

/-- `v.split('/').next()` -/
def normalizeIp (ip : String) : String := String.ofList (ip.toList.takeWhile (· ≠ '/'))

/-- One entry of `net_configs_from_db`. -/
def netConfigFromDb (n : NetworkInterface) : NetConfig where
  id := n.deviceId
  tap := n.tapName
  ip := n.ipAddress.map normalizeIp
  mask := none
  mac := n.macAddress
  hostMac := n.hostMac
  mtu := some n.mtu
  vhostUser := if n.vhostUser then some true else none
  vhostSocket := n.vhostSocket
  vhostMode := n.vhostMode.map fun m => if m = "server" then .server else .client
  numQueues := if n.numQueues ≤ 1 then none else some n.numQueues
  queueSize := some n.queueSize
  offloadTso := some n.offloadTso
  offloadUfo := some n.offloadUfo
  offloadCsum := some n.offloadCsum
  pciSegment := if n.pciSegment ≠ 0 then some n.pciSegment else none
  iommu := some n.iommu
  bridge := none

def subnetMaskFromCidr (subnet : String) : Option String := do
  let (_, p) ← Tokens.splitOnce '/' subnet.toList
  let len ← parseDigits (match p with | '+' :: ds => ds | ds => ds)
  if 32 < len then none else some (renderIpv4 (Fin.ofNat (2 ^ 32) (2 ^ 32 - 2 ^ (32 - len))))

def passt (c : NetConfig) : NetConfig :=
  { c with vhostUser := some true, vhostSocket := some "passt", vhostMode := some .client,
           tap := none, bridge := none, ip := none, mask := none }

/-- What the database answers about the network of a NIC: its row, unless the query fails, and its
bridge on the host of the VM. -/
structure Answers where
  network : Option Network
  bridge : Except String (Option String)

/-- The branch for the network's row, as the loop of `build_create_vm_request` has it. -/
def withNetwork (c : NetConfig) (network : Network) : NetConfig :=
  if network.networkType = some "passt" then passt c
  else if c.ip.isSome then
    if c.mask.isNone then { c with mask := subnetMaskFromCidr network.subnet } else c
  else c

inductive Error where
  | unprocessableEntity (text : String)
  | sqlx (e : String)

/-- **What `build_create_vm_request` makes of a NIC** of a VM with a host. -/
def coldPlugged (hostId : Uuid) (nic : NetworkInterface) (db : Answers) : Except Error NetConfig :=
  match nic.networkId with
  | none => .ok (netConfigFromDb nic)
  | some netId =>
    let c := db.network.elim (netConfigFromDb nic) (withNetwork (netConfigFromDb nic))
    match db.bridge with
    | .ok (some bridge) => .ok { c with bridge := some bridge }
    | .ok none => .error (.unprocessableEntity ("Network " ++ netId.text ++
        " is not attached to host " ++ hostId.text ++ ". Run 'network attach-host' first."))
    | .error e => .error (.sqlx e)

def netConfigForHotplug (nic : NetworkInterface) (db : Answers) : Except Error NetConfig :=
  let c := netConfigFromDb nic
  if nic.networkId.isNone then .ok c
  else
    let c := match db.network with
      | some network =>
        if network.networkType = some "passt" then passt c
        else if c.ip.isSome && c.mask.isNone then
          { c with mask := subnetMaskFromCidr network.subnet }
        else c
      | none => c
    match db.bridge with
    | .ok (some bridge) => .ok { c with bridge := some bridge }
    | _ => .ok c

variable {hostId : Uuid} {nic : NetworkInterface} {db : Answers}

/-- **Hotplugged and cold-plugged NICs are configured alike** exactly when the NIC has no network or
the host's attachment is found. -/
theorem hotplug_eq_cold_iff :
    (netConfigForHotplug nic db).toOption = (coldPlugged hostId nic db).toOption ↔
      nic.networkId = none ∨ ∃ bridge, db.bridge = .ok (some bridge) := by
  have hnetwork : ∀ c n, withNetwork c n = if n.networkType = some "passt" then passt c
      else if c.ip.isSome && c.mask.isNone then { c with mask := subnetMaskFromCidr n.subnet }
      else c := by
    intro c n
    rw [withNetwork]
    cases c.ip.isSome <;> rfl
  cases hnet : nic.networkId with
  | none => simp [netConfigForHotplug, coldPlugged, hnet]
  | some netId =>
    rcases hbridge : db.bridge with e | _ | bridge
    · simp [netConfigForHotplug, coldPlugged, hnet, hbridge, Except.toOption]
    · simp [netConfigForHotplug, coldPlugged, hnet, hbridge, Except.toOption]
    · cases hrow : db.network <;>
        simp [netConfigForHotplug, coldPlugged, hnet, hbridge, hrow, hnetwork]

/-- A NIC of a bridge network. -/
def labNic : NetworkInterface :=
  ⟨some ⟨"lan"⟩, "net0", none, none, none, some "10.0.0.5/32", 1500, false, none, none, 1, 256,
    true, true, true, 0, false⟩

/-- **An unattached network**: the VM cannot be started with the NIC, and the NIC is plugged in
without a bridge. -/
theorem unattached_nic_plugged :
    ∃ c, netConfigForHotplug labNic ⟨some ⟨"10.0.0.0/24", some "bridge"⟩, .ok none⟩ = .ok c ∧
      c.bridge = none ∧ c.mask = some "255.255.255.0" ∧
      coldPlugged ⟨"a"⟩ labNic ⟨some ⟨"10.0.0.0/24", some "bridge"⟩, .ok none⟩ =
        .error (.unprocessableEntity
          "Network lan is not attached to host a. Run 'network attach-host' first.") :=
  ⟨_, rfl, rfl, by decide +kernel,
    congrArg (Except.error ∘ Error.unprocessableEntity) (by decide +kernel)⟩

end Qarax.NicConfig
