import Qarax.Core.Effect
import Qarax.Core.Sorted
import Qarax.Control.VmDisks
import Qarax.Node.Networking.Vxlan

/-!
# Overlays of a VPC

Networks with the same VPC name are one private network across the hosts they are attached to.
Every host gets its own overlay configuration, computed for it alone from the table of attachments:
the participants of the VPC in the order of their ids, an overlay address from the position in that
order, and a route for each subnet that another participant has.

`Uuid::new_v5` and the resolver are parameters.  The resolver is one function, so the cache of
`resolve_underlay_ip` is left out.

* `Tables`, `listAttached` — networks, hosts and which are attached where.
* `overlaysForHost` — what `sync_host_vpc_overlays_for_host` sends to a host.
* `overlayFor_ok` — what the configuration of one VPC consists of.
* `overlays_agree` — two hosts of a VPC have configurations that fit, or neither has one, if their
  other VPCs do not stand in the way.
-/

namespace Qarax

/-- Ids are compared as numbers, which is how their texts compare. -/
instance linearOrderUuid : LinearOrder Uuid where
  le a b := a.text ≤ b.text
  lt a b := a.text < b.text
  le_refl a := le_refl a.text
  le_trans _ _ _ := le_trans (α := String)
  lt_iff_le_not_ge _ _ := lt_iff_le_not_ge (α := String)
  le_antisymm a b h h' := by cases a; cases b; exact congrArg Uuid.mk (le_antisymm h h')
  le_total a b := le_total a.text b.text
  toDecidableLE a b := inferInstanceAs (Decidable (a.text ≤ b.text))
  toDecidableLT a b := inferInstanceAs (Decidable (a.text < b.text))
  toDecidableEq := inferInstance

namespace Vpc

/-! ## Tables -/

structure Network where
  id : Uuid
  name : String
  /-- `subnet::text` of a column of type `CIDR` -/
  subnet : String
  vpcName : Option String
  networkType : Option String
  deriving DecidableEq

structure Host where
  id : Uuid
  name : String
  address : String
  port : ℕ
  deriving DecidableEq

structure HostNetwork where
  hostId : Uuid
  networkId : Uuid
  bridgeName : String

/-- `networks`, `hosts` and `host_networks` with their keys. -/
structure Tables where
  networks : List Network
  hosts : List Host
  hostNetworks : List HostNetwork
  network_ids : (networks.map Network.id).Nodup
  host_ids : (hosts.map Host.id).Nodup
  attached_once : (hostNetworks.map fun a => (a.hostId, a.networkId)).Nodup
  bridge_names : (hostNetworks.map fun a => (a.hostId, a.bridgeName)).Nodup
  networks_exist : ∀ a ∈ hostNetworks, a.networkId ∈ networks.map Network.id
  hosts_exist : ∀ a ∈ hostNetworks, a.hostId ∈ hosts.map Host.id

structure AttachedNetwork where
  hostId : Uuid
  hostAddress : String
  hostPort : ℕ
  network : Network
  bridgeName : String
  deriving DecidableEq

namespace Tables

def network? (t : Tables) (id : Uuid) : Option Network := t.networks.find? (·.id = id)

def host? (t : Tables) (id : Uuid) : Option Host := t.hosts.find? (·.id = id)

/-- The row of the join for a row of `host_networks`. -/
def attached? (t : Tables) (a : HostNetwork) : Option AttachedNetwork := do
  let network ← t.network? a.networkId
  let host ← t.host? a.hostId
  some ⟨host.id, host.address, host.port, network, a.bridgeName⟩

/-- `list_attached`, ordered by host and network name. -/
def listAttached (t : Tables) : List AttachedNetwork :=
  (t.hostNetworks.filterMap t.attached?).insertionSort fun a b =>
    toLex (a.hostId, a.network.name) ≤ toLex (b.hostId, b.network.name)

variable {t : Tables} {x : AttachedNetwork}

lemma mem_listAttached :
    x ∈ t.listAttached ↔ ∃ a ∈ t.hostNetworks, t.attached? a = some x := by
  rw [listAttached, List.mem_insertionSort, List.mem_filterMap]

lemma attached?_eq_some {a : HostNetwork} :
    t.attached? a = some x ↔ ∃ n h, t.network? a.networkId = some n ∧ t.host? a.hostId = some h ∧
      x = ⟨h.id, h.address, h.port, n, a.bridgeName⟩ := by
  simp only [attached?, Option.bind_eq_bind, Option.bind_eq_some_iff, Option.some.injEq]
  constructor
  · rintro ⟨n, hn, h, hh, rfl⟩
    exact ⟨n, h, hn, hh, rfl⟩
  · rintro ⟨n, h, hn, hh, rfl⟩
    exact ⟨n, hn, h, hh, rfl⟩

/-- A row of the join has the address of the host. -/
lemma address_of_attached (hx : x ∈ t.listAttached) {h : Host} (hh : h ∈ t.hosts)
    (hid : x.hostId = h.id) : x.hostAddress = h.address ∧ x.hostPort = h.port := by
  obtain ⟨a, -, ha⟩ := mem_listAttached.1 hx
  obtain ⟨n, h', -, hh', rfl⟩ := attached?_eq_some.1 ha
  have heq : h' = h :=
    List.inj_on_of_nodup_map t.host_ids (List.mem_of_find?_eq_some hh') hh hid
  rw [heq]
  exact ⟨rfl, rfl⟩

lemma host_of_attached (hx : x ∈ t.listAttached) : ∃ h ∈ t.hosts, h.id = x.hostId := by
  obtain ⟨a, -, ha⟩ := mem_listAttached.1 hx
  obtain ⟨n, h, -, hh, rfl⟩ := attached?_eq_some.1 ha
  exact ⟨h, List.mem_of_find?_eq_some hh, rfl⟩

/-- A network is the same wherever it is attached. -/
lemma network_of_attached {y : AttachedNetwork} (hx : x ∈ t.listAttached)
    (hy : y ∈ t.listAttached) (hid : x.network.id = y.network.id) : x.network = y.network := by
  obtain ⟨a, -, ha⟩ := mem_listAttached.1 hx
  obtain ⟨n, h, hn, -, rfl⟩ := attached?_eq_some.1 ha
  obtain ⟨b, -, hb⟩ := mem_listAttached.1 hy
  obtain ⟨n', h', hn', -, rfl⟩ := attached?_eq_some.1 hb
  exact List.inj_on_of_nodup_map t.network_ids (List.mem_of_find?_eq_some hn)
    (List.mem_of_find?_eq_some hn') hid

end Tables

/-! ## Names and addresses -/

inductive IpAddr where
  | v4 (ip : Ipv4)
  | v6 (text : String)

def IpAddr.v4? : IpAddr → Option Ipv4
  | .v4 ip => some ip
  | .v6 _ => none

/-- `Uuid::new_v5` for the DNS namespace, and `lookup_host`. -/
structure Env where
  newV5 : String → Vector UInt8 16
  lookupHost : String → ℕ → Except String (List IpAddr)

def hexDigit (n : ℕ) : Char := Nat.digitChar n

/-- `simple()`: the digits without hyphens. -/
def simple (uuid : Vector UInt8 16) : List Char :=
  uuid.toList.flatMap fun b => [hexDigit (b.toNat / 16), hexDigit (b.toNat % 16)]

namespace Env

variable (env : Env)

def overlaySeed (vpcName : String) : Vector UInt8 16 := env.newV5 ("qarax:vpc:" ++ vpcName)

def overlayInterfaceName (vpcName : String) : String :=
  "qvx" ++ String.ofList ((simple (env.overlaySeed vpcName)).take 8)

def overlayVni (vpcName : String) : ℕ :=
  let bytes := env.overlaySeed vpcName
  let vni := bytes[0].toNat <<< 16 ||| bytes[1].toNat <<< 8 ||| bytes[2].toNat
  if vni = 0 then 1 else vni

def overlayOctets (vpcName : String) : ℕ × ℕ :=
  let bytes := env.overlaySeed vpcName
  (64 + bytes[3].toNat % 64, bytes[4].toNat)

/-- The text of an overlay address. -/
def overlayText (vpcName : String) (host : ℕ) : String :=
  "100." ++ renderNat (env.overlayOctets vpcName).1 ++ "." ++
    renderNat (env.overlayOctets vpcName).2 ++ "." ++ renderNat host

def hostLimit (vpcName : String) : ApiError :=
  .unprocessableEntity s!"VPC {vpcName} exceeds the first-cut VXLAN host limit of 254 participants"

def overlayIp (vpcName : String) (hostIndex : ℕ) : Except ApiError String :=
  if hostIndex ≥ 254 then .error (hostLimit vpcName)
  else .ok (env.overlayText vpcName (hostIndex + 1))

def overlayIpCidr (vpcName : String) (hostIndex : ℕ) : Except ApiError String := do
  let ip ← env.overlayIp vpcName hostIndex
  .ok (ip ++ "/24")

def resolveUnderlayIp (address : String) (port : ℕ) : Except ApiError String :=
  match env.lookupHost address port with
  | .error e => .error (.unprocessableEntity
      s!"Failed to resolve host address {address} for VXLAN overlay: {e}")
  | .ok addresses =>
    match addresses.findSome? IpAddr.v4? with
    | some ip => .ok (renderIpv4 ip)
    | none => .error (.unprocessableEntity
        s!"Host address {address} did not resolve to an IPv4 address for VXLAN overlay")

end Env

/-! ## The overlays of a host -/

/-- The attachments of the networks of a VPC. -/
def inVpc (attached : List AttachedNetwork) (vpcName : String) : List AttachedNetwork :=
  attached.filter (·.network.vpcName = some vpcName)

def vpcParticipants (attached : List AttachedNetwork) (vpcName : String) :
    List (Uuid × List AttachedNetwork) :=
  Sorted.group AttachedNetwork.hostId (inVpc attached vpcName)

def sortedHostIds (participants : List (Uuid × List AttachedNetwork)) : List Uuid :=
  (participants.map Prod.fst).insertionSort (· ≤ ·)

def position (hostOrder : List Uuid) (id : Uuid) (missing : String) : Except ApiError ℕ :=
  if id ∈ hostOrder then .ok (hostOrder.idxOf id) else .error (.unprocessableEntity missing)

/-- `remote_attachments.first()` -/
def firstAttachment (vpcName : String) (remote : Uuid × List AttachedNetwork) :
    Except ApiError AttachedNetwork :=
  match remote.2.head? with
  | some attachment => .ok attachment
  | none => .error (.unprocessableEntity
      s!"Missing attachment details for host {remote.1.text} in VPC {vpcName}")

/-- What the loop over the participants gets from another host: its underlay address, and a route
for each of its subnets. -/
def peer (env : Env) (vpcName : String) (hostOrder : List Uuid)
    (remote : Uuid × List AttachedNetwork) :
    Except ApiError (String × List (String ×ₗ String)) := do
  let attachment ← firstAttachment vpcName remote
  let underlayIp ← env.resolveUnderlayIp attachment.hostAddress attachment.hostPort
  let remoteIndex ← position hostOrder remote.1
    s!"Host {remote.1.text} is missing from VPC ordering for {vpcName}"
  let remoteOverlayIp ← env.overlayIp vpcName remoteIndex
  .ok (underlayIp, remote.2.map fun a => toLex (a.network.subnet, remoteOverlayIp))

/-- The configuration of one VPC, if it spans several hosts. -/
def overlayFor (env : Env) (host : Host) (attached : List AttachedNetwork) (vpcName : String) :
    Except ApiError (Option VpcOverlayConfig) :=
  let participants := vpcParticipants attached vpcName
  if participants.length ≤ 1 then .ok none
  else
    let hostOrder := sortedHostIds participants
    if hostOrder.length ≥ 255 then .error (Env.hostLimit vpcName)
    else do
      let localHostIndex ← position hostOrder host.id
        s!"Host {host.id.text} is missing from VPC {vpcName}"
      let localUnderlayIp ← env.resolveUnderlayIp host.address host.port
      let localOverlayCidr ← env.overlayIpCidr vpcName localHostIndex
      let peers ← (participants.filter (·.1 ≠ host.id)).mapM (peer env vpcName hostOrder)
      .ok (some {
        vpcName
        interfaceName := env.overlayInterfaceName vpcName
        vni := env.overlayVni vpcName
        localUnderlayIp
        localOverlayCidr
        peerUnderlayIps := Sorted.set (peers.map Prod.fst)
        routes := (Sorted.set (peers.flatMap Prod.snd)).map fun r => ⟨(ofLex r).1, (ofLex r).2⟩ })

/-- The keys of `local_vpcs`. -/
def localVpcs (attached : List AttachedNetwork) (hostId : Uuid) : List String :=
  Sorted.set ((attached.filter (·.hostId = hostId)).filterMap (·.network.vpcName))

/-- What `sync_host_vpc_overlays_for_host` sends to the node. -/
def overlaysForHost (env : Env) (host : Host) (attached : List AttachedNetwork) :
    Except ApiError (List VpcOverlayConfig) := do
  let overlays ← (localVpcs attached host.id).mapM (overlayFor env host attached)
  .ok (overlays.filterMap id)

/-! ## What a configuration consists of -/

section Config

variable {env : Env} {attached : List AttachedNetwork} {v : String} {host : Host}

/-- The participants of a VPC in the order that their addresses follow. -/
def hostOrder (attached : List AttachedNetwork) (vpcName : String) : List Uuid :=
  Sorted.set ((inVpc attached vpcName).map (·.hostId))

/-- The overlay address of a participant. -/
def address (env : Env) (attached : List AttachedNetwork) (vpcName : String) (id : Uuid) : String :=
  env.overlayText vpcName ((hostOrder attached vpcName).idxOf id + 1)

lemma sortedHostIds_participants :
    sortedHostIds (vpcParticipants attached v) = hostOrder attached v := by
  rw [sortedHostIds, vpcParticipants, Sorted.group_keys]
  exact Sorted.insertionSort_set _

lemma length_participants :
    (vpcParticipants attached v).length = (hostOrder attached v).length := by
  rw [← List.length_map Prod.fst, vpcParticipants, Sorted.group_keys]
  rfl

lemma mem_inVpc {x : AttachedNetwork} :
    x ∈ inVpc attached v ↔ x ∈ attached ∧ x.network.vpcName = some v := by
  simp [inVpc]

lemma mem_hostOrder {id : Uuid} :
    id ∈ hostOrder attached v ↔ ∃ x ∈ inVpc attached v, x.hostId = id := by
  simp [hostOrder]

lemma several_of_two {i j : Uuid} (hi : i ∈ hostOrder attached v) (hj : j ∈ hostOrder attached v)
    (hne : i ≠ j) : 2 ≤ (hostOrder attached v).length :=
  (List.subperm_of_subset (by simpa using hne) (by simp [hi, hj]) : [i, j].Subperm _).length_le

/-- What the attachments tell about another host. -/
structure Peer (env : Env) (attached : List AttachedNetwork) (v : String) (id : Uuid)
    (p : String × List (String ×ₗ String)) : Prop where
  underlay : ∃ x ∈ inVpc attached v, x.hostId = id ∧
    env.resolveUnderlayIp x.hostAddress x.hostPort = .ok p.1
  routes : ∀ r, r ∈ p.2 ↔ ∃ x ∈ inVpc attached v, x.hostId = id ∧
    r = toLex (x.network.subnet, address env attached v id)

variable {remote : Uuid × List AttachedNetwork}

lemma peer_ok {p : String × List (String ×ₗ String)}
    (hremote : remote ∈ vpcParticipants attached v)
    (h : peer env v (hostOrder attached v) remote = .ok p) : Peer env attached v remote.1 p := by
  obtain ⟨id, rows⟩ := remote
  obtain ⟨-, rfl⟩ := Sorted.mem_group.1 hremote
  obtain ⟨x, hx, h⟩ := except_bind_eq_ok.1 h
  obtain ⟨u, hu, h⟩ := except_bind_eq_ok.1 h
  obtain ⟨i, hi, h⟩ := except_bind_eq_ok.1 h
  obtain ⟨ip, hip, h⟩ := except_bind_eq_ok.1 h
  cases h
  have hhead : ((inVpc attached v).filter (·.hostId = id)).head? = some x := by
    unfold firstAttachment at hx
    split at hx <;> simp_all
  have hxmem := List.mem_filter.1 (List.mem_of_mem_head? hhead)
  have hindex : (hostOrder attached v).idxOf id = i := by
    unfold position at hi
    split_ifs at hi
    exact Except.ok.inj hi
  have haddress : address env attached v id = ip := by
    unfold Env.overlayIp at hip
    split_ifs at hip
    rw [address, hindex]
    exact Except.ok.inj hip
  refine ⟨⟨x, hxmem.1, by simpa using hxmem.2, hu⟩, fun r => ?_⟩
  simp [haddress, and_assoc, eq_comm]

lemma overlayIp_of_mem (hsize : (hostOrder attached v).length ≤ 254) {id : Uuid}
    (hid : id ∈ hostOrder attached v) :
    env.overlayIp v ((hostOrder attached v).idxOf id) = .ok (address env attached v id) := by
  have hlt := List.idxOf_lt_length_iff.2 hid
  rw [Env.overlayIp, if_neg (by omega)]
  rfl

lemma peer_exists (hremote : remote ∈ vpcParticipants attached v)
    (hsize : (hostOrder attached v).length ≤ 254)
    (hresolve : ∀ x ∈ inVpc attached v,
      ∃ u, env.resolveUnderlayIp x.hostAddress x.hostPort = .ok u) :
    ∃ p, peer env v (hostOrder attached v) remote = .ok p := by
  obtain ⟨id, rows⟩ := remote
  obtain ⟨⟨y, hy, hyid⟩, rfl⟩ := Sorted.mem_group.1 hremote
  have hid : id ∈ hostOrder attached v := mem_hostOrder.2 ⟨y, hy, hyid⟩
  obtain ⟨x, hhead⟩ : ∃ x, ((inVpc attached v).filter (·.hostId = id)).head? = some x := by
    refine Option.isSome_iff_exists.1 ?_
    rw [List.isSome_head?]
    exact List.ne_nil_of_mem (List.mem_filter.2 ⟨hy, by simpa using hyid⟩)
  obtain ⟨u, hu⟩ := hresolve x (List.mem_of_mem_filter (List.mem_of_mem_head? hhead))
  simp [peer, firstAttachment, hhead, hu, position, hid, overlayIp_of_mem hsize hid, bind,
    Except.bind]

/-- **The configuration of one VPC on one host.** -/
structure Config (env : Env) (attached : List AttachedNetwork) (v : String) (host : Host)
    (c : VpcOverlayConfig) : Prop where
  vpcName : c.vpcName = v
  interfaceName : c.interfaceName = env.overlayInterfaceName v
  vni : c.vni = env.overlayVni v
  participates : host.id ∈ hostOrder attached v
  several : 2 ≤ (hostOrder attached v).length
  size : (hostOrder attached v).length ≤ 254
  underlay : env.resolveUnderlayIp host.address host.port = .ok c.localUnderlayIp
  overlay : c.localOverlayCidr = address env attached v host.id ++ "/24"
  peers : ∀ id ∈ hostOrder attached v, id ≠ host.id → ∃ x ∈ inVpc attached v, x.hostId = id ∧
    ∃ u ∈ c.peerUnderlayIps, env.resolveUnderlayIp x.hostAddress x.hostPort = .ok u
  routes : ∀ r, r ∈ c.routes ↔ ∃ x ∈ inVpc attached v, x.hostId ≠ host.id ∧
    r = ⟨x.network.subnet, address env attached v x.hostId⟩

/-- The results of the loop over the other participants. -/
lemma peers_ok {peers : List (String × List (String ×ₗ String))}
    (h : ((vpcParticipants attached v).filter (·.1 ≠ host.id)).mapM
      (peer env v (hostOrder attached v)) = .ok peers) :
    (∀ id ∈ hostOrder attached v, id ≠ host.id → ∃ p ∈ peers, Peer env attached v id p) ∧
      ∀ p ∈ peers, ∃ id ∈ hostOrder attached v, id ≠ host.id ∧ Peer env attached v id p := by
  obtain ⟨hleft, hright⟩ := except_mapM_mem h
  refine ⟨fun id hid hne => ?_, fun p hp => ?_⟩
  · have hmem : (id, (inVpc attached v).filter (·.hostId = id)) ∈ vpcParticipants attached v :=
      Sorted.mem_group.2 ⟨mem_hostOrder.1 hid, rfl⟩
    obtain ⟨p, hp, hpeer⟩ := hright _ (List.mem_filter.2 ⟨hmem, by simpa using hne⟩)
    exact ⟨p, hp, peer_ok hmem hpeer⟩
  · obtain ⟨remote, hremote, hpeer⟩ := hleft p hp
    obtain ⟨hmem, hne⟩ := List.mem_filter.1 hremote
    have hid := mem_hostOrder.2 (Sorted.mem_group.1 hmem).1
    exact ⟨remote.1, hid, by simpa using hne, peer_ok hmem hpeer⟩

/-- **The spec of the loop body.** -/
lemma overlayFor_ok {c : VpcOverlayConfig} (h : overlayFor env host attached v = .ok (some c)) :
    Config env attached v host c := by
  simp only [overlayFor, sortedHostIds_participants, length_participants] at h
  split_ifs at h with hone hmany
  · cases h
  obtain ⟨i, hi, h⟩ := except_bind_eq_ok.1 h
  obtain ⟨u, hu, h⟩ := except_bind_eq_ok.1 h
  obtain ⟨cidr, hcidr, h⟩ := except_bind_eq_ok.1 h
  obtain ⟨peers, hpeers, h⟩ := except_bind_eq_ok.1 h
  obtain ⟨hothers, honly⟩ := peers_ok hpeers
  cases h
  unfold position at hi
  split_ifs at hi with hid
  cases hi
  rw [Env.overlayIpCidr, overlayIp_of_mem (by omega) hid] at hcidr
  cases hcidr
  refine ⟨rfl, rfl, rfl, hid, by omega, by omega, hu, rfl, fun id hid hne => ?_, fun r => ?_⟩
  · obtain ⟨p, hp, hpeer⟩ := hothers id hid hne
    obtain ⟨x, hx, hxid, hu⟩ := hpeer.underlay
    exact ⟨x, hx, hxid, p.1, by simpa using ⟨p.2, hp⟩, hu⟩
  · simp only [List.mem_map, Sorted.mem_set, List.mem_flatMap]
    constructor
    · rintro ⟨q, ⟨p, hp, hq⟩, rfl⟩
      obtain ⟨id, -, hne, hpeer⟩ := honly p hp
      obtain ⟨x, hx, rfl, rfl⟩ := (hpeer.routes q).1 hq
      exact ⟨x, hx, hne, rfl⟩
    · rintro ⟨x, hx, hne, rfl⟩
      obtain ⟨p, hp, hpeer⟩ := hothers x.hostId (mem_hostOrder.2 ⟨x, hx, rfl⟩) hne
      exact ⟨_, ⟨p, hp, (hpeer.routes _).2 ⟨x, hx, rfl, rfl⟩⟩, rfl⟩

lemma overlayFor_exists (hid : host.id ∈ hostOrder attached v)
    (hsize : (hostOrder attached v).length ≤ 254)
    (hresolve : ∀ x ∈ inVpc attached v, ∃ u, env.resolveUnderlayIp x.hostAddress x.hostPort = .ok u)
    (hhost : ∃ u, env.resolveUnderlayIp host.address host.port = .ok u) :
    ∃ o, overlayFor env host attached v = .ok o := by
  obtain ⟨u, hu⟩ := hhost
  have hexists : ∃ peers, ((vpcParticipants attached v).filter (·.1 ≠ host.id)).mapM
      (peer env v (hostOrder attached v)) = .ok peers :=
    except_mapM_exists fun remote hremote =>
      peer_exists (List.mem_of_mem_filter hremote) hsize hresolve
  obtain ⟨peers, hpeers⟩ := hexists
  simp only [overlayFor, sortedHostIds_participants, length_participants]
  split_ifs
  · exact ⟨_, rfl⟩
  · omega
  · simp only [position, hid, if_true, hu, Env.overlayIpCidr, overlayIp_of_mem hsize hid, hpeers,
      bind, Except.bind]
    exact ⟨_, rfl⟩

end Config

/-! ## All overlays of a host -/

section Host

variable {env : Env} {attached : List AttachedNetwork} {host : Host}

lemma mem_localVpcs {id : Uuid} {v : String} :
    v ∈ localVpcs attached id ↔ id ∈ hostOrder attached v := by
  rw [localVpcs, Sorted.mem_set, mem_hostOrder]
  simp only [List.mem_filterMap, List.mem_filter, mem_inVpc, decide_eq_true_eq]
  exact ⟨fun ⟨x, ⟨hx, hid⟩, hv⟩ => ⟨x, ⟨hx, hv⟩, hid⟩, fun ⟨x, ⟨hx, hv⟩, hid⟩ => ⟨x, ⟨hx, hid⟩, hv⟩⟩

/-- What was computed for a list of VPCs, without those that have one host. -/
lemma collected {vs : List String} {os : List (Option VpcOverlayConfig)}
    (h : List.Forall₂ (fun v o => overlayFor env host attached v = .ok o) vs os)
    (hsorted : vs.Pairwise (· < ·)) :
    (os.filterMap id).Pairwise (fun c c' => c.vpcName < c'.vpcName) ∧
      ∀ c, c ∈ os.filterMap id ↔ ∃ v ∈ vs, overlayFor env host attached v = .ok (some c) := by
  induction h with
  | nil => simp
  | @cons v o vs os hvo _ ih =>
    obtain ⟨hv, hsorted⟩ := List.pairwise_cons.1 hsorted
    obtain ⟨hpairs, hmem⟩ := ih hsorted
    cases o with
    | none =>
      refine ⟨hpairs, fun c => ?_⟩
      simpa [hvo] using hmem c
    | some c₀ =>
      have hname := (overlayFor_ok hvo).vpcName
      refine ⟨List.pairwise_cons.2 ⟨fun c hc => ?_, hpairs⟩, fun c => ?_⟩
      · obtain ⟨w, hw, hc⟩ := (hmem c).1 hc
        rw [hname, (overlayFor_ok hc).vpcName]
        exact hv w hw
      · have hmem := hmem c
        simp only [List.mem_filterMap, id_eq, exists_eq_right] at hmem
        simp [hmem, hvo, eq_comm]

/-- **The spec of the whole computation.** -/
lemma overlaysForHost_ok {cs : List VpcOverlayConfig}
    (h : overlaysForHost env host attached = .ok cs) :
    cs.Pairwise (fun c c' => c.vpcName < c'.vpcName) ∧
      ∀ c, c ∈ cs ↔ ∃ v ∈ localVpcs attached host.id,
        overlayFor env host attached v = .ok (some c) := by
  obtain ⟨os, hos, h⟩ := except_bind_eq_ok.1 h
  cases h
  exact collected (except_mapM_eq_ok.1 hos) (Sorted.strict_set _)

end Host

/-! ## Agreement -/

/-- **Nothing stands in the way of a VPC** on a host: the other VPCs that it shares with hosts have
at most 254 of them, and the addresses of these resolve. -/
def clearOf (env : Env) (attached : List AttachedNetwork) (vpcName : String) (id : Uuid) : Bool :=
  (localVpcs attached id).all fun w => w = vpcName || (hostOrder attached w).length ≤ 1 ||
    ((hostOrder attached w).length ≤ 254 && (inVpc attached w).all fun x =>
      (env.resolveUnderlayIp x.hostAddress x.hostPort).isOk)

/-- The configuration of a VPC among those that are computed for a host. -/
def HasOverlay (env : Env) (attached : List AttachedNetwork) (vpcName : String) (host : Host)
    (c : VpcOverlayConfig) : Prop :=
  ∃ cs, overlaysForHost env host attached = .ok cs ∧ ∀ c', c' ∈ cs ∧ c'.vpcName = vpcName ↔ c' = c

section Agreement

variable {env : Env} {t : Tables} {v : String}

lemma exists_of_isOk {ε α : Type} {x : Except ε α} (h : x.isOk = true) : ∃ a, x = .ok a := by
  cases x with
  | ok a => exact ⟨a, rfl⟩
  | error e => cases h

variable {a b : Host} {c ca cb : VpcOverlayConfig}

/-- Where all participants can be resolved, the configuration of every one can be computed. -/
lemma overlayFor_of_resolved (ha : a ∈ t.hosts) (hv : v ∈ localVpcs t.listAttached a.id)
    (hsize : (hostOrder t.listAttached v).length ≤ 254)
    (hresolve : ∀ x ∈ inVpc t.listAttached v,
      ∃ u, env.resolveUnderlayIp x.hostAddress x.hostPort = .ok u) :
    ∃ o, overlayFor env a t.listAttached v = .ok o := by
  have hid := mem_localVpcs.1 hv
  obtain ⟨x, hx, hxid⟩ := mem_hostOrder.1 hid
  obtain ⟨haddress, hport⟩ := Tables.address_of_attached (mem_inVpc.1 hx).1 ha hxid
  have hhost := hresolve x hx
  rw [haddress, hport] at hhost
  exact overlayFor_exists hid hsize hresolve hhost

lemma overlayFor_of_clear {w : String} (ha : a ∈ t.hosts)
    (hclear : clearOf env t.listAttached v a.id = true) (hw : w ∈ localVpcs t.listAttached a.id)
    (hne : w ≠ v) : ∃ o, overlayFor env a t.listAttached w = .ok o := by
  have hw' := List.all_eq_true.1 hclear w hw
  simp only [Bool.or_eq_true, Bool.and_eq_true, decide_eq_true_eq, List.all_eq_true, hne,
    false_or] at hw'
  rcases hw' with hone | ⟨hsize, hresolve⟩
  · exact ⟨none, if_pos (length_participants.trans_le hone)⟩
  · exact overlayFor_of_resolved ha hw hsize fun x hx => exists_of_isOk (hresolve x hx)

/-- A configuration knows the addresses of all participants. -/
lemma Config.resolved (ha : a ∈ t.hosts)
    (h : Config env t.listAttached v a c) {x : AttachedNetwork}
    (hx : x ∈ inVpc t.listAttached v) :
    ∃ u, env.resolveUnderlayIp x.hostAddress x.hostPort = .ok u := by
  have hxmem := (mem_inVpc.1 hx).1
  by_cases hid : x.hostId = a.id
  · obtain ⟨haddress, hport⟩ := Tables.address_of_attached hxmem ha hid
    exact ⟨_, by rw [haddress, hport]; exact h.underlay⟩
  · obtain ⟨y, hy, hyid, u, -, hu⟩ := h.peers x.hostId (mem_hostOrder.2 ⟨x, hx, rfl⟩) hid
    obtain ⟨host, hhost, hhostid⟩ := Tables.host_of_attached hxmem
    obtain ⟨haddress, hport⟩ := Tables.address_of_attached hxmem hhost hhostid.symm
    obtain ⟨haddress', hport'⟩ :=
      Tables.address_of_attached (mem_inVpc.1 hy).1 hhost (hyid.trans hhostid.symm)
    exact ⟨u, by rw [haddress, hport, ← haddress', ← hport']; exact hu⟩

/-- The configuration of a VPC that spans several hosts. -/
lemma config_of_several {cs : List VpcOverlayConfig}
    (h : overlaysForHost env a t.listAttached = .ok cs) (hv : v ∈ localVpcs t.listAttached a.id)
    (hseveral : 2 ≤ (hostOrder t.listAttached v).length) :
    ∃ c, (∀ c', c' ∈ cs ∧ c'.vpcName = v ↔ c' = c) ∧ Config env t.listAttached v a c := by
  obtain ⟨-, hmem⟩ := overlaysForHost_ok h
  obtain ⟨os, hos, -⟩ := except_bind_eq_ok.1 h
  obtain ⟨o, -, ho⟩ := (except_mapM_mem hos).2 v hv
  cases o with
  | none =>
    simp only [overlayFor, sortedHostIds_participants, length_participants] at ho
    split_ifs at ho with hone hmany
    · omega
    · simp [except_bind_eq_ok] at ho
  | some c =>
    refine ⟨c, fun c' => ⟨fun ⟨hc', hname⟩ => ?_, ?_⟩, overlayFor_ok ho⟩
    · obtain ⟨w, -, hw⟩ := (hmem c').1 hc'
      rw [(overlayFor_ok hw).vpcName] at hname
      rw [hname, ho] at hw
      simpa using hw.symm
    · rintro rfl
      exact ⟨(hmem c').2 ⟨v, hv, ho⟩, (overlayFor_ok ho).vpcName⟩

/-- The configuration that a host has is that of the VPC. -/
lemma HasOverlay.config (h : HasOverlay env t.listAttached v a c) :
    Config env t.listAttached v a c := by
  obtain ⟨cs, hcs, hc⟩ := h
  obtain ⟨hmem, hname⟩ := (hc c).2 rfl
  obtain ⟨w, -, hw⟩ := ((overlaysForHost_ok hcs).2 c).1 hmem
  have hconfig := overlayFor_ok hw
  rw [hconfig.vpcName] at hname
  exact hname ▸ hconfig

/-- **One host has its side of the VPC if another has.**  All that can go wrong with the VPC goes
wrong for both, since both resolve the same addresses. -/
lemma hasOverlay_of_other (ha : a ∈ t.hosts) (hb : b ∈ t.hosts)
    (hbv : v ∈ localVpcs t.listAttached b.id)
    (hclear : clearOf env t.listAttached v b.id = true)
    (h : HasOverlay env t.listAttached v a ca) : ∃ cb, HasOverlay env t.listAttached v b cb := by
  have hca := h.config
  have hall : ∀ w ∈ localVpcs t.listAttached b.id,
      ∃ o, overlayFor env b t.listAttached w = .ok o := fun w hw => by
    by_cases hne : w = v
    · subst hne
      exact overlayFor_of_resolved hb hw hca.size fun x => hca.resolved ha
    · exact overlayFor_of_clear hb hclear hw hne
  obtain ⟨os, hos⟩ := except_mapM_exists hall
  have hbs : overlaysForHost env b t.listAttached = .ok (os.filterMap id) :=
    except_bind_eq_ok.2 ⟨os, hos, rfl⟩
  obtain ⟨cb, hcb, -⟩ := config_of_several hbs hbv hca.several
  exact ⟨cb, _, hbs, hcb⟩

/-- **The configuration of one host fits that of another**: it has the same segment, floods to the
other host, and reaches its subnets over the address that the other host gives itself.  There are
other routes to a subnet only if a third host has it too. -/
structure Fits (attached : List AttachedNetwork) (v : String) (a b : Host)
    (ca cb : VpcOverlayConfig) : Prop where
  vni : ca.vni = cb.vni
  interfaceName : ca.interfaceName = cb.interfaceName
  peer : cb.localUnderlayIp ∈ ca.peerUnderlayIps
  routed : ∀ x ∈ attached, x.network.vpcName = some v → x.hostId = b.id →
    ∀ via, via ++ "/24" = cb.localOverlayCidr → ⟨x.network.subnet, via⟩ ∈ ca.routes
  only : ∀ x ∈ attached, x.network.vpcName = some v → x.hostId = b.id →
    (∀ y ∈ attached, y.network.vpcName = some v → y.network.subnet = x.network.subnet →
      y.hostId = a.id ∨ y.hostId = b.id) →
    ∀ via, ⟨x.network.subnet, via⟩ ∈ ca.routes → via ++ "/24" = cb.localOverlayCidr

lemma fits_of_config (hb : b ∈ t.hosts) (hne : b.id ≠ a.id)
    (ha : Config env t.listAttached v a ca) (hcb : Config env t.listAttached v b cb) :
    Fits t.listAttached v a b ca cb := by
  refine ⟨ha.vni.trans hcb.vni.symm, ha.interfaceName.trans hcb.interfaceName.symm, ?_, ?_, ?_⟩
  · obtain ⟨x, hx, hxid, u, hu, hresolve⟩ := ha.peers b.id hcb.participates hne
    obtain ⟨haddress, hport⟩ := Tables.address_of_attached (mem_inVpc.1 hx).1 hb hxid
    rw [haddress, hport, hcb.underlay] at hresolve
    cases hresolve
    exact hu
  · intro x hx hxv hxid via hvia
    have hvia : via = address env t.listAttached v b.id := by
      have htext := congrArg String.toList (hvia.trans hcb.overlay)
      rw [String.toList_append, String.toList_append] at htext
      exact String.toList_injective (List.append_cancel_right htext)
    exact (ha.routes _).2 ⟨x, mem_inVpc.2 ⟨hx, hxv⟩, hxid ▸ hne, by rw [hvia, hxid]⟩
  · intro x hx hxv hxid hthird via hroute
    obtain ⟨y, hy, hynot, hr⟩ := (ha.routes _).1 hroute
    obtain ⟨hsubnet, hvia⟩ := VpcOverlayRoute.mk.inj hr
    obtain ⟨hymem, hyv⟩ := mem_inVpc.1 hy
    have hyid := (hthird y hymem hyv hsubnet.symm).resolve_left hynot
    rw [hvia, hyid, hcb.overlay]

/-- **The addresses of a VPC**: one block of 256, and in it another host number for each
participant. -/
def Numbered (env : Env) (t : Tables) (v : String) : Prop :=
  ∃ (second third : ℕ) (number : Uuid → ℕ), second < 256 ∧ third < 256 ∧
    (∀ i j, v ∈ localVpcs t.listAttached i → v ∈ localVpcs t.listAttached j →
      number i = number j → i = j) ∧
    ∀ d ∈ t.hosts, ∀ cs c, overlaysForHost env d t.listAttached = .ok cs → c ∈ cs → c.vpcName = v →
      1 ≤ number d.id ∧ number d.id ≤ 254 ∧
        c.localOverlayCidr = "100." ++ renderNat second ++ "." ++ renderNat third ++ "." ++
          renderNat (number d.id) ++ "/24"

lemma numbered (env : Env) (t : Tables) (v : String) : Numbered env t v := by
  refine ⟨(env.overlayOctets v).1, (env.overlayOctets v).2,
    fun id => (hostOrder t.listAttached v).idxOf id + 1, ?_, UInt8.toNat_lt _, ?_, ?_⟩
  · have h : (env.overlaySeed v)[3].toNat % 64 < 64 := Nat.mod_lt _ (by decide)
    simp only [Env.overlayOctets]
    omega
  · intro i j hi hj hij
    exact (List.idxOf_inj (mem_localVpcs.1 hi)).1 (by simpa using hij)
  · intro d hd cs c h hc hname
    obtain ⟨w, -, hw⟩ := ((overlaysForHost_ok h).2 c).1 hc
    have hconfig := overlayFor_ok hw
    rw [hconfig.vpcName] at hname
    subst hname
    have hlt := List.idxOf_lt_length_iff.2 hconfig.participates
    have hsize := hconfig.size
    exact ⟨by simp, by simp only; omega, hconfig.overlay⟩

/-- **Two hosts of a VPC agree** on its segment, on their addresses, and on who has which subnet,
although each configuration is computed for its host alone; or neither has a configuration. -/
theorem overlays_agree (env : Env) (t : Tables) {a b : Host} (ha : a ∈ t.hosts) (hb : b ∈ t.hosts)
    (hne : a.id ≠ b.id) (v : String) (hav : v ∈ localVpcs t.listAttached a.id)
    (hbv : v ∈ localVpcs t.listAttached b.id)
    (hca : clearOf env t.listAttached v a.id = true)
    (hcb : clearOf env t.listAttached v b.id = true) :
    ((∃ c, HasOverlay env t.listAttached v a c) ↔ ∃ c, HasOverlay env t.listAttached v b c) ∧
      (∀ ca cb, HasOverlay env t.listAttached v a ca → HasOverlay env t.listAttached v b cb →
        Fits t.listAttached v a b ca cb ∧ Fits t.listAttached v b a cb ca) ∧
      Numbered env t v := by
  refine ⟨⟨fun ⟨_, h⟩ => ?_, fun ⟨_, h⟩ => ?_⟩, fun ca cb ha' hb' => ⟨?_, ?_⟩, numbered env t v⟩
  · exact hasOverlay_of_other ha hb hbv hcb h
  · exact hasOverlay_of_other hb ha hav hca h
  · exact fits_of_config hb hne.symm ha'.config hb'.config
  · exact fits_of_config ha hne hb'.config ha'.config

end Agreement

/-! ### Examples -/

/-- A resolver that knows the hosts by address, and the ids of some names. -/
def labEnv : Env where
  newV5 name :=
    if name = "qarax:vpc:demo" then #v[0x7b, 0xb9, 0x5f, 0x50, 0x6a, 0x49, 0x5e, 0xdb,
      0xb2, 0x11, 0x52, 0xcd, 0xa1, 0x87, 0x1d, 0xcb]
    else if name = "qarax:vpc:lab" then #v[0xb1, 0x3b, 0xd1, 0x1a, 0x21, 0x7b, 0x5c, 0xca,
      0x8d, 0x61, 0xbf, 0xcf, 0xe9, 0x1c, 0xcb, 0x33]
    else if name = "qarax:vpc:prod" then #v[0xe2, 0xfe, 0xdf, 0x72, 0xf9, 0x66, 0x5f, 0xb2,
      0xb7, 0x49, 0xc2, 0x4d, 0x1a, 0xb9, 0x8e, 0x13]
    else if name = "qarax:vpc:stage" then #v[0x50, 0x41, 0x34, 0x59, 0x02, 0x21, 0x55, 0x6e,
      0xb7, 0x30, 0xce, 0x07, 0xd4, 0x9a, 0x77, 0x8a]
    else Vector.replicate 16 0
  lookupHost address _ :=
    if address = "10.0.0.3" then .ok [.v6 "fe80::3"]
    else (parseIpv4 address).elim (.error "no such host") fun ip => .ok [.v4 ip]

def nodeA : Host := ⟨⟨"h1"⟩, "node-a", "10.0.0.1", 50051⟩

def nodeB : Host := ⟨⟨"h2"⟩, "node-b", "10.0.0.2", 50051⟩

def nodeD : Host := ⟨⟨"h3"⟩, "node-d", "10.0.0.4", 50051⟩

def labTables : Tables where
  networks := [⟨⟨"n1"⟩, "app", "10.10.1.0/24", some "demo", some "isolated"⟩,
    ⟨⟨"n2"⟩, "db", "10.10.2.0/24", some "demo", some "isolated"⟩]
  hosts := [nodeA, nodeB]
  hostNetworks := [⟨⟨"h1"⟩, ⟨"n1"⟩, "qappa"⟩, ⟨⟨"h2"⟩, ⟨"n2"⟩, "qappb"⟩]
  network_ids := by decide
  host_ids := by decide
  attached_once := by decide
  bridge_names := by decide
  networks_exist := by decide
  hosts_exist := by decide

/-- Both hosts have a configuration, and each fits the other. -/
theorem lab_overlays_agree :
    ∃ ca cb, HasOverlay labEnv labTables.listAttached "demo" nodeA ca ∧
      HasOverlay labEnv labTables.listAttached "demo" nodeB cb ∧
      Fits labTables.listAttached "demo" nodeA nodeB ca cb ∧
      Fits labTables.listAttached "demo" nodeB nodeA cb ca ∧ Numbered labEnv labTables "demo" := by
  obtain ⟨hboth, hfits, hnumbered⟩ := overlays_agree labEnv labTables (a := nodeA) (b := nodeB)
    (by decide) (by decide) (by decide) "demo" (by decide +kernel) (by decide +kernel)
    (by decide +kernel) (by decide +kernel)
  have hcomputed : (overlaysForHost labEnv nodeA labTables.listAttached).isOk = true := by
    decide +kernel
  obtain ⟨as, has⟩ := exists_of_isOk hcomputed
  obtain ⟨ca, hca, -⟩ := config_of_several has (v := "demo") (by decide +kernel) (by decide +kernel)
  obtain ⟨cb, hcb⟩ := hboth.1 ⟨ca, as, has, hca⟩
  obtain ⟨hab, hba⟩ := hfits ca cb ⟨as, has, hca⟩ hcb
  exact ⟨ca, cb, ⟨as, has, hca⟩, hcb, hab, hba, hnumbered⟩

/-- The same with a second VPC of the first host, whose other host has no IPv4 address. -/
def mixedTables : Tables where
  networks := ⟨⟨"n3"⟩, "lab-a", "10.20.1.0/24", some "lab", some "isolated"⟩ ::
    ⟨⟨"n4"⟩, "lab-b", "10.20.2.0/24", some "lab", some "isolated"⟩ :: labTables.networks
  hosts := ⟨⟨"h3"⟩, "node-c", "10.0.0.3", 50051⟩ :: labTables.hosts
  hostNetworks := ⟨⟨"h1"⟩, ⟨"n3"⟩, "qlaba"⟩ :: ⟨⟨"h3"⟩, ⟨"n4"⟩, "qlabb"⟩ :: labTables.hostNetworks
  network_ids := by decide
  host_ids := by decide
  attached_once := by decide
  bridge_names := by decide
  networks_exist := by decide
  hosts_exist := by decide

/-- One network on two hosts, and another host in the VPC. -/
def sharedTables : Tables where
  networks := labTables.networks
  hosts := [nodeA, nodeB, nodeD]
  hostNetworks := [⟨⟨"h1"⟩, ⟨"n1"⟩, "qappa"⟩, ⟨⟨"h2"⟩, ⟨"n1"⟩, "qappa"⟩,
    ⟨⟨"h3"⟩, ⟨"n2"⟩, "qappb"⟩]
  network_ids := by decide
  host_ids := by decide
  attached_once := by decide
  bridge_names := by decide
  networks_exist := by decide
  hosts_exist := by decide

/-- **One VPC in the way of another, and one subnet on two hosts.**  Nothing is computed for a host
when one of its VPCs cannot be, while the other hosts get their side of the VPCs that could.  And a
host has a route to a subnet of another one over a third host that has the subnet too. -/
theorem overlay_on_one_side :
    (("demo" ∈ localVpcs mixedTables.listAttached ⟨"h1"⟩ ∧
        "demo" ∈ localVpcs mixedTables.listAttached ⟨"h2"⟩ ∧
        (hostOrder mixedTables.listAttached "demo").length = 2) ∧
      (overlaysForHost labEnv nodeA mixedTables.listAttached).toOption = none ∧
      ((overlaysForHost labEnv nodeB mixedTables.listAttached).toOption.map fun cs =>
        cs.map (·.vpcName)) = some ["demo"]) ∧
    ((overlaysForHost labEnv nodeA sharedTables.listAttached).toOption.map fun cs =>
        cs.map (·.localOverlayCidr)) = some ["100.80.106.1/24"] ∧
    ((overlaysForHost labEnv nodeD sharedTables.listAttached).toOption.map fun cs =>
        cs.map fun c => c.routes.map fun r => (r.subnet, r.viaIp))
      = some [[("10.10.1.0/24", "100.80.106.1"), ("10.10.1.0/24", "100.80.106.2")]] := by
  decide +kernel

end Vpc

end Qarax
