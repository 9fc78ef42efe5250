import Qarax.Core.Machine
import Qarax.Core.Records
import Qarax.Control.VpcOverlay

/-!
# Keeping VPCs apart

For each bridge of a host the control plane computes which subnets to drop and which not to
translate, from the whole table of attachments.  Attaching or detaching a network changes the table,
and the lists of some hosts are sent again: those that have a network of the same VPC, and the host
of the request.  But the subnet that has come or gone is on the lists of other VPCs too, on hosts
that are not among them.

Calls to nodes succeed here.  Computing the overlays of a host can fail, and then the hosts that
were still being sent their lists are dropped (`try_join_all`).  `pushed` is what a bridge was sent
last; a node forgets it with the bridge, and a bridge that was sent nothing drops nothing.

* `blockedSubnetsForNetwork`, `natExemptSubnetsForNetwork` — the lists.
* `attachHost`, `detachHost` — the requests, with `syncClusterVpcState` at their end.
* `Converged` — every bridge was sent what follows from the table.
* `settled` — no list changes on a bridge that the request does not reach.
-/

namespace Qarax

namespace Vpc

open Machine

/-! ## The lists of a bridge -/

def attachedNetworksForHost (attached : List AttachedNetwork) (hostId : Uuid) :
    List (Network × String) :=
  (attached.filter (·.hostId = hostId)).map fun a => (a.network, a.bridgeName)

def blockedSubnetsForNetwork (network : Network) (hostId : Uuid)
    (attachedHostNetworks : List (Network × String)) (attachedCluster : List AttachedNetwork) :
    List String :=
  match network.vpcName with
  | none => []
  | some vpcName => Sorted.set
      ((attachedHostNetworks.filter fun other =>
          other.1.id ≠ network.id && other.1.vpcName ≠ some vpcName).map (·.1.subnet) ++
        (attachedCluster.filter fun other => other.hostId ≠ hostId &&
          other.network.id ≠ network.id && other.network.vpcName ≠ some vpcName).map
            (·.network.subnet))

def natExemptSubnetsForNetwork (network : Network) (attachedCluster : List AttachedNetwork) :
    List String :=
  match network.vpcName with
  | none => []
  | some vpcName =>
    if network.networkType ≠ some "isolated" then []
    else Sorted.set ((attachedCluster.filter fun other =>
      other.network.id ≠ network.id && other.network.vpcName = some vpcName).map
        (·.network.subnet))

/-- The blocked subnets and those exempt from NAT. -/
abbrev Lists := List String × List String

/-- What is sent for a bridge of a host. -/
def isolation (attached : List AttachedNetwork) (hostId : Uuid) (network : Network) : Lists :=
  (blockedSubnetsForNetwork network hostId (attachedNetworksForHost attached hostId) attached,
    natExemptSubnetsForNetwork network attached)

/-! ## Statements on the tables -/

namespace Tables

/-- No row has the same key or the same bridge, and host and network exist. -/
def Insertable (t : Tables) (a : HostNetwork) : Prop :=
  ((a.hostId, a.networkId) ∉ t.hostNetworks.map (fun b => (b.hostId, b.networkId)) ∧
    (a.hostId, a.bridgeName) ∉ t.hostNetworks.map (fun b => (b.hostId, b.bridgeName))) ∧
  a.networkId ∈ t.networks.map Network.id ∧ a.hostId ∈ t.hosts.map Host.id

instance decidableInsertable (t : Tables) (a : HostNetwork) : Decidable (t.Insertable a) :=
  inferInstanceAs (Decidable (_ ∧ _))

/-- `INSERT INTO host_networks … ON CONFLICT DO NOTHING` -/
def insertHostNetwork (t : Tables) (a : HostNetwork) : Tables :=
  if h : t.Insertable a then
    { t with
      hostNetworks := a :: t.hostNetworks
      attached_once := List.nodup_cons.2 ⟨h.1.1, t.attached_once⟩
      bridge_names := List.nodup_cons.2 ⟨h.1.2, t.bridge_names⟩
      networks_exist := List.forall_mem_cons.2 ⟨h.2.1, t.networks_exist⟩
      hosts_exist := List.forall_mem_cons.2 ⟨h.2.2, t.hosts_exist⟩ }
  else t

/-- `DELETE FROM host_networks WHERE host_id = … AND network_id = …` -/
def deleteHostNetwork (t : Tables) (hostId networkId : Uuid) : Tables :=
  { t with
    hostNetworks := t.hostNetworks.filter fun a => (a.hostId, a.networkId) ≠ (hostId, networkId)
    attached_once := (List.filter_sublist.map _).nodup t.attached_once
    bridge_names := (List.filter_sublist.map _).nodup t.bridge_names
    networks_exist := fun a ha => t.networks_exist a (List.mem_of_mem_filter ha)
    hosts_exist := fun a ha => t.hosts_exist a (List.mem_of_mem_filter ha) }

def hostNetwork? (t : Tables) (hostId networkId : Uuid) : Option HostNetwork :=
  t.hostNetworks.find? fun a => (a.hostId, a.networkId) = (hostId, networkId)

end Tables

/-! ## Requests -/

structure World where
  tables : Tables
  pushed : List ((Uuid × String) × Lists)

abbrev Api := Proc ApiError World

/-- What a request meets: the resolver, and where the hosts are when the overlays of one of them
cannot be computed. -/
structure Course where
  lookupHost : String → ℕ → Except String (List IpAddr)
  /-- The host that fails first, if several do. -/
  failed : Uuid
  /-- How many bridges of a host have been sent their lists by then. -/
  reached : Uuid → ℕ

def affectedHostIdsForVpc (attached : List AttachedNetwork) (vpcName : String)
    (extraHostIds : List Uuid) : List Uuid :=
  Sorted.set ((inVpc attached vpcName).map (·.hostId) ++ extraHostIds)

/-- `sync_host_vpc_overlays_for_host`, whose call succeeds. -/
def syncHostVpcOverlays (env : Env) (t : Tables) (hostId : Uuid) : Except ApiError Unit := do
  let host ← row (t.host? hostId)
  let _ ← overlaysForHost env host t.listAttached
  .ok ()

/-- The host whose error ends the join. -/
def firstFailed (env : Env) (c : Course) (t : Tables) (hostIds : List Uuid) : Option Uuid :=
  let failing := hostIds.filter fun id => !(syncHostVpcOverlays env t id).isOk
  if c.failed ∈ failing then some c.failed else failing.head?

/-- The bridges of a host that are sent their lists. -/
def bridgesSent (env : Env) (c : Course) (t : Tables) (hostIds : List Uuid) (id : Uuid) :
    List (Network × String) :=
  match firstFailed env c t hostIds with
  | none => attachedNetworksForHost t.listAttached id
  | some failed =>
    if id = failed then attachedNetworksForHost t.listAttached id
    else (attachedNetworksForHost t.listAttached id).take (c.reached id)

/-- The lists that are sent to these hosts. -/
def listsSent (env : Env) (c : Course) (t : Tables) (hostIds : List Uuid) :
    List ((Uuid × String) × Lists) :=
  hostIds.flatMap fun id => (bridgesSent env c t hostIds id).map fun b =>
    ((id, b.2), isolation t.listAttached id b.1)

def syncClusterVpcState (env : Env) (c : Course) (network : Network) (extraHostIds : List Uuid) :
    Api Unit :=
  match network.vpcName with
  | none => pure ()
  | some vpcName => do
      let w ← Proc.read
      let hostIds := affectedHostIdsForVpc w.tables.listAttached vpcName extraHostIds
      Proc.modify fun w => { w with pushed := listsSent env c w.tables hostIds ++ w.pushed }
      match firstFailed env c w.tables hostIds with
      | none => pure ()
      | some id => Proc.lift (syncHostVpcOverlays env w.tables id)

/-- `attach_host`.  Unless the network is of type passt, the node sets up the bridge before the row
is written; no lists are sent with that. -/
def attachHost (env : Env) (c : Course) (networkId hostId : Uuid) (bridgeName : String) :
    Api Unit := do
  let w ← Proc.read
  let network ← Proc.lift (row (w.tables.network? networkId))
  let _ ← Proc.lift (row (w.tables.host? hostId))
  Proc.modify fun w =>
    { w with tables := w.tables.insertHostNetwork ⟨hostId, networkId, bridgeName⟩ }
  syncClusterVpcState env c network [hostId]

/-- `detach_host`.  The node forgets the lists of the bridge it tears down. -/
def detachHost (env : Env) (c : Course) (networkId hostId : Uuid) : Api Unit := do
  let w ← Proc.read
  let _ ← Proc.lift (row (w.tables.host? hostId))
  let network ← Proc.lift (row (w.tables.network? networkId))
  let a ← Proc.lift (row (w.tables.hostNetwork? hostId networkId))
  Proc.modify fun w => { w with pushed := w.pushed.filter (·.1 ≠ (hostId, a.bridgeName)) }
  Proc.modify fun w => { w with tables := w.tables.deleteHostNetwork hostId networkId }
  syncClusterVpcState env c network [hostId]

inductive Request where
  | attach (networkId hostId : Uuid) (bridgeName : String)
  | detach (networkId hostId : Uuid)

def handle (env : Env) (c : Course) : Request → Api Unit
  | .attach networkId hostId bridgeName => attachHost env c networkId hostId bridgeName
  | .detach networkId hostId => detachHost env c networkId hostId

/-- One request after the other, each with the resolver as it is by then. -/
def step (newV5 : String → Vector UInt8 16) (w : World) (call : Request × Course) : Option World :=
  some (handle ⟨newV5, call.2.lookupHost⟩ call.2 call.1 w).2

/-- Nothing is attached yet. -/
def Fresh (w : World) : Prop := w.tables.hostNetworks = [] ∧ w.pushed = []

def lastPushed (w : World) (hostId : Uuid) (bridgeName : String) : Lists :=
  (w.pushed.lookup (hostId, bridgeName)).getD ([], [])

/-- **Every bridge was sent what follows from the table.** -/
def Converged (w : World) : Prop :=
  ∀ x ∈ w.tables.listAttached, lastPushed w x.hostId x.bridgeName
    = (blockedSubnetsForNetwork x.network x.hostId
        (attachedNetworksForHost w.tables.listAttached x.hostId) w.tables.listAttached,
      natExemptSubnetsForNetwork x.network w.tables.listAttached)

/-! ## What the lists depend on -/

/-- The other attachment's subnet is blocked for the network. -/
def blocks (network : Network) (other : AttachedNetwork) : Bool :=
  network.vpcName.isSome && other.network.id ≠ network.id &&
    other.network.vpcName ≠ network.vpcName

/-- The other attachment's subnet is exempt from NAT for the network. -/
def exempts (network : Network) (other : AttachedNetwork) : Bool :=
  network.vpcName.isSome && network.networkType = some "isolated" &&
    other.network.id ≠ network.id && other.network.vpcName = network.vpcName

section Lists

variable {attached attached' : List AttachedNetwork} {hostId : Uuid} {network : Network}
  {y : AttachedNetwork}

/-- **Where the other networks are attached makes no difference** to the lists. -/
lemma isolation_eq : isolation attached hostId network
    = (Sorted.set ((attached.filter (blocks network)).map (·.network.subnet)),
      Sorted.set ((attached.filter (exempts network)).map (·.network.subnet))) := by
  unfold isolation blockedSubnetsForNetwork natExemptSubnetsForNetwork
  cases hv : network.vpcName with
  | none =>
    have hblocks : blocks network = fun _ => false := funext fun y => by simp [blocks, hv]
    have hexempts : exempts network = fun _ => false := funext fun y => by simp [exempts, hv]
    rw [hblocks, hexempts, List.filter_false]
    rfl
  | some v =>
    refine Prod.ext (Sorted.set_congr fun s => ?_) ?_
    · simp only [attachedNetworksForHost, blocks, hv, List.mem_append, List.mem_map,
        List.mem_filter, Option.isSome_some, Bool.true_and, Bool.and_eq_true, decide_eq_true_eq]
      constructor
      · rintro (⟨_, ⟨⟨x, ⟨hx, -⟩, rfl⟩, hblocks⟩, rfl⟩ | ⟨x, ⟨hx, ⟨-, hid⟩, hvpc⟩, rfl⟩)
        · exact ⟨x, ⟨hx, hblocks⟩, rfl⟩
        · exact ⟨x, ⟨hx, hid, hvpc⟩, rfl⟩
      · rintro ⟨x, ⟨hx, hid, hvpc⟩, rfl⟩
        by_cases hhost : x.hostId = hostId
        · exact .inl ⟨_, ⟨⟨x, ⟨hx, hhost⟩, rfl⟩, hid, hvpc⟩, rfl⟩
        · exact .inr ⟨x, ⟨hx, ⟨hhost, hid⟩, hvpc⟩, rfl⟩
    · by_cases htype : network.networkType = some "isolated"
      · have hexempts : exempts network = fun y => y.network.id ≠ network.id &&
            y.network.vpcName = some v := funext fun y => by simp [exempts, hv, htype]
        simp [hexempts, htype]
      · have hexempts : exempts network = fun _ => false :=
          funext fun y => by simp [exempts, htype]
        simp only [htype, ne_eq, not_false_eq_true, if_true, hexempts, List.filter_false]
        rfl

/-- A subnet that comes or goes is on the lists in any case. -/
def spared (attached : List AttachedNetwork) (network : Network) (y : AttachedNetwork) : Bool :=
  (!blocks network y || attached.any fun z =>
      blocks network z && z.network.subnet = y.network.subnet) &&
    (!exempts network y || attached.any fun z =>
      exempts network z && z.network.subnet = y.network.subnet)

lemma isolation_of_spared (hmem : ∀ x, x ∈ attached' ↔ x ∈ attached ∨ x = y)
    (h : spared attached network y = true) :
    isolation attached' hostId network = isolation attached hostId network := by
  have hset : ∀ p : AttachedNetwork → Bool,
      (p y = true → ∃ z ∈ attached, p z = true ∧ z.network.subnet = y.network.subnet) →
      Sorted.set ((attached'.filter p).map (·.network.subnet))
        = Sorted.set ((attached.filter p).map (·.network.subnet)) := by
    intro p hy
    refine Sorted.set_congr fun s => ?_
    simp only [List.mem_map, List.mem_filter, hmem]
    constructor
    · rintro ⟨x, ⟨hx | rfl, hp⟩, rfl⟩
      · exact ⟨x, ⟨hx, hp⟩, rfl⟩
      · obtain ⟨z, hz, hpz, hsubnet⟩ := hy hp
        exact ⟨z, ⟨hz, hpz⟩, hsubnet⟩
    · rintro ⟨x, ⟨hx, hp⟩, rfl⟩
      exact ⟨x, ⟨.inl hx, hp⟩, rfl⟩
  simp only [spared, Bool.and_eq_true, Bool.or_eq_true, Bool.not_eq_true', List.any_eq_true,
    decide_eq_true_eq] at h
  rw [isolation_eq, isolation_eq, hset _ fun hb => h.1.resolve_left (by simp [hb]),
    hset _ fun he => h.2.resolve_left (by simp [he])]

/-- Nothing is on the lists of the network. -/
def idle (attached : List AttachedNetwork) (network : Network) : Bool :=
  attached.all fun z => !blocks network z && !exempts network z

lemma isolation_of_idle (hmem : ∀ x ∈ attached', x ∈ attached ∨ x.network = network)
    (h : idle attached network = true) : isolation attached' hostId network = ([], []) := by
  have hself : ∀ x : AttachedNetwork, x.network = network →
      blocks network x = false ∧ exempts network x = false := by
    rintro x rfl
    simp [blocks, exempts]
  simp only [idle, List.all_eq_true, Bool.and_eq_true, Bool.not_eq_true'] at h
  have hnone : ∀ x ∈ attached', blocks network x = false ∧ exempts network x = false :=
    fun x hx => (hmem x hx).elim (h x) (hself x)
  rw [isolation_eq, List.filter_eq_nil_iff.2 fun x hx => by simp [(hnone x hx).1],
    List.filter_eq_nil_iff.2 fun x hx => by simp [(hnone x hx).2]]
  rfl

end Lists

/-! ## The table after a request -/

namespace Tables

variable {t : Tables} {a : HostNetwork} {x y : AttachedNetwork} {hostId networkId : Uuid}

/-- A row of the join has the keys of the row it is for. -/
lemma keys_of_attached? (h : t.attached? a = some x) :
    x.hostId = a.hostId ∧ x.network.id = a.networkId ∧ x.bridgeName = a.bridgeName := by
  obtain ⟨n, h, hn, hh, rfl⟩ := attached?_eq_some.1 h
  exact ⟨by simpa using List.find?_some hh, by simpa using List.find?_some hn, rfl⟩

/-- A bridge of a host belongs to one attachment. -/
lemma eq_of_bridge (hx : x ∈ t.listAttached) (hy : y ∈ t.listAttached) (hhost : x.hostId = y.hostId)
    (hbridge : x.bridgeName = y.bridgeName) : x = y := by
  obtain ⟨a, ha, hax⟩ := mem_listAttached.1 hx
  obtain ⟨b, hb, hby⟩ := mem_listAttached.1 hy
  obtain ⟨hxa, -, hxa'⟩ := keys_of_attached? hax
  obtain ⟨hyb, -, hyb'⟩ := keys_of_attached? hby
  have hab : a = b := List.inj_on_of_nodup_map t.bridge_names ha hb
    (Prod.ext (hxa.symm.trans (hhost.trans hyb)) (hxa'.symm.trans (hbridge.trans hyb')))
  exact Option.some.inj (hax.symm.trans (hab ▸ hby))

lemma eq_of_key (hx : x ∈ t.listAttached) (hy : y ∈ t.listAttached) (hhost : x.hostId = y.hostId)
    (hnetwork : x.network.id = y.network.id) : x = y := by
  obtain ⟨a, ha, hax⟩ := mem_listAttached.1 hx
  obtain ⟨b, hb, hby⟩ := mem_listAttached.1 hy
  obtain ⟨hxa, hxa', -⟩ := keys_of_attached? hax
  obtain ⟨hyb, hyb', -⟩ := keys_of_attached? hby
  have hab : a = b := List.inj_on_of_nodup_map t.attached_once ha hb
    (Prod.ext (hxa.symm.trans (hhost.trans hyb)) (hxa'.symm.trans (hnetwork.trans hyb')))
  exact Option.some.inj (hax.symm.trans (hab ▸ hby))

lemma mem_listAttached_insert (ha : t.Insertable a) (hy : t.attached? a = some y) :
    x ∈ (t.insertHostNetwork a).listAttached ↔ x ∈ t.listAttached ∨ x = y := by
  have hrows : (t.insertHostNetwork a).hostNetworks = a :: t.hostNetworks := by
    rw [insertHostNetwork, dif_pos ha]
  have hjoin : (t.insertHostNetwork a).attached? = t.attached? := by
    rw [insertHostNetwork, dif_pos ha]
    rfl
  rw [mem_listAttached, hrows, hjoin, List.exists_mem_cons_iff, hy, ← mem_listAttached]
  simp [or_comm, eq_comm]

lemma insertHostNetwork_of_not (ha : ¬ t.Insertable a) : t.insertHostNetwork a = t := dif_neg ha

lemma mem_listAttached_delete : x ∈ (t.deleteHostNetwork hostId networkId).listAttached ↔
    x ∈ t.listAttached ∧ (x.hostId, x.network.id) ≠ (hostId, networkId) := by
  simp only [mem_listAttached]
  constructor
  · rintro ⟨a, ha, hax⟩
    obtain ⟨ha, hne⟩ := List.mem_filter.1 ha
    obtain ⟨hhost, hnetwork, -⟩ := keys_of_attached? (t := t) hax
    exact ⟨⟨a, ha, hax⟩, by rw [hhost, hnetwork]; exact of_decide_eq_true hne⟩
  · rintro ⟨⟨a, ha, hax⟩, hne⟩
    obtain ⟨hhost, hnetwork, -⟩ := keys_of_attached? hax
    rw [hhost, hnetwork] at hne
    exact ⟨a, List.mem_filter.2 ⟨ha, decide_eq_true hne⟩, hax⟩

end Tables

/-! ## What a request sends -/

section Sent

variable {env : Env} {c : Course} {t : Tables} {network : Network} {extra : List Uuid}

/-- The bridge is sent its lists. -/
def told (env : Env) (c : Course) (t : Tables) (network : Network) (extra : List Uuid)
    (x : AttachedNetwork) : Bool :=
  match network.vpcName with
  | none => false
  | some vpcName =>
    let hostIds := affectedHostIdsForVpc t.listAttached vpcName extra
    x.hostId ∈ hostIds && (x.network, x.bridgeName) ∈ bridgesSent env c t hostIds x.hostId

/-- All that `syncClusterVpcState` sends. -/
def sentBy (env : Env) (c : Course) (t : Tables) (network : Network) (extra : List Uuid) :
    List ((Uuid × String) × Lists) :=
  match network.vpcName with
  | none => []
  | some vpcName => listsSent env c t (affectedHostIdsForVpc t.listAttached vpcName extra)

lemma syncClusterVpcState_run (w : World) : (syncClusterVpcState env c network extra w).2
    = ⟨w.tables, sentBy env c w.tables network extra ++ w.pushed⟩ := by
  unfold syncClusterVpcState sentBy
  cases network.vpcName with
  | none => rfl
  | some v =>
    simp only [Proc.read_bind, Proc.modify_bind]
    cases firstFailed env c w.tables (affectedHostIdsForVpc w.tables.listAttached v extra) <;> rfl

lemma mem_of_bridgesSent {ids : List Uuid} {id : Uuid} {b : Network × String}
    (h : b ∈ bridgesSent env c t ids id) :
    ∃ x ∈ t.listAttached, x.hostId = id ∧ (x.network, x.bridgeName) = b := by
  have hb : b ∈ attachedNetworksForHost t.listAttached id := by
    unfold bridgesSent at h
    split at h
    · exact h
    · split_ifs at h
      · exact h
      · exact List.mem_of_mem_take h
  obtain ⟨x, hx, rfl⟩ := List.mem_map.1 hb
  obtain ⟨hx, hid⟩ := List.mem_filter.1 hx
  exact ⟨x, hx, by simpa using hid, rfl⟩

lemma mem_sentBy {e : (Uuid × String) × Lists} : e ∈ sentBy env c t network extra ↔
    ∃ x ∈ t.listAttached, told env c t network extra x = true ∧
      e = ((x.hostId, x.bridgeName), isolation t.listAttached x.hostId x.network) := by
  unfold sentBy told
  cases network.vpcName with
  | none => simp
  | some v =>
    simp only [listsSent, List.mem_flatMap, List.mem_map, Bool.and_eq_true, decide_eq_true_eq]
    constructor
    · rintro ⟨id, hid, b, hb, rfl⟩
      obtain ⟨x, hx, rfl, rfl⟩ := mem_of_bridgesSent hb
      exact ⟨x, hx, ⟨hid, hb⟩, rfl⟩
    · rintro ⟨x, -, ⟨hid, hb⟩, rfl⟩
      exact ⟨x.hostId, hid, _, hb, rfl⟩

end Sent

/-! ## Convergence -/

/-- **No list changes where the request does not reach**: every bridge whose lists have or had the
subnet on account of the attachment that comes or goes is sent its lists, and so is the bridge that
comes. -/
def settled (newV5 : String → Vector UInt8 16) (w : World) (call : Request × Course) : Bool :=
  let env : Env := ⟨newV5, call.2.lookupHost⟩
  match call.1 with
  | .attach networkId hostId bridgeName =>
    let a : HostNetwork := ⟨hostId, networkId, bridgeName⟩
    let told := fun y => told env call.2 (w.tables.insertHostNetwork a) y.network [hostId]
    !decide (w.tables.Insertable a) || (w.tables.attached? a).toList.all fun y =>
      (w.tables.listAttached.all fun x =>
        told y x || spared w.tables.listAttached x.network y) &&
      (told y y || idle w.tables.listAttached y.network)
  | .detach networkId hostId =>
    let t := w.tables.deleteHostNetwork hostId networkId
    ((w.tables.hostNetwork? hostId networkId).bind w.tables.attached?).toList.all fun y =>
      t.listAttached.all fun x =>
        told env call.2 t y.network [hostId] x || spared t.listAttached x.network y

/-- Nodes know no bridges but those of the table. -/
def Known (w : World) : Prop :=
  ∀ e ∈ w.pushed, ∃ x ∈ w.tables.listAttached, e.1 = (x.hostId, x.bridgeName)

section Converge

variable {env : Env} {c : Course} {t : Tables} {w : World} {network : Network} {extra : List Uuid}
  {rest : List ((Uuid × String) × Lists)}

/-- Sending settles the bridges that are reached; the others have to be settled before. -/
lemma converged_of_sent
    (hknown : ∀ e ∈ rest, ∃ x ∈ t.listAttached, e.1 = (x.hostId, x.bridgeName))
    (hrest : ∀ x ∈ t.listAttached, told env c t network extra x = true ∨
      (rest.lookup (x.hostId, x.bridgeName)).getD ([], [])
        = isolation t.listAttached x.hostId x.network) :
    Converged ⟨t, sentBy env c t network extra ++ rest⟩ ∧
      Known ⟨t, sentBy env c t network extra ++ rest⟩ := by
  refine ⟨fun x hx => ?_, fun e he => ?_⟩
  · rw [lastPushed, List.lookup_append]
    by_cases htold : told env c t network extra x = true
    · rw [Rows.lookup_of_forall (v := isolation t.listAttached x.hostId x.network) ?_ ?_]
      · rfl
      · rintro e he hkey
        obtain ⟨z, hz, -, rfl⟩ := mem_sentBy.1 he
        obtain ⟨hhost, hbridge⟩ := Prod.mk.inj hkey
        rw [Tables.eq_of_bridge hz hx hhost hbridge]
      · exact ⟨_, mem_sentBy.2 ⟨x, hx, htold, rfl⟩, rfl⟩
    · have hnone : (sentBy env c t network extra).lookup (x.hostId, x.bridgeName) = none := by
        rw [List.lookup_eq_none_iff]
        rintro e he
        obtain ⟨z, hz, hztold, rfl⟩ := mem_sentBy.1 he
        rw [bne_iff_ne]
        rintro hkey
        obtain ⟨hhost, hbridge⟩ := Prod.mk.inj hkey
        exact htold (Tables.eq_of_bridge hx hz hhost hbridge ▸ hztold)
      rw [hnone, Option.none_or]
      exact (hrest x hx).resolve_left htold
  · rcases List.mem_append.1 he with he | he
    · obtain ⟨x, hx, -, rfl⟩ := mem_sentBy.1 he
      exact ⟨x, hx, rfl⟩
    · exact hknown e he

/-- What a request for a network and a host that exist does. -/
lemma attachHost_run (env : Env) (networkId hostId : Uuid) (bridgeName : String) :
    (attachHost env c networkId hostId bridgeName w).2 = w ∨
      ∃ y, w.tables.attached? ⟨hostId, networkId, bridgeName⟩ = some y ∧
        (attachHost env c networkId hostId bridgeName w).2
          = ⟨w.tables.insertHostNetwork ⟨hostId, networkId, bridgeName⟩,
            sentBy env c (w.tables.insertHostNetwork ⟨hostId, networkId, bridgeName⟩) y.network
              [hostId] ++ w.pushed⟩ := by
  unfold attachHost
  rw [Proc.read_bind]
  cases hn : w.tables.network? networkId with
  | none => exact .inl rfl
  | some network =>
    cases hh : w.tables.host? hostId with
    | none => exact .inl rfl
    | some host =>
      refine .inr ⟨_, Tables.attached?_eq_some.2 ⟨network, host, hn, hh, rfl⟩, ?_⟩
      exact syncClusterVpcState_run _

lemma detachHost_run (env : Env) (networkId hostId : Uuid) :
    (detachHost env c networkId hostId w).2 = w ∨
      ∃ a y, w.tables.hostNetwork? hostId networkId = some a ∧ w.tables.attached? a = some y ∧
        (detachHost env c networkId hostId w).2
          = ⟨w.tables.deleteHostNetwork hostId networkId,
            sentBy env c (w.tables.deleteHostNetwork hostId networkId) y.network [hostId] ++
              w.pushed.filter (·.1 ≠ (y.hostId, y.bridgeName))⟩ := by
  unfold detachHost
  rw [Proc.read_bind]
  cases hh : w.tables.host? hostId with
  | none => exact .inl rfl
  | some host =>
    cases hn : w.tables.network? networkId with
    | none => exact .inl rfl
    | some network =>
      cases ha : w.tables.hostNetwork? hostId networkId with
      | none => exact .inl rfl
      | some a =>
        have hkey : (a.hostId, a.networkId) = (hostId, networkId) := by
          simpa using List.find?_some ha
        obtain ⟨hhost, hnetwork⟩ := Prod.mk.inj hkey
        have hy : w.tables.attached? a = some ⟨host.id, host.address, host.port, network,
            a.bridgeName⟩ :=
          Tables.attached?_eq_some.2 ⟨network, host, hnetwork ▸ hn, hhost ▸ hh, rfl⟩
        have hid : host.id = hostId := by simpa using List.find?_some hh
        refine .inr ⟨a, _, rfl, hy, ?_⟩
        rw [hid]
        exact syncClusterVpcState_run _

lemma attach_kept {newV5 : String → Vector UInt8 16} (hw : Converged w ∧ Known w)
    {networkId hostId : Uuid} {bridgeName : String}
    (hok : settled newV5 w (.attach networkId hostId bridgeName, c) = true) :
    Converged (attachHost ⟨newV5, c.lookupHost⟩ c networkId hostId bridgeName w).2 ∧
      Known (attachHost ⟨newV5, c.lookupHost⟩ c networkId hostId bridgeName w).2 := by
  rcases attachHost_run ⟨newV5, c.lookupHost⟩ networkId hostId bridgeName with
    hsame | ⟨y, hy, hrun⟩
  · rwa [hsame]
  rw [hrun]
  by_cases hins : w.tables.Insertable ⟨hostId, networkId, bridgeName⟩
  · simp only [settled, hins, decide_true, Bool.not_true, Bool.false_or, hy, Option.toList_some,
      List.all_cons, List.all_nil, Bool.and_true, Bool.and_eq_true, Bool.or_eq_true,
      List.all_eq_true] at hok
    obtain ⟨hold, hnew⟩ := hok
    have hmem := fun x => Tables.mem_listAttached_insert (x := x) hins hy
    obtain ⟨hyhost, -, hybridge⟩ := Tables.keys_of_attached? hy
    refine converged_of_sent (fun e he => ?_) fun x hx => ?_
    · obtain ⟨x, hx, hkey⟩ := hw.2 e he
      exact ⟨x, (hmem x).2 (.inl hx), hkey⟩
    · rcases (hmem x).1 hx with hx | rfl
      · refine (hold x hx).imp id fun hspared => ?_
        rw [isolation_of_spared hmem hspared]
        exact hw.1 x hx
      · refine hnew.imp id fun hidle => ?_
        rw [isolation_of_idle (fun z hz => ((hmem z).1 hz).imp id fun h => h ▸ rfl) hidle]
        -- no bridge of that name was known on the host
        have hnone : w.pushed.lookup (x.hostId, x.bridgeName) = none := by
          rw [List.lookup_eq_none_iff]
          intro e he
          rw [bne_iff_ne]
          rintro hkey
          obtain ⟨z, hz, hez⟩ := hw.2 e he
          obtain ⟨b, hb, hbz⟩ := Tables.mem_listAttached.1 hz
          obtain ⟨hzhost, -, hzbridge⟩ := Tables.keys_of_attached? hbz
          refine hins.1.2 (List.mem_map.2 ⟨b, hb, ?_⟩)
          rw [← hzhost, ← hzbridge, ← hez, ← hkey, hyhost, hybridge]
        rw [hnone]
        rfl
  · rw [Tables.insertHostNetwork_of_not hins]
    exact converged_of_sent hw.2 fun x hx => .inr (hw.1 x hx)

lemma detach_kept {newV5 : String → Vector UInt8 16} (hw : Converged w ∧ Known w)
    {networkId hostId : Uuid} (hok : settled newV5 w (.detach networkId hostId, c) = true) :
    Converged (detachHost ⟨newV5, c.lookupHost⟩ c networkId hostId w).2 ∧
      Known (detachHost ⟨newV5, c.lookupHost⟩ c networkId hostId w).2 := by
  rcases detachHost_run ⟨newV5, c.lookupHost⟩ networkId hostId with
    hsame | ⟨a, y, ha, hy, hrun⟩
  · rwa [hsame]
  rw [hrun]
  simp only [settled, ha, Option.bind_some, hy, Option.toList_some, List.all_cons, List.all_nil,
    Bool.and_true, Bool.or_eq_true, List.all_eq_true] at hok
  have hymem : y ∈ w.tables.listAttached :=
    Tables.mem_listAttached.2 ⟨a, List.mem_of_find?_eq_some ha, hy⟩
  have hykey : (y.hostId, y.network.id) = (hostId, networkId) := by
    obtain ⟨hhost, hnetwork, -⟩ := Tables.keys_of_attached? hy
    rw [hhost, hnetwork]
    simpa using List.find?_some ha
  have hmem : ∀ x, x ∈ w.tables.listAttached ↔
      x ∈ (w.tables.deleteHostNetwork hostId networkId).listAttached ∨ x = y := by
    intro x
    rw [Tables.mem_listAttached_delete, ← hykey]
    constructor
    · intro hx
      by_cases hkey : (x.hostId, x.network.id) = (y.hostId, y.network.id)
      · obtain ⟨hhost, hnetwork⟩ := Prod.mk.inj hkey
        exact .inr (Tables.eq_of_key hx hymem hhost hnetwork)
      · exact .inl ⟨hx, hkey⟩
    · rintro (⟨hx, -⟩ | rfl)
      · exact hx
      · exact hymem
  have hne : ∀ x ∈ (w.tables.deleteHostNetwork hostId networkId).listAttached,
      (x.hostId, x.bridgeName) ≠ (y.hostId, y.bridgeName) := by
    intro x hx hkey
    obtain ⟨hx, hxkey⟩ := Tables.mem_listAttached_delete.1 hx
    obtain ⟨hhost, hbridge⟩ := Prod.mk.inj hkey
    exact hxkey (Tables.eq_of_bridge hx hymem hhost hbridge ▸ hykey)
  refine converged_of_sent (fun e he => ?_) fun x hx => ?_
  · obtain ⟨he, hekey⟩ := List.mem_filter.1 he
    obtain ⟨x, hx, hkey⟩ := hw.2 e he
    rcases (hmem x).1 hx with hx | rfl
    · exact ⟨x, hx, hkey⟩
    · exact absurd hkey (of_decide_eq_true hekey)
  · refine (hok x hx).imp id fun hspared => ?_
    rw [Rows.lookup_filter_ne (hne x hx), ← isolation_of_spared hmem hspared]
    exact hw.1 x ((hmem x).2 (.inl hx))

/-- **Isolation converges** in every run whose requests change no list but those they send. -/
theorem isolation_converges (newV5 : String → Vector UInt8 16)
    (h : Reach (step newV5) (fun w call => settled newV5 w call = true) Fresh w) : Converged w := by
  refine (h.invariant (I := fun w => Converged w ∧ Known w) ?_ ?_).1
  · rintro w ⟨hrows, hpushed⟩
    have hnone : ∀ x, x ∉ w.tables.listAttached := by
      intro x hx
      obtain ⟨a, ha, -⟩ := Tables.mem_listAttached.1 hx
      simp [hrows] at ha
    exact ⟨fun x hx => absurd hx (hnone x), fun e he => by simp [hpushed] at he⟩
  · rintro w ⟨request, c⟩ w' hw hok hstep
    cases hstep
    cases request with
    | attach networkId hostId bridgeName => exact attach_kept hw hok
    | detach networkId hostId => exact detach_kept hw hok

end Converge

/-! ### Examples -/

/-- Two networks of production and one of staging, attached nowhere. -/
def stageWorld : World where
  tables :=
    { networks := [⟨⟨"n1"⟩, "prod-a", "10.20.1.0/24", some "prod", some "isolated"⟩,
        ⟨⟨"n2"⟩, "prod-b", "10.20.2.0/24", some "prod", some "isolated"⟩,
        ⟨⟨"n3"⟩, "stage-a", "10.30.1.0/24", some "stage", some "isolated"⟩]
      hosts := labTables.hosts
      hostNetworks := []
      network_ids := by decide
      host_ids := by decide
      attached_once := by decide
      bridge_names := by decide
      networks_exist := by decide
      hosts_exist := by decide }
  pushed := []

def smooth : Course := ⟨labEnv.lookupHost, ⟨"h1"⟩, fun _ => 0⟩

/-- Staging comes and goes on the host that production is on, and production grows to another. -/
def stageRun : List (Request × Course) :=
  [(.attach ⟨"n1"⟩ ⟨"h1"⟩ "qproda", smooth), (.attach ⟨"n3"⟩ ⟨"h1"⟩ "qstagea", smooth),
    (.detach ⟨"n3"⟩ ⟨"h1"⟩, smooth), (.attach ⟨"n2"⟩ ⟨"h2"⟩ "qprodb", smooth)]

theorem stageRun_converges :
    ∃ w ∈ run (step labEnv.newV5) stageWorld stageRun,
      w.tables.listAttached.length = 2 ∧
      lastPushed w ⟨"h1"⟩ "qproda" = ([], ["10.20.2.0/24"]) ∧ Converged w := by
  refine (exists_reach ⟨rfl, rfl⟩ ?_).imp fun w h =>
    ⟨h.1, and_assoc.1 ⟨h.2.1, isolation_converges labEnv.newV5 h.2.2⟩⟩
  decide +kernel

/-- Production on one host, staging on another. -/
def apartRun : List (Request × Course) :=
  [(.attach ⟨"n1"⟩ ⟨"h1"⟩ "qproda", smooth), (.attach ⟨"n3"⟩ ⟨"h2"⟩ "qstagea", smooth)]

/-- **A VPC on a host of its own.**  The host of production is not told to block the subnet of
staging, which is attached to another host later. -/
theorem later_vpc_not_blocked :
    ∃ w ∈ run (step labEnv.newV5) stageWorld apartRun,
      lastPushed w ⟨"h1"⟩ "qproda" = ([], []) ∧
      ((w.tables.listAttached.filter (·.bridgeName = "qproda")).map fun x =>
        blockedSubnetsForNetwork x.network x.hostId
          (attachedNetworksForHost w.tables.listAttached x.hostId) w.tables.listAttached)
        = [["10.30.1.0/24"]] := by
  decide +kernel

end Vpc

end Qarax
