import Qarax.Core.Effect
import Qarax.Node.Networking.Validate

/-!
# VXLAN overlays of a node

A node is told the overlays of the VPCs that its host takes part in.  For each of them it has a
VXLAN interface with an overlay address, the underlay addresses of the other hosts as flood entries,
and a static route for each subnet that is attached elsewhere.

The kernel keeps one route for a prefix: `ip route replace` takes the place of any other route to
the same prefix, on whatever interface.  Commands of `ip` and `bridge` are taken to succeed here
when the device they name exists, and the checks of the arguments are those of the source.

* `NetKernel` — interfaces and the main routing table.
* `syncVpcOverlays` — from the overlays of a request to the interfaces and routes.
* `installed`, `syncVpcOverlays_routes` — which route a prefix has afterwards.
-/

namespace Qarax

structure VpcOverlayRoute where
  subnet : String
  viaIp : String

structure VpcOverlayConfig where
  vpcName : String
  interfaceName : String
  vni : ℕ
  localUnderlayIp : String
  localOverlayCidr : String
  peerUnderlayIps : List String
  routes : List VpcOverlayRoute

variable {name : String} {k k' : NetKernel} {x : Route} {o : VpcOverlayConfig}

namespace Vxlan

/-! ## The kernel -/

structure Link where
  name : String
  /-- What `ip -d link show` prints. -/
  detail : String
  addresses : List String
  /-- Destinations of the all-zero MAC in the forwarding database. -/
  peers : List String
  up : Bool

/-- A prefix the kernel has a route for: a block without host bits. -/
abbrev Dst := { c : Cidr // c.network = c }

/-- A route of the main table.  The static routes are those with a gateway; a route without one is
that of an attached subnet. -/
structure Route where
  dst : Dst
  via : Option String
  dev : String

structure NetKernel where
  links : List Link
  routes : List Route
  /-- A route goes with its device. -/
  devices : ∀ r ∈ routes, r.dev ∈ links.map Link.name

namespace NetKernel

/-- `ip link del`; deleting no device is no error. -/
def delLink (k : NetKernel) (name : String) : NetKernel where
  links := k.links.filter (·.name ≠ name)
  routes := k.routes.filter (·.dev ≠ name)
  devices r hr := by
    have hr := List.mem_filter.1 hr
    obtain ⟨l, hl, hname⟩ := List.mem_map.1 (k.devices r hr.1)
    exact List.mem_map.2 ⟨l, List.mem_filter.2 ⟨hl, by rw [hname]; exact hr.2⟩, hname⟩

/-- `ip link add` -/
def addLink (k : NetKernel) (name detail : String) : NetKernel where
  links := ⟨name, detail, [], [], false⟩ :: k.links
  routes := k.routes
  devices r hr := List.mem_cons_of_mem _ (k.devices r hr)

/-- A change of an interface that keeps its name. -/
def setLink (k : NetKernel) (name : String) (f : Link → Link) (hf : ∀ l, (f l).name = l.name) :
    NetKernel where
  links := k.links.map fun l => if l.name = name then f l else l
  routes := k.routes
  devices r hr := by
    have hmap : (k.links.map fun l => if l.name = name then f l else l).map Link.name
        = k.links.map Link.name := by
      rw [List.map_map]
      refine List.map_congr_left fun l _ => ?_
      simp only [Function.comp_apply]
      split_ifs <;> simp [hf]
    exact hmap ▸ k.devices r hr

/-- `ip route del … dev … proto static` -/
def delRoute (k : NetKernel) (dst : Dst) (dev : String) : NetKernel where
  links := k.links
  routes := k.routes.filter fun r => !(r.dst = dst && r.dev = dev && r.via.isSome)
  devices r hr := k.devices r (List.mem_of_mem_filter hr)

/-- `ip route replace … via … dev … proto static` -/
def replaceRoute (k : NetKernel) (dst : Dst) (via dev : String) (h : dev ∈ k.links.map Link.name) :
    NetKernel where
  links := k.links
  routes := ⟨dst, some via, dev⟩ :: k.routes.filter (·.dst ≠ dst)
  devices r hr := by
    rcases List.mem_cons.1 hr with rfl | hr
    · exact h
    · exact k.devices r (List.mem_of_mem_filter hr)

end NetKernel

/-! ## Commands and their texts -/

/-- `contains` -/
def holds (text piece : String) : Bool := decide (piece.toList <:+: text.toList)

/-- The text of a VXLAN interface, as far as it is looked at. -/
def vxlanDetail (vni : ℕ) (localIp : String) : String :=
  s!"vxlan id {vni} local {localIp} srcport 0 0 dstport 4789 nolearning ttl auto"

/-- A prefix as `ip route show` prints it. -/
def showDst (dst : Dst) : String :=
  if dst.val.len.val = 0 then "default"
  else if dst.val.len.val = 32 then renderIpv4 dst.val.addr
  else renderCidr dst.val

lemma network_network (c : Cidr) : c.network.network = c.network := by
  have haddr : c.network.addr.val / 2 ^ c.hostBits * 2 ^ c.hostBits = c.network.addr.val := by
    simp [Cidr.network, Nat.mul_div_cancel _ (Nat.two_pow_pos c.hostBits)]
  exact congrArg (fun a => (⟨a, c.len⟩ : Cidr)) (Fin.ext haddr)

/-- The prefix of a subnet. -/
def dst? (subnet : String) : Option Dst :=
  (parseCidr subnet).map fun c => ⟨c.network, network_network c⟩

inductive VxlanError where
  | invalid (error : NetError)
  | cannotFindDevice (name : String)

/-! ## `sync_vpc_overlays` -/

def overlayNeedsRecreate (o : VpcOverlayConfig) (k : NetKernel) : Bool :=
  match k.links.find? (·.name = o.interfaceName) with
  | none => true
  | some link =>
    !(holds link.detail s!"vxlan id {o.vni}" && holds link.detail s!"local {o.localUnderlayIp}" &&
      holds link.detail "dstport 4789" && holds link.detail "nolearning")

/-- `delete_interface`, then `create_interface` -/
def recreate (o : VpcOverlayConfig) (k : NetKernel) : NetKernel :=
  (k.delLink o.interfaceName).addLink o.interfaceName (vxlanDetail o.vni o.localUnderlayIp)

/-- Addresses other than the overlay address are removed. -/
def syncInterfaceAddress (name localOverlayCidr : String) (k : NetKernel) : NetKernel :=
  k.setLink name (fun l => { l with addresses := [localOverlayCidr] }) fun _ => rfl

def linkUp (name : String) (k : NetKernel) : NetKernel :=
  k.setLink name (fun l => { l with up := true }) fun _ => rfl

/-- Flood entries of former peers are removed, those of new peers appended. -/
def syncFdbEntries (name : String) (peers : List String) (k : NetKernel) : NetKernel :=
  k.setLink name (fun l => { l with
    peers := l.peers.filter (· ∈ peers) ++ peers.filter (· ∉ l.peers) }) fun _ => rfl

def listRoutes (name : String) (k : NetKernel) : List Route :=
  k.routes.filter fun r => r.dev = name && r.via.isSome

/-- The routes of the interface that are not wanted any more are removed. -/
def dropStale (name : String) (routes : List VpcOverlayRoute) (k : NetKernel) : NetKernel :=
  ((listRoutes name k).filter fun r => showDst r.dst ∉ routes.map (·.subnet)).foldl
    (fun k r => k.delRoute r.dst name) k

/-- One `ip route replace`. -/
def installRoute (name : String) (k : NetKernel) (r : VpcOverlayRoute) :
    Except VxlanError NetKernel :=
  match dst? r.subnet with
  | none => .error (.invalid (.cidrAddress r.subnet))
  | some dst =>
    if h : name ∈ k.links.map Link.name then .ok (k.replaceRoute dst r.viaIp name h)
    else .error (.cannotFindDevice name)

def syncRoutes (name : String) (routes : List VpcOverlayRoute) (k : NetKernel) :
    Except VxlanError NetKernel :=
  routes.foldlM (installRoute name) (dropStale name routes k)

/-- The checks of `reconcile_overlay`. -/
def checkOverlay (o : VpcOverlayConfig) : Except NetError Unit := do
  validateIfaceName o.interfaceName
  validateIpv4Address o.localUnderlayIp
  validateIpv4Cidr o.localOverlayCidr
  o.peerUnderlayIps.forM validateIpv4Address
  o.routes.forM fun r => do
    validateIpv4Cidr r.subnet
    validateIpv4Address r.viaIp

def reconcileOverlay (k : NetKernel) (o : VpcOverlayConfig) : Except VxlanError NetKernel := do
  (checkOverlay o).mapError .invalid
  let k := if overlayNeedsRecreate o k then recreate o k else k
  let k := syncInterfaceAddress o.interfaceName o.localOverlayCidr k
  let k := linkUp o.interfaceName k
  let k := syncFdbEntries o.interfaceName o.peerUnderlayIps k
  syncRoutes o.interfaceName o.routes k

def managed (name : String) : Bool := decide ("qvx".toList <+: name.toList)

/-- `list_managed_interfaces` -/
def listManagedInterfaces (k : NetKernel) : List String := (k.links.map Link.name).filter managed

def deleteInterface (k : NetKernel) (name : String) : Except VxlanError NetKernel := do
  (validateIfaceName name).mapError .invalid
  .ok (k.delLink name)

def syncVpcOverlays (overlays : List VpcOverlayConfig) (k : NetKernel) :
    Except VxlanError NetKernel := do
  let k ← overlays.foldlM reconcileOverlay k
  ((listManagedInterfaces k).filter fun name => name ∉ overlays.map (·.interfaceName)).foldlM
    deleteInterface k

/-! ## Which route a prefix has -/

/-- The routes to a prefix that an overlay asks for, in order. -/
def installs (o : VpcOverlayConfig) (p : Dst) : List Route :=
  (o.routes.filter fun r => dst? r.subnet = some p).map fun r => ⟨p, some r.viaIp, o.interfaceName⟩

/-- The last one of them. -/
def installed (overlays : List VpcOverlayConfig) (p : Dst) : Option Route :=
  (overlays.flatMap (installs · p)).getLast?

/-- **What a command does to the routes to a prefix**: it leaves only one, or it only removes some
of the named interfaces. -/
def Moves (p : Dst) (devs : List String) (k k' : NetKernel) : Option Route → Prop
  | some r => r ∈ k'.routes ∧ ∀ x ∈ k'.routes, x.dst = p → x = r
  | none => (∀ x ∈ k'.routes, x.dst = p → x ∈ k.routes ∧ (x.via.isSome → x.dev ∉ devs)) ∧
      ∀ x ∈ k.routes, x.dst = p → x.dev ∉ devs → x ∈ k'.routes

section Moves

variable {p : Dst} {devs devs' : List String} {k k₁ k₂ : NetKernel} {e e' : Option Route}

/-- One after the other, where the second does not touch the interface of the first one's route. -/
lemma Moves.trans (h : Moves p devs k k₁ e) (h' : Moves p devs' k₁ k₂ e')
    (hapart : ∀ r ∈ e, r.dst = p ∧ r.dev ∉ devs') : Moves p (devs ++ devs') k k₂ (e'.or e) := by
  cases e' with
  | some r => exact h'
  | none =>
    cases e with
    | some r =>
      obtain ⟨hdst, hdev⟩ := hapart r rfl
      exact ⟨h'.2 r h.1 hdst hdev, fun x hx hp => h.2 x (h'.1 x hx hp).1 hp⟩
    | none =>
      refine ⟨fun x hx hp => ?_, fun x hx hp hdev => ?_⟩
      · obtain ⟨hx₁, hdev'⟩ := h'.1 x hx hp
        obtain ⟨hx, hdev⟩ := h.1 x hx₁ hp
        exact ⟨hx, fun hvia => by simp [hdev hvia, hdev' hvia]⟩
      · rw [List.mem_append, not_or] at hdev
        exact h'.2 x (h.2 x hx hp hdev.1) hp hdev.2

/-- A command that keeps the routes. -/
lemma Moves.of_routes_eq (h : k₁.routes = k.routes) : Moves p [] k k₁ none :=
  ⟨fun x hx _ => ⟨h ▸ hx, by simp⟩, fun x hx _ _ => h ▸ hx⟩

end Moves

lemma moves_installRoute {r : VpcOverlayRoute} (p : Dst) (h : installRoute name k r = .ok k') :
    Moves p [] k k' (if dst? r.subnet = some p then some ⟨p, some r.viaIp, name⟩ else none) := by
  unfold installRoute at h
  split at h
  · cases h
  · rename_i dst hdst
    split_ifs at h with hdev
    cases h
    rw [hdst]
    by_cases hp : dst = p
    · subst hp
      rw [if_pos rfl]
      refine ⟨List.mem_cons_self, fun x hx hp => ?_⟩
      rcases List.mem_cons.1 hx with rfl | hx
      · rfl
      · simp [hp] at hx
    · rw [if_neg (by simpa using hp)]
      refine ⟨fun x hx hxp => ⟨?_, by simp⟩, fun x hx hxp _ => ?_⟩
      · rcases List.mem_cons.1 hx with rfl | hx
        · exact absurd hxp hp
        · exact List.mem_of_mem_filter hx
      · refine List.mem_cons_of_mem _ (List.mem_filter.2 ⟨hx, ?_⟩)
        simpa [hxp] using fun heq : p = dst => hp heq.symm

/-- The loop of `ip route replace`: the last one for a prefix stays. -/
lemma moves_installRoutes (p : Dst) : ∀ {routes : List VpcOverlayRoute}
    {k k' : NetKernel}, routes.foldlM (installRoute name) k = .ok k' →
    Moves p [] k k' ((routes.filter fun r => dst? r.subnet = some p).map fun r =>
      (⟨p, some r.viaIp, name⟩ : Route)).getLast?
  | [], k, k', h => by
      cases h
      exact .of_routes_eq rfl
  | r :: routes, k, k', h => by
      obtain ⟨k₁, h₁, h⟩ := except_bind_eq_ok.1 h
      have hmove := (moves_installRoute p h₁).trans (moves_installRoutes p h) (by
        intro x hx
        split_ifs at hx
        · cases hx
          simp
        · cases hx)
      by_cases hp : dst? r.subnet = some p
      · simpa [hp, List.getLast?_cons] using hmove
      · simpa [hp] using hmove

lemma mem_routes_delRoutes : ∀ {stale : List Route} {k : NetKernel},
    x ∈ (stale.foldl (fun k r => k.delRoute r.dst name) k).routes ↔
      x ∈ k.routes ∧ (x.dev = name → x.via.isSome → ∀ r ∈ stale, x.dst ≠ r.dst)
  | [], k => by simp
  | r :: stale, k => by
      rw [List.foldl_cons, mem_routes_delRoutes]
      simp only [NetKernel.delRoute, List.mem_filter, List.mem_cons, forall_eq_or_imp]
      by_cases hdev : x.dev = name <;> by_cases hvia : x.via.isSome = true <;>
        simp [hdev, hvia, and_assoc]

/-- A block that is printed as an accepted text is the block of that text. -/
lemma dst?_showDst {dst : Dst} (h : (dst? (showDst dst)).isSome) :
    dst? (showDst dst) = some dst := by
  have hslash : '/' ∉ (renderIpv4 dst.val.addr).toList :=
    not_mem_renderIpv4 (by decide) (by decide) _
  unfold showDst at h ⊢
  split_ifs at h ⊢ with hdefault hhost
  · exact absurd h (by decide +kernel)
  · simp [dst?, parseCidr, readCidr, hslash, Except.toOption] at h
  · have hparse : parseCidr (renderCidr dst.val) = some dst.val :=
      parseCidr_text (parseIpv4_renderIpv4 _) _
    simpa [dst?, hparse] using Subtype.ext dst.property

/-- No route to a prefix that is not wanted is left on the interface. -/
lemma mem_routes_dropStale {routes : List VpcOverlayRoute}
    (hread : ∀ r ∈ routes, (dst? r.subnet).isSome) {p : Dst}
    (hp : ∀ r ∈ routes, dst? r.subnet ≠ some p) (hx : x.dst = p) :
    x ∈ (dropStale name routes k).routes ↔ x ∈ k.routes ∧ (x.via.isSome → x.dev ≠ name) := by
  have hshow : showDst x.dst ∉ routes.map (·.subnet) := by
    rintro hmem
    obtain ⟨r, hr, htext⟩ := List.mem_map.1 hmem
    refine hp r hr ?_
    rw [htext, ← hx]
    exact dst?_showDst (htext ▸ hread r hr)
  rw [dropStale, mem_routes_delRoutes]
  refine and_congr_right fun hmem =>
    ⟨fun h hvia hdev => ?_, fun h hdev hvia => absurd hdev (h hvia)⟩
  refine h hdev hvia x ?_ rfl
  simpa [listRoutes, hmem, hdev, hvia] using hshow

/-- An accepted overlay has readable subnets. -/
lemma dst?_of_checkOverlay {u : Unit} (h : checkOverlay o = .ok u) :
    ∀ r ∈ o.routes, (dst? r.subnet).isSome := by
  obtain ⟨_, -, h⟩ := except_bind_eq_ok.1 h
  obtain ⟨_, -, h⟩ := except_bind_eq_ok.1 h
  obtain ⟨_, -, h⟩ := except_bind_eq_ok.1 h
  obtain ⟨_, -, h⟩ := except_bind_eq_ok.1 h
  intro r hr
  obtain ⟨_, h, -⟩ := except_bind_eq_ok.1 (except_forM_eq_ok.1 h r hr)
  obtain ⟨c, hc⟩ := parseCidr_of_validate h
  simp [dst?, hc]

/-- The interface as it is before its routes are written. -/
def prepare (o : VpcOverlayConfig) (k : NetKernel) : NetKernel :=
  syncFdbEntries o.interfaceName o.peerUnderlayIps (linkUp o.interfaceName
    (syncInterfaceAddress o.interfaceName o.localOverlayCidr
      (if overlayNeedsRecreate o k then recreate o k else k)))

lemma reconcileOverlay_ok (h : reconcileOverlay k o = .ok k') :
    checkOverlay o = .ok () ∧ syncRoutes o.interfaceName o.routes (prepare o k) = .ok k' := by
  obtain ⟨u, hcheck, h⟩ := except_bind_eq_ok.1 h
  refine ⟨?_, h⟩
  cases hc : checkOverlay o with
  | ok _ => rfl
  | error e => simp [hc, Except.mapError] at hcheck

/-- Recreating an interface drops its routes. -/
lemma mem_routes_prepare :
    (x ∈ (prepare o k).routes → x ∈ k.routes) ∧
      (x ∈ k.routes → x.dev ≠ o.interfaceName → x ∈ (prepare o k).routes) := by
  have hroutes : (prepare o k).routes =
      (if overlayNeedsRecreate o k then recreate o k else k).routes :=
    rfl
  rw [hroutes]
  split_ifs
  · exact ⟨List.mem_of_mem_filter, fun hx hdev => List.mem_filter.2 ⟨hx, by simpa using hdev⟩⟩
  · exact ⟨id, fun hx _ => hx⟩

lemma moves_reconcileOverlay (p : Dst) (h : reconcileOverlay k o = .ok k') :
    Moves p [o.interfaceName] k k' (installs o p).getLast? := by
  obtain ⟨hcheck, h⟩ := reconcileOverlay_ok h
  have hmove : Moves p [] (dropStale o.interfaceName o.routes (prepare o k)) k'
      (installs o p).getLast? := moves_installRoutes p h
  cases hlast : (installs o p).getLast? with
  | some r =>
    rw [hlast] at hmove
    exact hmove
  | none =>
    rw [hlast] at hmove
    have hnone : ∀ r ∈ o.routes, dst? r.subnet ≠ some p := by simpa [installs] using hlast
    have hstale : ∀ x : Route, x.dst = p →
        (x ∈ (dropStale o.interfaceName o.routes (prepare o k)).routes ↔
          x ∈ (prepare o k).routes ∧ (x.via.isSome → x.dev ≠ o.interfaceName)) :=
      fun x hx => mem_routes_dropStale (dst?_of_checkOverlay hcheck) hnone hx
    refine ⟨fun x hx hp => ?_, fun x hx hp hdev => ?_⟩
    · obtain ⟨hx, hdev⟩ := (hstale x hp).1 (hmove.1 x hx hp).1
      exact ⟨mem_routes_prepare.1 hx, by simpa using hdev⟩
    · rw [List.mem_singleton] at hdev
      exact hmove.2 x ((hstale x hp).2 ⟨mem_routes_prepare.2 hx hdev, fun _ => hdev⟩) hp (by simp)

lemma mem_installs {p : Dst} {r : Route} :
    r ∈ installs o p ↔ ∃ w ∈ o.routes, dst? w.subnet = some p ∧
      r = ⟨p, some w.viaIp, o.interfaceName⟩ := by
  simp [installs, and_assoc, eq_comm]

/-- The loop over the overlays. -/
lemma moves_reconcileOverlays (p : Dst) : ∀ {overlays : List VpcOverlayConfig} {k k' : NetKernel},
    (overlays.map (·.interfaceName)).Nodup → overlays.foldlM reconcileOverlay k = .ok k' →
    Moves p (overlays.map (·.interfaceName)) k k' (installed overlays p)
  | [], k, k', _, h => by
      cases h
      exact .of_routes_eq rfl
  | o :: overlays, k, k', hnodup, h => by
      obtain ⟨k₁, h₁, h⟩ := except_bind_eq_ok.1 h
      rw [List.map_cons, List.nodup_cons] at hnodup
      have hmove := (moves_reconcileOverlay p h₁).trans (moves_reconcileOverlays p hnodup.2 h) (by
        intro r hr
        obtain ⟨w, -, -, rfl⟩ := mem_installs.1 (List.mem_of_getLast? hr)
        exact ⟨rfl, hnodup.1⟩)
      rwa [installed, List.flatMap_cons, List.getLast?_append]

lemma mem_routes_deleteInterfaces : ∀ {names : List String} {k k' : NetKernel},
    names.foldlM deleteInterface k = .ok k' → (x ∈ k'.routes ↔ x ∈ k.routes ∧ x.dev ∉ names)
  | [], k, k', h => by
      cases h
      simp
  | name :: names, k, k', h => by
      obtain ⟨k₁, h₁, h⟩ := except_bind_eq_ok.1 h
      obtain ⟨u, -, h₁⟩ := except_bind_eq_ok.1 h₁
      cases h₁
      rw [mem_routes_deleteInterfaces h]
      simp [NetKernel.delLink, and_assoc]

/-- **The routes after a sync.**  A prefix has the route that was asked for last, and one that was
not asked for has no static route on an overlay interface. -/
def Leads (k : NetKernel) (p : Dst) : Option Route → Prop
  | some r => r ∈ k.routes ∧ ∀ x ∈ k.routes, x.dst = p → x = r
  | none => ∀ x ∈ k.routes, x.dst = p → x.via.isSome → managed x.dev = false

theorem syncVpcOverlays_routes {overlays : List VpcOverlayConfig}
    (hnodup : (overlays.map (·.interfaceName)).Nodup) (h : syncVpcOverlays overlays k = .ok k')
    (p : Dst) : Leads k' p (installed overlays p) := by
  obtain ⟨k₁, h₁, h⟩ := except_bind_eq_ok.1 h
  have hmove := moves_reconcileOverlays p hnodup h₁
  have hmem := fun x => mem_routes_deleteInterfaces (x := x) h
  cases hlast : installed overlays p with
  | some r =>
    rw [hlast] at hmove
    obtain ⟨o, ho, hr⟩ := List.mem_flatMap.1 (List.mem_of_getLast? hlast)
    obtain ⟨w, -, -, rfl⟩ := mem_installs.1 hr
    refine ⟨(hmem _).2 ⟨hmove.1, ?_⟩, fun x hx => hmove.2 x ((hmem x).1 hx).1⟩
    simp only [List.mem_filter, not_and]
    intro _
    simpa using ⟨o, ho, rfl⟩
  | none =>
    rw [hlast] at hmove
    intro x hx hp hvia
    obtain ⟨hx, hkept⟩ := (hmem x).1 hx
    have hdev := (hmove.1 x hx hp).2 hvia
    by_contra hmanaged
    refine hkept (List.mem_filter.2 ⟨List.mem_filter.2 ⟨k₁.devices x hx, ?_⟩, by simpa using hdev⟩)
    simpa using hmanaged

/-- Only readable subnets are accepted. -/
lemma dst?_of_reconcileOverlays : ∀ {overlays : List VpcOverlayConfig} {k k' : NetKernel},
    overlays.foldlM reconcileOverlay k = .ok k' → ∀ o ∈ overlays, ∀ r ∈ o.routes,
      (dst? r.subnet).isSome
  | [], _, _, _ => by simp
  | o :: overlays, k, k', h => by
      obtain ⟨k₁, h₁, h⟩ := except_bind_eq_ok.1 h
      rw [List.forall_mem_cons]
      exact ⟨dst?_of_checkOverlay (reconcileOverlay_ok h₁).1, dst?_of_reconcileOverlays h⟩

lemma dst?_of_syncVpcOverlays {overlays : List VpcOverlayConfig}
    (h : syncVpcOverlays overlays k = .ok k') :
    ∀ o ∈ overlays, ∀ r ∈ o.routes, (dst? r.subnet).isSome := by
  obtain ⟨k₁, h₁, -⟩ := except_bind_eq_ok.1 h
  exact dst?_of_reconcileOverlays h₁

end Vxlan

end Qarax
