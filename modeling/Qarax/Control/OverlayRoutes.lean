import Qarax.Control.VpcOverlay

/-!
# Where overlay routes lead

After every participant of a VPC has been sent its overlays, a subnet of the VPC should have a route
on each participant that does not have the network itself, and the route should lead to the host
that does. But a route is for a subnet and not for a VM: a network that is attached to two hosts
gives each of them a route to the other, and everyone else the one of them that was written last.

The kernel has one table for all VPCs.  What a host is told for one VPC can take the place of what
it was told for another one, in the order of the VPC names.

* `Reaches` — what the routes are for.
* `unambiguous` — no participant is told another way to a subnet of the VPC.
* `overlay_routes_reach` — the routes do what they are for exactly then.
-/

namespace Qarax

namespace Vpc

open Vxlan

/-- The host has been sent its overlays as the tables give them, whatever was there before. -/
def Synced (env : Env) (t : Tables) (host : Host) (k : NetKernel) : Prop :=
  ∃ before cs, overlaysForHost env host t.listAttached = .ok cs ∧
    syncVpcOverlays cs before = .ok k

/-- The route of a packet: that of the longest prefix its destination is in. -/
def lookup (k : NetKernel) (ip : Ipv4) : Option Route :=
  (k.routes.filter (·.dst.val.contains ip)).argmax fun r => r.dst.val.len.val

/-- **The routes of a VPC**, on each of its hosts. -/
structure Reaches (env : Env) (t : Tables) (v : String) (kernel : Uuid → NetKernel) : Prop where
  /-- A subnet that the host has itself has no overlay route. -/
  own : ∀ a ∈ hostOrder t.listAttached v, ∀ x ∈ inVpc t.listAttached v, x.hostId = a →
    ∀ p, dst? x.network.subnet = some p → Vxlan.Leads (kernel a) p none
  /-- Another subnet leads to a host that the network is attached to. -/
  other : ∀ a ∈ hostOrder t.listAttached v, ∀ x ∈ inVpc t.listAttached v,
    (∀ y ∈ t.listAttached, y.network.id = x.network.id → y.hostId ≠ a) →
    ∃ p, dst? x.network.subnet = some p ∧ ∃ y ∈ t.listAttached, y.network.id = x.network.id ∧
      Vxlan.Leads (kernel a) p
        (some ⟨p, some (address env t.listAttached v y.hostId), env.overlayInterfaceName v⟩)
  /-- A VM on one of several hosts of a network is reached there. -/
  several : ∀ a ∈ hostOrder t.listAttached v, ∀ x ∈ inVpc t.listAttached v,
    ∀ y ∈ t.listAttached, y.network.id = x.network.id → y.hostId ≠ x.hostId → x.hostId ≠ a →
    ∀ p, dst? x.network.subnet = some p → ∀ ip, p.val.contains ip = true →
      ∃ r, lookup (kernel a) ip = some r ∧ r.dev = env.overlayInterfaceName v ∧
        r.via = some (address env t.listAttached v x.hostId)

/-- **No other way to a subnet of the VPC**: when a participant is told to reach the subnet of an
attachment over an overlay, it does not have that subnet itself, and it is told so for the host of
the attachment or for a VPC that comes before. -/
def unambiguous (attached : List AttachedNetwork) (v : String) : Bool :=
  (hostOrder attached v).all fun a => (inVpc attached v).all fun x =>
    (localVpcs attached a).all fun w => (inVpc attached w).all fun y =>
      decide (y.hostId = a) || decide (dst? y.network.subnet ≠ dst? x.network.subnet) ||
        (decide (x.hostId ≠ a) && (decide (w < v) || decide (w = v ∧ y.hostId = x.hostId)))

/-- The VPCs of a participant have interfaces of their own. -/
def NamesApart (env : Env) (attached : List AttachedNetwork) (v : String) : Prop :=
  ∀ a ∈ hostOrder attached v, ∀ u ∈ localVpcs attached a, ∀ w ∈ localVpcs attached a,
    env.overlayInterfaceName u = env.overlayInterfaceName w → u = w

lemma unambiguous_iff {attached : List AttachedNetwork} {v : String} :
    unambiguous attached v = true ↔
      ∀ a ∈ hostOrder attached v, ∀ x ∈ inVpc attached v, ∀ w ∈ localVpcs attached a,
        ∀ y ∈ inVpc attached w, y.hostId ≠ a → dst? y.network.subnet = dst? x.network.subnet →
          x.hostId ≠ a ∧ (w < v ∨ w = v ∧ y.hostId = x.hostId) := by
  simp only [unambiguous, List.all_eq_true, Bool.or_eq_true, Bool.and_eq_true, decide_eq_true_eq]
  refine forall₄_congr fun a _ x _ => forall₄_congr fun w _ y _ => ?_
  tauto

/-! ## What a host was told -/

variable {w : String} {y : AttachedNetwork} {p : Dst} {k : NetKernel}

section Told

variable {env : Env} {t : Tables} {v : String} {host : Host} {cs : List VpcOverlayConfig}

/-- A subnet that another participant of one of the host's VPCs has. -/
structure Remote (t : Tables) (a : Uuid) (w : String) (y : AttachedNetwork) (p : Dst) : Prop where
  vpc : w ∈ localVpcs t.listAttached a
  mem : y ∈ inVpc t.listAttached w
  ne : y.hostId ≠ a
  dst : dst? y.network.subnet = some p

/-- The overlay that a remote subnet is told in. -/
lemma config_of_remote (h : overlaysForHost env host t.listAttached = .ok cs)
    (hw : w ∈ localVpcs t.listAttached host.id) (hy : y ∈ inVpc t.listAttached w)
    (hne : y.hostId ≠ host.id) : ∃ c ∈ cs, Config env t.listAttached w host c := by
  have hseveral := several_of_two (mem_localVpcs.1 hw) (mem_hostOrder.2 ⟨y, hy, rfl⟩) hne.symm
  obtain ⟨c, hc, hconfig⟩ := config_of_several h hw hseveral
  exact ⟨c, ((hc c).2 rfl).1, hconfig⟩

/-- What an overlay installs for a prefix comes from the remote subnets of its VPC. -/
lemma mem_installs_config {c : VpcOverlayConfig} {r : Route}
    (hconfig : Config env t.listAttached w host c) :
    r ∈ installs c p ↔ ∃ y, Remote t host.id w y p ∧
      r = ⟨p, some (address env t.listAttached w y.hostId), env.overlayInterfaceName w⟩ := by
  rw [mem_installs, hconfig.interfaceName]
  constructor
  · rintro ⟨route, hroute, hdst, rfl⟩
    obtain ⟨y, hy, hne, rfl⟩ := (hconfig.routes route).1 hroute
    exact ⟨y, ⟨mem_localVpcs.2 hconfig.participates, hy, hne, hdst⟩, rfl⟩
  · rintro ⟨y, hy, rfl⟩
    exact ⟨_, (hconfig.routes _).2 ⟨y, hy.mem, hy.ne, rfl⟩, hy.dst, rfl⟩

/-- **The route to a prefix** is to a remote subnet of the last VPC that has one. -/
lemma installed_cases (h : overlaysForHost env host t.listAttached = .ok cs) (p : Dst) :
    (installed cs p = none ∧ ∀ w y, ¬ Remote t host.id w y p) ∨
      ∃ w y, Remote t host.id w y p ∧ (∀ w' y', Remote t host.id w' y' p → w' ≤ w) ∧
        installed cs p
          = some ⟨p, some (address env t.listAttached w y.hostId), env.overlayInterfaceName w⟩ := by
  obtain ⟨hsorted, hmem⟩ := overlaysForHost_ok h
  have hconfig : ∀ c ∈ cs, Config env t.listAttached c.vpcName host c := by
    intro c hc
    obtain ⟨w, -, hw⟩ := (hmem c).1 hc
    have hconfig := overlayFor_ok hw
    exact hconfig.vpcName ▸ hconfig
  -- every remote subnet is installed by the overlay of its VPC
  have hinstalls : ∀ w y, Remote t host.id w y p → ∃ c ∈ cs, c.vpcName = w ∧ installs c p ≠ [] := by
    intro w y hy
    obtain ⟨c, hc, hw⟩ := config_of_remote h hy.vpc hy.mem hy.ne
    exact ⟨c, hc, hw.vpcName, List.ne_nil_of_mem ((mem_installs_config hw).2 ⟨y, hy, rfl⟩)⟩
  cases hlast : installed cs p with
  | none =>
    refine .inl ⟨rfl, fun w y hy => ?_⟩
    obtain ⟨c, hc, -, hne⟩ := hinstalls w y hy
    rw [installed, List.getLast?_eq_none_iff, List.flatMap_eq_nil_iff] at hlast
    exact hne (hlast c hc)
  | some r =>
    obtain ⟨c, hc, hr, hmax⟩ := Sorted.last_of_flatMap hsorted hlast
    obtain ⟨y, hy, rfl⟩ := (mem_installs_config (hconfig c hc)).1 hr
    refine .inr ⟨c.vpcName, y, hy, fun w' y' hy' => ?_, rfl⟩
    obtain ⟨c', hc', rfl, hne⟩ := hinstalls w' y' hy'
    rcases hmax c' hc' hne with rfl | hlt
    · exact le_rfl
    · exact hlt.le

/-- **The routes of a host that was synced.** -/
structure Routed (env : Env) (t : Tables) (a : Uuid) (k : NetKernel) : Prop where
  readable : ∀ w ∈ localVpcs t.listAttached a, ∀ y ∈ inVpc t.listAttached w, y.hostId ≠ a →
    ∃ p, dst? y.network.subnet = some p
  leads : ∀ p, (Vxlan.Leads k p none ∧ ∀ w y, ¬ Remote t a w y p) ∨
    ∃ w y, Remote t a w y p ∧ (∀ w' y', Remote t a w' y' p → w' ≤ w) ∧
      Vxlan.Leads k p
        (some ⟨p, some (address env t.listAttached w y.hostId), env.overlayInterfaceName w⟩)

lemma routed_of_synced (hsync : Synced env t host k)
    (hnames : ∀ u ∈ localVpcs t.listAttached host.id, ∀ w ∈ localVpcs t.listAttached host.id,
      env.overlayInterfaceName u = env.overlayInterfaceName w → u = w) :
    Routed env t host.id k := by
  obtain ⟨before, cs, hcs, hsync⟩ := hsync
  obtain ⟨hsorted, hmem⟩ := overlaysForHost_ok hcs
  have hnodup : (cs.map (·.interfaceName)).Nodup := by
    rw [List.nodup_iff_pairwise_ne, List.pairwise_map]
    refine hsorted.imp_of_mem fun {c c'} hc hc' hlt heq => ?_
    obtain ⟨w, hw, hc⟩ := (hmem c).1 hc
    obtain ⟨w', hw', hc'⟩ := (hmem c').1 hc'
    have hconfig := overlayFor_ok hc
    have hconfig' := overlayFor_ok hc'
    rw [hconfig.interfaceName, hconfig'.interfaceName] at heq
    rw [hconfig.vpcName, hconfig'.vpcName, hnames w hw w' hw' heq] at hlt
    exact lt_irrefl _ hlt
  constructor
  · intro w hw y hy hne
    obtain ⟨c, hc, hconfig⟩ := config_of_remote hcs hw hy hne
    let route : VpcOverlayRoute := ⟨y.network.subnet, address env t.listAttached w y.hostId⟩
    have hroute : route ∈ c.routes := (hconfig.routes route).2 ⟨y, hy, hne, rfl⟩
    exact Option.isSome_iff_exists.1 (dst?_of_syncVpcOverlays hsync c hc route hroute)
  · intro p
    have hleads := syncVpcOverlays_routes hnodup hsync p
    rcases installed_cases hcs p with ⟨hnone, hremote⟩ | ⟨w, y, hy, hmax, hlast⟩
    · exact .inl ⟨hnone ▸ hleads, hremote⟩
    · exact .inr ⟨w, y, hy, hmax, hlast ▸ hleads⟩

/-- A remote subnet has a route on an overlay interface. -/
lemma Routed.not_leads_none {a : Uuid} (h : Routed env t a k) (hy : Remote t a w y p) :
    ¬ Vxlan.Leads k p none := by
  intro hnone
  rcases h.leads p with ⟨-, hremote⟩ | ⟨w', y', -, -, hr, -⟩
  · exact hremote w y hy
  · have hmanaged := hnone _ hr rfl rfl
    simp [managed, Env.overlayInterfaceName] at hmanaged

end Told

/-! ## Exactly when the routes lead where they should -/

section Iff

variable {env : Env} {t : Tables} {v : String} {kernel : Uuid → NetKernel}

/-- An attachment whose subnet another participant has too, as seen from its own host. -/
lemma Reaches.host_ne (hreach : Reaches env t v kernel)
    (hrouted : ∀ a ∈ hostOrder t.listAttached v, Routed env t a (kernel a)) {a : Uuid}
    (ha : a ∈ hostOrder t.listAttached v) {x : AttachedNetwork} (hx : x ∈ inVpc t.listAttached v)
    (hy : Remote t a w y p) (hp : dst? x.network.subnet = some p) : x.hostId ≠ a := fun hxa =>
  (hrouted a ha).not_leads_none hy (hreach.own a ha x hx hxa p hp)

lemma unambiguous_of_reaches (hreach : Reaches env t v kernel)
    (hrouted : ∀ a ∈ hostOrder t.listAttached v, Routed env t a (kernel a))
    (hnames : NamesApart env t.listAttached v) : unambiguous t.listAttached v = true := by
  refine unambiguous_iff.2 fun a ha x hx w hw y hy hya hsame => ?_
  obtain ⟨p, hp⟩ := (hrouted a ha).readable w hw y hy hya
  have hremote : Remote t a w y p := ⟨hw, hy, hya, hp⟩
  have hxp : dst? x.network.subnet = some p := hsame ▸ hp
  have hxa := hreach.host_ne hrouted ha hx hremote hxp
  refine ⟨hxa, ?_⟩
  -- nor is the network attached here by another row
  have haway : ∀ z ∈ t.listAttached, z.network.id = x.network.id → z.hostId ≠ a := by
    intro z hz hid
    have hnet := Tables.network_of_attached hz (mem_inVpc.1 hx).1 hid
    exact hreach.host_ne hrouted ha (mem_inVpc.2 ⟨hz, hnet ▸ (mem_inVpc.1 hx).2⟩) hremote
      (hnet ▸ hxp)
  obtain ⟨q, hq, z, -, -, hleads⟩ := hreach.other a ha x hx haway
  obtain rfl : p = q := Option.some.inj (hxp.symm.trans hq)
  rcases (hrouted a ha).leads p with ⟨-, hnone⟩ | ⟨w', y', hy', hmax, hleads'⟩
  · exact absurd hremote (hnone w y)
  -- the one route to the prefix is that of the last VPC, so this VPC is the last
  have hroute := hleads.2 _ hleads'.1 rfl
  simp only [Route.mk.injEq, true_and] at hroute
  have hlast : w' = v := hnames a ha w' hy'.vpc v (mem_localVpcs.2 ha) hroute.2
  rcases lt_or_eq_of_le (hlast ▸ hmax w y hremote) with hlt | rfl
  · exact .inl hlt
  · refine .inr ⟨rfl, ?_⟩
    by_contra hne
    have hx' := mem_hostOrder.2 ⟨x, hx, rfl⟩
    exact hreach.host_ne hrouted hx' hx ⟨mem_localVpcs.2 hx', hy, hne, hp⟩ hxp rfl

lemma reaches_of_unambiguous (hclear : unambiguous t.listAttached v = true)
    (hrouted : ∀ a ∈ hostOrder t.listAttached v, Routed env t a (kernel a)) :
    Reaches env t v kernel := by
  have hclear := unambiguous_iff.1 hclear
  refine ⟨fun a ha x hx hxa p hp => ?_, fun a ha x hx haway => ?_,
    fun a _ x hx y hy hid hne _ => ?_⟩
  · rcases (hrouted a ha).leads p with ⟨hnone, -⟩ | ⟨w, y, hy, -, -⟩
    · exact hnone
    · exact absurd hxa (hclear a ha x hx w hy.vpc y hy.mem hy.ne (hy.dst.trans hp.symm)).1
  · have hxa := haway x (mem_inVpc.1 hx).1 rfl
    obtain ⟨p, hp⟩ := (hrouted a ha).readable v (mem_localVpcs.2 ha) x hx hxa
    have hremote : Remote t a v x p := ⟨mem_localVpcs.2 ha, hx, hxa, hp⟩
    refine ⟨p, hp, x, (mem_inVpc.1 hx).1, rfl, ?_⟩
    rcases (hrouted a ha).leads p with ⟨-, hnone⟩ | ⟨w, y, hy, hmax, hleads⟩
    · exact absurd hremote (hnone v x)
    · have hor := (hclear a ha x hx w hy.vpc y hy.mem hy.ne (hy.dst.trans hp.symm)).2
      rcases hor with hlt | ⟨rfl, hhost⟩
      · exact absurd hlt (hmax v x hremote).not_gt
      · exact hhost ▸ hleads
  · have hnet := Tables.network_of_attached hy (mem_inVpc.1 hx).1 hid
    have hx' := mem_hostOrder.2 ⟨x, hx, rfl⟩
    have hy' : y ∈ inVpc t.listAttached v := mem_inVpc.2 ⟨hy, hnet ▸ (mem_inVpc.1 hx).2⟩
    exact absurd rfl (hclear _ hx' x hx v (mem_localVpcs.2 hx') y hy' hne (by rw [hnet])).1

/-- **Overlay routes lead to the right hosts** exactly when no participant is told two ways to a
subnet. -/
theorem overlay_routes_reach (env : Env) (t : Tables) (v : String) (kernel : Uuid → NetKernel)
    (hnames : NamesApart env t.listAttached v)
    (hsync : ∀ host ∈ t.hosts, host.id ∈ hostOrder t.listAttached v →
      Synced env t host (kernel host.id)) :
    Reaches env t v kernel ↔ unambiguous t.listAttached v = true := by
  have hrouted : ∀ a ∈ hostOrder t.listAttached v, Routed env t a (kernel a) := by
    intro a ha
    obtain ⟨x, hx, rfl⟩ := mem_hostOrder.1 ha
    obtain ⟨host, hhost, hid⟩ := Tables.host_of_attached (mem_inVpc.1 hx).1
    rw [← hid] at ha ⊢
    exact routed_of_synced (hsync host hhost ha) (hnames _ ha)
  exact ⟨fun h => unambiguous_of_reaches h hrouted hnames,
    fun h => reaches_of_unambiguous h hrouted⟩

end Iff

/-! ### Examples -/

/-- The kernel of a host after a sync, where the sync succeeds. -/
def syncFrom (env : Env) (t : Tables) (before : NetKernel) (host : Host) : Option NetKernel := do
  let cs ← (overlaysForHost env host t.listAttached).toOption
  (syncVpcOverlays cs before).toOption

lemma synced_of_syncFrom {env : Env} {t : Tables} {before : NetKernel} {host : Host}
    (h : syncFrom env t before host = some k) : Synced env t host k := by
  have hok : ∀ {ε α : Type} {x : Except ε α} {a : α}, x.toOption = some a → x = .ok a := by
    intro ε α x a hx
    cases x with
    | ok b => exact congrArg _ (Option.some.inj hx)
    | error e => cases hx
  obtain ⟨cs, hcs, hk⟩ := Option.bind_eq_some_iff.1 h
  exact ⟨before, cs, hok hcs, hok hk⟩

def noLinks : NetKernel := ⟨[], [], by simp⟩

/-- The kernels after every host was synced for the first time. -/
def firstKernel (env : Env) (t : Tables) (id : Uuid) : NetKernel :=
  ((t.host? id).bind (syncFrom env t noLinks)).getD noLinks

lemma synced_firstKernel {env : Env} {t : Tables} {host : Host}
    (h : ∀ h ∈ t.hosts, t.host? h.id = some h ∧ (syncFrom env t noLinks h).isSome = true)
    (hhost : host ∈ t.hosts) : Synced env t host (firstKernel env t host.id) := by
  obtain ⟨hfind, hsome⟩ := h host hhost
  obtain ⟨k, hk⟩ := Option.isSome_iff_exists.1 hsome
  refine synced_of_syncFrom (hk.trans ?_)
  simp [firstKernel, hfind, hk]

theorem lab_routes_reach :
    (labTables.listAttached.length = 2 ∧ unambiguous labTables.listAttached "demo" = true) ∧
      Reaches labEnv labTables "demo" (firstKernel labEnv labTables) := by
  have hclear : unambiguous labTables.listAttached "demo" = true := by decide +kernel
  refine ⟨⟨by decide +kernel, hclear⟩,
    (overlay_routes_reach labEnv labTables "demo" (firstKernel labEnv labTables) ?_ ?_).2 hclear⟩
  · unfold NamesApart
    decide +kernel
  · exact fun host hhost _ => synced_firstKernel (by decide +kernel) hhost

/-- **A network on two hosts.**  The first host sends packets for its own subnet to the second, and
the third host sends those for VMs on the first host to the second as well. -/
theorem network_on_two_hosts :
    (∀ host ∈ sharedTables.hosts, Synced labEnv sharedTables host
      (firstKernel labEnv sharedTables host.id)) ∧
    ((lookup (firstKernel labEnv sharedTables ⟨"h1"⟩) 0x0a0a0107).bind (·.via)
        = some (address labEnv sharedTables.listAttached "demo" ⟨"h2"⟩) ∧
      (lookup (firstKernel labEnv sharedTables ⟨"h3"⟩) 0x0a0a0107).bind (·.via)
        = some (address labEnv sharedTables.listAttached "demo" ⟨"h2"⟩)) ∧
    ¬ Reaches labEnv sharedTables "demo" (firstKernel labEnv sharedTables) := by
  refine ⟨fun host => synced_firstKernel (by decide +kernel), by decide +kernel, fun h => ?_⟩
  have hown := h.own ⟨"h1"⟩ (by decide +kernel)
    ⟨⟨"h1"⟩, "10.0.0.1", 50051,
      ⟨⟨"n1"⟩, "app", "10.10.1.0/24", some "demo", some "isolated"⟩, "qappa"⟩
    (by decide +kernel) rfl ⟨⟨0x0a0a0100, 24⟩, by decide⟩ (by decide +kernel)
  revert hown
  unfold Vxlan.Leads
  decide +kernel

end Vpc

end Qarax
