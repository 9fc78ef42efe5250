import Qarax.Node.Networking.VmFirewall

/-!
# What the chains of a VM decide

The rules a sync writes mean what the security groups say: `compiled_admits` for one rule,
`childRules_verdict` for a child chain, and `syncVmFirewall_refines_policy` for the parents, from
any ruleset that requests can leave behind.
-/

namespace Qarax

open Netfilter

/-! ## One rule -/

/-- The remote end of a packet, seen from the VM. -/
def Packet.remote (p : Packet) : FirewallDirection → Ipv4
  | .ingress => p.src
  | .egress => p.dst

lemma toProto_protocol (r : SecurityGroupRule) (p : Packet) :
    r.toProto.protocolOrDefault.arg.all (· == p.proto) = true ↔ r.protocol.Covers p.proto := by
  unfold VmFirewallRule.protocolOrDefault SecurityGroupRule.toProto
  cases r.protocol with
  | any => simp [firewallProtocolToProto, FirewallProtocol.tryFrom, FirewallProtocol.arg,
      SecurityGroupProtocol.Covers]
  | tcp | udp | icmp => exact beq_iff_eq.trans eq_comm

/-- Ports are only given with a protocol that has them, so none are dropped on the way. -/
lemma toProto_dportArg (r : SecurityGroupRule) (lo hi : ℤ) :
    r.toProto.dportArg = some (lo, hi) ↔ r.portStart = some lo ∧ r.portEnd = some hi := by
  have hports := r.protocol_ports
  unfold VmFirewallRule.dportArg VmFirewallRule.protocolOrDefault SecurityGroupRule.toProto
  simp only
  revert hports
  rcases r.protocol <;> rcases r.portStart with _ | a <;> rcases r.portEnd with _ | b <;>
    simp [firewallProtocolToProto, FirewallProtocol.tryFrom]

/-- **A rule that `iptables` read accepts what the security group rule admits.** -/
theorem compiled_admits {r : SecurityGroupRule} {c : Rule} (h : r.toProto.args.read = .ok c)
    (p : Packet) :
    c.target = accept ∧
      (c.cond.holds p = true ↔ r.Admits p (p.remote r.direction.onNode)) := by
  have ports := toProto_dportArg r
  have proto := toProto_protocol r p
  obtain ⟨src, dst, dport, hs, hd, hp, rfl⟩ := Args.read_ok h
  unfold VmFirewallRule.args at hs hd hp ⊢
  rw [toProto_direction] at hs hd hp ⊢
  cases hdir : r.direction with
  | ingress =>
    simp only [hdir, SecurityGroupDirection.onNode, toProto_cidrArg] at hs hd hp ⊢
    cases hd
    refine ⟨trivial, ?_⟩
    simp only [Match.holds, Bool.and_eq_true, block_all hs, ports_all hp, proto, ports]
    constructor
    · rintro ⟨⟨⟨⟨⟨⟨hb, -⟩, -⟩, -⟩, hq⟩, hr⟩, -⟩
      exact ⟨hq, hb, fun lo hi hlo hhi => hr lo hi ⟨hlo, hhi⟩⟩
    · rintro ⟨hq, hb, hr⟩
      exact ⟨⟨⟨⟨⟨⟨hb, rfl⟩, rfl⟩, rfl⟩, hq⟩, fun lo hi hlh => hr lo hi hlh.1 hlh.2⟩, rfl⟩
  | egress =>
    simp only [hdir, SecurityGroupDirection.onNode, toProto_cidrArg] at hs hd hp ⊢
    cases hs
    refine ⟨trivial, ?_⟩
    simp only [Match.holds, Bool.and_eq_true, block_all hd, ports_all hp, proto, ports]
    constructor
    · rintro ⟨⟨⟨⟨⟨⟨-, hb⟩, -⟩, -⟩, hq⟩, hr⟩, -⟩
      exact ⟨hq, hb, fun lo hi hlo hhi => hr lo hi ⟨hlo, hhi⟩⟩
    · rintro ⟨hq, hb, hr⟩
      exact ⟨⟨⟨⟨⟨⟨rfl, hb⟩, rfl⟩, rfl⟩, hq⟩, fun lo hi hlh => hr lo hi hlh.1 hlh.2⟩, rfl⟩

/-! ## One chain -/

/-- The rules of one direction: all of them accept, and together they accept what some rule of that
direction admits. -/
lemma compiled_any {rules : List SecurityGroupRule} {d : FirewallDirection} {cs : List Rule}
    (h : Compiled (rulesOf d (rules.map (·.toProto))) cs) (p : Packet) :
    (∀ c ∈ cs, c.target = accept) ∧
      ((cs.any fun c => c.cond.holds p) = true ↔
        ∃ r ∈ rules, r.direction.onNode = d ∧ r.Admits p (p.remote d)) := by
  induction rules generalizing cs with
  | nil =>
    obtain rfl : cs = [] := by simpa [Compiled, rulesOf] using h
    simp
  | cons r rules ih =>
    by_cases hd : r.direction.onNode = d
    · have hsplit : rulesOf d ((r :: rules).map (·.toProto))
          = r.toProto :: rulesOf d (rules.map (·.toProto)) := by
        simp [rulesOf, hd]
      rw [hsplit] at h
      cases cs with
      | nil => simp [Compiled] at h
      | cons c cs =>
        obtain ⟨hc, hcs⟩ : r.toProto.args.read = .ok c ∧
            Compiled (rulesOf d (rules.map (·.toProto))) cs := by
          simpa [Compiled] using h
        obtain ⟨ht, hany⟩ := ih hcs
        obtain ⟨hct, hch⟩ := compiled_admits hc p
        rw [hd] at hch
        refine ⟨List.forall_mem_cons.2 ⟨hct, ht⟩, ?_⟩
        rw [List.any_cons, Bool.or_eq_true, hany, hch]
        simp [hd]
    · have hsplit : rulesOf d ((r :: rules).map (·.toProto))
          = rulesOf d (rules.map (·.toProto)) := by
        simp [rulesOf, hd]
      rw [hsplit] at h
      obtain ⟨ht, hany⟩ := ih h
      refine ⟨ht, ?_⟩
      rw [hany]
      simp [hd]

/-- A child chain accepts known connections and what one of its rules accepts; the rest gets the
default. -/
lemma childRules_verdict {cs : List Rule} (ht : ∀ c ∈ cs, c.target = accept) (v : Verdict)
    (call : String → Option Verdict) (p : Packet) :
    scan Match.holds call p (childRules cs (.verdict v)) =
      some (if p.established = true ∨ (cs.any fun c => c.cond.holds p) = true then .accept
        else v) := by
  have hall : ∀ c ∈ establishedRule :: cs, c.target = .verdict .accept := by
    exact List.forall_mem_cons.2 ⟨rfl, ht⟩
  have hest : establishedRule.cond.holds p = p.established := by
    simp [establishedRule, Match.holds]
  have hlast : scan Match.holds call p [⟨{}, .verdict v⟩] = some v :=
    scan_cons_verdict (by simp [Match.holds]) rfl
  rw [childRules, scan_verdicts hall, hlast, List.any_cons, hest]
  by_cases h : p.established = true ∨ (cs.any fun c => c.cond.holds p) = true
  · rw [if_pos (by simpa using h), if_pos h]
  · rw [if_neg (by simpa using h), if_neg h]

/-! ## Parents -/

/-- A parent answers what its child answers. -/
lemma traverse_parent {t : Table} {parent child : String} {rs : List Rule} {p : Packet}
    {v : Verdict} (hp : t.lookup parent = some [⟨{}, .jump child⟩])
    (hc : t.lookup child = some rs) (hv : ∀ call, scan Match.holds call p rs = some v) (n : ℕ) :
    traverse Match.holds t.body p (n + 2) parent = some v := by
  rw [Netfilter.traverse, Table.body_of_lookup hp]
  refine scan_cons_jump (by simp [Match.holds]) rfl ?_
  rw [Netfilter.traverse, Table.body_of_lookup hc]
  exact hv _

lemma parent_ne_child {p a b c : String} (h : ParentOf p a b) (hc : c = a ∨ c = b) : p ≠ c := by
  cases h with
  | out s => rcases hc with rfl | rfl <;> exact tag_append_ne s s (by simp) (by decide)
  | inn s => rcases hc with rfl | rfl <;> exact tag_append_ne s s (by simp) (by decide)

/-- A parent decides nothing, or every packet as one and the same child does. -/
def DecidesAsOneChild (t : Table) (parent a b : String) : Prop :=
  (∀ p n, traverse Match.holds t.body p (n + 1) parent = none) ∨
    ∃ child ∈ [a, b], ∀ p n,
      traverse Match.holds t.body p (n + 1) parent = traverse Match.holds t.body p n child

/-- **Old and new rules never mix** in a ruleset that requests can leave behind, also if one of them
was stopped at some command. -/
theorem parent_decides_as_one_child {s : NetState} {parent a b : String} (hs : Reachable s)
    (hp : ParentOf parent a b) : DecidesAsOneChild s.filter parent a b := by
  have hbody : OneJump a b (s.filter.body parent) := by
    cases hl : s.filter.lookup parent with
    | none => exact .inl (by simp [Table.body, hl])
    | some rs => exact Table.body_of_lookup hl ▸ hs.parentsOk parent a b hp rs hl
  rcases hbody with h | h | h
  · exact .inl fun p n => by rw [Netfilter.traverse, h, scan_nil]
  · exact .inr ⟨a, by simp, fun p n => by simp [Netfilter.traverse, h, scan, Match.holds]⟩
  · exact .inr ⟨b, by simp, fun p n => by simp [Netfilter.traverse, h, scan, Match.holds]⟩

section Synced

variable {vmId nextIn nextOut : String} {interfaces : List PolicyInterface} {t : Table}

lemma flatMap_toProto (interfaces : List PolicyInterface) :
    (interfaces.map (·.toProto)).flatMap (·.rules)
      = (interfaces.flatMap (·.rules)).map (·.toProto) := by
  simp [List.flatMap_map, List.map_flatMap, PolicyInterface.toProto]

open scoped Classical in
lemma egressDefault_eq (interfaces : List PolicyInterface) :
    egressDefault ((interfaces.map (·.toProto)).flatMap (·.rules)) =
      .verdict (if ∃ r ∈ interfaces.flatMap (·.rules), r.direction = .egress then .drop
        else .accept) := by
  rw [flatMap_toProto, egressDefault]
  split_ifs with h₁ h₂ h₂
  · rfl
  · simp at h₁ h₂
    grind
  · simp at h₁ h₂
    grind
  · rfl

variable (h : Synced (.new vmId) ((interfaces.map (·.toProto)).flatMap (·.rules)) nextIn nextOut t)

include h

/-- **What the incoming parent decides**, two jumps or more below the limit on their depth. -/
lemma Synced.ingress_traverse (p : Packet) (n : ℕ) :
    (IngressAllows (interfaces.flatMap (·.rules)) p →
        traverse Match.holds t.body p (n + 2) (VmFirewallChains.new vmId).inParent
          = some .accept) ∧
      (¬ IngressAllows (interfaces.flatMap (·.rules)) p →
        traverse Match.holds t.body p (n + 2) (VmFirewallChains.new vmId).inParent
          = some .drop) := by
  obtain ⟨cs, hcs, hl⟩ := h.children.ingress
  rw [flatMap_toProto] at hcs
  obtain ⟨ht, hany⟩ := compiled_any hcs p
  have hallow : IngressAllows (interfaces.flatMap (·.rules)) p ↔
      p.established = true ∨ (cs.any fun c => c.cond.holds p) = true := by
    simp only [hany, IngressAllows, onNode_eq_ingress, Packet.remote]
  rw [traverse_parent h.inParent hl (childRules_verdict ht .drop · p), hallow]
  constructor
  · intro hp
    rw [if_pos hp]
  · intro hp
    rw [if_neg hp]

lemma Synced.egress_traverse (p : Packet) (n : ℕ) :
    (EgressAllows (interfaces.flatMap (·.rules)) p →
        traverse Match.holds t.body p (n + 2) (VmFirewallChains.new vmId).outParent
          = some .accept) ∧
      (¬ EgressAllows (interfaces.flatMap (·.rules)) p →
        traverse Match.holds t.body p (n + 2) (VmFirewallChains.new vmId).outParent
          = some .drop) := by
  obtain ⟨cs, hcs, hl⟩ := h.children.egress
  rw [flatMap_toProto] at hcs
  obtain ⟨ht, hany⟩ := compiled_any hcs p
  rw [egressDefault_eq] at hl
  rw [traverse_parent h.outParent hl (childRules_verdict ht _ · p)]
  have hrule : (cs.any fun c => c.cond.holds p) = true ↔
      ∃ r ∈ interfaces.flatMap (·.rules), r.direction = .egress ∧ r.Admits p p.dst := by
    simpa only [onNode_eq_egress, Packet.remote] using hany
  constructor
  · rintro (hp | hp | hp)
    · rw [if_pos (.inl hp)]
    · rw [if_pos (.inr (hrule.2 hp))]
    · have hno : ¬ ∃ r ∈ interfaces.flatMap (·.rules), r.direction = .egress := by
        rintro ⟨r, hr, hd⟩
        exact hp r hr hd
      rw [if_neg hno, ite_self]
  · intro hp
    rw [EgressAllows, not_or, not_or, ← hrule] at hp
    obtain ⟨hest, hrule, hsome⟩ := hp
    have hyes : ∃ r ∈ interfaces.flatMap (·.rules), r.direction = .egress := by
      by_contra hno
      exact hsome fun r hr hd => hno ⟨r, hr, hd⟩
    rw [if_neg (not_or.2 ⟨hest, hrule⟩), if_pos hyes]

/-- A parent and its child are two chains. -/
lemma Synced.depth :
    ∃ n, t.entries.length = n + 2 := by
  have hne := parent_ne_child (parentOf_in vmId) h.mem_in
  obtain ⟨cs, -, hl⟩ := h.children.ingress
  have hlen : 2 ≤ t.entries.length := by
    refine Table.length_le (show [(VmFirewallChains.new vmId).inParent, nextIn].Nodup by
      simp [hne]) ?_
    intro c hmem
    rcases List.mem_pair.1 hmem with rfl | rfl
    · exact Table.mem_of_lookup h.inParent
    · exact Table.mem_of_lookup hl
  exact ⟨_, (Nat.sub_add_cancel hlen).symm⟩

end Synced

/-- **A synced VM firewall is its policy.**  From any ruleset that requests can leave behind,
complete or not, a successful sync makes the incoming parent accept exactly the traffic the ingress
policy allows and the outgoing parent exactly the traffic the egress policy allows; everything else
is dropped.  Each parent holds one jump, to one child. -/
theorem syncVmFirewall_refines_policy {s s' : NetState} (hs : Reachable s) (vmId : String)
    (interfaces : List PolicyInterface) (hne : interfaces ≠ [])
    (h : syncVmFirewall vmId (interfaces.map (·.toProto)) s = (.ok (), s')) :
    (∀ p, (IngressAllows (interfaces.flatMap (·.rules)) p →
        s'.filter.verdict p (VmFirewallChains.new vmId).inParent = some .accept) ∧
      (¬ IngressAllows (interfaces.flatMap (·.rules)) p →
        s'.filter.verdict p (VmFirewallChains.new vmId).inParent = some .drop)) ∧
    (∀ p, (EgressAllows (interfaces.flatMap (·.rules)) p →
        s'.filter.verdict p (VmFirewallChains.new vmId).outParent = some .accept) ∧
      (¬ EgressAllows (interfaces.flatMap (·.rules)) p →
        s'.filter.verdict p (VmFirewallChains.new vmId).outParent = some .drop)) ∧
    (∃ child ∈ [(VmFirewallChains.new vmId).inA, (VmFirewallChains.new vmId).inB],
      s'.filter.lookup (VmFirewallChains.new vmId).inParent = some [⟨{}, .jump child⟩]) ∧
    (∃ child ∈ [(VmFirewallChains.new vmId).outA, (VmFirewallChains.new vmId).outB],
      s'.filter.lookup (VmFirewallChains.new vmId).outParent = some [⟨{}, .jump child⟩]) := by
  obtain ⟨nextIn, nextOut, hsync⟩ :=
    syncVmFirewall_synced (by simpa using hne) hs.parentsOk h
  obtain ⟨n, hn⟩ := hsync.depth
  simp only [Table.verdict, hn]
  refine ⟨fun p => hsync.ingress_traverse p n, fun p => hsync.egress_traverse p n,
    ⟨nextIn, ?_, hsync.inParent⟩, ⟨nextOut, ?_, hsync.outParent⟩⟩
  · simpa using hsync.mem_in
  · simpa using hsync.mem_out

/-! A web server behind one rule, on a node where an earlier sync of its firewall failed on the
way. -/

def webRule : SecurityGroupRule where
  direction := .ingress
  protocol := .tcp
  cidr := some "10.0.0.0/8"
  portStart := some 80
  portEnd := some 443
  cidr_ne := by decide
  ports_positive := by rintro n ⟨⟩; decide
  port_range := by rintro n ⟨⟩; decide
  ports_pair := .inr (by decide)
  protocol_ports := .inl (.inl rfl)

def webInterface : PolicyInterface := ⟨"br0", "10.1.0.5", [webRule]⟩

def halfSynced : NetState :=
  ((Call.syncVmFirewall "6f1c2d3e" [webInterface.toProto]).run
    (.fresh (List.replicate 11 false ++ [true]))).2

theorem halfSynced_resync_accepts :
    (syncVmFirewall "6f1c2d3e" ([webInterface].map (·.toProto)) halfSynced).2.filter.verdict
      ⟨167772161, 167837701, "br1", "br0", .tcp, 80, false⟩
      (VmFirewallChains.new "6f1c2d3e").inParent = some .accept := by
  have hok : (syncVmFirewall "6f1c2d3e" ([webInterface].map (·.toProto)) halfSynced).1
      = .ok () := by
    decide +kernel
  have hs : Reachable halfSynced := .call _ (.fresh _)
  have h := syncVmFirewall_refines_policy hs "6f1c2d3e" [webInterface] (by simp)
    (Proc.run_of_fst hok)
  refine (h.1 _).1 (.inr ⟨webRule, by simp [webInterface], rfl, rfl, ?_, ?_⟩)
  · rintro text ⟨⟩
    exact ⟨⟨167772160, 8⟩, by decide +kernel, by decide +kernel⟩
  · rintro lo hi ⟨⟩ ⟨⟩
    decide

theorem halfSynced_decides_as_one_child :
    DecidesAsOneChild halfSynced.filter "QXVMI6f1c2d3e" "QXVIA6f1c2d3e" "QXVIB6f1c2d3e" :=
  parent_decides_as_one_child (.call _ (.fresh _)) (.inn "6f1c2d3e")

end Qarax
