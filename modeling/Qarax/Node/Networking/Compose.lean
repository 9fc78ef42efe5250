import Mathlib.Data.List.Find
import Mathlib.Data.Set.Function
import Mathlib.Data.String.Basic
import Qarax.Node.Networking.FirewallPolicy
import Qarax.Node.Networking.ForwardJumps

/-!
# Several VMs on one node

A packet between VMs on different bridges meets two jumps in `FORWARD`: the one for traffic from its
sender and the one for traffic to its receiver.  Every parent chain of a VM has a verdict for every
packet, so the jump that stands first decides alone and the other VM is not asked.

* `outRule`, `inRule` — the jumps of an interface, as rules of the kernel.
* `kept_iff` — which jumps survive a sync.
* `OutFirst` — which of the two jumps stands first after a sync, read off the list before it.
* `FirewallRun` — successful syncs of any VMs, in any order.
-/

namespace Qarax

open Netfilter Proc

/-! ## The jumps of an interface -/

/-- A bridge name that stands for itself: no pattern, and no other word of a listed jump. -/
structure PlainBridge (name : String) : Prop where
  literal : name.toList.getLast? ≠ some '+'
  ne_forward : name ≠ "FORWARD"

def outRule (vmId bridge : String) (ip : Ipv4) : Rule :=
  ⟨{ src := some (.host ip), inIface := some bridge },
    .jump (VmFirewallChains.new vmId).outParent⟩

def inRule (vmId bridge : String) (ip : Ipv4) : Rule :=
  ⟨{ dst := some (.host ip), outIface := some (false, bridge) },
    .jump (VmFirewallChains.new vmId).inParent⟩

variable {name : String}

lemma PlainBridge.ne_plus (h : PlainBridge name) : name ≠ "+" := by
  rintro rfl
  exact h.literal rfl

lemma PlainBridge.matches (h : PlainBridge name) (other : String) :
    ifaceMatches name other = decide (name = other) := by
  rw [ifaceMatches, if_neg h.literal]

variable {ip : Ipv4}

lemma block_host {text : String} (h : parseIpv4 text = some ip) :
    Args.block (some (text ++ "/32")) = .ok (some (.host ip)) := by
  simp only [Args.block, parseCidr_host h, Cidr.host_network]
  rfl

lemma outJump_eq (vmId : String) {i : PolicyInterface} (hb : PlainBridge i.bridgeName)
    (hip : parseIpv4 i.ip = some ip) :
    (outJump (.new vmId) i.toProto).read = .ok (outRule vmId i.bridgeName ip) := by
  have hi : Args.iface (some i.bridgeName) = some i.bridgeName := by
    simp [Args.iface, hb.ne_plus]
  simp only [Args.read, outJump, PolicyInterface.toProto, block_host hip, hi, bind, Except.bind]
  rfl

lemma inJump_eq (vmId : String) {i : PolicyInterface} (hb : PlainBridge i.bridgeName)
    (hip : parseIpv4 i.ip = some ip) :
    (inJump (.new vmId) i.toProto).read = .ok (inRule vmId i.bridgeName ip) := by
  have ho : Option.filter (· ≠ (false, "+")) (some (false, i.bridgeName))
      = some (false, i.bridgeName) := by
    simp [hb.ne_plus]
  simp only [Args.read, inJump, PolicyInterface.toProto, block_host hip, ho, bind, Except.bind]
  rfl

/-- Interfaces a sync accepts, on plain bridges. -/
structure Sound (interfaces : List PolicyInterface) : Prop where
  plain : ∀ i ∈ interfaces, PlainBridge i.bridgeName
  name : ∀ i ∈ interfaces, IfaceName i.bridgeName
  address : ∀ i ∈ interfaces, ∃ ip, parseIpv4 i.ip = some ip

/-- One of the interfaces is on this bridge with this address. -/
def Owns (interfaces : List PolicyInterface) (bridge : String) (ip : Ipv4) : Prop :=
  ∃ i ∈ interfaces, i.bridgeName = bridge ∧ parseIpv4 i.ip = some ip

variable {vmId : String} {interfaces : List PolicyInterface}

/-- The jumps of a VM are those of the bridges and addresses it has. -/
lemma isJump_iff (h : Sound interfaces) {r : Rule} :
    IsJump vmId (interfaces.map (·.toProto)) r ↔
      ∃ bridge ip, Owns interfaces bridge ip ∧
        (r = inRule vmId bridge ip ∨ r = outRule vmId bridge ip) := by
  constructor
  · rintro ⟨_, hmem, hread⟩
    obtain ⟨i, hi, rfl⟩ := List.mem_map.1 hmem
    obtain ⟨ip, hip⟩ := h.address i hi
    refine ⟨i.bridgeName, ip, ⟨i, hi, rfl, hip⟩, ?_⟩
    rcases hread with hread | hread
    · have heq := inJump_eq vmId (h.plain i hi) hip
      exact .inl (Except.ok.inj (hread.symm.trans heq))
    · have heq := outJump_eq vmId (h.plain i hi) hip
      exact .inr (Except.ok.inj (hread.symm.trans heq))
  · rintro ⟨_, ip, ⟨i, hi, rfl, hip⟩, hr⟩
    refine ⟨i.toProto, List.mem_map_of_mem hi, ?_⟩
    rcases hr with rfl | rfl
    · exact .inl (inJump_eq vmId (h.plain i hi) hip)
    · exact .inr (outJump_eq vmId (h.plain i hi) hip)

variable {bridge : String}

/-- Which jumps a packet meets. -/
lemma outRule_holds (hb : PlainBridge bridge) (ip : Ipv4) (p : Packet) :
    (outRule vmId bridge ip).cond.holds p = true ↔ p.src = ip ∧ p.inIface = bridge := by
  simp [outRule, Match.holds, hb.matches, eq_comm (a := bridge)]

lemma inRule_holds (hb : PlainBridge bridge) (ip : Ipv4) (p : Packet) :
    (inRule vmId bridge ip).cond.holds p = true ↔ p.dst = ip ∧ p.outIface = bridge := by
  simp [inRule, Match.holds, hb.matches, eq_comm (a := bridge)]

lemma isJump_outRule (vmId : String) (h : Sound interfaces) :
    IsJump vmId (interfaces.map (·.toProto)) (outRule vmId bridge ip) ↔
      Owns interfaces bridge ip := by
  rw [isJump_iff h]
  constructor
  · rintro ⟨b, a, how, heq | heq⟩
    · simp [outRule, inRule] at heq
    · obtain ⟨rfl, rfl⟩ : a = ip ∧ b = bridge := by
        simpa [outRule, Cidr.host, eq_comm] using heq
      exact how
  · intro how
    exact ⟨bridge, ip, how, .inr rfl⟩

lemma isJump_inRule (vmId : String) (h : Sound interfaces) :
    IsJump vmId (interfaces.map (·.toProto)) (inRule vmId bridge ip) ↔
      Owns interfaces bridge ip := by
  rw [isJump_iff h]
  constructor
  · rintro ⟨b, a, how, heq | heq⟩
    · obtain ⟨rfl, rfl⟩ : a = ip ∧ b = bridge := by
        simpa [inRule, Cidr.host, eq_comm] using heq
      exact how
    · simp [outRule, inRule] at heq
  · intro how
    exact ⟨bridge, ip, how, .inl rfl⟩

/-! ## What a sync keeps -/

lemma IfaceName.length_le (h : IfaceName name) : name.toList.length ≤ 15 := by
  have hlen : ∀ cs : List Char, cs.length ≤ String.utf8Len cs := by
    intro cs
    induction cs with
    | nil => simp
    | cons c cs ih =>
      have hc := c.utf8Size_pos
      rw [List.length_cons, String.utf8Len_cons]
      omega
  have hsize := hlen name.toList
  rw [String.utf8Len_toList] at hsize
  exact hsize.trans h.size_le

/-- A desired jump is found in a listed one of the same direction exactly when bridge and address
are the same: no other word of the line can pass for a plain bridge name or a block. -/
lemma jump_words {addr iface cidr cidr' bridge' chain : String} (ha : addr = "-s" ∨ addr = "-d")
    (hi : iface = "-i" ∨ iface = "-o") (hb : PlainBridge bridge) (hn : IfaceName bridge)
    (hn' : IfaceName bridge') (hc : '/' ∈ cidr.toList) (hc' : '/' ∈ cidr'.toList)
    (hlong : 15 < chain.toList.length) (hs : '/' ∉ chain.toList) :
    ([addr, cidr, iface, bridge, "-j", chain].all fun token =>
        decide (token ∈ ["-A", "FORWARD", addr, cidr', iface, bridge', "-j", chain])) = true ↔
      cidr = cidr' ∧ bridge = bridge' := by
  have ne_of_slash : ∀ w : String, '/' ∉ w.toList → cidr ≠ w := by
    rintro w hw rfl
    exact hw hc
  have ne_of_dash : ∀ w : String, w.toList.head? = some '-' → bridge ≠ w := by
    rintro w hw rfl
    exact hn.head_ne hw
  have hbc : bridge ≠ cidr' := by
    rintro rfl
    exact hn.no_slash hc'
  have hbl : bridge ≠ chain := by
    rintro rfl
    exact absurd hn.length_le (by omega)
  have hcs := ne_of_slash chain hs
  have hcb := ne_of_slash bridge' hn'.no_slash
  have hbf := hb.ne_forward
  rcases ha with rfl | rfl <;> rcases hi with rfl | rfl <;>
    simp [ne_of_slash "-A" (by simp), ne_of_slash "FORWARD" (by simp), ne_of_slash "-s" (by simp),
      ne_of_slash "-d" (by simp), ne_of_slash "-i" (by simp), ne_of_slash "-o" (by simp),
      ne_of_slash "-j" (by simp), ne_of_dash "-A" (by simp), ne_of_dash "-s" (by simp),
      ne_of_dash "-d" (by simp), ne_of_dash "-i" (by simp), ne_of_dash "-o" (by simp),
      ne_of_dash "-j" (by simp), hbc, hbl, hcs, hcb, hbf]

/-- VMs whose chains have full-length names that differ.  Ids are UUIDs, whose texts have more than
the 21 letters and digits that are used. -/
structure Fleet (vms : Set String) : Prop where
  long : ∀ v ∈ vms, (sanitizeSuffix v 21).toList.length = 21
  distinct : Set.InjOn (sanitizeSuffix · 21) vms

/-- The chains `FORWARD` jumps to. -/
def VmFirewallChains.parents (chains : VmFirewallChains) : List String :=
  [chains.inParent, chains.outParent]

variable {c : String}

section Fleet

variable {vms : Set String} {v w : String} {interfaces old : List PolicyInterface} {r : Rule}

lemma Fleet.parent_length (hf : Fleet vms) (hv : v ∈ vms)
    (hc : c ∈ (VmFirewallChains.new v).parents) : c.toList.length = 26 := by
  have hlen := hf.long v hv
  rcases List.mem_pair.1 hc with rfl | rfl <;>
    simp [VmFirewallChains.new, String.toList_append, hlen]

lemma parent_text (hc : c ∈ (VmFirewallChains.new v).parents) :
    c.toList.head? = some 'Q' ∧ ∀ x : Char, x.isAlphanum = false → x ∉ c.toList := by
  rcases List.mem_pair.1 hc with rfl | rfl
  · exact chain_text (mem_all_parents v).1
  · exact chain_text (mem_all_parents v).2

/-- Searching for a parent finds the jumps to it and no others. -/
lemma contains_parent (hf : Fleet vms) (hv : v ∈ vms) (hw : w ∈ vms) {d : String}
    (hc : c ∈ (VmFirewallChains.new v).parents) (hd : d ∈ (VmFirewallChains.new w).parents)
    (hr : NoBlank r) (ht : r.target = .jump d) :
    (Line.append "FORWARD" r).contains ("-j " ++ c) = true ↔ c = d := by
  obtain ⟨hq, hx⟩ := parent_text hc
  rw [contains_jump hr hq (hx ' ' (by decide)), ht]
  constructor
  · intro hpre
    have hlen := (hf.parent_length hv hc).trans (hf.parent_length hw hd).symm
    exact String.toList_inj.1 (hpre.eq_of_length hlen)
  · rintro rfl
    exact List.prefix_rfl

lemma Fleet.parents_disjoint (hf : Fleet vms) (hv : v ∈ vms) (hw : w ∈ vms) (hne : v ≠ w)
    {d : String} (hc : c ∈ (VmFirewallChains.new v).parents)
    (hd : d ∈ (VmFirewallChains.new w).parents) : c ≠ d := by
  have hsuf : sanitizeSuffix v 21 ≠ sanitizeSuffix w 21 := fun h => hne (hf.distinct hv hw h)
  rcases List.mem_pair.1 hc with rfl | rfl <;> rcases List.mem_pair.1 hd with rfl | rfl
  · simpa [VmFirewallChains.new] using hsuf
  · exact tag_append_ne _ _ (by simp) (by decide)
  · exact tag_append_ne _ _ (by simp) (by decide)
  · simpa [VmFirewallChains.new] using hsuf

lemma Sound.noBlank (h : Sound interfaces) (hr : IsJump v (interfaces.map (·.toProto)) r) :
    NoBlank r := by
  refine hr.noBlank fun i hi => ?_
  obtain ⟨j, hj, rfl⟩ := List.mem_map.1 hi
  exact h.name j hj

/-- A sync takes out the jumps to its parent that are not desired. -/
lemma stale_parent (hf : Fleet vms) (hv : v ∈ vms) (hw : w ∈ vms) {d : String}
    (hc : c ∈ (VmFirewallChains.new v).parents) (hd : d ∈ (VmFirewallChains.new w).parents)
    (hr : NoBlank r) (ht : r.target = .jump d) (desired : List Args) : stale c desired r =
      (decide (c = d) && !desired.any (ruleMatches (.append "FORWARD" r))) := by
  rw [stale, Bool.eq_iff_iff]
  simp [contains_parent hf hv hw hc hd hr ht]

/-- Jumps of other VMs stay. -/
lemma kept_other (hf : Fleet vms) (hv : v ∈ vms) (hw : w ∈ vms) (hne : v ≠ w) (hs : Sound old)
    (hr : IsJump w (old.map (·.toProto)) r) (new : List VmFirewallInterface) :
    kept v new r = true := by
  obtain ⟨d, hd, ht⟩ := hr.target
  have hnot : ∀ c ∈ (VmFirewallChains.new v).parents, ∀ desired, stale c desired r = false := by
    intro c hc desired
    rw [stale_parent hf hv hw hc hd (hs.noBlank hr) ht,
      decide_eq_false (hf.parents_disjoint hv hw hne hc hd), Bool.false_and]
  simp [kept, hnot _ (List.mem_pair.2 (.inl rfl)), hnot _ (List.mem_pair.2 (.inr rfl))]

/-- Texts are compared, but an address has one text. -/
lemma host_text_iff {text text' : String} (h : parseIpv4 text' = some ip) :
    text ++ "/32" = renderCidr (.host ip) ↔ parseIpv4 text = some ip := by
  rw [renderCidr_host h]
  constructor
  · intro heq
    obtain rfl : text = text' := by simpa using heq
    exact h
  · intro h'
    rw [← renderIpv4_of_parseIpv4 h, ← renderIpv4_of_parseIpv4 h']

/-- Jumps of the VM itself stay when it still has the bridge and the address. -/
lemma kept_own (hf : Fleet vms) (hv : v ∈ vms) (ho : Sound old) (hs : Sound interfaces)
    (hr : IsJump v (old.map (·.toProto)) r) :
    kept v (interfaces.map (·.toProto)) r = true ↔ IsJump v (interfaces.map (·.toProto)) r := by
  have hblank := ho.noBlank hr
  have mem_in : (VmFirewallChains.new v).inParent ∈ (VmFirewallChains.new v).parents :=
    List.mem_pair.2 (.inl rfl)
  have mem_out : (VmFirewallChains.new v).outParent ∈ (VmFirewallChains.new v).parents :=
    List.mem_pair.2 (.inr rfl)
  have hne : (VmFirewallChains.new v).inParent ≠ (VmFirewallChains.new v).outParent :=
    tag_append_ne _ _ (by simp) (by decide)
  have hlong : ∀ c ∈ (VmFirewallChains.new v).parents, 15 < c.toList.length := by
    intro c hc
    rw [hf.parent_length hv hc]
    omega
  obtain ⟨bridge, ip, ⟨j, hj, rfl, hip⟩, rfl | rfl⟩ := (isJump_iff ho).1 hr
  · have hmatch : ∀ i ∈ interfaces,
        (ruleMatches (.append "FORWARD" (inRule v j.bridgeName ip))
            (inJump (.new v) i.toProto) = true ↔
          i.bridgeName = j.bridgeName ∧ parseIpv4 i.ip = some ip) := by
      intro i hi
      rw [← host_text_iff hip, and_comm]
      exact jump_words (.inr rfl) (.inr rfl) (hs.plain i hi) (hs.name i hi) (ho.name j hj)
        (by simp) (by simp [renderCidr]) (hlong _ mem_in) ((parent_text mem_in).2 '/' (by decide))
    rw [isJump_inRule v hs, Owns, kept, stale_parent hf hv hv mem_in mem_in hblank rfl,
      stale_parent hf hv hv mem_out mem_in hblank rfl,
      ← exists_congr fun i => and_congr_right (hmatch i)]
    simp [hne.symm]
  · have hmatch : ∀ i ∈ interfaces,
        (ruleMatches (.append "FORWARD" (outRule v j.bridgeName ip))
            (outJump (.new v) i.toProto) = true ↔
          i.bridgeName = j.bridgeName ∧ parseIpv4 i.ip = some ip) := by
      intro i hi
      rw [← host_text_iff hip, and_comm]
      exact jump_words (.inl rfl) (.inl rfl) (hs.plain i hi) (hs.name i hi) (ho.name j hj)
        (by simp) (by simp [renderCidr]) (hlong _ mem_out)
        ((parent_text mem_out).2 '/' (by decide))
    rw [isJump_outRule v hs, Owns, kept, stale_parent hf hv hv mem_in mem_out hblank rfl,
      stale_parent hf hv hv mem_out mem_out hblank rfl,
      ← exists_congr fun i => and_congr_right (hmatch i)]
    simp [hne]

end Fleet

/-! ## Which jump decides -/

/-- The first of the two in the list is `x`. -/
def Leads (F : List Rule) (x y : Rule) : Prop := F.find? (fun r => r = x ∨ r = y) = some x

section Leads

variable {new F : List Rule} {x y : Rule}

/-- What a sync keeps stays in its order. -/
lemma leads_kept {k : Rule → Bool} (hx : x ∉ new) (hy : y ∉ new) (kx : k x = true)
    (ky : k y = true) : Leads (new ++ F.filter k) x y ↔ Leads F x y := by
  have hnew : new.find? (fun r => r = x ∨ r = y) = none := by
    rw [List.find?_eq_none]
    intro r hr hxy
    rcases of_decide_eq_true hxy with rfl | rfl
    · exact hx hr
    · exact hy hr
  have hpred : (fun r => decide (k r = true ∧ decide (r = x ∨ r = y) = true))
      = fun r => decide (r = x ∨ r = y) := by
    funext r
    rw [decide_eq_decide, decide_eq_true_eq]
    constructor
    · exact fun h => h.2
    · rintro (rfl | rfl)
      · exact ⟨kx, .inl rfl⟩
      · exact ⟨ky, .inr rfl⟩
  rw [Leads, Leads, List.find?_append, hnew, Option.none_or, List.find?_filter, hpred]

/-- What a sync adds comes first. -/
lemma find?_new {z : Rule} (hz : z ∈ new) (hxy : z = x ∨ z = y)
    (hother : ∀ r ∈ new, r = x ∨ r = y → r = z) (G : List Rule) :
    (new ++ G).find? (fun r => r = x ∨ r = y) = some z := by
  have hsome : (new.find? fun r => r = x ∨ r = y).isSome := by
    rw [List.find?_isSome]
    exact ⟨z, hz, by simpa using hxy⟩
  obtain ⟨r, hr⟩ := Option.isSome_iff_exists.1 hsome
  have heq : r = z := hother r (List.mem_of_find?_eq_some hr) (by simpa using List.find?_some hr)
  rw [List.find?_append, hr, heq, Option.some_or]

/-- Of two rules in the list that do not lead, the other leads. -/
lemma find?_of_not_leads (hy : y ∈ F) (h : ¬ Leads F x y) :
    F.find? (fun r => r = x ∨ r = y) = some y := by
  have hsome : (F.find? fun r => r = x ∨ r = y).isSome := by
    rw [List.find?_isSome]
    exact ⟨y, hy, by simp⟩
  obtain ⟨r, hr⟩ := Option.isSome_iff_exists.1 hsome
  have hor : r = x ∨ r = y := by simpa using List.find?_some hr
  rcases hor with rfl | rfl
  · exact absurd hr h
  · exact hr

end Leads

/-! ## Runs -/

/-- The interfaces the last successful sync of each VM was given. -/
abbrev Config := String → List PolicyInterface

def Config.rules (cfg : Config) (v : String) : List SecurityGroupRule := (cfg v).flatMap (·.rules)

/-- A new packet from one interface to another on a different bridge. -/
structure Packet.Between (p : Packet) (i j : PolicyInterface) : Prop where
  new : p.established = false
  bridges : i.bridgeName ≠ j.bridgeName
  inIface : i.bridgeName = p.inIface
  src : parseIpv4 i.ip = some p.src
  outIface : j.bridgeName = p.outIface
  dst : parseIpv4 j.ip = some p.dst

/-- If the egress chain of `a` is asked first, it lets nothing through that `b` refuses, and the
other way around. -/
def Stricter (cfg : Config) (a b : String) (p : Packet) (outFirst : Prop) : Prop :=
  (outFirst → EgressAllows (cfg.rules a) p → IngressAllows (cfg.rules b) p) ∧
    (¬ outFirst → IngressAllows (cfg.rules b) p → EgressAllows (cfg.rules a) p)

/-- The jump of `a` for the packet stands before that of `b`. -/
def OutLeads (F : List Rule) (a b : String) (p : Packet) : Prop :=
  Leads F (outRule a p.inIface p.src) (inRule b p.outIface p.dst)

/-- The same after a sync of `v`, from the list before it: a jump that was missing goes on top, and
jumps that were there keep their order. -/
def OutFirst (F : List Rule) (v a b : String) (p : Packet) : Prop :=
  if v = a then outRule a p.inIface p.src ∉ F ∨ OutLeads F a b p
  else inRule b p.outIface p.dst ∈ F ∧ OutLeads F a b p

/-- A sync of `v` after which, for each pair of VMs, the one asked first is the stricter. -/
structure StricterFirst (vms : Set String) (cfg : Config) (F : List Rule) (v : String)
    (interfaces : List PolicyInterface) : Prop where
  mem : v ∈ vms
  plain : ∀ i ∈ interfaces, PlainBridge i.bridgeName
  apart : ∀ w ∈ vms, w ≠ v → ∀ bridge ip, Owns interfaces bridge ip → ¬ Owns (cfg w) bridge ip
  stricter : ∀ a ∈ vms, ∀ b ∈ vms, a ≠ b → ∀ i ∈ Function.update cfg v interfaces a,
    ∀ j ∈ Function.update cfg v interfaces b, ∀ p : Packet, p.Between i j →
      Stricter (Function.update cfg v interfaces) a b p (OutFirst F v a b p)

/-- Successful syncs of the VMs on a node, from a fresh one on, with no failures of the tool. -/
inductive FirewallRun (vms : Set String) : NetState → Config → Prop
  | fresh {faults : List Bool} (h : true ∉ faults) : FirewallRun vms (.fresh faults) fun _ => []
  | sync {s s' : NetState} {cfg : Config} {v : String} {interfaces : List PolicyInterface} :
      FirewallRun vms s cfg →
      StricterFirst vms cfg (s.filter.body "FORWARD") v interfaces →
      syncVmFirewall v (interfaces.map (·.toProto)) s = (.ok (), s') →
      FirewallRun vms s' (Function.update cfg v interfaces)

/-- **What holds along a run.** -/
structure Composed (vms : Set String) (s : NetState) (cfg : Config) : Prop where
  quiet : Quiet s
  parents : ParentsOk s.filter
  sound : ∀ v ∈ vms, Sound (cfg v)
  synced : ∀ v ∈ vms, cfg v ≠ [] → ∃ nextIn nextOut,
    Synced (.new v) (((cfg v).map (·.toProto)).flatMap (·.rules)) nextIn nextOut s.filter
  forward : ∃ F, s.filter.lookup "FORWARD" = some F ∧
    ∀ r, r ∈ F ↔ ∃ v ∈ vms, IsJump v ((cfg v).map (·.toProto)) r
  apart : ∀ v ∈ vms, ∀ w ∈ vms, v ≠ w → ∀ bridge ip, Owns (cfg v) bridge ip →
    ¬ Owns (cfg w) bridge ip
  stricter : ∀ a ∈ vms, ∀ b ∈ vms, a ≠ b → ∀ i ∈ cfg a, ∀ j ∈ cfg b, ∀ p : Packet,
    p.Between i j → Stricter cfg a b p (OutLeads (s.filter.body "FORWARD") a b p)

variable {F : List Rule}

section Composed

variable {vms : Set String} {s s' : NetState} {cfg : Config} {a b : String} {i j : PolicyInterface}
  {p : Packet}

/-- The packet meets two jumps: the one of its sender and the one of its receiver. -/
lemma Composed.find_eq (h : Composed vms s cfg) (ha : a ∈ vms) (hb : b ∈ vms) (hi : i ∈ cfg a)
    (hj : j ∈ cfg b) (hp : p.Between i j)
    (hF : ∀ r, r ∈ F ↔ ∃ v ∈ vms, IsJump v ((cfg v).map (·.toProto)) r) :
    F.find? (fun r => r.cond.holds p)
      = F.find? fun r => r = outRule a p.inIface p.src ∨ r = inRule b p.outIface p.dst := by
  have hsrc : Owns (cfg a) p.inIface p.src := ⟨i, hi, hp.inIface, hp.src⟩
  have hdst : Owns (cfg b) p.outIface p.dst := ⟨j, hj, hp.outIface, hp.dst⟩
  refine List.find?_congr fun r hr => ?_
  obtain ⟨v, hv, hjump⟩ := (hF r).1 hr
  obtain ⟨bridge, ip, how, hr⟩ := (isJump_iff (h.sound v hv)).1 hjump
  have hplain : PlainBridge bridge := by
    obtain ⟨k, hk, rfl, -⟩ := how
    exact (h.sound v hv).plain k hk
  rw [Bool.eq_iff_iff, decide_eq_true_eq]
  rcases hr with rfl | rfl
  · rw [inRule_holds hplain]
    constructor
    · rintro ⟨rfl, rfl⟩
      have hvb : v = b := by
        by_contra hne
        exact h.apart v hv b hb hne _ _ how hdst
      exact .inr (by rw [hvb])
    · rintro (heq | heq)
      · simp [inRule, outRule] at heq
      · simp only [inRule, Cidr.host, Rule.mk.injEq, Match.mk.injEq] at heq
        simp_all
  · rw [outRule_holds hplain]
    constructor
    · rintro ⟨rfl, rfl⟩
      have hva : v = a := by
        by_contra hne
        exact h.apart v hv a ha hne _ _ how hsrc
      exact .inl (by rw [hva])
    · rintro (heq | heq)
      · simp only [outRule, Cidr.host, Rule.mk.injEq, Match.mk.injEq] at heq
        simp_all
      · simp [inRule, outRule] at heq

/-- `FORWARD` stands above parents and children. -/
lemma Composed.depth (h : Composed vms s cfg) (hb : b ∈ vms) (hj : j ∈ cfg b) :
    ∃ n, s.filter.entries.length = n + 3 := by
  obtain ⟨nextIn, nextOut, hsync⟩ := h.synced b hb (List.ne_nil_of_mem hj)
  obtain ⟨F, hF, -⟩ := h.forward
  obtain ⟨cs, -, hl⟩ := hsync.children.ingress
  have hall := sync_names_nodup hsync.mem_out hsync.mem_in
  have hnames : ["FORWARD", (VmFirewallChains.new b).inParent, nextIn].Nodup := by
    generalize VmFirewallChains.new b = chains at *
    grind
  have hlen : 3 ≤ s.filter.entries.length := by
    refine Table.length_le hnames ?_
    intro c hc
    simp only [List.mem_cons, List.not_mem_nil, or_false] at hc
    rcases hc with rfl | rfl | rfl
    · exact Table.mem_of_lookup hF
    · exact Table.mem_of_lookup hsync.inParent
    · exact Table.mem_of_lookup hl
  exact ⟨_, (Nat.sub_add_cancel hlen).symm⟩

/-- **A packet that gets through was allowed by both.** -/
lemma Composed.allowed (h : Composed vms s cfg) (ha : a ∈ vms) (hb : b ∈ vms) (hab : a ≠ b)
    (hi : i ∈ cfg a) (hj : j ∈ cfg b) (hp : p.Between i j)
    (hacc : s.filter.verdict p "FORWARD" ≠ some .drop) :
    EgressAllows (cfg.rules a) p ∧ IngressAllows (cfg.rules b) p := by
  obtain ⟨n, hn⟩ := h.depth hb hj
  obtain ⟨F, hF, hmem⟩ := h.forward
  have hstrict := h.stricter a ha b hb hab i hi j hj p hp
  have hfind := h.find_eq ha hb hi hj hp hmem
  rw [Table.verdict, hn, Netfilter.traverse] at hacc
  rw [Table.body_of_lookup hF] at hacc hstrict
  by_cases hl : OutLeads F a b p
  · obtain ⟨_, _, hsync⟩ := h.synced a ha (List.ne_nil_of_mem hi)
    have hout : EgressAllows (cfg.rules a) p := by
      by_contra hno
      exact hacc (scan_of_find? (hfind.trans hl) rfl ((hsync.egress_traverse p n).2 hno))
    exact ⟨hout, hstrict.1 hl hout⟩
  · obtain ⟨_, _, hsync⟩ := h.synced b hb (List.ne_nil_of_mem hj)
    have hy : inRule b p.outIface p.dst ∈ F :=
      (hmem _).2 ⟨b, hb, (isJump_inRule b (h.sound b hb)).2 ⟨j, hj, hp.outIface, hp.dst⟩⟩
    have hin : IngressAllows (cfg.rules b) p := by
      by_contra hno
      exact hacc (scan_of_find? (hfind.trans (find?_of_not_leads hy hl)) rfl
        ((hsync.ingress_traverse p n).2 hno))
    exact ⟨hstrict.2 hl hin, hin⟩

/-! ### One sync -/

section Step

variable {v w : String} {interfaces : List PolicyInterface}

/-- A sync succeeds only with names and addresses that pass the checks. -/
lemma sound_of_sync (hplain : ∀ i ∈ interfaces, PlainBridge i.bridgeName)
    (h : syncVmFirewall v (interfaces.map (·.toProto)) s = (.ok (), s')) : Sound interfaces := by
  by_cases hne : interfaces = []
  · subst hne
    exact ⟨by simp, by simp, by simp⟩
  · unfold syncVmFirewall at h
    rw [if_neg (by simpa using hne)] at h
    obtain ⟨⟨nextIn, nextOut⟩, s₁, -, h⟩ := ok_bind.1 h
    obtain ⟨acc, s₂, hfill, -⟩ := ok_bind.1 h
    have hacc := fillChildren_collected (P := fun _ => True) s₁ _ _ trivial hfill
    exact ⟨hplain, fun i hi => hacc.name _ (List.mem_map_of_mem hi),
      fun i hi => hacc.address _ (List.mem_map_of_mem hi)⟩

/-- Different VMs have no chain in common. -/
lemma Fleet.not_mem_all (hf : Fleet vms) (hv : v ∈ vms) (hw : w ∈ vms) (hne : w ≠ v)
    (hc : c ∈ (VmFirewallChains.new w).all) : c ∉ (VmFirewallChains.new v).all := by
  have hsuf : sanitizeSuffix w 21 ≠ sanitizeSuffix v 21 := fun h => hne (hf.distinct hw hv h)
  have tags : ∀ u c : String, c ∈ (VmFirewallChains.new u).all →
      ∃ tag : String, tag.toList.length = 5 ∧ c = tag ++ sanitizeSuffix u 21 := by
    intro u c hc
    simp only [VmFirewallChains.all, VmFirewallChains.children, VmFirewallChains.new,
      List.mem_cons, List.not_mem_nil, or_false] at hc
    rcases hc with rfl | rfl | rfl | rfl | rfl | rfl <;> exact ⟨_, by simp, rfl⟩
  intro hc'
  obtain ⟨t, ht, rfl⟩ := tags w c hc
  obtain ⟨t', ht', heq⟩ := tags v _ hc'
  have happ : t.toList ++ (sanitizeSuffix w 21).toList
      = t'.toList ++ (sanitizeSuffix v 21).toList := by
    simpa using congrArg String.toList heq
  exact hsuf (String.toList_inj.1 (List.append_inj happ (ht.trans ht'.symm)).2)

/-- The firewalls of the other VMs are not touched. -/
lemma Synced.of_other (hf : Fleet vms) (hv : v ∈ vms) (hw : w ∈ vms) (hne : w ≠ v)
    {rules : List VmFirewallRule} {nextIn nextOut : String}
    (hs : Synced (.new w) rules nextIn nextOut s.filter) {new : List VmFirewallInterface}
    (h : syncVmFirewall v new s = (.ok (), s')) :
    Synced (.new w) rules nextIn nextOut s'.filter := by
  have same : ∀ c ∈ (VmFirewallChains.new w).all,
      s'.filter.lookup c = s.filter.lookup c := by
    intro c hc
    have hfwd : c ≠ "FORWARD" := by
      rintro rfl
      exact chains_ne_forward w hc
    exact lookup_eq_of_keeps (frame_syncVmFirewall hfwd (hf.not_mem_all hv hw hne hc)) h
  have mem_in : nextIn ∈ (VmFirewallChains.new w).all := by
    rcases hs.mem_in with rfl | rfl <;> simp [VmFirewallChains.all, VmFirewallChains.children]
  have mem_out : nextOut ∈ (VmFirewallChains.new w).all := by
    rcases hs.mem_out with rfl | rfl <;> simp [VmFirewallChains.all, VmFirewallChains.children]
  obtain ⟨⟨ci, hci, hli⟩, co, hco, hlo⟩ := hs.children
  exact ⟨hs.mem_in, hs.mem_out, (same _ (mem_all_parents w).1).trans hs.inParent,
    (same _ (mem_all_parents w).2).trans hs.outParent,
    ⟨ci, hci, (same _ mem_in).trans hli⟩, co, hco, (same _ mem_out).trans hlo⟩

/-- **`FORWARD` after a sync**: still the jumps of all VMs, those that were missing on top. -/
lemma Composed.forward_sync (h : Composed vms s cfg) (hf : Fleet vms) (hv : v ∈ vms)
    (hs : Sound interfaces) (hF : s.filter.lookup "FORWARD" = some F)
    (hmem : ∀ r, r ∈ F ↔ ∃ u ∈ vms, IsJump u ((cfg u).map (·.toProto)) r)
    (hrun : syncVmFirewall v (interfaces.map (·.toProto)) s = (.ok (), s')) :
    Quiet s' ∧ ∃ new k, s'.filter.lookup "FORWARD" = some (new ++ F.filter k) ∧
      (∀ r ∈ new, r ∉ F) ∧ ∀ r, r ∈ new ++ F.filter k ↔
        ∃ u ∈ vms, IsJump u ((Function.update cfg v interfaces u).map (·.toProto)) r := by
  obtain ⟨hq, new, hF', hnew, hall⟩ := syncVmFirewall_forward h.quiet hF hrun
  refine ⟨hq, new, _, hF', fun r hr => (hnew r hr).2, fun r => ?_⟩
  constructor
  · intro hr
    rcases List.mem_append.1 hr with hr | hr
    · exact ⟨v, hv, by simpa using (hnew r hr).1⟩
    · obtain ⟨hr, hk⟩ := List.mem_filter.1 hr
      obtain ⟨u, hu, hjump⟩ := (hmem r).1 hr
      refine ⟨u, hu, ?_⟩
      by_cases huv : u = v
      · subst huv
        simpa using (kept_own hf hv (h.sound u hu) hs hjump).1 hk
      · rwa [Function.update_of_ne huv]
  · rintro ⟨u, hu, hjump⟩
    by_cases huv : u = v
    · subst huv
      rw [Function.update_self] at hjump
      exact hall r hjump ((kept_own hf hv hs hs hjump).2 hjump)
    · rw [Function.update_of_ne huv] at hjump
      have hk := kept_other hf hv hu (Ne.symm huv) (h.sound u hu) hjump (interfaces.map (·.toProto))
      exact List.mem_append_right _ (List.mem_filter.2 ⟨(hmem r).2 ⟨u, hu, hjump⟩, hk⟩)

/-- **The order after a sync**, from the list before it. -/
lemma outLeads_iff_outFirst {new : List Rule} {k : Rule → Bool} (hnew : ∀ r ∈ new, r ∉ F)
    (hx : outRule a p.inIface p.src ∈ new ++ F.filter k)
    (hy : inRule b p.outIface p.dst ∈ new ++ F.filter k)
    (ha : v ≠ a → outRule a p.inIface p.src ∈ F) (hb : v = a → inRule b p.outIface p.dst ∈ F) :
    OutLeads (new ++ F.filter k) a b p ↔ OutFirst F v a b p := by
  have of_mem : ∀ r ∈ new ++ F.filter k, r ∈ F → r ∉ new ∧ k r = true := by
    intro r hr hrF
    have hn : r ∉ new := fun hr => hnew r hr hrF
    refine ⟨hn, ?_⟩
    rcases List.mem_append.1 hr with hr | hr
    · exact absurd hr hn
    · exact (List.mem_filter.1 hr).2
  have of_not_mem : ∀ r ∈ new ++ F.filter k, r ∉ F → r ∈ new := by
    intro r hr hrF
    rcases List.mem_append.1 hr with hr | hr
    · exact hr
    · exact absurd (List.mem_filter.1 hr).1 hrF
  have same : outRule a p.inIface p.src ∈ F → inRule b p.outIface p.dst ∈ F →
      (OutLeads (new ++ F.filter k) a b p ↔ OutLeads F a b p) := by
    intro hxF hyF
    obtain ⟨nx, kx⟩ := of_mem _ hx hxF
    obtain ⟨ny, ky⟩ := of_mem _ hy hyF
    exact leads_kept nx ny kx ky
  unfold OutFirst
  split_ifs with hva
  · by_cases hxF : outRule a p.inIface p.src ∈ F
    · rw [same hxF (hb hva)]
      simp [hxF]
    · have hlead : OutLeads (new ++ F.filter k) a b p := by
        refine find?_new (of_not_mem _ hx hxF) (.inl rfl) (fun r hr hor => ?_) _
        exact hor.resolve_right fun heq => hnew r hr (heq ▸ hb hva)
      simp [hxF, hlead]
  · by_cases hyF : inRule b p.outIface p.dst ∈ F
    · rw [same (ha hva) hyF]
      simp [hyF]
    · have hfind : (new ++ F.filter k).find? (fun r => r = outRule a p.inIface p.src ∨
          r = inRule b p.outIface p.dst) = some (inRule b p.outIface p.dst) := by
        refine find?_new (of_not_mem _ hy hyF) (.inr rfl) (fun r hr hor => ?_) _
        exact hor.resolve_left fun heq => hnew r hr (heq ▸ ha hva)
      have hlead : ¬ OutLeads (new ++ F.filter k) a b p := by
        intro hl
        have heq := Option.some.inj (hfind.symm.trans hl)
        simp [inRule, outRule] at heq
      simp [hyF, hlead]

/-- **Every sync that puts the stricter first keeps the invariant.** -/
lemma Composed.sync (h : Composed vms s cfg) (hf : Fleet vms)
    (hreq : StricterFirst vms cfg (s.filter.body "FORWARD") v interfaces)
    (hrun : syncVmFirewall v (interfaces.map (·.toProto)) s = (.ok (), s')) :
    Composed vms s' (Function.update cfg v interfaces) := by
  have hs := sound_of_sync hreq.plain hrun
  obtain ⟨F, hF, hmem⟩ := h.forward
  obtain ⟨hq, new, k, hF', hnew, hmem'⟩ := h.forward_sync hf hreq.mem hs hF hmem hrun
  have hsound : ∀ u ∈ vms, Sound (Function.update cfg v interfaces u) :=
    (Function.forall_update_iff cfg fun u c => u ∈ vms → Sound c).2
      ⟨fun _ => hs, fun u _ => h.sound u⟩
  refine ⟨hq, ?_, hsound, ?_, ⟨_, hF', hmem'⟩, ?_, ?_⟩
  · exact (triple_of_keeps (keeps_parentsOk (q := False) (.syncVmFirewall v _)) s () s'
      ⟨False.elim, h.parents⟩ hrun).2
  · intro u hu hne
    by_cases huv : u = v
    · subst huv
      rw [Function.update_self] at hne ⊢
      exact syncVmFirewall_synced (by simpa using hne) h.parents hrun
    · rw [Function.update_of_ne huv] at hne ⊢
      obtain ⟨nextIn, nextOut, hsync⟩ := h.synced u hu hne
      exact ⟨nextIn, nextOut, hsync.of_other hf hreq.mem hu huv hrun⟩
  · intro u hu w hw huw bridge ip hou how
    by_cases huv : u = v
    · subst huv
      rw [Function.update_self] at hou
      rw [Function.update_of_ne huw.symm] at how
      exact hreq.apart w hw huw.symm bridge ip hou how
    · rw [Function.update_of_ne huv] at hou
      by_cases hwv : w = v
      · subst hwv
        rw [Function.update_self] at how
        exact hreq.apart u hu huv bridge ip how hou
      · rw [Function.update_of_ne hwv] at how
        exact h.apart u hu w hw huw bridge ip hou how
  · intro a ha b hb hab i hi j hj p hp
    have hout := (isJump_outRule a (hsound a ha)).2 ⟨i, hi, hp.inIface, hp.src⟩
    have hin := (isJump_inRule b (hsound b hb)).2 ⟨j, hj, hp.outIface, hp.dst⟩
    have horder : OutLeads (new ++ F.filter k) a b p ↔ OutFirst F v a b p := by
      refine outLeads_iff_outFirst hnew ((hmem' _).2 ⟨a, ha, hout⟩) ((hmem' _).2 ⟨b, hb, hin⟩) ?_ ?_
      · intro hva
        rw [Function.update_of_ne (Ne.symm hva)] at hout
        exact (hmem _).2 ⟨a, ha, hout⟩
      · rintro rfl
        rw [Function.update_of_ne hab.symm] at hin
        exact (hmem _).2 ⟨b, hb, hin⟩
    have hstrict := hreq.stricter a ha b hb hab i hi j hj p hp
    rw [Table.body_of_lookup hF, ← horder] at hstrict
    rwa [Table.body_of_lookup hF']

end Step

end Composed

lemma composed_fresh {vms : Set String} {faults : List Bool} (h : true ∉ faults) :
    Composed vms (.fresh faults) fun _ => [] where
  quiet := h
  parents := (Reachable.fresh faults).parentsOk
  sound := fun _ _ => ⟨by simp, by simp, by simp⟩
  synced := fun _ _ hne => absurd rfl hne
  forward := ⟨[], AList.lookup_insert _, by simp [IsJump]⟩
  apart := fun _ _ _ _ _ _ _ ⟨_, hi, _⟩ => absurd hi (by simp)
  stricter := fun _ _ _ _ _ _ hi => absurd hi (by simp)

lemma FirewallRun.composed {vms : Set String} (hf : Fleet vms) {s : NetState} {cfg : Config}
    (h : FirewallRun vms s cfg) : Composed vms s cfg := by
  induction h with
  | fresh hq => exact composed_fresh hq
  | sync _ hreq hrun ih => exact ih.sync hf hreq hrun

/-- **Policies compose by conjunction** when each sync leaves the stricter of two VMs in front.  The
policy of `FORWARD` is to accept, so a packet gets through unless a rule drops it. -/
theorem firewallRun_conjunction {vms : Set String} (hf : Fleet vms) {s : NetState} {cfg : Config}
    (h : FirewallRun vms s cfg) {a b : String} (ha : a ∈ vms) (hb : b ∈ vms) (hab : a ≠ b)
    {i j : PolicyInterface} (hi : i ∈ cfg a) (hj : j ∈ cfg b) {p : Packet} (hp : p.Between i j)
    (hacc : s.filter.verdict p "FORWARD" ≠ some .drop) :
    EgressAllows (cfg.rules a) p ∧ IngressAllows (cfg.rules b) p :=
  (h.composed hf).allowed ha hb hab hi hj hp hacc

/-! A client may only talk to web servers; the web server is synced first. -/

def clientId : String := "6f1c2d3e-0a4b-4c5d-8e6f-7a8b9c0d1e2f"

def serverId : String := "b2a1c0d9-1e2f-4a3b-9c4d-5e6f7a8b9c0d"

def clientRule : SecurityGroupRule :=
  { webRule with direction := .egress, cidr := some "10.1.0.0/16", cidr_ne := by decide }

def clientInterface : PolicyInterface := ⟨"br1", "10.2.0.7", [clientRule]⟩

def serverSynced : NetState :=
  (syncVmFirewall serverId ([webInterface].map (·.toProto)) (.fresh [])).2

def bothSynced : NetState :=
  (syncVmFirewall clientId ([clientInterface].map (·.toProto)) serverSynced).2

lemma webServers : Fleet {v | v = clientId ∨ v = serverId} where
  long := by
    rintro v (rfl | rfl)
    · decide +kernel
    · decide +kernel
  distinct := by
    have hne : sanitizeSuffix clientId 21 ≠ sanitizeSuffix serverId 21 := by decide +kernel
    rintro v (rfl | rfl) w (rfl | rfl) h
    · rfl
    · exact absurd h hne
    · exact absurd h.symm hne
    · rfl

lemma serverSynced_forward : serverSynced.filter.body "FORWARD"
    = [outRule serverId "br0" 167837701, inRule serverId "br0" 167837701] := by
  decide +kernel

lemma server_stricterFirst : StricterFirst {v | v = clientId ∨ v = serverId} (fun _ => [])
    ((NetState.fresh []).filter.body "FORWARD") serverId [webInterface] where
  mem := .inr rfl
  plain := by
    simp only [List.mem_singleton, forall_eq]
    exact ⟨by decide, by decide⟩
  apart := fun _ _ _ _ _ _ ⟨_, hi, _⟩ => absurd hi (by simp)
  stricter := by
    intro a _ b _ hab i hi j hj
    by_cases ha : a = serverId
    · rw [Function.update_of_ne (ha ▸ hab.symm)] at hj
      cases hj
    · rw [Function.update_of_ne ha] at hi
      cases hi

/-- The client's rule asks for no more than the server's admits. -/
lemma client_le_server {p : Packet} (hp : p.Between clientInterface webInterface)
    (h : EgressAllows [clientRule] p) : IngressAllows [webRule] p := by
  have hsrc : p.src = 167903239 := by
    have haddr : parseIpv4 clientInterface.ip = some 167903239 := by decide +kernel
    exact Option.some.inj (hp.src.symm.trans haddr)
  rcases h with h | ⟨r, hr, -, hadm⟩ | h
  · rw [hp.new] at h
    cases h
  · obtain rfl := List.mem_singleton.1 hr
    refine .inr ⟨webRule, by simp, rfl, hadm.protocol, ?_, fun lo hi hlo hhi => ?_⟩
    · rintro text ⟨⟩
      exact ⟨⟨167772160, 8⟩, by decide +kernel, by rw [hsrc]; decide +kernel⟩
    · exact hadm.ports lo hi hlo hhi
  · exact absurd rfl (h clientRule (by simp))

lemma client_stricterFirst : StricterFirst {v | v = clientId ∨ v = serverId}
    (Function.update (fun _ => []) serverId [webInterface])
    (serverSynced.filter.body "FORWARD") clientId [clientInterface] where
  mem := .inl rfl
  plain := by
    simp only [List.mem_singleton, forall_eq]
    exact ⟨by decide, by decide⟩
  apart := by
    rintro w (rfl | rfl) hne bridge ip ⟨i, hi, rfl, -⟩ ⟨j, hj, heq, -⟩
    · exact absurd rfl hne
    · rw [Function.update_self] at hj
      obtain rfl := List.mem_singleton.1 hi
      obtain rfl := List.mem_singleton.1 hj
      exact absurd heq (by decide)
  stricter := by
    have hne : serverId ≠ clientId := by decide +kernel
    have hin : (VmFirewallChains.new clientId).inParent ≠ (VmFirewallChains.new serverId).inParent ∧
        (VmFirewallChains.new clientId).outParent ≠ (VmFirewallChains.new serverId).outParent := by
      decide +kernel
    rintro a (rfl | rfl) b (rfl | rfl) hab i hi j hj p hp
    · exact absurd rfl hab
    · rw [Function.update_self] at hi
      rw [Function.update_of_ne hne, Function.update_self] at hj
      obtain rfl := List.mem_singleton.1 hi
      obtain rfl := List.mem_singleton.1 hj
      have hfirst : OutFirst (serverSynced.filter.body "FORWARD") clientId clientId serverId p := by
        rw [OutFirst, if_pos rfl, serverSynced_forward]
        exact .inl (by simp [outRule, inRule, hin.2])
      refine ⟨fun _ hout => ?_, fun hno => absurd hfirst hno⟩
      simp only [Config.rules, Function.update_self, Function.update_of_ne hne] at hout ⊢
      exact client_le_server hp (by simpa [clientInterface] using hout)
    · have hlast :
          ¬ OutFirst (serverSynced.filter.body "FORWARD") clientId serverId clientId p := by
        rw [OutFirst, if_neg hne.symm, serverSynced_forward]
        simp [outRule, inRule, hin.1]
      refine ⟨fun hfirst => absurd hfirst hlast, fun _ _ => .inr (.inr ?_)⟩
      simp [Config.rules, Function.update_of_ne hne, webInterface, webRule]
    · exact absurd rfl hab

def bothConfig : Config :=
  Function.update (Function.update (fun _ => []) serverId [webInterface]) clientId [clientInterface]

def webPacket : Packet := ⟨167903239, 167837701, "br1", "br0", .tcp, 80, false⟩

lemma firewallRun_both (h₁ : (syncVmFirewall serverId ([webInterface].map (·.toProto))
      (.fresh [])).1 = .ok ())
    (h₂ : (syncVmFirewall clientId ([clientInterface].map (·.toProto)) serverSynced).1 = .ok ()) :
    FirewallRun {v | v = clientId ∨ v = serverId} bothSynced bothConfig := by
  have hserver : FirewallRun {v | v = clientId ∨ v = serverId} serverSynced
      (Function.update (fun _ => []) serverId [webInterface]) :=
    .sync (.fresh (by simp)) server_stricterFirst (run_of_fst h₁)
  exact .sync hserver client_stricterFirst (run_of_fst h₂)

theorem web_traffic_allowed_by_both :
    EgressAllows [clientRule] webPacket ∧ IngressAllows [webRule] webPacket := by
  have hne : clientId ≠ serverId := by decide +kernel
  have hruns : (syncVmFirewall serverId ([webInterface].map (·.toProto)) (.fresh [])).1 = .ok () ∧
      (syncVmFirewall clientId ([clientInterface].map (·.toProto)) serverSynced).1 = .ok () ∧
      bothSynced.filter.verdict webPacket "FORWARD" ≠ some .drop := by
    decide +kernel
  have hp : webPacket.Between clientInterface webInterface :=
    ⟨rfl, by decide, rfl, by decide +kernel, rfl, by decide +kernel⟩
  have hclient : clientInterface ∈ bothConfig clientId := by simp [bothConfig]
  have hserver : webInterface ∈ bothConfig serverId := by
    simp [bothConfig, Function.update_of_ne hne.symm]
  have hboth := firewallRun_conjunction webServers (firewallRun_both hruns.1 hruns.2.1) (.inl rfl)
    (.inr rfl) hne hclient hserver hp hruns.2.2
  simpa [bothConfig, Config.rules, Function.update_of_ne hne.symm, clientInterface, webInterface]
    using hboth

/-! A server that admits nobody, and then a client that may talk to anybody: the jump of the client
is put on top and accepts what the server would drop. -/

def closedInterface : PolicyInterface := ⟨"br0", "10.1.0.5", []⟩

def chattyInterface : PolicyInterface := ⟨"br1", "10.2.0.7", []⟩

def closedSynced : NetState :=
  (syncVmFirewall serverId ([closedInterface].map (·.toProto)) (.fresh [])).2

def chattySynced : NetState :=
  (syncVmFirewall clientId ([chattyInterface].map (·.toProto)) closedSynced).2

theorem sender_bypasses_ingress :
    syncVmFirewall serverId ([closedInterface].map (·.toProto)) (.fresh [])
        = (.ok (), closedSynced) ∧
      syncVmFirewall clientId ([chattyInterface].map (·.toProto)) closedSynced
        = (.ok (), chattySynced) ∧
      webPacket.Between chattyInterface closedInterface ∧
      chattySynced.filter.verdict webPacket "FORWARD" = some .accept ∧
      ¬ IngressAllows ([closedInterface].flatMap (·.rules)) webPacket := by
  have hruns :
      (syncVmFirewall serverId ([closedInterface].map (·.toProto)) (.fresh [])).1 = .ok () ∧
      (syncVmFirewall clientId ([chattyInterface].map (·.toProto)) closedSynced).1 = .ok () ∧
      chattySynced.filter.verdict webPacket "FORWARD" = some .accept := by
    decide +kernel
  have hp : webPacket.Between chattyInterface closedInterface :=
    ⟨rfl, by decide, rfl, by decide +kernel, rfl, by decide +kernel⟩
  refine ⟨run_of_fst hruns.1, run_of_fst hruns.2.1, hp, hruns.2.2, ?_⟩
  simp [IngressAllows, closedInterface, webPacket]

end Qarax
