import Qarax.Node.Networking.Iptables

/-!
# Security groups and what they promise

Rows of `security_group_rules` carry the table's `CHECK` constraints as fields.  The control plane
sends them to a node as `VmFirewallRule`s (`network_policy.rs`); what they are for is said here
without chains or rule order:

* incoming traffic is allowed when it belongs to a known connection or an ingress rule admits it;
* outgoing traffic likewise, and also when there is no egress rule at all.
-/

namespace Qarax

inductive SecurityGroupDirection where
  | ingress
  | egress
  deriving DecidableEq

inductive SecurityGroupProtocol where
  | any
  | tcp
  | udp
  | icmp

/-- A row of `security_group_rules`.  A value of the column type `CIDR` has a non-empty text. -/
structure SecurityGroupRule where
  direction : SecurityGroupDirection
  protocol : SecurityGroupProtocol
  cidr : Option String
  portStart : Option ℤ
  portEnd : Option ℤ
  cidr_ne : cidr ≠ some ""
  ports_positive : ∀ n, portStart = some n → 0 < n ∧ n ≤ 65535
  port_range : ∀ n, portEnd = some n → 0 < n ∧ n ≤ 65535 ∧ portStart.getD n ≤ n
  ports_pair : (portStart = none ∧ portEnd = none) ∨ (portStart ≠ none ∧ portEnd ≠ none)
  protocol_ports : (protocol = .tcp ∨ protocol = .udp) ∨ (portStart = none ∧ portEnd = none)

def firewallDirectionToProto : SecurityGroupDirection → ℤ
  | .ingress => 0
  | .egress => 1

def firewallProtocolToProto : SecurityGroupProtocol → ℤ
  | .any => 0
  | .tcp => 1
  | .udp => 2
  | .icmp => 3

/-- The rule as `firewall_interfaces_for_vm` sends it. -/
def SecurityGroupRule.toProto (r : SecurityGroupRule) : VmFirewallRule where
  direction := firewallDirectionToProto r.direction
  protocol := firewallProtocolToProto r.protocol
  cidr := r.cidr.getD ""
  portStart := r.portStart
  portEnd := r.portEnd

/-- An interface of a VM with the rules that apply to the VM. -/
structure PolicyInterface where
  bridgeName : String
  ip : String
  rules : List SecurityGroupRule

def PolicyInterface.toProto (i : PolicyInterface) : VmFirewallInterface where
  bridgeName := i.bridgeName
  ip := i.ip
  rules := i.rules.map (·.toProto)

/-! ## What a rule admits -/

def SecurityGroupProtocol.Covers : SecurityGroupProtocol → L4 → Prop
  | .any, _ => True
  | .tcp, q => q = .tcp
  | .udp, q => q = .udp
  | .icmp, q => q = .icmp

/-- The rule matches protocol, remote address and destination port of the packet. -/
structure SecurityGroupRule.Admits (r : SecurityGroupRule) (p : Packet) (remote : Ipv4) : Prop where
  protocol : r.protocol.Covers p.proto
  block : ∀ text, r.cidr = some text → ∃ c, parseCidr text = some c ∧ c.contains remote = true
  ports : ∀ lo hi, r.portStart = some lo → r.portEnd = some hi →
    lo ≤ (p.dport : ℤ) ∧ (p.dport : ℤ) ≤ hi

/-- **Ingress policy** of a VM with these rules. -/
def IngressAllows (rules : List SecurityGroupRule) (p : Packet) : Prop :=
  p.established = true ∨ ∃ r ∈ rules, r.direction = .ingress ∧ r.Admits p p.src

/-- **Egress policy** of a VM with these rules. -/
def EgressAllows (rules : List SecurityGroupRule) (p : Packet) : Prop :=
  p.established = true ∨ (∃ r ∈ rules, r.direction = .egress ∧ r.Admits p p.dst) ∨
    ∀ r ∈ rules, r.direction ≠ .egress

/-! ## Rules on the wire -/

/-- The direction a node reads back. -/
def SecurityGroupDirection.onNode : SecurityGroupDirection → FirewallDirection
  | .ingress => .ingress
  | .egress => .egress

@[simp] lemma onNode_eq_ingress (d : SecurityGroupDirection) :
    d.onNode = .ingress ↔ d = .ingress := by cases d <;> simp [SecurityGroupDirection.onNode]

@[simp] lemma onNode_eq_egress (d : SecurityGroupDirection) :
    d.onNode = .egress ↔ d = .egress := by cases d <;> simp [SecurityGroupDirection.onNode]

@[simp] lemma toProto_direction (r : SecurityGroupRule) :
    r.toProto.directionOrDefault = r.direction.onNode := by
  simp only [VmFirewallRule.directionOrDefault, SecurityGroupRule.toProto]
  cases r.direction <;> rfl

@[simp] lemma toProto_cidrArg (r : SecurityGroupRule) : r.toProto.cidrArg = r.cidr := by
  have hne := r.cidr_ne
  unfold VmFirewallRule.cidrArg SecurityGroupRule.toProto
  revert hne
  rcases r.cidr with _ | text
  · exact fun _ => rfl
  · exact fun hne => if_neg fun h => hne (congrArg some h)

/-- The block of all addresses has every address. -/
lemma Cidr.contains_of_len_zero {c : Cidr} (h : c.len.val = 0) (ip : Ipv4) :
    c.contains ip = true := by
  have hbits : c.hostBits = 32 := by simp [hostBits, h]
  simp only [contains, hbits, beq_iff_eq]
  rw [Nat.div_eq_of_lt ip.isLt, Nat.div_eq_of_lt c.addr.isLt]

lemma block_all {a : Option String} {b : Option Cidr} (h : Args.block a = .ok b) (ip : Ipv4) :
    b.all (·.contains ip) = true ↔
      ∀ text, a = some text → ∃ c, parseCidr text = some c ∧ c.contains ip = true := by
  cases a with
  | none => cases h; simp
  | some text =>
    cases hp : parseCidr text with
    | none => simp [Args.block, hp] at h
    | some c =>
      simp only [Args.block, hp, Except.ok.injEq] at h
      subst h
      split_ifs with hz
      · simp [hp, Cidr.contains_of_len_zero hz]
      · simp [hp]

lemma ports_all {a : Option (ℤ × ℤ)} {b : Option (ℕ × ℕ)} (h : Args.ports a = .ok b) (n : ℕ) :
    b.all (fun r => decide (r.1 ≤ n) && decide (n ≤ r.2)) = true ↔
      ∀ lo hi, a = some (lo, hi) → lo ≤ (n : ℤ) ∧ (n : ℤ) ≤ hi := by
  rcases a with _ | ⟨lo, hi⟩
  · cases h; simp
  · simp only [Args.ports] at h
    split_ifs at h with hr
    cases h
    simp only [Option.all_some, Bool.and_eq_true, decide_eq_true_eq, Option.some.injEq,
      Prod.mk.injEq, and_imp]
    constructor
    · rintro h lo' hi' rfl rfl
      omega
    · intro h
      have := h lo hi rfl rfl
      omega

end Qarax
