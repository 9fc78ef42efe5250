import Qarax.Node.Networking.Ruleset

/-!
# `networking/iptables.rs`

The node's packet filter code, function by function and under the source's names.  A loop over
rules or interfaces is `Proc.each` or `Proc.fold`; `let _ = …` and `.is_ok()` are `Proc.attempt`;
the `?` operator is the bind of `Proc`.

A VM has six chains.  The two parents are what `FORWARD` jumps to; each of them jumps to one of
its two children, and a sync fills the child that is not in use before it moves the jump over.
-/

namespace Qarax

structure VmFirewallChains where
  outParent : String
  inParent : String
  outA : String
  outB : String
  inA : String
  inB : String

def sanitizeSuffix (input : String) (maxLen : ℕ) : String :=
  String.ofList ((input.toList.filter Char.isAlphanum).take maxLen)

def VmFirewallChains.new (vmId : String) : VmFirewallChains :=
  let suffix := sanitizeSuffix vmId 21
  { outParent := "QXVMO" ++ suffix
    inParent := "QXVMI" ++ suffix
    outA := "QXVOA" ++ suffix
    outB := "QXVOB" ++ suffix
    inA := "QXVIA" ++ suffix
    inB := "QXVIB" ++ suffix }

/-! ## Requests -/

inductive FirewallDirection where
  | ingress
  | egress
  deriving DecidableEq

inductive FirewallProtocol where
  | any
  | tcp
  | udp
  | icmp

/-- `FirewallDirection::try_from`. -/
def FirewallDirection.tryFrom : ℤ → Option FirewallDirection
  | 0 => some .ingress
  | 1 => some .egress
  | _ => none

/-- `FirewallProtocol::try_from`. -/
def FirewallProtocol.tryFrom : ℤ → Option FirewallProtocol
  | 0 => some .any
  | 1 => some .tcp
  | 2 => some .udp
  | 3 => some .icmp
  | _ => none

/-- The value of option `-p`, if the protocol asks for one. -/
def FirewallProtocol.arg : FirewallProtocol → Option L4
  | .any => none
  | .tcp => some .tcp
  | .udp => some .udp
  | .icmp => some .icmp

/-- A rule on the wire: enumerations are integers, an absent block is the empty text. -/
structure VmFirewallRule where
  direction : ℤ
  protocol : ℤ
  cidr : String
  portStart : Option ℤ
  portEnd : Option ℤ
  deriving DecidableEq

structure VmFirewallInterface where
  bridgeName : String
  ip : String
  rules : List VmFirewallRule
  deriving DecidableEq

/-! ## Helpers -/

def accept : Target := .verdict .accept

def drop : Target := .verdict .drop

/-- `error.to_string().contains("Chain already exists")`. -/
def NetError.saysChainExists (e : NetError) : Bool :=
  decide ("Chain already exists".toList <:+: e.message.toList)

def ensureChain (chain : String) : Net Unit := do
  match ← Proc.attempt (runCmd .filter (.new chain)) with
  | .ok () => pure ()
  | .error e => if e.saysChainExists then pure () else Proc.fail e

def flushChain (chain : String) : Net Unit := runCmd .filter (.flush chain)

def ensureJumpRule (parentChain : String) (rule : Args) : Net Unit := do
  match ← Proc.attempt (runRule .filter (.check parentChain) rule) with
  | .ok () => pure ()
  | .error _ => runRule .filter (.insert parentChain) rule

def nextChildChain (parentChain childA childB : String) : Net String := do
  let rules ← runList .filter parentChain
  if rules.any (fun line => line.text = ("-A " ++ parentChain ++ " -j " ++ childA).toList) then
    pure childB
  else pure childA

/-- The loop that deletes the second rule until that is refused.  It gets one round for each line
listed before, which is more than there are rules to delete. -/
def deleteRest (chain : String) : ℕ → Net Unit
  | 0 => pure ()
  | n + 1 => do
      match ← Proc.attempt (runCmd .filter (.deleteSecond chain)) with
      | .ok () => deleteRest chain n
      | .error _ => pure ()

def pointParentToChild (parentChain childChain : String) : Net Unit := do
  let rules ← runList .filter parentChain
  if rules.any (fun line => ("-A " ++ parentChain ++ " ").toList.isPrefixOf line.text) then do
    runRule .filter (.replace parentChain) { jump := .jump childChain }
    deleteRest parentChain rules.length
  else runRule .filter (.append parentChain) { jump := .jump childChain }

/-- The tokens of a rule the node compares with a listing. -/
def Args.tokens (a : Args) : List String :=
  (a.src.toList.flatMap fun t => ["-s", t]) ++ (a.dst.toList.flatMap fun t => ["-d", t]) ++
    (a.inIface.toList.flatMap fun n => ["-i", n]) ++
    (a.outIface.toList.flatMap fun o => if o.1 then ["!", "-o", o.2] else ["-o", o.2]) ++
    ["-j", targetText a.jump]

def ruleMatches (line : Line) (desiredRule : Args) : Bool :=
  desiredRule.tokens.all fun token => decide (token ∈ line.parts)

/-- The listed line with its first token turned into `-D`; other lines are left alone. -/
def deleteListed (tb : TableName) : Line → Net Unit
  | .append c r => runCmd tb (.delete c r)
  | _ => pure ()

def syncForwardJumpRules (parentChain : String) (desiredRules : List Args) : Net Unit := do
  Proc.each (ensureJumpRule "FORWARD") desiredRules
  let rules ← runList .filter "FORWARD"
  Proc.each (fun line =>
      if desiredRules.any (ruleMatches line) then pure () else deleteListed .filter line)
    (rules.filter fun line => line.contains ("-j " ++ parentChain))

def removeForwardRulesReferencing (chain : String) : Net Unit := do
  let rules ← runList .filter "FORWARD"
  Proc.each (fun line => do let _ ← Proc.attempt (deleteListed .filter line))
    (rules.filter fun line => line.contains ("-j " ++ chain))
  let _ ← Proc.attempt (runCmd .filter (.flush chain))
  let _ ← Proc.attempt (runCmd .filter (.remove chain))

def chainExists (chain : String) : Net Bool := do
  let output ← runListAll
  pure (output.any fun line => line.text = ("-N " ++ chain).toList)

def deleteChainIfExists (chain : String) : Net Unit := do
  if !(← chainExists chain) then pure ()
  else do
    let _ ← Proc.attempt (runCmd .filter (.flush chain))
    let _ ← Proc.attempt (runCmd .filter (.remove chain))

/-! ## NAT exemptions -/

def natExemption (bridge localSubnet subnet : String) : Args :=
  { src := some localSubnet, dst := some subnet, outIface := some (true, bridge), jump := .ret }

def ensureNatExemptionRule (bridge localSubnet exemptSubnet : String) : Net Unit := do
  let rule := natExemption bridge localSubnet exemptSubnet
  match ← Proc.attempt (runRule .nat (.check "POSTROUTING") rule) with
  | .ok () => pure ()
  | .error _ => runRule .nat (.insert "POSTROUTING") rule

/-- The three texts a listed exemption of the bridge is recognised by. -/
def isNatExemption (bridge localSubnet : String) (line : Line) : Bool :=
  line.contains ("-s " ++ localSubnet) && line.contains ("! -o " ++ bridge) &&
    line.contains "-j RETURN"

def syncNatExemptionRules (bridge localSubnet : String) (natExemptSubnets : List String) :
    Net Unit := do
  Proc.each (ensureNatExemptionRule bridge localSubnet) natExemptSubnets
  let desiredRules := natExemptSubnets.map (natExemption bridge localSubnet)
  let rules ← runList .nat "POSTROUTING"
  Proc.each (fun line =>
      if desiredRules.any (ruleMatches line) then pure () else deleteListed .nat line)
    (rules.filter (isNatExemption bridge localSubnet))

def removeNatExemptionRules (bridge localSubnet : String) : Net Unit := do
  let rules ← runList .nat "POSTROUTING"
  Proc.each (fun line => do let _ ← Proc.attempt (deleteListed .nat line))
    (rules.filter (isNatExemption bridge localSubnet))

/-! ## NAT -/

/-- Writing `/proc/sys/net/ipv4/ip_forward`. -/
def enableIpForward : Net Unit := fun s =>
  if s.faults.head? = some true then (.error .ipForward, s.tick) else (.ok (), s.tick)

def masquerade (bridge subnet : String) : Args :=
  { src := some subnet, outIface := some (true, bridge), jump := .verdict .masquerade }

def setupNat (bridge subnet : String) : Net Unit := do
  Proc.lift (validateIfaceName bridge)
  Proc.lift (validateIpv4Cidr subnet)
  enableIpForward
  let _ ← Proc.attempt (runRule .nat (.append "POSTROUTING") (masquerade bridge subnet))
  let _ ← Proc.attempt
    (runRule .filter (.append "FORWARD") { inIface := some bridge, jump := accept })
  let _ ← Proc.attempt
    (runRule .filter (.append "FORWARD") { outIface := some (false, bridge), jump := accept })

def teardownNat (bridge subnet : String) : Net Unit := do
  Proc.lift (validateIfaceName bridge)
  Proc.lift (validateIpv4Cidr subnet)
  let _ ← Proc.attempt (runRule .nat (.delete "POSTROUTING") (masquerade bridge subnet))
  let _ ← Proc.attempt
    (runRule .filter (.delete "FORWARD") { inIface := some bridge, jump := accept })
  let _ ← Proc.attempt
    (runRule .filter (.delete "FORWARD") { outIface := some (false, bridge), jump := accept })
  let _ ← Proc.attempt (removeNatExemptionRules bridge subnet)

/-! ## Network isolation -/

def isolationOut (bridge : String) : String := "QXNETO" ++ sanitizeSuffix bridge 20

def isolationIn (bridge : String) : String := "QXNETI" ++ sanitizeSuffix bridge 20

def syncNetworkIsolation (bridge localSubnet : String)
    (blockedSubnets natExemptSubnets : List String) : Net Unit := do
  Proc.lift (validateIfaceName bridge)
  Proc.lift (validateIpv4Cidr localSubnet)
  Proc.each (fun subnet => Proc.lift (validateIpv4Cidr subnet)) blockedSubnets
  Proc.each (fun subnet => Proc.lift (validateIpv4Cidr subnet)) natExemptSubnets
  let outChain := isolationOut bridge
  let inChain := isolationIn bridge
  ensureChain outChain
  ensureChain inChain
  ensureJumpRule "FORWARD" { inIface := some bridge, jump := .jump outChain }
  ensureJumpRule "FORWARD" { outIface := some (false, bridge), jump := .jump inChain }
  flushChain outChain
  flushChain inChain
  Proc.each (fun subnet => do
      runRule .filter (.append outChain) { dst := some subnet, jump := drop }
      runRule .filter (.append inChain) { src := some subnet, jump := drop })
    blockedSubnets
  runRule .filter (.append outChain) { jump := .ret }
  runRule .filter (.append inChain) { jump := .ret }
  syncNatExemptionRules bridge localSubnet natExemptSubnets

def teardownNetworkIsolation (bridge : String) : Net Unit := do
  Proc.lift (validateIfaceName bridge)
  removeForwardRulesReferencing (isolationOut bridge)
  removeForwardRulesReferencing (isolationIn bridge)
  deleteChainIfExists (isolationOut bridge)
  deleteChainIfExists (isolationIn bridge)

/-! ## VM firewalls -/

def teardownVmFirewall (vmId : String) : Net Unit := do
  let chains := VmFirewallChains.new vmId
  removeForwardRulesReferencing chains.outParent
  removeForwardRulesReferencing chains.inParent
  deleteChainIfExists chains.outParent
  deleteChainIfExists chains.inParent
  deleteChainIfExists chains.outA
  deleteChainIfExists chains.outB
  deleteChainIfExists chains.inA
  deleteChainIfExists chains.inB

/-- The `FORWARD` jump for traffic to an interface. -/
def inJump (chains : VmFirewallChains) (iface : VmFirewallInterface) : Args :=
  { outIface := some (false, iface.bridgeName), dst := some (iface.ip ++ "/32")
    jump := .jump chains.inParent }

/-- The `FORWARD` jump for traffic from an interface. -/
def outJump (chains : VmFirewallChains) (iface : VmFirewallInterface) : Args :=
  { inIface := some iface.bridgeName, src := some (iface.ip ++ "/32")
    jump := .jump chains.outParent }

/-- What the loops of a sync collect. -/
structure SyncAcc where
  hasEgressRules : Bool
  desiredInJumpRules : List Args
  desiredOutJumpRules : List Args

def VmFirewallRule.directionOrDefault (rule : VmFirewallRule) : FirewallDirection :=
  (FirewallDirection.tryFrom rule.direction).getD .ingress

def VmFirewallRule.protocolOrDefault (rule : VmFirewallRule) : FirewallProtocol :=
  (FirewallProtocol.tryFrom rule.protocol).getD .any

def VmFirewallRule.cidrArg (rule : VmFirewallRule) : Option String :=
  if rule.cidr = "" then none else some rule.cidr

/-- The value of `--dport`: only TCP and UDP have ports, and both ends must be given. -/
def VmFirewallRule.dportArg (rule : VmFirewallRule) : Option (ℤ × ℤ) :=
  match rule.protocolOrDefault, rule.portStart, rule.portEnd with
  | .tcp, some lo, some hi => some (lo, hi)
  | .udp, some lo, some hi => some (lo, hi)
  | _, _, _ => none

/-- The arguments of one rule; the block is the remote end, hence the source of incoming traffic
and the destination of outgoing traffic. -/
def VmFirewallRule.args (rule : VmFirewallRule) : Args :=
  match rule.directionOrDefault with
  | .ingress =>
    { src := rule.cidrArg, proto := rule.protocolOrDefault.arg, dport := rule.dportArg
      jump := accept }
  | .egress =>
    { dst := rule.cidrArg, proto := rule.protocolOrDefault.arg, dport := rule.dportArg
      jump := accept }

/-- The body of the inner loop; the result is `has_egress_rules`. -/
def syncRule (nextIn nextOut : String) (hasEgressRules : Bool) (rule : VmFirewallRule) :
    Net Bool := do
  Proc.lift (rule.cidrArg.elim (.ok ()) validateIpv4Cidr)
  match rule.directionOrDefault with
  | .ingress => do
      runRule .filter (.append nextIn) rule.args
      pure hasEgressRules
  | .egress => do
      runRule .filter (.append nextOut) rule.args
      pure true

/-- The body of the outer loop. -/
def syncInterface (chains : VmFirewallChains) (nextIn nextOut : String) (acc : SyncAcc)
    (iface : VmFirewallInterface) : Net SyncAcc := do
  Proc.lift (validateIfaceName iface.bridgeName)
  Proc.lift (validateIpv4Address iface.ip)
  let hasEgressRules ← Proc.fold (syncRule nextIn nextOut) acc.hasEgressRules iface.rules
  pure {
    hasEgressRules
    desiredInJumpRules := acc.desiredInJumpRules ++ [inJump chains iface]
    desiredOutJumpRules := acc.desiredOutJumpRules ++ [outJump chains iface] }

/-- Filling the next children: the connection state rule, the rules of the interfaces, the default
verdict.  Without egress rules everything may go out. -/
def fillChildren (chains : VmFirewallChains) (nextIn nextOut : String)
    (interfaces : List VmFirewallInterface) : Net SyncAcc := do
  flushChain nextOut
  flushChain nextIn
  runRule .filter (.append nextIn) { established := true, jump := accept }
  runRule .filter (.append nextOut) { established := true, jump := accept }
  let acc ← Proc.fold (syncInterface chains nextIn nextOut) ⟨false, [], []⟩ interfaces
  runRule .filter (.append nextIn) { jump := drop }
  runRule .filter (.append nextOut) { jump := if acc.hasEgressRules then drop else accept }
  pure acc

/-- The first part of a sync: both parents exist, and so do the children to fill, which are those
the parents do not point to. -/
def prepareChildren (chains : VmFirewallChains) : Net (String × String) := do
  ensureChain chains.outParent
  ensureChain chains.inParent
  let nextOut ← nextChildChain chains.outParent chains.outA chains.outB
  let nextIn ← nextChildChain chains.inParent chains.inA chains.inB
  ensureChain nextOut
  ensureChain nextIn
  pure (nextIn, nextOut)

/-- The child that is out of use after a sync. -/
def staleChild (next a b : String) : String := if next = a then b else a

/-- The last part of a sync: parents, `FORWARD`, and the children that are now out of use. -/
def switchOver (chains : VmFirewallChains) (nextIn nextOut : String) (acc : SyncAcc) :
    Net Unit := do
  pointParentToChild chains.inParent nextIn
  pointParentToChild chains.outParent nextOut
  syncForwardJumpRules chains.inParent acc.desiredInJumpRules
  syncForwardJumpRules chains.outParent acc.desiredOutJumpRules
  deleteChainIfExists (staleChild nextIn chains.inA chains.inB)
  deleteChainIfExists (staleChild nextOut chains.outA chains.outB)

def syncVmFirewall (vmId : String) (interfaces : List VmFirewallInterface) : Net Unit := do
  if interfaces = [] then teardownVmFirewall vmId
  else do
    let chains := VmFirewallChains.new vmId
    let (nextIn, nextOut) ← prepareChildren chains
    let acc ← fillChildren chains nextIn nextOut interfaces
    switchOver chains nextIn nextOut acc

end Qarax
