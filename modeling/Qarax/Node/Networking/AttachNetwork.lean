import Qarax.Core.Machine
import Qarax.Node.Networking.ForwardJumps
import Qarax.Node.Networking.Nat

/-!
# Attaching and detaching a network

`attach_network` of the node creates a bridge, gives it the gateway's address, starts the DHCP
server and sets up address translation; `detach_network` takes it all back and never fails.  Each
netlink request, socket call and write may fail, and what was done before stays.

* `attachNetwork`, `detachNetwork` — the two functions.  The kernel refuses a bridge whose name is
  taken, so a network cannot be attached twice.
* `Served` — a node, and whether an attachment succeeded since the last detachment.
* `served_natRules` — the masquerading rule and the two accepting rules are there exactly then.
-/

namespace Qarax

open Proc

/-! ## The node -/

structure AttachNetworkRequest where
  bridgeName : String
  subnet : String
  gateway : String
  dns : String
  dhcpRangeStart : String
  dhcpRangeEnd : String
  /-- Empty in isolated mode. -/
  parentInterface : String

structure DetachNetworkRequest where
  bridgeName : String
  subnet : String

/-- A bridge device; `member` says whether a physical interface was put under it. -/
structure BridgeLink where
  name : String
  member : Bool

/-- The bridges, DHCP servers and rules of a node.  `linkFaults` says which of the next netlink
requests and socket calls fail for a reason of their own. -/
structure NodeNetwork where
  net : NetState
  links : List BridgeLink
  dhcpServers : List String
  linkFaults : List Bool

/-- The step of an attachment that failed. -/
inductive AttachError where
  | bridgeInterface
  | createBridge
  | setBridgeIp
  | startDhcp
  | setupNat (e : NetError)

abbrev NodeProc := Proc AttachError NodeNetwork

def NodeNetwork.hasLink (n : NodeNetwork) (name : String) : Bool := n.links.any (·.name = name)

/-- One request to the kernel.  It changes nothing when it fails. -/
def linkRequest (e : AttachError) (k : NodeNetwork → Option NodeNetwork) : NodeProc Unit := fun n =>
  let rest := { n with linkFaults := n.linkFaults.tail }
  if n.linkFaults.head? = some true then (.error e, rest)
  else
    match k rest with
    | none => (.error e, rest)
    | some n' => (.ok (), n')

/-- Run a function of the packet filter code and report its outcome. -/
def onNet (x : Net Unit) : NodeProc (Except NetError Unit) := fun n =>
  (.ok (x n.net).1, { n with net := (x n.net).2 })

/-! ## Bridges and DHCP -/

/-- `link_index`: the link has to be there. -/
def linkIndex (e : AttachError) (name : String) : NodeProc Unit :=
  linkRequest e fun n => if n.hasLink name then some n else none

/-- Adding a link: the kernel refuses a name that is taken. -/
def addLink (e : AttachError) (name : String) : NodeProc Unit :=
  linkRequest e fun n =>
    if n.hasLink name then none else some { n with links := n.links ++ [⟨name, false⟩] }

def createBridge (name : String) : NodeProc Unit := do
  addLink .createBridge name
  linkIndex .createBridge name
  linkRequest .createBridge some

/-- `parse_cidr` of `bridge.rs`; the length is not compared with 32 here. -/
def gatewayCidrOk (gateway length : String) : Bool :=
  (parseIpv4 gateway).isSome && (parseU8 length.toList).isSome

def setBridgeIp (name gateway length : String) : NodeProc Unit := do
  if !gatewayCidrOk gateway length then Proc.fail .setBridgeIp
  else do
    linkIndex .setBridgeIp name
    linkRequest .setBridgeIp some

/-- The interface's addresses are gathered, the bridge is added and brought up, the address moves,
and the interface is put under the bridge. -/
def bridgeInterface (bridgeName parentIface : String) : NodeProc Unit := do
  if (validateIfaceName bridgeName).isOk && (validateIfaceName parentIface).isOk then do
    linkRequest .bridgeInterface some
    addLink .bridgeInterface bridgeName
    linkIndex .bridgeInterface bridgeName
    linkRequest .bridgeInterface some
    linkRequest .bridgeInterface fun n => some { n with
      links := n.links.map fun l => if l.name = bridgeName then { l with member := true } else l }
  else Proc.fail .bridgeInterface

/-- A server that ran for the bridge is stopped before the socket is opened. -/
def startDhcpServer (bridge rangeStart rangeEnd gateway dns : String) : NodeProc Unit := do
  if (parseIpv4 gateway).isSome && (parseIpv4 rangeStart).isSome && (parseIpv4 rangeEnd).isSome &&
      (parseIpv4 dns).isSome then do
    Proc.modify fun n => { n with dhcpServers := n.dhcpServers.filter (· ≠ bridge) }
    linkRequest .startDhcp fun n => some { n with dhcpServers := n.dhcpServers ++ [bridge] }
  else Proc.fail .startDhcp

def stopDhcpServer (bridge : String) : NodeProc Unit :=
  Proc.modify fun n => { n with dhcpServers := n.dhcpServers.filter (· ≠ bridge) }

def deleteBridge (name : String) : NodeProc Unit := do
  linkIndex .createBridge name
  linkRequest .createBridge fun n => some { n with links := n.links.filter (·.name ≠ name) }

/-- Only finding the interface can fail; the bridge's deletion may be refused without notice. -/
def unbridgeInterface (name : String) : NodeProc Unit := do
  linkIndex .bridgeInterface name
  let _ ← Proc.attempt
    (linkRequest .bridgeInterface fun n => some { n with links := n.links.filter (·.name ≠ name) })

/-- A physical interface is under the bridge; `false` if that cannot be found out. -/
def isBridgedInterface (name : String) : NodeProc Bool := do
  match ← Proc.attempt (linkRequest .bridgeInterface fun n =>
      if n.links.any (fun l => l.name = name && l.member) then some n else none) with
  | .ok () => pure true
  | .error _ => pure false

/-! ## The two functions -/

/-- What stands behind the slash of the subnet, `24` if there is none. -/
def prefixOfSubnet (subnet : String) : String :=
  match Tokens.splitOnce '/' subnet.toList with
  | some (_, p) => String.ofList p
  | none => "24"

/-- The last step of an attachment in isolated mode. -/
def attachNat (req : AttachNetworkRequest) : NodeProc Unit := do
  match ← onNet (setupNat req.bridgeName req.subnet) with
  | .ok () => pure ()
  | .error e => Proc.fail (.setupNat e)

def attachNetwork (req : AttachNetworkRequest) : NodeProc Unit := do
  let bridged := decide (req.parentInterface ≠ "")
  if bridged then bridgeInterface req.bridgeName req.parentInterface
  else do
    createBridge req.bridgeName
    setBridgeIp req.bridgeName req.gateway (prefixOfSubnet req.subnet)
  let dns := if req.dns = "" then req.gateway else req.dns
  startDhcpServer req.bridgeName req.dhcpRangeStart req.dhcpRangeEnd req.gateway dns
  if bridged then pure () else attachNat req

def detachNetwork (req : DetachNetworkRequest) : NodeProc Unit := do
  stopDhcpServer req.bridgeName
  let _ ← onNet (teardownNetworkIsolation req.bridgeName)
  if req.subnet = "" then pure ()
  else do
    let _ ← onNet (teardownNat req.bridgeName req.subnet)
  if ← isBridgedInterface req.bridgeName then do
    let _ ← Proc.attempt (unbridgeInterface req.bridgeName)
  else do
    let _ ← Proc.attempt (deleteBridge req.bridgeName)

/-! ## Setting up and removing translation -/

/-- The rule that accepts what enters on the bridge. -/
def inAccept (bridge : String) : Rule := ⟨{ inIface := Args.iface (some bridge) }, accept⟩

/-- The rule that accepts what leaves by the bridge. -/
def outAccept (bridge : String) : Rule :=
  ⟨{ outIface := Option.filter (· ≠ (false, "+")) (some (false, bridge)) }, accept⟩

def isAccept (bridge : String) (r : Rule) : Bool := r = inAccept bridge || r = outAccept bridge

def isMasquerade (bridge subnet : String) (r : Rule) : Bool :=
  match (masquerade bridge subnet).read with
  | .ok r' => r = r'
  | .error _ => false

/-- The rules of the network in the two built-in chains. -/
structure NatRules (bridge subnet : String) (accepts masquerades : List Rule) (s : NetState) :
    Prop where
  forward : ∃ F, s.filter.lookup "FORWARD" = some F ∧ F.filter (isAccept bridge) = accepts
  postrouting : ∃ P, s.nat.lookup "POSTROUTING" = some P ∧
    P.filter (isMasquerade bridge subnet) = masquerades

/-- The same rules in both tables but for one chain of one of them. -/
def OnlyChain (tb : TableName) (c : String) (rs : List Rule) (s s' : NetState) : Prop :=
  (s'.table tb).lookup c = some rs ∧ ∀ tb', tb' ≠ tb → s'.table tb' = s.table tb'

variable {s : NetState} {c : String} {rs : List Rule}

lemma setTable_spec (hq : Quiet s) (tb : TableName) {t : Table} (hl : t.lookup c = some rs) :
    Quiet (s.tick.setTable t tb) ∧ OnlyChain tb c rs s (s.tick.setTable t tb) := by
  refine ⟨by cases tb <;> exact hq.tick, by cases tb <;> exact hl, fun tb' hne => ?_⟩
  cases tb <;> cases tb' <;> first | rfl | exact absurd rfl hne

variable {r : Rule}

variable {a : Args} {s' : NetState}

lemma append_quiet (hq : Quiet s) (tb : TableName) (hr : a.read = .ok r)
    (hrs : (s.table tb).lookup c = some rs) (ht : (s.table tb).hasTarget r.target = true) :
    ∃ s', runRule tb (.append c) a s = (.ok (), s') ∧ Quiet s' ∧
      OnlyChain tb c (rs ++ [r]) s s' := by
  have hexec : (Command.append c r).exec (s.table tb)
      = .ok ((s.table tb).insert c (rs ++ [r])) := by
    simp [Command.exec, ht, Table.edit, hrs, Except.map]
  refine ⟨s.tick.setTable ((s.table tb).insert c (rs ++ [r])) tb, ?_,
    setTable_spec hq tb (AList.lookup_insert _)⟩
  rw [runRule_eq hr, runCmd_quiet_table hq, hexec]

/-- A deletion takes the rule out once if it is there, and changes nothing otherwise. -/
lemma delete_quiet (hq : Quiet s) (tb : TableName) (hr : a.read = .ok r)
    (hrs : (s.table tb).lookup c = some rs) :
    ∃ res s', runRule tb (.delete c) a s = (res, s') ∧ Quiet s' ∧
      OnlyChain tb c (rs.erase r) s s' := by
  rw [runRule_eq hr, runCmd_quiet_table hq]
  by_cases hmem : r ∈ rs
  · have hexec : (Command.delete c r).exec (s.table tb)
        = .ok ((s.table tb).insert c (rs.erase r)) := by
      simp [Command.exec, Table.edit, hrs, hmem, Except.map]
    rw [hexec]
    exact ⟨_, _, rfl, setTable_spec hq tb (AList.lookup_insert _)⟩
  · have hexec : (Command.delete c r).exec (s.table tb) = .error .badRule := by
      simp [Command.exec, Table.edit, hrs, hmem, Except.map]
    rw [hexec, List.erase_of_not_mem hmem]
    refine ⟨_, _, rfl, hq.tick, ?_, fun tb' _ => ?_⟩
    · cases tb <;> exact hrs
    · cases tb' <;> rfl

lemma read_inAccept (bridge : String) :
    Args.read { inIface := some bridge, jump := accept } = .ok (inAccept bridge) := rfl

lemma read_outAccept (bridge : String) :
    Args.read { outIface := some (false, bridge), jump := accept } = .ok (outAccept bridge) := rfl

variable {subnet : String}

lemma masquerade_read (bridge : String) (h : validateIpv4Cidr subnet = .ok ()) :
    ∃ r, (masquerade bridge subnet).read = .ok r ∧ r.target = .verdict .masquerade := by
  obtain ⟨c, hc⟩ := parseCidr_of_validate h
  refine ⟨⟨{ src := if c.len.val = 0 then none else some c.network,
             outIface := some (true, bridge) }, .verdict .masquerade⟩, ?_, rfl⟩
  simp [masquerade, Args.read, Args.block, Args.ports, Args.iface, hc, bind, Except.bind, pure,
    Except.pure]

variable {bridge : String}

/-- A refused set-up changes no rule. -/
lemma setupNat_error {e : NetError} (h : setupNat bridge subnet s = (.error e, s')) :
    s'.filter = s.filter ∧ s'.nat = s.nat := by
  have hstep : ∀ {r : Except NetError Unit} {f : Unit → Net Unit},
      (Proc.lift r >>= f) s = (.error e, s') → s' = s ∨ ∃ u, f u s = (.error e, s') := by
    intro r f h
    cases r with
    | error e' => exact .inl (Prod.mk.inj h).2.symm
    | ok u => exact .inr ⟨u, h⟩
  obtain rfl | ⟨_, h⟩ := hstep h
  · exact ⟨rfl, rfl⟩
  obtain rfl | ⟨_, h⟩ := hstep h
  · exact ⟨rfl, rfl⟩
  rw [bind_run] at h
  unfold enableIpForward at h
  split_ifs at h
  · obtain rfl := (Prod.mk.inj h).2
    exact ⟨rfl, rfl⟩
  · simp at h

variable {u : Unit} {F P : List Rule}

/-- **A successful set-up** appends the rule of the nat table and the two of the filter table. -/
lemma setupNat_ok (hq : Quiet s.tick) (hF : s.filter.lookup "FORWARD" = some F)
    (hP : s.nat.lookup "POSTROUTING" = some P) (h : setupNat bridge subnet s = (.ok u, s')) :
    validateIfaceName bridge = .ok () ∧ validateIpv4Cidr subnet = .ok () ∧
      ∃ r, (masquerade bridge subnet).read = .ok r ∧
      s'.nat.lookup "POSTROUTING" = some (P ++ [r]) ∧
      s'.filter.lookup "FORWARD" = some (F ++ [inAccept bridge] ++ [outAccept bridge]) := by
  obtain ⟨_, s₁, hname, h⟩ := ok_bind.1 h
  obtain ⟨_, s₂, hcidr, h⟩ := ok_bind.1 h
  obtain ⟨_, s₃, hip, h⟩ := ok_bind.1 h
  obtain ⟨hvalid, rfl⟩ := Prod.mk.inj hname
  obtain ⟨hvalid', rfl⟩ := Prod.mk.inj hcidr
  obtain rfl : s.tick = s₃ := by
    unfold enableIpForward at hip
    split_ifs at hip
    · simp at hip
    · exact (Prod.mk.inj hip).2
  obtain ⟨r, hr, htarget⟩ := masquerade_read bridge hvalid'
  refine ⟨hvalid, hvalid', r, hr, ?_⟩
  obtain ⟨s₄, h₄, q₄, hP₄, rest₄⟩ := append_quiet hq .nat hr hP (by rw [htarget]; rfl)
  have hF₄ : (s₄.table .filter).lookup "FORWARD" = some F := by
    rw [rest₄ .filter (by simp)]
    exact hF
  obtain ⟨s₅, h₅, q₅, hF₅, rest₅⟩ := append_quiet q₄ .filter (read_inAccept bridge) hF₄ rfl
  obtain ⟨s₆, h₆, q₆, hF₆, rest₆⟩ := append_quiet q₅ .filter (read_outAccept bridge) hF₅ rfl
  rw [attempt_bind, h₄, attempt_bind, h₅, attempt_bind, h₆] at h
  cases h
  refine ⟨?_, hF₆⟩
  have hnat : s₆.table .nat = s₄.table .nat := by rw [rest₆ .nat (by simp), rest₅ .nat (by simp)]
  show (s₆.table .nat).lookup "POSTROUTING" = _
  rw [hnat, hP₄]

/-- The chain is there, and no rule is new to it. -/
def Within (c : String) (rs : List Rule) (t : Table) : Prop :=
  ∃ rs', t.lookup c = some rs' ∧ rs'.Sublist rs

lemma safe_within_of_ne {cmd : Command} (h : c ≠ cmd.chain) : cmd.Safe (Within c rs) := by
  rintro t t' ⟨rs', hl, hsub⟩ he
  exact ⟨rs', by rw [Command.lookup_exec he, if_neg h, hl], hsub⟩

lemma safe_within_delete {c' : String} (r : Rule) : (Command.delete c' r).Safe (Within c rs) := by
  by_cases h : c = c'
  · subst h
    rintro t t' ⟨rs', hl, hsub⟩ he
    refine ⟨rs'.erase r, ?_, List.erase_sublist.trans hsub⟩
    rw [Command.lookup_exec he, hl]
    simp [Command.chain, Command.after]
  · exact safe_within_of_ne h

/-- **A removal** takes each of the three rules out once. -/
lemma teardownNat_ok (hq : Quiet s) (hname : validateIfaceName bridge = .ok ())
    (hcidr : validateIpv4Cidr subnet = .ok ()) (hr : (masquerade bridge subnet).read = .ok r)
    (hF : s.filter.lookup "FORWARD" = some F) (hP : s.nat.lookup "POSTROUTING" = some P) :
    Within "FORWARD" ((F.erase (inAccept bridge)).erase (outAccept bridge))
        (teardownNat bridge subnet s).2.filter ∧
      Within "POSTROUTING" (P.erase r) (teardownNat bridge subnet s).2.nat := by
  obtain ⟨_, s₁, h₁, q₁, hP₁, rest₁⟩ := delete_quiet hq .nat hr hP
  have hF₁ : (s₁.table .filter).lookup "FORWARD" = some F := by
    rw [rest₁ .filter (by simp)]
    exact hF
  obtain ⟨_, s₂, h₂, q₂, hF₂, rest₂⟩ := delete_quiet q₁ .filter (read_inAccept bridge) hF₁
  obtain ⟨_, s₃, h₃, q₃, hF₃, rest₃⟩ := delete_quiet q₂ .filter (read_outAccept bridge) hF₂
  have hP₃ : s₃.nat.lookup "POSTROUTING" = some (P.erase r) := by
    have hnat : s₃.table .nat = s₁.table .nat := by rw [rest₃ .nat (by simp), rest₂ .nat (by simp)]
    exact (congrArg (AList.lookup "POSTROUTING") hnat).trans hP₁
  have hrun : teardownNat bridge subnet s
      = (do let _ ← Proc.attempt (removeNatExemptionRules bridge subnet) : Net Unit) s₃ := by
    simp only [teardownNat, hname, hcidr]
    rw [bind_ok_run (lift_run _ _), bind_ok_run (lift_run _ _), attempt_bind, h₁, attempt_bind, h₂,
      attempt_bind, h₃]
  rw [hrun]
  constructor
  · have hkeep : Keeps (OnFilter False (Within "FORWARD"
        ((F.erase (inAccept bridge)).erase (outAccept bridge))))
        (do let _ ← Proc.attempt (removeNatExemptionRules bridge subnet) : Net Unit) :=
      keeps_bind (keeps_attempt (keeps_removeNatExemptionRules fun _ _ => keeps_runNat _)) fun _ =>
        keeps_pure _
    exact (hkeep s₃ ⟨False.elim, _, hF₃, .refl _⟩).2
  · have hkeep : Keeps (OnNat False (Within "POSTROUTING" (P.erase r)))
        (do let _ ← Proc.attempt (removeNatExemptionRules bridge subnet) : Net Unit) :=
      keeps_bind (keeps_attempt (keeps_removeNatExemptionRules fun r _ =>
        keepsNat_runCmd (safe_within_delete r))) fun _ => keeps_pure _
    exact (hkeep s₃ ⟨False.elim, _, hP₃, .refl _⟩).2

/-! ## What the two functions do to the rules -/

variable {e : AttachError}

section Specs

variable {α : Type} {n n' : NodeNetwork} {name : String}

variable {k : NodeNetwork → Option NodeNetwork}

/-- A request that leaves the rules alone, and the link if it was there. -/
lemma keeps_linkRequest {I : NodeNetwork → Prop}
    (hf : ∀ n, I n → I { n with linkFaults := n.linkFaults.tail })
    (hk : ∀ n n', I n → k n = some n' → I n') : Keeps I (linkRequest e k) := by
  intro n hn
  unfold linkRequest
  simp only
  split_ifs
  · exact hf n hn
  · split
    · exact hf n hn
    · rename_i n' hk'
      exact hk _ n' (hf n hn) hk'

lemma linkRequest_ok (h : linkRequest e k n = (.ok u, n')) :
    k { n with linkFaults := n.linkFaults.tail } = some n' := by
  unfold linkRequest at h
  simp only at h
  split_ifs at h
  · simp at h
  · split at h
    · simp at h
    · rename_i n₁ hk
      cases h
      exact hk

/-- The rules are the given ones, and the link is there if `l` asks for it. -/
def Linked (v : NetState) (l : Prop) (name : String) (n : NodeNetwork) : Prop :=
  n.net = v ∧ (l → n.hasLink name = true)

variable {v : NetState} {l : Prop}

lemma keeps_linked_add (e : AttachError) (name' : String) :
    Keeps (Linked v l name) (addLink e name') := by
  refine keeps_linkRequest (fun n hn => hn) fun n n' hn hk => ?_
  split_ifs at hk
  cases hk
  refine ⟨hn.1, fun hl => ?_⟩
  have := hn.2 hl
  simp_all [NodeNetwork.hasLink]

lemma keeps_linked_index (e : AttachError) (name' : String) :
    Keeps (Linked v l name) (linkIndex e name') := by
  refine keeps_linkRequest (fun n hn => hn) fun n n' hn hk => ?_
  split_ifs at hk
  cases hk
  exact hn

lemma keeps_linked_some (e : AttachError) : Keeps (Linked v l name) (linkRequest e some) :=
  keeps_linkRequest (fun _ hn => hn) fun _ _ hn hk => Option.some.inj hk ▸ hn

lemma keeps_createBridge (name' : String) : Keeps (Linked v l name) (createBridge name') := by
  refine keeps_bind (keeps_linked_add _ _) fun _ => ?_
  exact keeps_bind (keeps_linked_index _ _) fun _ => keeps_linked_some _

lemma keeps_setBridgeIp (name' gateway length : String) :
    Keeps (Linked v l name) (setBridgeIp name' gateway length) := by
  refine keeps_ite (fun _ => keeps_lift (.error _)) fun _ => ?_
  exact keeps_bind (keeps_linked_index _ _) fun _ => keeps_linked_some _

lemma keeps_startDhcpServer (bridge rangeStart rangeEnd gateway dns : String) :
    Keeps (Linked v l name) (startDhcpServer bridge rangeStart rangeEnd gateway dns) := by
  refine keeps_ite (fun _ => ?_) fun _ => keeps_lift (.error _)
  refine keeps_bind (fun n hn => hn) fun _ => keeps_linkRequest (fun n hn => hn) ?_
  intro n n' hn hk
  exact Option.some.inj hk ▸ hn

/-- A bridge that was created was not there before. -/
lemma createBridge_ok (h : createBridge name n = (.ok u, n')) :
    n.hasLink name = false ∧ n'.hasLink name = true := by
  obtain ⟨_, n₁, hadd, h⟩ := ok_bind.1 h
  have hn₁ : n.hasLink name = false ∧ n₁.hasLink name = true := by
    have hadd := linkRequest_ok hadd
    split_ifs at hadd with hlink
    cases hadd
    exact ⟨by simpa [NodeNetwork.hasLink] using hlink, by simp [NodeNetwork.hasLink]⟩
  refine ⟨hn₁.1, ?_⟩
  have hkeep : Keeps (Linked n₁.net True name) (do
      linkIndex .createBridge name
      linkRequest .createBridge some) :=
    keeps_bind (keeps_linked_index _ _) fun _ => keeps_linked_some _
  exact (triple_of_keeps hkeep n₁ _ n' ⟨rfl, fun _ => hn₁.2⟩ h).2 trivial

end Specs

variable {req : AttachNetworkRequest}

lemma attachNetwork_isolated (hreq : req.parentInterface = "") :
    attachNetwork req = (do
      createBridge req.bridgeName
      setBridgeIp req.bridgeName req.gateway (prefixOfSubnet req.subnet)
      startDhcpServer req.bridgeName req.dhcpRangeStart req.dhcpRangeEnd req.gateway
        (if req.dns = "" then req.gateway else req.dns)
      attachNat req) := by
  simp [attachNetwork, hreq]

/-- **An attachment that fails** changes no rule. -/
lemma attachNetwork_error {n n' : NodeNetwork} (hreq : req.parentInterface = "")
    (h : attachNetwork req n = (.error e, n')) :
    n'.net.filter = n.net.filter ∧ n'.net.nat = n.net.nat ∧
      (n.hasLink req.bridgeName = true → n'.hasLink req.bridgeName = true) := by
  have hstart : Linked n.net (n.hasLink req.bridgeName = true) req.bridgeName n := ⟨rfl, id⟩
  -- up to the last step the rules stay the same; a failed set-up leaves the tables as they were
  have step : ∀ {x : NodeProc Unit} {f : NodeProc Unit} {m : NodeNetwork},
      Keeps (Linked n.net (n.hasLink req.bridgeName = true) req.bridgeName) x →
      Linked n.net (n.hasLink req.bridgeName = true) req.bridgeName m →
      (x >>= fun _ => f) m = (.error e, n') →
      Linked n.net (n.hasLink req.bridgeName = true) req.bridgeName n' ∨
        ∃ m', Linked n.net (n.hasLink req.bridgeName = true) req.bridgeName m' ∧
          f m' = (.error e, n') := by
    intro x f m hx hm hrun
    have hm' := hx m hm
    rw [bind_run] at hrun
    rcases hxm : x m with ⟨e' | u, m'⟩
    · rw [hxm] at hrun hm'
      obtain rfl := (Prod.mk.inj hrun).2
      exact .inl hm'
    · rw [hxm] at hrun hm'
      exact .inr ⟨m', hm', hrun⟩
  have done : Linked n.net (n.hasLink req.bridgeName = true) req.bridgeName n' →
      n'.net.filter = n.net.filter ∧ n'.net.nat = n.net.nat ∧
        (n.hasLink req.bridgeName = true → n'.hasLink req.bridgeName = true) :=
    fun hl => ⟨by rw [hl.1], by rw [hl.1], hl.2⟩
  rw [attachNetwork_isolated hreq] at h
  rcases step (keeps_createBridge _) hstart h with hl | ⟨n₁, hn₁, h⟩
  · exact done hl
  rcases step (keeps_setBridgeIp _ _ _) hn₁ h with hl | ⟨n₂, hn₂, h⟩
  · exact done hl
  rcases step (keeps_startDhcpServer _ _ _ _ _) hn₂ h with hl | ⟨n₃, hn₃, h⟩
  · exact done hl
  rcases hnat : setupNat req.bridgeName req.subnet n₃.net with ⟨e' | u, v⟩
  · obtain ⟨hf, ht⟩ := setupNat_error hnat
    have hn' : n' = { n₃ with net := v } := by
      simp only [attachNat, onNet, bind_run, hnat, fail_run, Prod.mk.injEq] at h
      exact h.2.symm
    rw [hn', ← hn₃.1]
    exact ⟨hf, ht, hn₃.2⟩
  · simp [attachNat, onNet, bind_run, hnat] at h

/-- **An attachment that succeeds** has created the bridge and set up translation. -/
lemma attachNetwork_ok {n n' : NodeNetwork} (hreq : req.parentInterface = "")
    (h : attachNetwork req n = (.ok u, n')) :
    n.hasLink req.bridgeName = false ∧ n'.hasLink req.bridgeName = true ∧
      setupNat req.bridgeName req.subnet n.net = (.ok (), n'.net) := by
  rw [attachNetwork_isolated hreq] at h
  obtain ⟨_, n₁, h₁, h⟩ := ok_bind.1 h
  obtain ⟨_, n₂, h₂, h⟩ := ok_bind.1 h
  obtain ⟨_, n₃, h₃, h⟩ := ok_bind.1 h
  obtain ⟨hbefore, hafter⟩ := createBridge_ok h₁
  have hn₁ : Linked n.net False req.bridgeName n₁ :=
    triple_of_keeps (keeps_createBridge _) n _ n₁ ⟨rfl, False.elim⟩ h₁
  have hn₂ : Linked n.net True req.bridgeName n₂ :=
    triple_of_keeps (keeps_setBridgeIp _ _ _) n₁ _ n₂ ⟨hn₁.1, fun _ => hafter⟩ h₂
  have hn₃ : Linked n.net True req.bridgeName n₃ :=
    triple_of_keeps (keeps_startDhcpServer _ _ _ _ _) n₂ _ n₃ hn₂ h₃
  rcases hnat : setupNat req.bridgeName req.subnet n₃.net with ⟨e' | u, v⟩
  · simp [attachNat, onNet, bind_run, hnat] at h
  · have hn' : n' = { n₃ with net := v } := by
      simp only [attachNat, onNet, bind_run, hnat, pure_run, Prod.mk.injEq] at h
      exact h.2.symm
    rw [hn', ← hn₃.1]
    exact ⟨hbefore, hn₃.2 trivial, hnat⟩

/-- The rules after a detachment are those its two packet filter functions leave. -/
lemma detachNetwork_net (req : DetachNetworkRequest) (n : NodeNetwork) :
    (detachNetwork req n).2.net
      = if req.subnet = "" then (teardownNetworkIsolation req.bridgeName n.net).2
        else (teardownNat req.bridgeName req.subnet
          (teardownNetworkIsolation req.bridgeName n.net).2).2 := by
  -- whatever becomes of the bridge, the rules are not touched any more
  let tail : NodeProc Unit := do
    if ← isBridgedInterface req.bridgeName then do
      let _ ← Proc.attempt (unbridgeInterface req.bridgeName)
    else do
      let _ ← Proc.attempt (deleteBridge req.bridgeName)
  have drop : ∀ (e : AttachError) (v : NetState), Keeps (Linked v False req.bridgeName)
      (linkRequest e fun n =>
        some { n with links := n.links.filter (·.name ≠ req.bridgeName) }) := by
    intro e v
    refine keeps_linkRequest (fun _ hn => hn) fun n n' hn hk => ?_
    exact Option.some.inj hk ▸ ⟨hn.1, False.elim⟩
  have htail : ∀ v, Keeps (Linked v False req.bridgeName) tail := by
    intro v
    refine keeps_bind (keeps_bind (keeps_attempt (keeps_linkRequest (fun _ hn => hn) ?_)) ?_) ?_
    · intro n n' hn hk
      split_ifs at hk
      exact Option.some.inj hk ▸ hn
    · rintro (e | u)
      · exact keeps_pure _
      · exact keeps_pure _
    · intro b
      refine keeps_ite (fun _ => ?_) fun _ => ?_
      · refine keeps_bind (keeps_attempt ?_) fun _ => keeps_pure _
        refine keeps_bind (keeps_linked_index _ _) fun _ => ?_
        exact keeps_bind (keeps_attempt (drop _ v)) fun _ => keeps_pure _
      · refine keeps_bind (keeps_attempt ?_) fun _ => keeps_pure _
        exact keeps_bind (keeps_linked_index _ _) fun _ => drop _ v
  have hnet : ∀ m : NodeNetwork, (tail m).2.net = m.net := fun m =>
    (htail m.net m ⟨rfl, False.elim⟩).1
  by_cases hsub : req.subnet = ""
  · simp only [detachNetwork, hsub, if_true]
    exact hnet _
  · simp only [detachNetwork, hsub, if_false]
    exact hnet _

/-! ## Sequences of calls -/

/-- A node, and whether an attachment of the network succeeded since its last detachment. -/
structure Served where
  node : NodeNetwork
  attached : Bool

/-- Calls for one bridge and subnet, with the requests to the kernel that fail in them.  What
`iptables` is run for does not fail for a reason of its own: neither function looks at the
outcome. -/
inductive NetworkAct where
  | attach (gateway dns dhcpRangeStart dhcpRangeEnd : String) (linkFaults : List Bool)
      (ipForwardFails : Bool)
  | detach (linkFaults : List Bool)

/-- The node at the beginning of a call. -/
def NodeNetwork.withFaults (n : NodeNetwork) (linkFaults faults : List Bool) : NodeNetwork :=
  { n with linkFaults, net := { n.net with faults } }

def serve (bridge subnet : String) (s : Served) : NetworkAct → Option Served
  | .attach gateway dns dhcpRangeStart dhcpRangeEnd linkFaults ipForwardFails =>
    match attachNetwork ⟨bridge, subnet, gateway, dns, dhcpRangeStart, dhcpRangeEnd, ""⟩
        (s.node.withFaults linkFaults [ipForwardFails]) with
    | (.ok (), node) => some ⟨node, true⟩
    | (.error _, node) => some ⟨node, s.attached⟩
  | .detach linkFaults =>
    some ⟨(detachNetwork ⟨bridge, subnet⟩ (s.node.withFaults linkFaults [])).2, false⟩

/-- The three rules of a network, with the table and the chain each belongs to. -/
def natRules (bridge subnet : String) : List (TableName × String × Args) :=
  [(.nat, "POSTROUTING", masquerade bridge subnet),
   (.filter, "FORWARD", { inIface := some bridge, jump := accept }),
   (.filter, "FORWARD", { outIface := some (false, bridge), jump := accept })]

/-- The rule is in its chain. -/
def Present (s : NetState) (x : TableName × String × Args) : Prop :=
  ∃ r, x.2.2.read = .ok r ∧ r ∈ (s.table x.1).body x.2.1

/-- **The invariant of such sequences.**  An attached network has its bridge and each of its rules
once, a network that is not attached has none. -/
structure ServedOk (bridge subnet : String) (s : Served) : Prop where
  detached : s.attached = false → NatRules bridge subnet [] [] s.node.net
  attached : s.attached = true → validateIfaceName bridge = .ok () ∧
    validateIpv4Cidr subnet = .ok () ∧ s.node.hasLink bridge = true ∧
    ∃ r, (masquerade bridge subnet).read = .ok r ∧
      NatRules bridge subnet [inAccept bridge, outAccept bridge] [r] s.node.net

/-- The accepting rules are not what the removal of a bridge's isolation looks for. -/
lemma isAccept_not_found {chain : String} (hb : IfaceName bridge)
    (hchain : chain ∈ [isolationOut bridge, isolationIn bridge])
    (h : (Line.append "FORWARD" r).contains ("-j " ++ chain) = true) :
    isAccept bridge r = false := by
  rw [Bool.eq_false_iff]
  intro hr
  simp only [isAccept, Bool.or_eq_true, decide_eq_true_eq] at hr
  have hblank : NoBlank r := by
    rcases hr with rfl | rfl
    · refine noBlank_of (fun n hn => ?_) (by simp [inAccept])
        (by simp [inAccept, accept, targetText])
      rw [inAccept, Args.iface, Option.filter_eq_some_iff] at hn
      exact Option.some.inj hn.1 ▸ hb.no_space
    · refine noBlank_of (by simp [outAccept]) (fun o ho => ?_)
        (by simp [outAccept, accept, targetText])
      rw [outAccept, Option.filter_eq_some_iff] at ho
      exact Option.some.inj ho.1 ▸ hb.no_space
  have hsan := not_mem_sanitizeSuffix (show ' '.isAlphanum = false by decide) bridge 20
  have hq : chain.toList.head? = some 'Q' ∧ ' ' ∉ chain.toList := by
    rcases List.mem_pair.1 hchain with rfl | rfl
    · simp [isolationOut, hsan]
    · simp [isolationIn, hsan]
  rw [contains_jump hblank hq.1 hq.2] at h
  have htarget : targetText r.target = "ACCEPT" := by rcases hr with rfl | rfl <;> rfl
  have := head?_of_starts h hq.1
  simp [htarget] at this

/-- Removing the isolation of a bridge takes jumps out of `FORWARD`, never the accepting rules. -/
lemma teardownNetworkIsolation_accepts (bridge : String) (hF : s.filter.lookup "FORWARD" = some F) :
    Within "FORWARD" F (teardownNetworkIsolation bridge s).2.filter ∧
      (IfaceName bridge → Picks "FORWARD" (isAccept bridge) (F.filter (isAccept bridge))
        (teardownNetworkIsolation bridge s).2.filter) := by
  have ne : ∀ chain ∈ [isolationOut bridge, isolationIn bridge], "FORWARD" ≠ chain := by
    intro chain hc
    obtain ⟨rest, rfl⟩ := isolation_tag bridge hc
    have hf : "FORWARD" = "FORWA" ++ "RD" := by decide
    rw [hf]
    exact tag_append_ne _ _ (by simp) (by decide)
  constructor
  · refine (keeps_teardownNetworkIsolation (P := OnFilter False (Within "FORWARD" F))
      (fun _ _ r _ => keeps_runCmd (safe_within_delete r))
      (fun c hc => keeps_runCmd (safe_within_of_ne (ne c hc)))
      (fun c hc => keeps_runCmd (safe_within_of_ne (ne c hc))) s ⟨False.elim, F, hF, .refl _⟩).2
  · intro hb
    refine (keeps_teardownNetworkIsolation
      (P := OnFilter False (Picks "FORWARD" (isAccept bridge) (F.filter (isAccept bridge))))
      (fun c hc r hfound => keeps_runCmd (safe_picks_delete (isAccept_not_found hb hc hfound)))
      (fun c hc => keeps_runCmd (safe_picks_of_ne (ne c hc)))
      (fun c hc => keeps_runCmd (safe_picks_of_ne (ne c hc))) s ⟨False.elim, ?_⟩).2
    rw [Picks, Table.body_of_lookup hF]

lemma quiet_teardownNetworkIsolation (hq : Quiet s) :
    Quiet (teardownNetworkIsolation bridge s).2 :=
  (keeps_teardownNetworkIsolation (P := OnFilter True fun _ => True)
    (fun _ _ _ _ => keeps_runCmd (safe_true _)) (fun _ _ => keeps_runCmd (safe_true _))
    (fun _ _ => keeps_runCmd (safe_true _)) s ⟨fun _ => hq, trivial⟩).1 trivial

/-- Rules that are not there are not there after deletions either. -/
lemma natRules_of_within (hF : Within "FORWARD" F s.filter) (hP : Within "POSTROUTING" P s.nat)
    (haccepts : F.filter (isAccept bridge) = [])
    (hmasq : P.filter (isMasquerade bridge subnet) = []) : NatRules bridge subnet [] [] s := by
  obtain ⟨F', hF', hsub⟩ := hF
  obtain ⟨P', hP', hsub'⟩ := hP
  refine ⟨⟨F', hF', ?_⟩, P', hP', ?_⟩
  · exact List.sublist_nil.1 (haccepts ▸ hsub.filter _)
  · exact List.sublist_nil.1 (hmasq ▸ hsub'.filter _)

/-- **A detachment** of an attached network takes out all of its rules. -/
lemma natRules_detach (hq : Quiet s) (hname : validateIfaceName bridge = .ok ())
    (hcidr : validateIpv4Cidr subnet = .ok ()) (hr : (masquerade bridge subnet).read = .ok r)
    (h : NatRules bridge subnet [inAccept bridge, outAccept bridge] [r] s) :
    NatRules bridge subnet [] []
      (teardownNat bridge subnet (teardownNetworkIsolation bridge s).2).2 := by
  obtain ⟨⟨F, hF, haccepts⟩, P, hP, hmasq⟩ := h
  obtain ⟨⟨F₁, hF₁, -⟩, hpicks⟩ := teardownNetworkIsolation_accepts bridge hF
  have haccepts₁ : F₁.filter (isAccept bridge) = [inAccept bridge, outAccept bridge] := by
    have hp := hpicks (ifaceName_of_validate hname)
    rwa [Picks, Table.body_of_lookup hF₁, haccepts] at hp
  have hP₁ : (teardownNetworkIsolation bridge s).2.nat.lookup "POSTROUTING" = some P :=
    (keepsNat_teardownNetworkIsolation (q := False) (J := HasRules "POSTROUTING" (some P)) bridge s
      ⟨False.elim, hP⟩).2
  obtain ⟨hF₂, hP₂⟩ := teardownNat_ok
    (quiet_teardownNetworkIsolation hq) hname hcidr hr hF₁ hP₁
  refine natRules_of_within hF₂ hP₂ ?_ ?_
  · rw [← List.erase_filter, ← List.erase_filter, haccepts₁]
    simp
  · rw [← List.erase_filter, hmasq]
    simp

/-- One call. -/
lemma servedOk_step {s s' : Served} {a : NetworkAct} (hs : ServedOk bridge subnet s)
    (h : serve bridge subnet s a = some s') : ServedOk bridge subnet s' := by
  cases a with
  | attach gateway dns dhcpRangeStart dhcpRangeEnd linkFaults ipForwardFails =>
    simp only [serve] at h
    split at h
    · rename_i node hrun
      cases h
      obtain ⟨hbefore, hafter, hnat⟩ := attachNetwork_ok rfl hrun
      refine ⟨fun hf => absurd hf (by simp), fun _ => ?_⟩
      -- a network that is attached has its bridge, and then the new one was refused
      have hfree : s.attached = false := by
        rw [Bool.eq_false_iff]
        intro hatt
        have hno : s.node.hasLink bridge = false := hbefore
        rw [(hs.attached hatt).2.2.1] at hno
        cases hno
      obtain ⟨⟨F, hF, haccepts⟩, P, hP, hmasq⟩ := hs.detached hfree
      obtain ⟨hname, hcidr, r, hr, hP', hF'⟩ := setupNat_ok
        (s := (s.node.withFaults linkFaults [ipForwardFails]).net)
        (by simp [Quiet, NetState.tick, NodeNetwork.withFaults]) hF hP hnat
      refine ⟨hname, hcidr, hafter, r, hr, ⟨_, hF', ?_⟩, _, hP', ?_⟩
      · simp [haccepts, isAccept]
      · simp [hmasq, isMasquerade, hr]
    · rename_i e node hrun
      cases h
      obtain ⟨hf, hn, hlink⟩ := attachNetwork_error rfl hrun
      have same : ∀ {accepts masqs}, NatRules bridge subnet accepts masqs s.node.net →
          NatRules bridge subnet accepts masqs node.net := by
        rintro accepts masqs ⟨hF, hP⟩
        refine ⟨?_, ?_⟩
        · rwa [hf]
        · rwa [hn]
      refine ⟨fun hatt => same (hs.detached hatt), fun hatt => ?_⟩
      obtain ⟨hname, hcidr, hl, r, hr, hrules⟩ := hs.attached hatt
      exact ⟨hname, hcidr, hlink hl, r, hr, same hrules⟩
  | detach linkFaults =>
    simp only [serve, Option.some.injEq] at h
    subst h
    refine ⟨fun _ => ?_, fun hf => absurd hf (by simp)⟩
    rw [detachNetwork_net]
    have hq : Quiet (s.node.withFaults linkFaults []).net := by
      simp [Quiet, NodeNetwork.withFaults]
    cases hatt : s.attached with
    | true =>
      obtain ⟨hname, hcidr, -, r, hr, hrules⟩ := hs.attached hatt
      have hne : subnet ≠ "" := by
        rintro rfl
        exact absurd hcidr (by decide +kernel)
      rw [if_neg hne]
      exact natRules_detach hq hname hcidr hr ⟨hrules.forward, hrules.postrouting⟩
    | false =>
      obtain ⟨⟨F, hF, haccepts⟩, P, hP, hmasq⟩ := hs.detached hatt
      have hF₁ := (teardownNetworkIsolation_accepts bridge
        (s := (s.node.withFaults linkFaults []).net) hF).1
      have hP₁ := (keepsNat_teardownNetworkIsolation (q := False) (J := Within "POSTROUTING" P)
        bridge (s.node.withFaults linkFaults []).net ⟨False.elim, P, hP, .refl _⟩).2
      split_ifs
      · exact natRules_of_within hF₁ hP₁ haccepts hmasq
      · refine natRules_of_within
          (keeps_teardownNat (P := OnFilter False (Within "FORWARD" F)) (fun _ => keeps_runNat _)
            (fun r => keeps_runCmd (safe_within_delete r)) _ ⟨False.elim, hF₁⟩).2
          (keeps_teardownNat (P := OnNat False (Within "POSTROUTING" P))
            (fun r => keepsNat_runCmd (safe_within_delete r)) (fun _ => keepsNat_runFilter _) _
            ⟨False.elim, hP₁⟩).2 haccepts hmasq

/-- **The rules of a network are there exactly while it is attached**: after every sequence of
attachments and detachments, whichever of their requests to the kernel fail, the masquerading rule
and the two accepting rules are in their chains if an attachment succeeded since the last
detachment, and none of them is otherwise. -/
theorem served_natRules {bridge subnet : String} {start s : Served}
    (hstart : start.attached = false) (hnone : NatRules bridge subnet [] [] start.node.net)
    (h : Machine.Reach (serve bridge subnet) (fun _ _ => True) (· = start) s) :
    (s.attached = true → ∀ x ∈ natRules bridge subnet, Present s.node.net x) ∧
      (s.attached = false → ∀ x ∈ natRules bridge subnet, ¬ Present s.node.net x) := by
  have hs : ServedOk bridge subnet s := by
    refine h.invariant (fun s hs => ?_) fun s a s' hs _ hstep => servedOk_step hs hstep
    subst hs
    exact ⟨fun _ => hnone, fun hatt => absurd hatt (by simp [hstart])⟩
  constructor
  · intro hatt
    obtain ⟨-, -, -, r, hr, ⟨F, hF, haccepts⟩, P, hP, hmasq⟩ := hs.attached hatt
    have hin : inAccept bridge ∈ F.filter (isAccept bridge) := by simp [haccepts]
    have hout : outAccept bridge ∈ F.filter (isAccept bridge) := by simp [haccepts]
    have hr' : r ∈ P.filter (isMasquerade bridge subnet) := by simp [hmasq]
    simp only [natRules, List.forall_mem_cons, List.not_mem_nil, false_imp_iff, implies_true,
      and_true]
    refine ⟨⟨r, hr, ?_⟩, ⟨_, read_inAccept bridge, ?_⟩, ⟨_, read_outAccept bridge, ?_⟩⟩
    · exact (Table.body_of_lookup hP).symm ▸ (List.mem_filter.1 hr').1
    · exact (Table.body_of_lookup hF).symm ▸ (List.mem_filter.1 hin).1
    · exact (Table.body_of_lookup hF).symm ▸ (List.mem_filter.1 hout).1
  · intro hatt
    obtain ⟨⟨F, hF, haccepts⟩, P, hP, hmasq⟩ := hs.detached hatt
    have none : ∀ {l : List Rule} {p : Rule → Bool} {r : Rule}, l.filter p = [] → p r = true →
        r ∉ l := by
      intro l p r hl hp hmem
      have : r ∈ l.filter p := List.mem_filter.2 ⟨hmem, hp⟩
      rw [hl] at this
      cases this
    simp only [natRules, List.forall_mem_cons, List.not_mem_nil, false_imp_iff, implies_true,
      and_true]
    refine ⟨?_, ?_, ?_⟩
    · rintro ⟨r, hr, hmem⟩
      rw [show (s.node.net.table .nat).body "POSTROUTING" = P from Table.body_of_lookup hP] at hmem
      exact none hmasq (by simp [isMasquerade, hr]) hmem
    · rintro ⟨r, hr, hmem⟩
      obtain rfl : inAccept bridge = r := Except.ok.inj hr
      rw [show (s.node.net.table .filter).body "FORWARD" = F from Table.body_of_lookup hF] at hmem
      exact none haccepts (by simp [isAccept]) hmem
    · rintro ⟨r, hr, hmem⟩
      obtain rfl : outAccept bridge = r := Except.ok.inj hr
      rw [show (s.node.net.table .filter).body "FORWARD" = F from Table.body_of_lookup hF] at hmem
      exact none haccepts (by simp [isAccept]) hmem

/-! Network `10.1.0.0/24` on bridge `br0`. -/

def emptyNode : Served := ⟨⟨.fresh [], [], [], []⟩, false⟩

/-- An attachment in which nothing fails. -/
def attachLab : NetworkAct := .attach "10.1.0.1" "" "10.1.0.2" "10.1.0.254" [] false

/-- **A second attachment is refused and one detachment is enough.** -/
theorem attach_attach_detach :
    ∃ s, Machine.run (serve "br0" "10.1.0.0/24") emptyNode [attachLab, attachLab, .detach []]
      = some s ∧ s.attached = false ∧
      ∀ x ∈ natRules "br0" "10.1.0.0/24", ¬ Present s.node.net x := by
  obtain ⟨s, hs⟩ : ∃ s, Machine.run (serve "br0" "10.1.0.0/24") emptyNode
      [attachLab, attachLab, .detach []] = some s := Option.isSome_iff_exists.1 (by decide +kernel)
  have hfalse : (Machine.run (serve "br0" "10.1.0.0/24") emptyNode
      [attachLab, attachLab, .detach []]).map Served.attached = some false := by decide +kernel
  have hatt : s.attached = false := by simpa [hs] using hfalse
  have hreach : Machine.Reach (serve "br0" "10.1.0.0/24") (fun _ _ => True) (· = emptyNode) s :=
    Machine.reach_of_run (.start rfl) (by simp [Machine.Along]) hs
  have hnone : NatRules "br0" "10.1.0.0/24" [] [] emptyNode.node.net :=
    ⟨⟨[], AList.lookup_insert _, rfl⟩, [], AList.lookup_insert _, rfl⟩
  exact ⟨s, hs, hatt, (served_natRules rfl hnone hreach).2 hatt⟩

def labRequest : AttachNetworkRequest :=
  ⟨"br0", "10.1.0.0/24", "10.1.0.1", "", "10.1.0.2", "10.1.0.254", ""⟩

def attachedNode : NodeNetwork := (attachNetwork labRequest emptyNode.node).2

/-- **A refused attachment leaves an attached network alone**: its bridge is there, so the second
call fails, and the rules of the first stay although the last call did not succeed. -/
theorem refused_attach_leaves_rules :
    (attachNetwork labRequest emptyNode.node).1.isOk = true ∧
      (attachNetwork labRequest attachedNode).1.isOk = false ∧
      inAccept "br0" ∈ (attachNetwork labRequest attachedNode).2.net.filter.body "FORWARD" ∧
      outAccept "br0" ∈ (attachNetwork labRequest attachedNode).2.net.filter.body "FORWARD" ∧
      ((attachNetwork labRequest attachedNode).2.net.nat.body "POSTROUTING").length = 1 := by
  decide +kernel

end Qarax
