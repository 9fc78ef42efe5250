import Qarax.Node.Networking.Iptables

/-!
# What the packet filter code keeps

A property of the tables survives a function of `networking/iptables.rs`, failed or not, when it
survives each command the function may run.  There is one lemma for each function; the commands are
its hypotheses, so an invariant is only ever proved command by command.

The second half says what the functions return when they succeed.
-/

namespace Qarax

open Proc

/-! ## Functions that keep a property -/

section Functions

variable {P : NetState → Prop} {chain c parent : String} {tb : TableName}

lemma keeps_ensureChain (h : Keeps P (runCmd .filter (.new chain))) :
    Keeps P (ensureChain chain) := by
  refine keeps_bind (keeps_attempt h) fun r => ?_
  rcases r with e | u
  · exact keeps_ite (fun _ => keeps_pure ()) fun _ => keeps_lift (.error e)
  · exact keeps_pure ()

variable [Ticks P]

lemma keeps_check (r : Rule) : Keeps P (runCmd tb (.check c r)) := by
  intro s hs
  refine runCmd_of hs fun t ht => ?_
  simp only [Command.exec] at ht
  split_ifs at ht
  cases ht
  cases tb <;> exact Ticks.tick hs

/-- A rule is put on top of a chain unless it is there, in either table. -/
def ensureRule (tb : TableName) (c : String) (rule : Args) : Net Unit := do
  match ← Proc.attempt (runRule tb (.check c) rule) with
  | .ok () => pure ()
  | .error _ => runRule tb (.insert c) rule

lemma keeps_ensureRule (tb : TableName) {rule : Args}
    (h : ∀ r, rule.read = .ok r → Keeps P (runCmd tb (.insert c r))) :
    Keeps P (ensureRule tb c rule) := by
  refine keeps_bind (keeps_attempt (keeps_runRule fun r _ => keeps_check r)) fun res => ?_
  rcases res with e | u
  · exact keeps_runRule h
  · exact keeps_pure ()

lemma keeps_ensureJumpRule {rule : Args}
    (h : ∀ r, rule.read = .ok r → Keeps P (runCmd .filter (.insert parent r))) :
    Keeps P (ensureJumpRule parent rule) :=
  keeps_ensureRule .filter h

lemma keeps_nextChildChain (parent a b : String) : Keeps P (nextChildChain parent a b) := by
  refine keeps_bind (keeps_runList _ _) fun _ => ?_
  exact keeps_ite (fun _ => keeps_pure _) fun _ => keeps_pure _

omit [Ticks P] in
lemma runList_listed :
    Triple P (runList tb c) fun ls s =>
      ∃ rs, (s.table tb).lookup c = some rs ∧ ls = headLine c :: rs.map (.append c) := by
  intro s ls s' _ h
  obtain ⟨rfl, rs, hrs, hls⟩ := runList_ok_table h
  exact ⟨rs, by rw [NetState.tick_table]; exact hrs, hls⟩

lemma deleteListed_headLine (tb : TableName) (c : String) (s : NetState) :
    deleteListed tb (headLine c) s = (.ok (), s) := by
  unfold headLine
  split_ifs <;> rfl

omit [Ticks P] in
/-- The rules a listing of a chain offers for deletion are rules of the chain. -/
lemma keeps_deleteListed {found : Line → Bool} {rs : List Rule}
    (h : ∀ r, found (.append c r) = true → Keeps P (runCmd tb (.delete c r))) :
    ∀ l ∈ (headLine c :: rs.map (.append c)).filter found, Keeps P (deleteListed tb l) := by
  intro l hmem
  simp only [List.mem_filter, List.mem_cons, List.mem_map] at hmem
  obtain ⟨rfl | ⟨r, -, rfl⟩, hc⟩ := hmem
  · intro s hs
    rwa [deleteListed_headLine]
  · exact h r hc

/-- The second half of a sync: the rules that are found and not desired go. -/
lemma keeps_deleteStale (desired : List Args) {found : Line → Bool}
    (h : ∀ r, found (.append c r) = true → desired.any (ruleMatches (.append c r)) = false →
      Keeps P (runCmd tb (.delete c r))) :
    Keeps P (do
      let rules ← runList tb c
      Proc.each (fun line =>
          if desired.any (ruleMatches line) then pure () else deleteListed tb line)
        (rules.filter found) : Net Unit) := by
  refine keeps_bind_of (keeps_runList _ _) runList_listed ?_
  rintro ls s hs ⟨rs, -, rfl⟩
  refine keeps_each (fun l hmem => ?_) s hs
  refine keeps_ite (fun _ => keeps_pure ()) fun hstale => ?_
  obtain ⟨hl, hfound⟩ := List.mem_filter.1 hmem
  refine @keeps_deleteListed P c tb (fun l => found l && !desired.any (ruleMatches l)) rs
    (fun r hr => ?_) l (List.mem_filter.2 ⟨hl, by simp [hfound, hstale]⟩)
  rw [Bool.and_eq_true, Bool.not_eq_true'] at hr
  exact h r hr.1 hr.2

lemma keeps_syncForwardJumpRules {desired : List Args}
    (hi : ∀ a ∈ desired, ∀ r, a.read = .ok r → Keeps P (runCmd .filter (.insert "FORWARD" r)))
    (hd : ∀ r, (Line.append "FORWARD" r).contains ("-j " ++ parent) = true →
      Keeps P (runCmd .filter (.delete "FORWARD" r))) :
    Keeps P (syncForwardJumpRules parent desired) :=
  keeps_bind (keeps_each fun a ha => keeps_ensureJumpRule (hi a ha)) fun _ =>
    keeps_deleteStale desired fun r hr _ => hd r hr

lemma keeps_removeForwardRulesReferencing
    (hd : ∀ r, (Line.append "FORWARD" r).contains ("-j " ++ chain) = true →
      Keeps P (runCmd .filter (.delete "FORWARD" r)))
    (hf : Keeps P (runCmd .filter (.flush chain))) (hx : Keeps P (runCmd .filter (.remove chain))) :
    Keeps P (removeForwardRulesReferencing chain) := by
  refine keeps_bind_of (keeps_runList _ _) runList_listed ?_
  rintro ls s hs ⟨rs, -, rfl⟩
  refine keeps_bind (keeps_each fun l hmem => ?_) (fun _ => ?_) s hs
  · exact keeps_bind (keeps_attempt (keeps_deleteListed hd l hmem)) fun _ => keeps_pure _
  · refine keeps_bind (keeps_attempt hf) fun _ => ?_
    exact keeps_bind (keeps_attempt hx) fun _ => keeps_pure _

lemma keeps_deleteChainIfExists (hf : Keeps P (runCmd .filter (.flush chain)))
    (hx : Keeps P (runCmd .filter (.remove chain))) : Keeps P (deleteChainIfExists chain) := by
  refine keeps_bind (keeps_bind keeps_runListAll fun _ => keeps_pure _) fun found => ?_
  refine keeps_ite (fun _ => keeps_pure ()) fun _ => ?_
  refine keeps_bind (keeps_attempt hf) fun _ => ?_
  exact keeps_bind (keeps_attempt hx) fun _ => keeps_pure _

/-! ### NAT and isolation -/

variable {bridge localSubnet subnet : String} {blocked natExempt : List String}

/-- The desired exemptions of a sync match the line. -/
def spared (bridge localSubnet : String) (natExempt : List String) (line : Line) : Bool :=
  (natExempt.map (natExemption bridge localSubnet)).any (ruleMatches line)

lemma keeps_syncNatExemptionRules
    (hi : ∀ subnet ∈ natExempt, ∀ r, (natExemption bridge localSubnet subnet).read = .ok r →
      Keeps P (runCmd .nat (.insert "POSTROUTING" r)))
    (hd : ∀ r, isNatExemption bridge localSubnet (.append "POSTROUTING" r) = true →
      spared bridge localSubnet natExempt (.append "POSTROUTING" r) = false →
      Keeps P (runCmd .nat (.delete "POSTROUTING" r))) :
    Keeps P (syncNatExemptionRules bridge localSubnet natExempt) :=
  keeps_bind (keeps_each fun d hmem => keeps_ensureRule .nat (hi d hmem)) fun _ =>
    keeps_deleteStale _ hd

lemma keeps_removeNatExemptionRules
    (hd : ∀ r, isNatExemption bridge localSubnet (.append "POSTROUTING" r) = true →
      Keeps P (runCmd .nat (.delete "POSTROUTING" r))) :
    Keeps P (removeNatExemptionRules bridge localSubnet) := by
  refine keeps_bind_of (keeps_runList _ _) runList_listed ?_
  rintro ls s hs ⟨rs, -, rfl⟩
  refine keeps_each (fun l hmem => ?_) s hs
  exact keeps_bind (keeps_attempt (keeps_deleteListed hd l hmem)) fun _ => keeps_pure _

lemma keeps_enableIpForward : Keeps P enableIpForward := by
  intro s hs
  unfold enableIpForward
  split_ifs <;> exact Ticks.tick hs

lemma keeps_setupNat (hn : ∀ r, (masquerade bridge subnet).read = .ok r →
      Keeps P (runCmd .nat (.append "POSTROUTING" r)))
    (hf : ∀ r, Keeps P (runCmd .filter (.append "FORWARD" r))) :
    Keeps P (setupNat bridge subnet) := by
  refine keeps_bind (keeps_lift _) fun _ => keeps_bind (keeps_lift _) fun _ => ?_
  refine keeps_bind keeps_enableIpForward fun _ => ?_
  refine keeps_bind (keeps_attempt (keeps_runRule hn)) fun _ => ?_
  refine keeps_bind (keeps_attempt (keeps_runRule fun r _ => hf r)) fun _ => ?_
  exact keeps_bind (keeps_attempt (keeps_runRule fun r _ => hf r)) fun _ => keeps_pure _

lemma keeps_teardownNat (hn : ∀ r, Keeps P (runCmd .nat (.delete "POSTROUTING" r)))
    (hf : ∀ r, Keeps P (runCmd .filter (.delete "FORWARD" r))) :
    Keeps P (teardownNat bridge subnet) := by
  refine keeps_bind (keeps_lift _) fun _ => keeps_bind (keeps_lift _) fun _ => ?_
  refine keeps_bind (keeps_attempt (keeps_runRule fun r _ => hn r)) fun _ => ?_
  refine keeps_bind (keeps_attempt (keeps_runRule fun r _ => hf r)) fun _ => ?_
  refine keeps_bind (keeps_attempt (keeps_runRule fun r _ => hf r)) fun _ => ?_
  exact keeps_bind (keeps_attempt (keeps_removeNatExemptionRules fun r _ => hn r))
    fun _ => keeps_pure _

lemma read_target {a : Args} {r : Rule} (h : a.read = .ok r) : r.target = a.jump := by
  obtain ⟨src, dst, dport, -, -, -, rfl⟩ := Args.read_ok h
  rfl

lemma keeps_syncNetworkIsolation
    (hn : ∀ c ∈ [isolationOut bridge, isolationIn bridge], Keeps P (runCmd .filter (.new c)))
    (hf : ∀ c ∈ [isolationOut bridge, isolationIn bridge], Keeps P (runCmd .filter (.flush c)))
    (ha : ∀ c ∈ [isolationOut bridge, isolationIn bridge], ∀ r,
      r.target = drop ∨ r.target = .ret → Keeps P (runCmd .filter (.append c r)))
    (hi : ∀ c ∈ [isolationOut bridge, isolationIn bridge], ∀ r, r.target = .jump c →
      Keeps P (runCmd .filter (.insert "FORWARD" r)))
    (hx : Keeps P (syncNatExemptionRules bridge localSubnet natExempt)) :
    Keeps P (syncNetworkIsolation bridge localSubnet blocked natExempt) := by
  have append : ∀ c ∈ [isolationOut bridge, isolationIn bridge], ∀ a : Args,
      a.jump = drop ∨ a.jump = .ret → Keeps P (runRule .filter (.append c) a) := by
    intro c hc a hj
    refine keeps_runRule fun r hr => ha c hc r ?_
    rwa [read_target hr]
  have insert : ∀ c ∈ [isolationOut bridge, isolationIn bridge], ∀ a : Args, a.jump = .jump c →
      Keeps P (ensureJumpRule "FORWARD" a) := by
    intro c hc a hj
    refine keeps_ensureJumpRule fun r hr => hi c hc r ?_
    rw [read_target hr, hj]
  refine keeps_bind (keeps_lift _) fun _ => keeps_bind (keeps_lift _) fun _ => ?_
  refine keeps_bind (keeps_each fun _ _ => keeps_lift _) fun _ => ?_
  refine keeps_bind (keeps_each fun _ _ => keeps_lift _) fun _ => ?_
  refine keeps_bind (keeps_ensureChain (hn _ (by simp))) fun _ => ?_
  refine keeps_bind (keeps_ensureChain (hn _ (by simp))) fun _ => ?_
  refine keeps_bind (insert _ (by simp) _ rfl) fun _ => ?_
  refine keeps_bind (insert (isolationIn bridge) (by simp) _ rfl) fun _ => ?_
  refine keeps_bind (hf _ (by simp)) fun _ => keeps_bind (hf _ (by simp)) fun _ => ?_
  refine keeps_bind (keeps_each fun subnet _ => ?_) fun _ => ?_
  · refine keeps_bind (append _ (by simp) _ (.inl rfl)) fun _ => ?_
    exact append _ (by simp) _ (.inl rfl)
  refine keeps_bind (append _ (by simp) _ (.inr rfl)) fun _ => ?_
  exact keeps_bind (append _ (by simp) _ (.inr rfl)) fun _ => hx

lemma keeps_teardownNetworkIsolation
    (hd : ∀ c ∈ [isolationOut bridge, isolationIn bridge], ∀ r,
      (Line.append "FORWARD" r).contains ("-j " ++ c) = true →
        Keeps P (runCmd .filter (.delete "FORWARD" r)))
    (hf : ∀ c ∈ [isolationOut bridge, isolationIn bridge], Keeps P (runCmd .filter (.flush c)))
    (hx : ∀ c ∈ [isolationOut bridge, isolationIn bridge], Keeps P (runCmd .filter (.remove c))) :
    Keeps P (teardownNetworkIsolation bridge) := by
  have forward : ∀ c ∈ [isolationOut bridge, isolationIn bridge],
      Keeps P (removeForwardRulesReferencing c) :=
    fun c hc => keeps_removeForwardRulesReferencing (hd c hc) (hf c hc) (hx c hc)
  have chain : ∀ c ∈ [isolationOut bridge, isolationIn bridge], Keeps P (deleteChainIfExists c) :=
    fun c hc => keeps_deleteChainIfExists (hf c hc) (hx c hc)
  refine keeps_bind (keeps_lift _) fun _ => keeps_bind (forward _ (by simp)) fun _ => ?_
  refine keeps_bind (forward _ (by simp)) fun _ => ?_
  exact keeps_bind (chain _ (by simp)) fun _ => chain _ (by simp)

end Functions

/-! ### Firewalls of VMs -/

variable {q : Prop} {J : Table → Prop} {P : NetState → Prop} {chain c parent vmId : String}
  {a : Args} {acc : SyncAcc}

/-- Exemptions are not rules of the filter table. -/
lemma keeps_exemptions (bridge localSubnet : String) (natExempt : List String) :
    Keeps (OnFilter q J) (syncNatExemptionRules bridge localSubnet natExempt) :=
  keeps_syncNatExemptionRules (fun _ _ _ _ => keeps_runNat _) fun _ _ _ => keeps_runNat _

/-- A line `-A c …` is recognised by its first two tokens. -/
lemma isPrefixOf_append_text (c : String) (r : Rule) :
    ("-A " ++ c ++ " ").toList.isPrefixOf (Line.append c r).text = true := by
  obtain ⟨x, xs, hx⟩ : ∃ x xs, (ruleOptions r).flatMap (fun o => o.1 ++ [o.2]) = x :: xs := by
    refine List.exists_cons_of_ne_nil fun h => ?_
    have := List.flatMap_eq_nil_iff.1 h (["-j"], targetText r.target) (by simp [ruleOptions])
    simp at this
  have hp : (Line.append c r).parts = "-A" :: c :: x :: xs := by
    simp [Line.parts, Line.options, hx]
  rw [Line.text, hp, List.isPrefixOf_iff_prefix]
  exact ⟨Tokens.line ' ' ((x :: xs).map String.toList), by simp [Tokens.line]⟩

lemma isPrefixOf_headLine_text (c : String) :
    ("-A " ++ c ++ " ").toList.isPrefixOf (headLine c).text = false := by
  unfold headLine
  split_ifs <;> simp [Line.text, Line.parts, Line.options, Tokens.line, List.isPrefixOf]

/-- A listing of a chain shows `-A` lines exactly when the chain has rules. -/
lemma listed_any_append (c : String) (rs : List Rule) :
    ((headLine c :: rs.map (.append c)).any
      fun line => ("-A " ++ c ++ " ").toList.isPrefixOf line.text) = decide (rs ≠ []) := by
  rw [List.any_cons, isPrefixOf_headLine_text]
  cases rs with
  | nil => simp
  | cons r rs => rw [List.map_cons, List.any_cons, isPrefixOf_append_text]; simp

lemma read_bareJump (c : String) : Args.read { jump := .jump c } = .ok ⟨{}, .jump c⟩ := rfl

lemma keeps_deleteRest (h : (Command.deleteSecond c).Safe J) :
    ∀ {n : ℕ}, Keeps (OnFilter q J) (deleteRest c n)
  | 0 => keeps_pure ()
  | n + 1 => by
      refine keeps_bind (keeps_attempt (keeps_runCmd h)) fun res => ?_
      rcases res with e | u
      · exact keeps_pure ()
      · exact keeps_deleteRest h

/-- Pointing a parent to a child replaces the first rule of the parent, or appends to it when it
is empty, and deletes other rules. -/
lemma keeps_pointParentToChild {child : String}
    (hr : (Command.replace parent ⟨{}, .jump child⟩).Safe J)
    (ha : ∀ t t', J t → t.lookup parent = some [] →
      (Command.append parent ⟨{}, .jump child⟩).exec t = .ok t' → J t')
    (hd : (Command.deleteSecond parent).Safe J) :
    Keeps (OnFilter q J) (pointParentToChild parent child) := by
  refine keeps_bind_of (keeps_runList _ _) runList_listed ?_
  rintro ls s hs ⟨rs, hrs, rfl⟩
  rw [listed_any_append]
  split_ifs with h
  · refine keeps_bind (keeps_runRule fun r hread => ?_) (fun _ => keeps_deleteRest hd) s hs
    rw [read_bareJump, Except.ok.injEq] at hread
    exact hread ▸ keeps_runCmd hr
  · obtain rfl : rs = [] := by simpa using h
    rw [runRule_eq (read_bareJump child)]
    exact runCmd_of hs fun t ht => ⟨fun hq => (hs.1 hq).tick, ha _ t hs.2 hrs ht⟩

variable {chains : VmFirewallChains} {nextIn nextOut : String}
  {interfaces : List VmFirewallInterface}

/-- Filling the children only flushes them and appends to them. -/
lemma keeps_fillChildren (hf : ∀ c ∈ [nextIn, nextOut], (Command.flush c).Safe J)
    (ha : ∀ c ∈ [nextIn, nextOut], ∀ r, (Command.append c r).Safe J) :
    Keeps (OnFilter q J) (fillChildren chains nextIn nextOut interfaces) := by
  have append : ∀ c ∈ [nextIn, nextOut], ∀ a : Args,
      Keeps (OnFilter q J) (runRule .filter (.append c) a) :=
    fun c hc a => keeps_runRule fun r _ => keeps_runCmd (ha c hc r)
  have rule : ∀ b r, Keeps (OnFilter q J) (syncRule nextIn nextOut b r) := by
    intro b r
    refine keeps_bind (keeps_lift _) fun _ => ?_
    cases r.directionOrDefault with
    | ingress => exact keeps_bind (append nextIn (by simp) _) fun _ => keeps_pure _
    | egress => exact keeps_bind (append nextOut (by simp) _) fun _ => keeps_pure _
  have iface : ∀ acc i, Keeps (OnFilter q J) (syncInterface chains nextIn nextOut acc i) := by
    intro acc i
    refine keeps_bind (keeps_lift _) fun _ => keeps_bind (keeps_lift _) fun _ => ?_
    exact keeps_bind (keeps_fold fun b r _ => rule b r) fun _ => keeps_pure _
  refine keeps_bind (keeps_runCmd (hf nextOut (by simp))) fun _ => ?_
  refine keeps_bind (keeps_runCmd (hf nextIn (by simp))) fun _ => ?_
  refine keeps_bind (append nextIn (by simp) _) fun _ => ?_
  refine keeps_bind (append nextOut (by simp) _) fun _ => ?_
  refine keeps_bind (keeps_fold fun acc i _ => iface acc i) fun acc => ?_
  refine keeps_bind (append nextIn (by simp) _) fun _ => ?_
  exact keeps_bind (append nextOut (by simp) _) fun _ => keeps_pure _

/-- The chains of a VM that packets are judged in. -/
def VmFirewallChains.children (chains : VmFirewallChains) : List String :=
  [chains.outA, chains.outB, chains.inA, chains.inB]

def VmFirewallChains.all (chains : VmFirewallChains) : List String :=
  chains.outParent :: chains.inParent :: chains.children

/-- A property that the removal of a VM's chains keeps. -/
structure SafeTeardown (J : Table → Prop) (chains : VmFirewallChains) : Prop where
  delete : ∀ parent ∈ [chains.outParent, chains.inParent], ∀ r,
    (Line.append "FORWARD" r).contains ("-j " ++ parent) = true →
      (Command.delete "FORWARD" r).Safe J
  flush : ∀ c ∈ chains.all, (Command.flush c).Safe J
  remove : ∀ c ∈ chains.all, (Command.remove c).Safe J

lemma keeps_teardownVmFirewall (h : SafeTeardown J (.new vmId)) :
    Keeps (OnFilter q J) (teardownVmFirewall vmId) := by
  have forward :
      ∀ c ∈ [(VmFirewallChains.new vmId).outParent, (VmFirewallChains.new vmId).inParent],
      Keeps (OnFilter q J) (removeForwardRulesReferencing c) := by
    intro c hc
    have hall : c ∈ (VmFirewallChains.new vmId).all := by
      simp only [VmFirewallChains.all, List.mem_cons] at hc ⊢
      tauto
    exact keeps_removeForwardRulesReferencing (fun r hr => keeps_runCmd (h.delete c hc r hr))
      (keeps_runCmd (h.flush c hall)) (keeps_runCmd (h.remove c hall))
  have chain : ∀ c ∈ (VmFirewallChains.new vmId).all,
      Keeps (OnFilter q J) (deleteChainIfExists c) :=
    fun c hc => keeps_deleteChainIfExists (keeps_runCmd (h.flush c hc))
      (keeps_runCmd (h.remove c hc))
  refine keeps_bind (forward _ (by simp)) fun _ => keeps_bind (forward _ (by simp)) fun _ => ?_
  iterate 5
    refine keeps_bind (chain _ ?_) fun _ => ?_
    · simp [VmFirewallChains.all, VmFirewallChains.children]
  exact chain _ (by simp [VmFirewallChains.all, VmFirewallChains.children])

/-! ## Part of a chain -/

/-- The rules of a chain with a property are the given ones. -/
def Picks (c : String) (p : Rule → Bool) (v : List Rule) (t : Table) : Prop :=
  (t.body c).filter p = v

variable {cmd : Command}

section Picks

variable {c : String} {p : Rule → Bool} {v : List Rule}

lemma Table.body_exec {t t' : Table} (h : cmd.exec t = .ok t') (c : String) :
    t'.body c = if c = cmd.chain then (cmd.after (t.lookup c)).getD [] else t.body c := by
  unfold body
  rw [Command.lookup_exec h]
  split_ifs <;> rfl

/-- Commands about other chains keep what is said of the rules of a chain. -/
lemma safe_body_of_ne (P : List Rule → Prop) (h : c ≠ cmd.chain) :
    cmd.Safe fun t => P (t.body c) := by
  intro t t' ht he
  rw [Table.body_exec he, if_neg h]
  exact ht

lemma safe_picks_of_ne (h : c ≠ cmd.chain) : cmd.Safe (Picks c p v) :=
  safe_body_of_ne (fun rs => rs.filter p = v) h

lemma safe_picks_insert (hr : p r = false) : (Command.insert c r).Safe (Picks c p v) := by
  intro t t' ht he
  rw [Picks, Table.body_exec he, if_pos (show c = (Command.insert c r).chain from rfl), ← ht,
    Table.body]
  cases t.lookup c with
  | none => rfl
  | some rs => simp [Command.after, hr]

lemma safe_picks_delete (hr : p r = false) : (Command.delete c r).Safe (Picks c p v) := by
  intro t t' ht he
  rw [Picks, Table.body_exec he, if_pos (show c = (Command.delete c r).chain from rfl), ← ht,
    Table.body]
  cases t.lookup c with
  | none => rfl
  | some rs =>
    have hnot : r ∉ rs.filter p := by simp [hr]
    simp [Command.after, ← List.erase_filter, List.erase_of_not_mem hnot]

end Picks

/-! ## What successful functions do -/

lemma nextChildChain_mem {a b : String} :
    Triple P (nextChildChain parent a b) fun c _ => c = a ∨ c = b := by
  refine triple_bind runList_listed fun ls => ?_
  split_ifs
  · exact triple_pure fun _ _ => .inr rfl
  · exact triple_pure fun _ _ => .inl rfl

variable {s s' : NetState} {u : Unit}

/-- The chain exists afterwards; if it did before, with the rules it had. -/
lemma ensureChain_ok (h : ensureChain chain s = (.ok u, s')) :
    s'.filter.lookup chain = some ((s.filter.lookup chain).getD []) := by
  obtain ⟨res, s₁, hatt, hrest⟩ := ok_bind.1 h
  rcases hrun : runCmd .filter (.new chain) s with ⟨e | v, s₂⟩
  · rw [attempt_run, hrun, Prod.mk.injEq, Except.ok.injEq] at hatt
    obtain ⟨rfl, rfl⟩ := hatt
    simp only at hrest
    split_ifs at hrest with hmsg
    · cases hrest
      obtain ⟨heq, rfl | ⟨e', hexec, rfl⟩⟩ := runCmd_error hrun
      · exact absurd hmsg (by decide +kernel)
      · simp only [Command.exec] at hexec
        split_ifs at hexec with hc
        obtain ⟨rs, hrs⟩ := Option.isSome_iff_exists.1 (AList.lookup_isSome.2 hc)
        rw [heq, hrs]
        rfl
    · simp at hrest
  · rw [attempt_run, hrun, Prod.mk.injEq, Except.ok.injEq] at hatt
    obtain ⟨rfl, rfl⟩ := hatt
    cases hrest
    have hexec := runCmd_ok hrun
    have hnone : s.filter.lookup chain = none := by
      simp only [Command.exec] at hexec
      split_ifs at hexec with hc
      rwa [AList.lookup_eq_none]
    rw [Command.lookup_exec hexec, hnone]
    simp [Command.chain, Command.after]

lemma append_ok (h : runRule .filter (.append c) a s = (.ok u, s')) :
    ∃ r, a.read = .ok r ∧ ∀ c', s'.filter.lookup c' =
      if c' = c then (s.filter.lookup c').map (· ++ [r]) else s.filter.lookup c' := by
  obtain ⟨r, hr, hrun⟩ := runRule_ok h
  exact ⟨r, hr, fun c' => Command.lookup_exec (runCmd_ok hrun) c'⟩

lemma flush_ok (h : flushChain c s = (.ok u, s')) (c' : String) : s'.filter.lookup c' =
      if c' = c then (s.filter.lookup c').map fun _ => [] else s.filter.lookup c' :=
  Command.lookup_exec (runCmd_ok h) c'

/-! ### Filling the children

`Compiled d rules cs` says that `cs` are the rules `iptables` reads for the rules of direction `d`.
-/

/-- The rules of one direction. -/
def rulesOf (d : FirewallDirection) (rules : List VmFirewallRule) : List VmFirewallRule :=
  rules.filter fun r => r.directionOrDefault = d

/-- `cs` are what `iptables` reads for `rules`. -/
def Compiled (rules : List VmFirewallRule) (cs : List Rule) : Prop :=
  rules.map (fun r => r.args.read) = cs.map .ok

lemma compiled_append {rules : List VmFirewallRule} {cs : List Rule} {r : VmFirewallRule}
    {c : Rule} (h : Compiled rules cs) (hr : r.args.read = .ok c) :
    Compiled (rules ++ [r]) (cs ++ [c]) := by
  unfold Compiled at h ⊢
  simp [h, hr]

/-- What the loop over rules has done: the rules of each direction stand at the end of their chain,
and an egress rule has been noticed. -/
structure Filled (nextIn nextOut : String) (preIn preOut : List Rule)
    (rules : List VmFirewallRule) (hasEgress : Bool) (s : NetState) : Prop where
  egress : hasEgress = rules.any fun r => r.directionOrDefault = .egress
  ingressRules : ∃ cs, Compiled (rulesOf .ingress rules) cs ∧
    s.filter.lookup nextIn = some (preIn ++ cs)
  egressRules : ∃ cs, Compiled (rulesOf .egress rules) cs ∧
    s.filter.lookup nextOut = some (preOut ++ cs)

lemma syncRule_filled (hne : nextIn ≠ nextOut) {preIn preOut : List Rule}
    (done : List VmFirewallRule) (b : Bool) (r : VmFirewallRule) :
    Triple (Filled nextIn nextOut preIn preOut done b) (syncRule nextIn nextOut b r)
      (Filled nextIn nextOut preIn preOut (done ++ [r])) := by
  intro s b' s' hs hr
  obtain ⟨_, s₁, hv, hr⟩ := ok_bind.1 hr
  obtain rfl : s = s₁ := (Prod.mk.inj hv).2
  obtain ⟨ci, hci, hin⟩ := hs.ingressRules
  obtain ⟨co, hco, hout⟩ := hs.egressRules
  cases hd : r.directionOrDefault with
  | ingress =>
    rw [hd] at hr
    obtain ⟨_, s₂, happ, hret⟩ := ok_bind.1 hr
    cases hret
    obtain ⟨c, hc, hl⟩ := append_ok happ
    refine ⟨by simp [hs.egress, hd], ⟨ci ++ [c], ?_, ?_⟩, ⟨co, ?_, ?_⟩⟩
    · simpa [rulesOf, hd] using compiled_append hci hc
    · simp [hl, hin]
    · simpa [rulesOf, hd] using hco
    · rw [hl, if_neg hne.symm, hout]
  | egress =>
    rw [hd] at hr
    obtain ⟨_, s₂, happ, hret⟩ := ok_bind.1 hr
    cases hret
    obtain ⟨c, hc, hl⟩ := append_ok happ
    refine ⟨by simp [hd], ⟨ci, ?_, ?_⟩, ⟨co ++ [c], ?_, ?_⟩⟩
    · simpa [rulesOf, hd] using hci
    · rw [hl, if_neg hne, hin]
    · simpa [rulesOf, hd] using compiled_append hco hc
    · simp [hl, hout]

/-- What the loop over interfaces has done. -/
structure Collected (chains : VmFirewallChains) (interfaces : List VmFirewallInterface)
    (acc : SyncAcc) : Prop where
  desiredIn : acc.desiredInJumpRules = interfaces.map (inJump chains)
  desiredOut : acc.desiredOutJumpRules = interfaces.map (outJump chains)
  name : ∀ i ∈ interfaces, IfaceName i.bridgeName
  address : ∀ i ∈ interfaces, ∃ ip, parseIpv4 i.ip = some ip

lemma syncInterface_collected (done : List VmFirewallInterface) (acc : SyncAcc)
    (i : VmFirewallInterface) :
    Triple (fun _ => Collected chains done acc) (syncInterface chains nextIn nextOut acc i)
      (fun acc _ => Collected chains (done ++ [i]) acc) := by
  intro s acc' s' hc hr
  obtain ⟨u, s₁, hu, hr⟩ := ok_bind.1 hr
  obtain ⟨v, s₂, hv, hr⟩ := ok_bind.1 hr
  obtain ⟨b, s₃, -, hret⟩ := ok_bind.1 hr
  cases hret
  refine ⟨?_, ?_, ?_, ?_⟩
  · simp [hc.desiredIn]
  · simp [hc.desiredOut]
  · intro j hj
    rcases List.mem_append.1 hj with hj | hj
    · exact hc.name j hj
    · exact List.mem_singleton.1 hj ▸ ifaceName_of_validate (Prod.mk.inj hu).1
  · intro j hj
    rcases List.mem_append.1 hj with hj | hj
    · exact hc.address j hj
    · exact List.mem_singleton.1 hj ▸ parseIpv4_of_validate (Prod.mk.inj hv).1

lemma syncInterface_filled (hne : nextIn ≠ nextOut) {preIn preOut : List Rule}
    (done : List VmFirewallInterface) (acc : SyncAcc) (i : VmFirewallInterface) :
    Triple (Filled nextIn nextOut preIn preOut (done.flatMap (·.rules)) acc.hasEgressRules)
      (syncInterface chains nextIn nextOut acc i)
      (fun acc => Filled nextIn nextOut preIn preOut ((done ++ [i]).flatMap (·.rules))
        acc.hasEgressRules) := by
  intro s acc' s' hs hr
  obtain ⟨u, s₁, hu, hr⟩ := ok_bind.1 hr
  obtain ⟨v, s₂, hv, hr⟩ := ok_bind.1 hr
  obtain ⟨b, s₃, hfold, hret⟩ := ok_bind.1 hr
  obtain rfl := (Prod.mk.inj hu).2
  obtain rfl := (Prod.mk.inj hv).2
  cases hret
  have hfilled := triple_fold (syncRule_filled hne) i.rules _ _ _ _ _ hs hfold
  simpa using hfilled

/-- The rule in front of a child. -/
def establishedRule : Rule := ⟨{ established := true }, accept⟩

/-- The rules of a child chain: connection state, the rules of the direction, the default. -/
def childRules (cs : List Rule) (default : Target) : List Rule :=
  establishedRule :: cs ++ [⟨{}, default⟩]

/-- The default verdict of the outgoing child. -/
def egressDefault (rules : List VmFirewallRule) : Target :=
  if rules.any (fun r => r.directionOrDefault = .egress) then drop else accept

/-- **The children after a sync.** -/
structure Children (nextIn nextOut : String) (rules : List VmFirewallRule) (t : Table) : Prop where
  ingress : ∃ cs, Compiled (rulesOf .ingress rules) cs ∧
    t.lookup nextIn = some (childRules cs drop)
  egress : ∃ cs, Compiled (rulesOf .egress rules) cs ∧
    t.lookup nextOut = some (childRules cs (egressDefault rules))

/-- The jumps to install are those of the interfaces. -/
lemma fillChildren_collected :
    Triple P (fillChildren chains nextIn nextOut interfaces)
      fun acc _ => Collected chains interfaces acc := by
  intro s acc s' _ h
  obtain ⟨_, s₁, -, h⟩ := ok_bind.1 h
  obtain ⟨_, s₂, -, h⟩ := ok_bind.1 h
  obtain ⟨_, s₃, -, h⟩ := ok_bind.1 h
  obtain ⟨_, s₄, -, h⟩ := ok_bind.1 h
  obtain ⟨acc', s₅, hfold, h⟩ := ok_bind.1 h
  obtain ⟨_, s₆, -, h⟩ := ok_bind.1 h
  obtain ⟨_, s₇, -, hret⟩ := ok_bind.1 h
  cases hret
  have start : Collected chains [] ⟨false, [], []⟩ := ⟨rfl, rfl, by simp, by simp⟩
  exact triple_fold syncInterface_collected interfaces [] _ _ _ _ start hfold

lemma fillChildren_ok (hne : nextIn ≠ nextOut) {rsIn rsOut : List Rule}
    (hin : s.filter.lookup nextIn = some rsIn) (hout : s.filter.lookup nextOut = some rsOut)
    (h : fillChildren chains nextIn nextOut interfaces s = (.ok acc, s')) :
    Children nextIn nextOut (interfaces.flatMap (·.rules)) s'.filter := by
  obtain ⟨_, s₁, hflushOut, h⟩ := ok_bind.1 h
  obtain ⟨_, s₂, hflushIn, h⟩ := ok_bind.1 h
  obtain ⟨_, s₃, hestIn, h⟩ := ok_bind.1 h
  obtain ⟨_, s₄, hestOut, h⟩ := ok_bind.1 h
  obtain ⟨acc', s₅, hfold, h⟩ := ok_bind.1 h
  obtain ⟨_, s₆, hlastIn, h⟩ := ok_bind.1 h
  obtain ⟨_, s₇, hlastOut, hret⟩ := ok_bind.1 h
  cases hret
  obtain ⟨r₃, hr₃, l₃⟩ := append_ok hestIn
  obtain ⟨r₄, hr₄, l₄⟩ := append_ok hestOut
  cases hr₃
  cases hr₄
  have start : Filled nextIn nextOut [establishedRule] [establishedRule] [] false s₄ := by
    refine ⟨rfl, ⟨[], rfl, ?_⟩, ⟨[], rfl, ?_⟩⟩
    · rw [l₄, if_neg hne, l₃, if_pos rfl, flush_ok hflushIn, if_pos rfl, flush_ok hflushOut,
        if_neg hne, hin]
      rfl
    · rw [l₄, if_pos rfl, l₃, if_neg hne.symm, flush_ok hflushIn, if_neg hne.symm,
        flush_ok hflushOut, if_pos rfl, hout]
      rfl
  have hf := triple_fold (syncInterface_filled hne) interfaces [] _ _ _ _ start hfold
  obtain ⟨r₆, hr₆, l₆⟩ := append_ok hlastIn
  obtain ⟨r₇, hr₇, l₇⟩ := append_ok hlastOut
  cases hr₆
  cases hr₇
  obtain ⟨ci, hci, hli⟩ := hf.ingressRules
  obtain ⟨co, hco, hlo⟩ := hf.egressRules
  refine ⟨⟨ci, hci, ?_⟩, ⟨co, hco, ?_⟩⟩
  · rw [l₇, if_neg hne, l₆, if_pos rfl, hli]
    rfl
  · rw [l₇, if_pos rfl, l₆, if_neg hne.symm, hlo]
    simp only [Option.map_some, hf.egress, List.nil_append, childRules, egressDefault]
    rfl

/-- A property that a sync of a VM's firewall keeps. -/
structure SafeSync (q : Prop) (J : Table → Prop) (chains : VmFirewallChains)
    (interfaces : List VmFirewallInterface) : Prop extends SafeTeardown J chains where
  new : ∀ c ∈ chains.all, (Command.new c).Safe J
  append : ∀ c ∈ chains.children, ∀ r, (Command.append c r).Safe J
  pointIn : ∀ child ∈ [chains.inA, chains.inB],
    Keeps (OnFilter q J) (pointParentToChild chains.inParent child)
  pointOut : ∀ child ∈ [chains.outA, chains.outB],
    Keeps (OnFilter q J) (pointParentToChild chains.outParent child)
  insert : ∀ i ∈ interfaces, ∀ a ∈ [inJump chains i, outJump chains i], ∀ r, a.read = .ok r →
    (Command.insert "FORWARD" r).Safe J

lemma prepareChildren_mem :
    Triple P (prepareChildren chains) fun next _ =>
      (next.1 = chains.inA ∨ next.1 = chains.inB) ∧
        (next.2 = chains.outA ∨ next.2 = chains.outB) := by
  intro s next s' _ h
  obtain ⟨_, s₁, -, h⟩ := ok_bind.1 h
  obtain ⟨_, s₂, -, h⟩ := ok_bind.1 h
  obtain ⟨nextOut, s₃, hout, h⟩ := ok_bind.1 h
  obtain ⟨nextIn, s₄, hin, h⟩ := ok_bind.1 h
  obtain ⟨_, s₅, -, h⟩ := ok_bind.1 h
  obtain ⟨_, s₆, -, h⟩ := ok_bind.1 h
  cases h
  exact ⟨nextChildChain_mem (P := fun _ => True) s₃ _ _ trivial hin,
    nextChildChain_mem (P := fun _ => True) s₂ _ _ trivial hout⟩

lemma keeps_prepareChildren (h : ∀ c ∈ chains.all, (Command.new c).Safe J) :
    Keeps (OnFilter q J) (prepareChildren chains) := by
  have new : ∀ c ∈ chains.all, Keeps (OnFilter q J) (runCmd .filter (.new c)) :=
    fun c hc => keeps_runCmd (h c hc)
  refine keeps_bind (keeps_ensureChain (new _ (by simp [VmFirewallChains.all]))) fun _ => ?_
  refine keeps_bind (keeps_ensureChain (new _ (by simp [VmFirewallChains.all]))) fun _ => ?_
  refine keeps_bind_of (keeps_nextChildChain _ _ _) nextChildChain_mem fun nextOut s hs ho => ?_
  refine keeps_bind_of (keeps_nextChildChain _ _ _) nextChildChain_mem
    (fun nextIn s hs hi => ?_) s hs
  refine keeps_bind (keeps_ensureChain (new _ ?_)) (fun _ => ?_) s hs
  · rcases ho with rfl | rfl <;> simp [VmFirewallChains.all, VmFirewallChains.children]
  refine keeps_bind (keeps_ensureChain (new _ ?_)) fun _ => keeps_pure _
  rcases hi with rfl | rfl <;> simp [VmFirewallChains.all, VmFirewallChains.children]

lemma keeps_switchOver (h : SafeSync q J chains interfaces)
    (hi : nextIn = chains.inA ∨ nextIn = chains.inB)
    (ho : nextOut = chains.outA ∨ nextOut = chains.outB) (hacc : Collected chains interfaces acc) :
    Keeps (OnFilter q J) (switchOver chains nextIn nextOut acc) := by
  have stale : ∀ c ∈ chains.all, Keeps (OnFilter q J) (deleteChainIfExists c) :=
    fun c hc => keeps_deleteChainIfExists (keeps_runCmd (h.flush c hc))
      (keeps_runCmd (h.remove c hc))
  refine keeps_bind (h.pointIn _ (by simpa using hi)) fun _ => ?_
  refine keeps_bind (h.pointOut _ (by simpa using ho)) fun _ => ?_
  refine keeps_bind (keeps_syncForwardJumpRules ?_
    fun r hr => keeps_runCmd (h.delete _ (by simp) r hr)) fun _ => ?_
  · rw [hacc.desiredIn, List.forall_mem_map]
    exact fun i hi r hr => keeps_runCmd (h.insert i hi _ (by simp) r hr)
  refine keeps_bind (keeps_syncForwardJumpRules ?_
    fun r hr => keeps_runCmd (h.delete _ (by simp) r hr)) fun _ => ?_
  · rw [hacc.desiredOut, List.forall_mem_map]
    exact fun i hi r hr => keeps_runCmd (h.insert i hi _ (by simp) r hr)
  unfold staleChild
  refine keeps_bind (stale _ ?_) fun _ => stale _ ?_
  · split_ifs <;> simp [VmFirewallChains.all, VmFirewallChains.children]
  · split_ifs <;> simp [VmFirewallChains.all, VmFirewallChains.children]

lemma keeps_syncVmFirewall (h : SafeSync q J (.new vmId) interfaces) :
    Keeps (OnFilter q J) (syncVmFirewall vmId interfaces) := by
  refine keeps_ite (fun _ => keeps_teardownVmFirewall h.toSafeTeardown) fun _ => ?_
  refine keeps_bind_of (keeps_prepareChildren h.new) prepareChildren_mem ?_
  rintro ⟨nextIn, nextOut⟩ s hs ⟨hi, ho⟩
  have mem : ∀ c ∈ [nextIn, nextOut], c ∈ (VmFirewallChains.new vmId).children := by
    intro c hc
    rcases List.mem_pair.1 hc with rfl | rfl
    · rcases hi with hi | hi <;> simp_all [VmFirewallChains.children]
    · rcases ho with ho | ho <;> simp_all [VmFirewallChains.children]
  have fill : Keeps (OnFilter q J)
      (fillChildren (.new vmId) nextIn nextOut interfaces) := by
    refine keeps_fillChildren (fun c hc => h.flush c ?_) fun c hc => h.append c (mem c hc)
    simp [VmFirewallChains.all, mem c hc]
  refine keeps_bind_of fill fillChildren_collected (fun acc s hs hacc => ?_) s hs
  exact keeps_switchOver h hi ho hacc s hs

/-! ## Histories -/

/-- The requests that change the packet filter of a node. -/
inductive Call where
  | setupNat (bridge subnet : String)
  | teardownNat (bridge subnet : String)
  | syncNetworkIsolation (bridge localSubnet : String) (blocked natExempt : List String)
  | teardownNetworkIsolation (bridge : String)
  | syncVmFirewall (vmId : String) (interfaces : List VmFirewallInterface)
  | teardownVmFirewall (vmId : String)

def Call.run : Call → Net Unit
  | .setupNat bridge subnet => Qarax.setupNat bridge subnet
  | .teardownNat bridge subnet => Qarax.teardownNat bridge subnet
  | .syncNetworkIsolation bridge localSubnet blocked natExempt =>
    Qarax.syncNetworkIsolation bridge localSubnet blocked natExempt
  | .teardownNetworkIsolation bridge => Qarax.teardownNetworkIsolation bridge
  | .syncVmFirewall vmId interfaces => Qarax.syncVmFirewall vmId interfaces
  | .teardownVmFirewall vmId => Qarax.teardownVmFirewall vmId

/-- **Reachable rulesets.**  Any requests in any order, each of which may have failed at any of its
commands. -/
inductive Reachable : NetState → Prop
  | fresh (faults : List Bool) : Reachable (.fresh faults)
  | call {s : NetState} (c : Call) : Reachable s → Reachable (c.run s).2

end Qarax
