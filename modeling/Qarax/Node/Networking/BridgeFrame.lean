import Qarax.Node.Networking.Isolation
import Qarax.Node.Networking.Nat

/-!
# Isolating one bridge next to another

The isolation of a bridge consists of two jumps in `FORWARD`, two chains and the bridge's
exemptions from address translation.  Syncing or removing it should leave what belongs to other
bridges alone.  Chains are named after the letters and digits of the bridge's name, and rules are
found by searching a listing, so this is a question about names.

* `Undisturbed` — what belongs to a bridge is the same in two states.
* `undisturbed_sync`, `undisturbed_teardown` — when the two functions leave another bridge alone.
* `undisturbed_iff` — they do in every reachable state exactly when the letters and digits of the
  one name are not the beginning of those of the other.
-/

namespace Qarax

open Proc

/-- The jump of what leaves by a bridge to the isolation chain of the bridge. -/
def isolationInJump (bridge : String) : Rule :=
  ⟨{ outIface := Option.filter (· ≠ (false, "+")) (some (false, bridge)) },
    .jump (isolationIn bridge)⟩

/-- The rule is one of the two jumps of the bridge. -/
def isIsolationJump (bridge : String) (r : Rule) : Bool :=
  r = isolationJump bridge || r = isolationInJump bridge

/-- The rule exempts traffic from the subnet, unless it leaves by the bridge, from translation. -/
def isExemptionOf (bridge subnet : String) (r : Rule) : Bool :=
  match Args.block (some subnet) with
  | .ok src => r = exemption bridge src r.cond.dst
  | .error _ => false

/-- **What belongs to the bridge is as it was**: its jumps, its chains, its exemptions. -/
structure Undisturbed (bridge subnet : String) (s t : NetState) : Prop where
  jumps : (t.filter.body "FORWARD").filter (isIsolationJump bridge)
    = (s.filter.body "FORWARD").filter (isIsolationJump bridge)
  chains : ∀ c ∈ [isolationOut bridge, isolationIn bridge], t.filter.lookup c = s.filter.lookup c
  exemptions : (t.nat.body "POSTROUTING").filter (isExemptionOf bridge subnet)
    = (s.nat.body "POSTROUTING").filter (isExemptionOf bridge subnet)

/-! ## Names -/

lemma isolationIn_ne_forward (bridge : String) : "FORWARD" ≠ isolationIn bridge := by
  have hf : "FORWARD" = "FORWAR" ++ "D" := by decide
  rw [hf]
  exact tag_append_ne _ _ (by simp) (by decide)

variable {bridge chain : String}

lemma isolation_ne_forward (h : chain ∈ [isolationOut bridge, isolationIn bridge]) :
    "FORWARD" ≠ chain := by
  rcases List.mem_pair.1 h with rfl | rfl
  · exact isolationOut_ne_forward bridge
  · exact isolationIn_ne_forward bridge

variable {b c : String}

/-- Bridges whose names differ in letters and digits have no chain in common. -/
lemma isolation_chains_ne {chain' : String} (hne : sanitizeSuffix b 20 ≠ sanitizeSuffix c 20)
    (h : chain ∈ [isolationOut b, isolationIn b]) (h' : chain' ∈ [isolationOut c, isolationIn c]) :
    chain' ≠ chain := by
  rcases List.mem_pair.1 h with rfl | rfl <;> rcases List.mem_pair.1 h' with rfl | rfl
  · simpa [isolationOut] using Ne.symm hne
  · exact (isolationOut_ne_in b c).symm
  · exact isolationOut_ne_in c b
  · simpa [isolationIn] using Ne.symm hne

variable {r : Rule}

lemma isIsolationJump_target (h : isIsolationJump bridge r = true) :
    ∃ chain ∈ [isolationOut bridge, isolationIn bridge], r.target = .jump chain := by
  simp only [isIsolationJump, Bool.or_eq_true, decide_eq_true_eq] at h
  rcases h with rfl | rfl
  · exact ⟨_, by simp, rfl⟩
  · exact ⟨_, by simp, rfl⟩

lemma isIsolationJump_noBlank (hb : IfaceName bridge) (h : isIsolationJump bridge r = true) :
    NoBlank r := by
  simp only [isIsolationJump, Bool.or_eq_true, decide_eq_true_eq] at h
  rcases h with rfl | rfl
  · exact isolationJump_noBlank hb
  · refine noBlank_of (by simp [isolationInJump]) (fun o ho => ?_) ?_
    · rw [isolationInJump, Option.filter_eq_some_iff] at ho
      obtain rfl := Option.some.inj ho.1
      exact hb.no_space
    · have hsan := not_mem_sanitizeSuffix (show ' '.isAlphanum = false by decide) bridge 20
      simp [isolationInJump, targetText, isolationIn, hsan]

/-- The letters and digits of the one name are the beginning of those of the other. -/
def Begins (b c : String) : Prop := (sanitizeSuffix b 20).toList <+: (sanitizeSuffix c 20).toList

instance (b c : String) : Decidable (Begins b c) := inferInstanceAs (Decidable (_ <+: _))

lemma begins_of_isPrefix (h : b.toList <+: c.toList) : Begins b c := by
  unfold Begins sanitizeSuffix
  simpa using (h.filter Char.isAlphanum).take 20

lemma sanitize_ne_of_not_begins (h : ¬ Begins b c) : sanitizeSuffix b 20 ≠ sanitizeSuffix c 20 :=
  fun heq =>
  h (by unfold Begins; rw [heq])

/-- A search for the jumps of one bridge that finds a jump of the other. -/
lemma contains_isolationJump (hc : IfaceName c) (hr : isIsolationJump c r = true)
    (hchain : chain ∈ [isolationOut b, isolationIn b]) :
    (Line.append "FORWARD" r).contains ("-j " ++ chain) = true → Begins b c := by
  have hsan := not_mem_sanitizeSuffix (show ' '.isAlphanum = false by decide) b 20
  obtain ⟨chain', hchain', ht⟩ := isIsolationJump_target hr
  have hq : chain.toList.head? = some 'Q' ∧ ' ' ∉ chain.toList := by
    rcases List.mem_pair.1 hchain with rfl | rfl
    · simp [isolationOut, hsan]
    · simp [isolationIn, hsan]
  rw [contains_jump (isIsolationJump_noBlank hc hr) hq.1 hq.2, ht, targetText]
  rcases List.mem_pair.1 hchain with rfl | rfl <;> rcases List.mem_pair.1 hchain' with rfl | rfl
  · simp [isolationOut, Begins]
  · simp [isolationOut, isolationIn]
  · simp [isolationOut, isolationIn]
  · simp [isolationIn, Begins]

/-! ## The two functions -/

section Frame

variable {b c subnet : String} {s : NetState}

/-- The three parts of `Undisturbed`, each as something a function keeps. -/
lemma undisturbed_of_keeps {x : Net Unit}
    (hjumps : ∀ v, Keeps (OnFilter False (Picks "FORWARD" (isIsolationJump c) v)) x)
    (hchains : ∀ chain ∈ [isolationOut c, isolationIn c],
      ∀ v, Keeps (OnFilter False (HasRules chain v)) x)
    (hexempt : ∀ v, Keeps (OnNat False (Picks "POSTROUTING" (isExemptionOf c subnet) v)) x) :
    Undisturbed c subnet s (x s).2 where
  jumps := (hjumps _ s ⟨False.elim, rfl⟩).2
  chains := fun chain hc => (hchains chain hc _ s ⟨False.elim, rfl⟩).2
  exemptions := (hexempt _ s ⟨False.elim, rfl⟩).2

/-- An exemption of another bridge. -/
lemma isExemptionOf_other {src dst : Option Cidr} (hne : b ≠ c) :
    isExemptionOf c subnet (exemption b src dst) = false := by
  unfold isExemptionOf
  split
  · simp [exemption, hne]
  · rfl

lemma isExemptionOf_eq (h : isExemptionOf c subnet r = true) :
    ∃ src dst, r = exemption c src dst := by
  unfold isExemptionOf at h
  split at h
  · exact ⟨_, _, by simpa using h⟩
  · cases h

/-- **Syncing the isolation of one bridge** leaves another alone if they share no chain and the one
name is not the beginning of the other. -/
lemma undisturbed_sync (hb : IfaceName b) (hc : IfaceName c)
    (hchain : sanitizeSuffix b 20 ≠ sanitizeSuffix c 20) (hname : ¬ b.toList <+: c.toList)
    (localSubnet : String) (blocked natExempt : List String) :
    Undisturbed c subnet s (syncNetworkIsolation b localSubnet blocked natExempt s).2 := by
  have other : ∀ chain ∈ [isolationOut b, isolationIn b], ∀ r : Rule, r.target = .jump chain →
      isIsolationJump c r = false := by
    intro chain hmem r hr
    rw [Bool.eq_false_iff]
    intro hj
    obtain ⟨chain', hmem', ht⟩ := isIsolationJump_target hj
    rw [hr, Netfilter.Target.jump.injEq] at ht
    exact isolation_chains_ne hchain hmem hmem' ht.symm
  refine undisturbed_of_keeps (fun v => ?_) (fun chain hmem v => ?_) fun v => ?_
  · have ne : ∀ chain ∈ [isolationOut b, isolationIn b], ∀ cmd : Command, cmd.chain = chain →
        cmd.Safe (Picks "FORWARD" (isIsolationJump c) v) := fun chain hmem cmd hcmd =>
      safe_picks_of_ne (hcmd ▸ isolation_ne_forward hmem)
    exact keeps_syncNetworkIsolation (fun d hd => keeps_runCmd (ne d hd _ rfl))
      (fun d hd => keeps_runCmd (ne d hd _ rfl)) (fun d hd r _ => keeps_runCmd (ne d hd _ rfl))
      (fun d hd r hr => keeps_runCmd (safe_picks_insert (other d hd r hr))) (keeps_exemptions _ _ _)
  · have ne : ∀ d ∈ [isolationOut b, isolationIn b], chain ≠ d :=
      fun d hd => isolation_chains_ne hchain hd hmem
    exact keeps_syncNetworkIsolation (fun d hd => keeps_runCmd (Command.safe_lookup (ne d hd)))
      (fun d hd => keeps_runCmd (Command.safe_lookup (ne d hd)))
      (fun d hd r _ => keeps_runCmd (Command.safe_lookup (ne d hd)))
      (fun d hd r hr => keeps_runCmd (Command.safe_lookup (isolation_ne_forward hmem).symm))
      (keeps_exemptions _ _ _)
  · have hbc : b ≠ c := fun heq => hname (by rw [heq])
    refine keepsNat_syncNetworkIsolation (fun d _ r hr => ?_) fun r hfound _ => ?_
    · obtain ⟨src, dst, -, -, rfl⟩ := natExemption_read hr
      exact safe_picks_insert (isExemptionOf_other hbc)
    · refine safe_picks_delete (Bool.eq_false_iff.2 fun hex => hname ?_)
      obtain ⟨src, dst, rfl⟩ := isExemptionOf_eq hex
      simp only [isNatExemption, Bool.and_eq_true] at hfound
      exact isPrefix_of_contains_out hb hc hfound.1.2

/-- **Removing the isolation of one bridge** leaves another alone if its jumps are not found. -/
lemma undisturbed_teardown (hc : IfaceName c) (h : ¬ Begins b c) :
    Undisturbed c subnet s (teardownNetworkIsolation b s).2 := by
  refine undisturbed_of_keeps (fun v => ?_) (fun chain hmem v => ?_)
    fun v => keepsNat_teardownNetworkIsolation b
  · refine keeps_teardownNetworkIsolation (fun d hd r hfound => keeps_runCmd ?_)
      (fun d hd => keeps_runCmd (safe_picks_of_ne (isolation_ne_forward hd)))
      fun d hd => keeps_runCmd (safe_picks_of_ne (isolation_ne_forward hd))
    refine safe_picks_delete (Bool.eq_false_iff.2 fun hj => h ?_)
    exact contains_isolationJump hc hj hd hfound
  · have ne : ∀ d ∈ [isolationOut b, isolationIn b], chain ≠ d :=
      fun d hd => isolation_chains_ne (sanitize_ne_of_not_begins h) hd hmem
    exact keeps_teardownNetworkIsolation
      (fun _ _ _ _ => keeps_runCmd (Command.safe_lookup (isolation_ne_forward hmem).symm))
      (fun d hd => keeps_runCmd (Command.safe_lookup (ne d hd)))
      fun d hd => keeps_runCmd (Command.safe_lookup (ne d hd))

end Frame

/-! ## A jump that is found by mistake -/

variable {s : NetState}

lemma ensureChain_quiet (hq : Quiet s) (chain : String) :
    ∃ s', ensureChain chain s = (.ok (), s') ∧ Quiet s' := by
  have hkeep : OnFilter True (fun _ => True) (ensureChain chain s).2 :=
    keeps_ensureChain (keeps_runCmd (safe_true _)) s ⟨fun _ => hq, trivial⟩
  refine ⟨(ensureChain chain s).2, run_of_fst ?_, hkeep.1 trivial⟩
  simp only [ensureChain, attempt_bind, runCmd_quiet hq, Command.exec]
  split_ifs
  · rfl
  · rfl

variable {F : List Rule}

/-- The jump is there after a quiet check. -/
lemma ensureJumpRule_quiet (hq : Quiet s) {rule : Args} (hr : rule.read = .ok r)
    (hF : s.filter.lookup c = some F) (ht : s.filter.hasTarget r.target = true) :
    ∃ s', ensureJumpRule c rule s = (.ok (), s') ∧ Quiet s' ∧
      s'.filter.lookup c = some (F.insert r) := by
  have hkeep : OnFilter True (fun _ => True) (ensureJumpRule c rule s).2 :=
    keeps_ensureJumpRule (fun _ _ => keeps_runCmd (safe_true _)) s ⟨fun _ => hq, trivial⟩
  have hok : (ensureJumpRule c rule s).1 = .ok () := by
    simp only [ensureJumpRule, attempt_bind, runRule_eq hr, runCmd_quiet hq, Command.exec]
    split_ifs
    · rfl
    · simp only [runCmd_quiet hq.tick, Command.exec, NetState.tick_filter, ht, if_true,
        Table.edit, hF]
      rfl
  have hrun := run_of_fst hok
  obtain ⟨r', hr', hl⟩ := ensureJumpRule_ok hq hF hrun
  obtain rfl : r = r' := by simpa [hr] using hr'
  exact ⟨_, hrun, hkeep.1 trivial, hl⟩

/-- The node has synced the isolation of the bridge and nothing else. -/
def onlyIsolated (bridge : String) : NetState :=
  ((Call.syncNetworkIsolation bridge "10.0.0.0/8" [] []).run (.fresh [])).2

lemma reachable_onlyIsolated (bridge : String) : Reachable (onlyIsolated bridge) :=
  .call _ (.fresh [])

lemma safe_mem_insert {r' : Rule} :
    (Command.insert "FORWARD" r').Safe fun t => r ∈ t.body "FORWARD" := by
  intro t t' ht he
  rw [Table.body_exec he, if_pos (show "FORWARD" = (Command.insert "FORWARD" r').chain from rfl)]
  unfold Table.body at ht
  cases hl : t.lookup "FORWARD" with
  | none => simp [hl] at ht
  | some F => simp_all [Command.after]

lemma safe_not_mem_delete {r' : Rule} :
    (Command.delete "FORWARD" r').Safe fun t => r ∉ t.body "FORWARD" := by
  intro t t' ht he
  rw [Table.body_exec he, if_pos (show "FORWARD" = (Command.delete "FORWARD" r').chain from rfl)]
  unfold Table.body at ht
  cases hl : t.lookup "FORWARD" with
  | none => simp [Command.after]
  | some F =>
    rw [hl] at ht
    exact fun hmem => ht (List.mem_of_mem_erase hmem)

lemma onlyIsolated_jump (hc : validateIfaceName c = .ok ()) :
    Quiet (onlyIsolated c) ∧ isolationJump c ∈ (onlyIsolated c).filter.body "FORWARD" := by
  have hq : Quiet (.fresh []) := by simp [Quiet, NetState.fresh]
  obtain ⟨s₁, h₁, q₁⟩ := ensureChain_quiet hq (isolationOut c)
  obtain ⟨s₂, h₂, q₂⟩ := ensureChain_quiet q₁ (isolationIn c)
  have hF : s₂.filter.lookup "FORWARD" = some [] := by
    rw [lookup_eq_of_keeps (frame_ensureChain (isolationIn_ne_forward c)) h₂,
      lookup_eq_of_keeps (frame_ensureChain (isolationOut_ne_forward c)) h₁]
    exact AList.lookup_insert _
  have hchain : isolationOut c ∈ s₂.filter := Table.mem_of_lookup <|
    (lookup_eq_of_keeps (frame_ensureChain (isolationOut_ne_in c c)) h₂).trans (ensureChain_ok h₁)
  have hread : Args.read { inIface := some c, jump := .jump (isolationOut c) }
      = .ok (isolationJump c) := rfl
  obtain ⟨s₃, h₃, q₃, hF₃⟩ := ensureJumpRule_quiet q₂ hread hF
    (by simpa [isolationJump, Table.hasTarget] using hchain)
  -- the rest of the function puts rules into `FORWARD` but takes none out
  let rest : Net Unit := do
    ensureJumpRule "FORWARD" { outIface := some (false, c), jump := .jump (isolationIn c) }
    flushChain (isolationOut c)
    flushChain (isolationIn c)
    runRule .filter (.append (isolationOut c)) { jump := .ret }
    runRule .filter (.append (isolationIn c)) { jump := .ret }
    syncNatExemptionRules c "10.0.0.0/8" []
  have hkeep : Keeps (OnFilter True fun t => isolationJump c ∈ t.body "FORWARD") rest := by
    have chain : ∀ cmd : Command, "FORWARD" ≠ cmd.chain →
        Keeps (OnFilter True fun t => isolationJump c ∈ t.body "FORWARD") (runCmd .filter cmd) :=
      fun _ hc => keeps_runCmd (safe_body_of_ne (isolationJump c ∈ ·) hc)
    refine keeps_bind (keeps_ensureJumpRule fun r _ => keeps_runCmd safe_mem_insert) fun _ => ?_
    refine keeps_bind (chain _ (isolationOut_ne_forward c)) fun _ => ?_
    refine keeps_bind (chain _ (isolationIn_ne_forward c)) fun _ => ?_
    refine keeps_bind (keeps_runRule fun r _ => chain _ (isolationOut_ne_forward c)) fun _ => ?_
    refine keeps_bind (keeps_runRule fun r _ => chain _ (isolationIn_ne_forward c)) fun _ => ?_
    exact keeps_exemptions _ _ _
  have hrun : onlyIsolated c = (rest s₃).2 := by
    have hcidr : validateIpv4Cidr "10.0.0.0/8" = .ok () := by decide +kernel
    show (syncNetworkIsolation c "10.0.0.0/8" [] [] (.fresh [])).2 = _
    simp only [syncNetworkIsolation, hc, hcidr, each_nil]
    rw [bind_ok_run (lift_run _ _), bind_ok_run (lift_run _ _), bind_ok_run (pure_run _ _),
      bind_ok_run (pure_run _ _), bind_ok_run h₁, bind_ok_run h₂, bind_ok_run h₃]
    rfl
  rw [hrun]
  have hres := hkeep s₃ ⟨fun _ => q₃, by simp [Table.body_of_lookup hF₃]⟩
  exact ⟨hres.1 trivial, hres.2⟩

/-- A loop over steps that cannot fail. -/
lemma each_ok {α : Type} {f : α → Net Unit} (h : ∀ a s, (f a s).1 = .ok ()) :
    ∀ (l : List α) (s : NetState), (Proc.each f l s).1 = .ok ()
  | [], _ => rfl
  | a :: l, s => by
      rw [each_cons, bind_ok_run (run_of_fst (h a s))]
      exact each_ok h l _

lemma removeForwardRulesReferencing_quiet (hq : Quiet s) (hF : s.filter.lookup "FORWARD" = some F)
    (chain : String) : (removeForwardRulesReferencing chain s).1 = .ok () := by
  have hhead : s.faults.head? ≠ some true := fun h => hq (List.mem_of_head? h)
  have hlist : runList .filter "FORWARD" s
      = (.ok (headLine "FORWARD" :: F.map (.append "FORWARD")), s.tick) := by
    simp [runList, runTool, hhead, NetState.table, Table.list, hF, Except.map]
  unfold removeForwardRulesReferencing
  rw [bind_ok_run hlist]
  rw [bind_ok_run (run_of_fst (each_ok (fun l s => rfl) _ _))]
  rfl

/-- **A teardown takes out the jump of another bridge** that its search finds. -/
lemma teardown_not_mem (hb : validateIfaceName b = .ok ()) (hc : IfaceName c) (h : Begins b c)
    (hq : Quiet s) (hF : s.filter.lookup "FORWARD" = some F) :
    isolationJump c ∉ (teardownNetworkIsolation b s).2.filter.body "FORWARD" := by
  have hfound : (Line.append "FORWARD" (isolationJump c)).contains ("-j " ++ isolationOut b)
      = true := by
    have hsan := not_mem_sanitizeSuffix (show ' '.isAlphanum = false by decide) b 20
    rw [contains_jump (isolationJump_noBlank hc) (by simp [isolationOut])
      (by simp [isolationOut, hsan])]
    simpa [isolationJump, targetText, isolationOut] using (show _ <+: _ from h)
  have hrun := run_of_fst (removeForwardRulesReferencing_quiet hq hF (isolationOut b))
  obtain ⟨-, hl⟩ :=
    removeForwardRulesReferencing_forward (isolationOut_ne_forward b).symm hq hF hrun
  -- what follows takes rules out of `FORWARD` and puts none in
  let rest : Net Unit := do
    removeForwardRulesReferencing (isolationIn b)
    deleteChainIfExists (isolationOut b)
    deleteChainIfExists (isolationIn b)
  have chain : ∀ cmd : Command, "FORWARD" ≠ cmd.chain →
      Keeps (OnFilter False fun t => isolationJump c ∉ t.body "FORWARD") (runCmd .filter cmd) :=
    fun _ hc => keeps_runCmd (safe_body_of_ne (isolationJump c ∉ ·) hc)
  have hkeep : Keeps (OnFilter False fun t => isolationJump c ∉ t.body "FORWARD") rest := by
    refine keeps_bind (keeps_removeForwardRulesReferencing
      (fun r _ => keeps_runCmd safe_not_mem_delete)
      (chain _ (isolationIn_ne_forward b)) (chain _ (isolationIn_ne_forward b))) fun _ => ?_
    refine keeps_bind (keeps_deleteChainIfExists (chain _ (isolationOut_ne_forward b))
      (chain _ (isolationOut_ne_forward b))) fun _ => ?_
    exact keeps_deleteChainIfExists (chain _ (isolationIn_ne_forward b))
      (chain _ (isolationIn_ne_forward b))
  have hstep : teardownNetworkIsolation b s
      = rest (removeForwardRulesReferencing (isolationOut b) s).2 := by
    simp only [teardownNetworkIsolation, hb]
    rw [bind_ok_run (lift_run _ _), bind_ok_run hrun]
  rw [hstep]
  refine (hkeep _ ⟨False.elim, ?_⟩).2
  show isolationJump c ∉ (removeForwardRulesReferencing (isolationOut b) s).2.filter.body "FORWARD"
  rw [Table.body_of_lookup hl]
  simp [hfound]

/-- **When isolating a bridge disturbs no other.**  In every reachable state both functions leave
what belongs to bridge `c` alone, exactly when the letters and digits of `b` are not the beginning
of those of `c`. -/
theorem undisturbed_iff {b c : String} (hb : validateIfaceName b = .ok ())
    (hc : validateIfaceName c = .ok ()) :
    (∀ s, Reachable s → ∀ subnet,
      (∀ localSubnet blocked natExempt, Undisturbed c subnet s
        (syncNetworkIsolation b localSubnet blocked natExempt s).2) ∧
      Undisturbed c subnet s (teardownNetworkIsolation b s).2) ↔ ¬ Begins b c := by
  have hnb := ifaceName_of_validate hb
  have hnc := ifaceName_of_validate hc
  constructor
  · intro h hbegins
    obtain ⟨hq, hmem⟩ := onlyIsolated_jump hc
    have hjumps := (h _ (reachable_onlyIsolated c) "").2.jumps
    cases hF : (onlyIsolated c).filter.lookup "FORWARD" with
    | none => simp [Table.body, hF] at hmem
    | some F =>
      have hin : isolationJump c ∈ ((onlyIsolated c).filter.body "FORWARD").filter
          (isIsolationJump c) := List.mem_filter.2 ⟨hmem, by simp [isIsolationJump]⟩
      rw [← hjumps] at hin
      exact teardown_not_mem hb hnc hbegins hq hF (List.mem_filter.1 hin).1
  · intro h s _ subnet
    refine ⟨fun localSubnet blocked natExempt => ?_, undisturbed_teardown hnc h⟩
    exact undisturbed_sync hnb hnc (sanitize_ne_of_not_begins h)
      (fun hp => h (begins_of_isPrefix hp)) localSubnet blocked natExempt

/-- Removing the isolation of `br0` leaves `br1` isolated. -/
theorem br0_leaves_br1 :
    ¬ Begins "br0" "br1" ∧ Undisturbed "br1" "10.0.0.0/8" (onlyIsolated "br1")
      (teardownNetworkIsolation "br0" (onlyIsolated "br1")).2 := by
  have hnot : ¬ Begins "br0" "br1" := by decide +kernel
  have hb : validateIfaceName "br0" = .ok () := by decide +kernel
  have hc : validateIfaceName "br1" = .ok () := by decide +kernel
  exact ⟨hnot, ((undisturbed_iff hb hc).2 hnot _ (reachable_onlyIsolated "br1") _).2⟩

/-- **Removing the isolation of `br1` opens `br10`**: the text `-j QXNETObr1` is also in the line of
the jump to `QXNETObr10`.  And `br-1` and `br1` have the same chains, so that isolating the one
empties those of the other. -/
theorem br1_disturbs_br10 :
    validateIfaceName "br1" = .ok () ∧ validateIfaceName "br10" = .ok () ∧
      validateIfaceName "br-1" = .ok () ∧
      Reachable (onlyIsolated "br10") ∧
      isolationJump "br10" ∈ (onlyIsolated "br10").filter.body "FORWARD" ∧
      isolationJump "br10" ∉
        (teardownNetworkIsolation "br1" (onlyIsolated "br10")).2.filter.body "FORWARD" ∧
      (syncNetworkIsolation "br1" "10.1.0.0/24" ["10.2.0.0/24"] [] (.fresh [])).2.filter.body
        (isolationOut "br1") ≠ [⟨{}, .ret⟩] ∧
      (syncNetworkIsolation "br-1" "10.3.0.0/24" [] []
        (syncNetworkIsolation "br1" "10.1.0.0/24" ["10.2.0.0/24"] [] (.fresh [])).2).2.filter.body
          (isolationOut "br1") = [⟨{}, .ret⟩] := by
  refine ⟨by decide +kernel, by decide +kernel, by decide +kernel, reachable_onlyIsolated _, ?_⟩
  decide +kernel

end Qarax
