import Qarax.Core.Machine
import Qarax.Node.Networking.ForwardJumps
import Qarax.Node.Networking.Nat

/-!
# Exemptions from address translation

`sync_network_isolation` ends with the exemptions of its bridge: one `RETURN` rule of `POSTROUTING`
for each subnet that is to be reached without address translation.  As with the jumps in `FORWARD`,
missing rules are put on top, and rules that are no longer wanted are found by searching the text
of a listing.  The search is for the local subnet as the caller wrote it, and a found rule is spared
when the tokens of some wanted rule all occur in its line, in any order.

* `isNatExemption_own`, `spared_own` — what the search finds and what it spares.
* `Built` — what `POSTROUTING` looks like after any calls of `setup_nat` and
  `sync_network_isolation`: exemptions above masquerading rules.
* `ExactExemptions` — one exemption for each wanted subnet, above the masquerading rule, and the
  packets that are translated.
* `CleanBefore` — when a sync gets there.
-/

namespace Qarax

open Proc

/-! ## Texts of blocks -/

lemma not_mem_of_parseDigits {cs : List Char} {n : ℕ} {c : Char} (hc : c.isDigit = false)
    (h : parseDigits cs = some n) : c ∉ cs := by
  rw [parseDigits_eq, Option.ite_none_right_eq_some, List.all_eq_true] at h
  intro hmem
  simp [h.1.2 c hmem] at hc

variable {text : String} {c : Cidr}

lemma parseCidr_parts (h : parseCidr text = some c) :
    ∃ a b, text.toList = a ++ '/' :: b ∧ '/' ∉ a ∧ parseIpv4 (String.ofList a) = some c.addr ∧
      parseU8 b = some c.len.val := by
  unfold parseCidr readCidr at h
  by_cases hslash : '/' ∈ text.toList
  · obtain ⟨a, b, hab, ha⟩ := List.eq_append_cons_of_mem hslash
    have hne : ∀ x ∈ a, decide (x ≠ '/') = true := by
      intro x hx
      simpa using fun heq : x = '/' => ha (heq ▸ hx)
    have htake : text.toList.takeWhile (· ≠ '/') = a := by
      rw [hab, List.takeWhile_append_of_pos hne]
      simp
    have hdrop : (text.toList.dropWhile (· ≠ '/')).drop 1 = b := by
      rw [hab, List.dropWhile_append_of_pos hne]
      simp
    refine ⟨a, b, hab, ha, ?_⟩
    simp only [hslash, not_true_eq_false, if_false, htake, hdrop] at h
    cases haddr : parseIpv4 (String.ofList a) with
    | none => simp [haddr, Except.toOption] at h
    | some addr =>
      cases hlen : parseU8 b with
      | none => simp [haddr, hlen, Except.toOption] at h
      | some n =>
        simp only [haddr, hlen] at h
        split_ifs at h with hlt
        · cases h
          exact ⟨rfl, rfl⟩
        · simp [Except.toOption] at h
  · simp [hslash, Except.toOption] at h

/-- The digits of a prefix length are the only beginning of them that is read as that length. -/
lemma digits_of_isPrefix : ∀ n < 33, ∀ b ∈ (Nat.toDigits 10 n).inits, parseU8 b = some n →
    b = Nat.toDigits 10 n := by decide +kernel

/-- A text of a block that is the beginning of the text another block is listed with: if the two
have one length, the texts are the same. -/
lemma eq_of_isPrefix_renderCidr {n : Cidr} (h : parseCidr text = some c) (hlen : n.len = c.len)
    (hp : text.toList <+: (renderCidr n).toList) : renderCidr n = text := by
  obtain ⟨a, b, htext, ha, haddr, hb⟩ := parseCidr_parts h
  obtain ⟨t, ht⟩ := hp
  have hrender : (renderCidr n).toList
      = (renderIpv4 n.addr).toList ++ '/' :: Nat.toDigits 10 n.len := by
    simp [renderCidr, renderNat]
  have hjoin : a ++ '/' :: (b ++ t)
      = (renderIpv4 n.addr).toList ++ '/' :: Nat.toDigits 10 n.len := by
    rw [← hrender, ← ht, htext]
    simp
  obtain ⟨rfl, hdigits⟩ := Tokens.append_sep_inj ha
    (not_mem_renderIpv4 (by decide) (by decide) n.addr) hjoin
  have hpre : b <+: Nat.toDigits 10 n.len := ⟨t, hdigits⟩
  rw [hlen] at hpre
  have hb' := digits_of_isPrefix c.len c.len.isLt b ((List.mem_inits _ _).2 hpre) hb
  exact String.toList_inj.1 (by rw [hrender, htext, hb', hlen])

/-- The text of a block has a slash, no blank and no sign of a flag in it. -/
lemma plain_of_parseCidr (h : parseCidr text = some c) :
    '/' ∈ text.toList ∧ ' ' ∉ text.toList ∧ '-' ∉ text.toList := by
  obtain ⟨a, b, htext, -, haddr, hb⟩ := parseCidr_parts h
  have ha : (String.ofList a) = renderIpv4 c.addr := (renderIpv4_of_parseIpv4 haddr).symm
  have hplain : ∀ x : Char, x.isDigit = false → x ≠ '.' → x ∉ a := by
    intro x hx hdot
    have hmem := not_mem_renderIpv4 hx hdot c.addr
    rwa [← ha, String.toList_ofList] at hmem
  have hdigits : ∀ x : Char, x.isDigit = false → x ≠ '+' → x ∉ b := by
    intro x hx hplus
    unfold parseU8 at hb
    obtain ⟨n, hn, -⟩ := Option.bind_eq_some_iff.1 hb
    have hmem := not_mem_of_parseDigits hx hn
    split at hmem
    · simpa [hplus] using hmem
    · exact hmem
  rw [htext]
  refine ⟨by simp, ?_, ?_⟩
  · simp [hplain ' ' (by decide) (by decide), hdigits ' ' (by decide) (by decide)]
  · simp [hplain '-' (by decide) (by decide), hdigits '-' (by decide) (by decide)]

lemma renderCidr_injective : Function.Injective renderCidr := by
  intro n m h
  have hparse : ∀ n : Cidr, parseCidr (renderCidr n) = some n := fun n =>
    parseCidr_text (parseIpv4_renderIpv4 n.addr) n.len
  exact Option.some.inj (by rw [← hparse n, h, hparse])

/-! ## Blocks -/

/-- The block the kernel keeps for a text: nothing for the block of all addresses. -/
def keptBlock (text : String) : Option Cidr :=
  (parseCidr text).bind fun c => if c.len.val = 0 then none else some c.network

/-- The text is the one its block is printed with, host bits cleared. -/
def normalised (text : String) : Bool := (parseCidr text).any fun c => renderCidr c.network == text

/-- The kernel keeps the block and lists it with this text. -/
def listed (text : String) : Bool := (keptBlock text).any fun c => renderCidr c == text

/-- The address is in the block of the text. -/
def inSubnet (text : String) (ip : Ipv4) : Bool := (parseCidr text).any (·.contains ip)

lemma parseCidr_of_normalised {texts : List String} (h : ∀ d ∈ texts, normalised d = true) :
    ∀ d ∈ texts, ∃ c, parseCidr d = some c := by
  intro d hd
  obtain ⟨c, hc, -⟩ := (Option.any_eq_true _ _).1 (h d hd)
  exact ⟨c, hc⟩

lemma block_eq (h : parseCidr text = some c) : Args.block (some text) = .ok (keptBlock text) := by
  simp [Args.block, keptBlock, h]

lemma keptBlock_all_addresses (h : parseCidr text = some c) (hlen : c.len.val = 0) :
    keptBlock text = none := by
  rw [keptBlock, h, Option.bind_some, if_pos hlen]

lemma keptBlock_network (h : parseCidr text = some c) (hlen : c.len.val ≠ 0) :
    keptBlock text = some c.network := by
  rw [keptBlock, h, Option.bind_some, if_neg hlen]

/-- The kernel tests the block of the text. -/
lemma keptBlock_all (h : parseCidr text = some c) (ip : Ipv4) :
    (keptBlock text).all (·.contains ip) = inSubnet text ip := by
  simp only [keptBlock, inSubnet, h, Option.bind_some, Option.any_some]
  split_ifs with hlen
  · have hbits : c.hostBits = 32 := by simp [Cidr.hostBits, hlen]
    rw [Cidr.contains, hbits, Nat.div_eq_of_lt ip.isLt, Nat.div_eq_of_lt c.addr.isLt]
    rfl
  · simp

/-! ## The texts of exemptions -/

variable {bridge : String}

lemma contains_src (hb : IfaceName bridge) (h : parseCidr text = some c) (src dst : Option Cidr) :
    (Line.append "POSTROUTING" (exemption bridge src dst)).contains ("-s " ++ text) = true ↔
      ∃ n ∈ src, text.toList <+: (renderCidr n).toList := by
  obtain ⟨hslash, hspace, hdash⟩ := plain_of_parseCidr h
  have hpat : ("-s " ++ text).toList = "-s".toList ++ ' ' :: text.toList := by simp
  rw [Line.contains, decide_eq_true_eq, Line.text, hpat,
    Tokens.infix_line_iff (by decide) hspace (exemption_noBlank hb.no_space _ _), exemption_parts]
  -- only the flag itself ends in `-s`, or a bridge name, which is followed by `-j`
  have hblock : ∀ x : Cidr, ¬ ['-', 's'] <:+ (renderCidr x).toList := fun x hx =>
    (renderCidr_plain x).2 (hx.subset (by simp))
  have hwords : ∀ w ∈ ["-A", "POSTROUTING", "-d", "!", "-o", "-j"],
      ¬ ['-', 's'] <:+ w.toList := by decide
  simp only [List.forall_mem_cons, String.reduceToList] at hwords
  have hj : ¬ text.toList <+: ['-', 'j'] := fun hp => by
    simpa using hp.subset hslash
  cases src <;> cases dst <;> simp [Tokens.Follows, hblock, hwords, hj]

/-- The end of the line of an exemption is found. -/
lemma contains_exemptionEnd (pat : String) {ts : List String} (hts : ts ≠ [])
    (hin : ts <:+: ["!", "-o", bridge, "-j", "RETURN"])
    (hpat : pat.toList = Tokens.line ' ' (ts.map String.toList)) (src dst : Option Cidr) :
    (Line.append "POSTROUTING" (exemption bridge src dst)).contains pat = true := by
  rw [Line.contains, decide_eq_true_eq, Line.text, hpat, exemption_parts]
  refine Tokens.line_infix (by simpa using hts) (List.IsInfix.map String.toList ?_)
  exact hin.trans (List.suffix_append _ _).isInfix

/-- **Which exemptions of its own bridge a sync finds**: those whose source the kernel lists with
the text the sync was called with. -/
lemma isNatExemption_own (hb : IfaceName bridge) (h : parseCidr text = some c) (dst : Option Cidr) :
    isNatExemption bridge text (.append "POSTROUTING" (exemption bridge (keptBlock text) dst))
      = listed text := by
  have hout := contains_exemptionEnd ("! -o " ++ bridge) (by simp)
    (⟨[], ["-j", "RETURN"], rfl⟩ : ["!", "-o", bridge] <:+: _) (by simp [Tokens.line])
    (keptBlock text) dst
  have hret := contains_exemptionEnd "-j RETURN" (by simp)
    (⟨["!", "-o", bridge], [], rfl⟩ : ["-j", "RETURN"] <:+: _) (by decide) (keptBlock text) dst
  rw [isNatExemption, hout, hret, Bool.and_true, Bool.and_true, Bool.eq_iff_iff,
    contains_src hb h]
  by_cases hlen : c.len.val = 0
  · simp [listed, keptBlock_all_addresses h hlen]
  · simp only [listed, keptBlock_network h hlen, Option.mem_def, Option.some.injEq,
      exists_eq_left', Option.any_some, beq_iff_eq]
    constructor
    · exact eq_of_isPrefix_renderCidr h rfl
    · intro heq
      rw [heq]

/-- **Which of them it spares**: a wanted destination, and every destination if the local subnet is
itself one of those wanted, since the tokens are looked up in any order. -/
lemma spared_own {wanted : List String} (hb : IfaceName bridge) (hlisted : listed text = true)
    (hw : ∀ d ∈ wanted, ∃ c, parseCidr d = some c) (dst : Option Cidr) :
    spared bridge text wanted (.append "POSTROUTING" (exemption bridge (keptBlock text) dst)) = true
      ↔ ∃ n ∈ dst, text ∈ wanted ∨ renderCidr n ∈ wanted := by
  obtain ⟨m, hm, rfl⟩ : ∃ m, keptBlock text = some m ∧ renderCidr m = text := by
    simpa [listed, Option.any_eq_true] using hlisted
  have hmatch : ∀ d ∈ wanted, ruleMatches (.append "POSTROUTING"
      (exemption bridge (some m) dst)) (natExemption bridge (renderCidr m) d) = true ↔
        ∃ n ∈ dst, d = renderCidr m ∨ d = renderCidr n := by
    intro d hd
    obtain ⟨c, hc⟩ := hw d hd
    have hslash := (plain_of_parseCidr hc).1
    have hword : ∀ w : String, '/' ∉ w.toList → d ≠ w := fun w hne heq => hne (heq ▸ hslash)
    have hbridge : "-d" ≠ bridge := fun heq => hb.head_ne (by rw [← heq]; rfl)
    have hdash : "-d" ≠ renderCidr m := fun heq => (renderCidr_plain m).2 (by rw [← heq]; decide)
    have hwords : ∀ w ∈ ["-A", "POSTROUTING", "-s", "-d", "!", "-o", "-j", "RETURN"],
        '/' ∉ w.toList := by decide
    replace hwords := fun w hw => hword w (hwords w hw)
    simp only [List.forall_mem_cons] at hwords
    simp only [ruleMatches, natExemption, Args.tokens, exemption_parts]
    cases dst with
    | none => simp [hbridge, hdash, targetText]
    | some n =>
      simp [targetText, hword _ hb.no_slash, hwords]
  simp only [hm, spared, List.any_map, List.any_eq_true, Function.comp_apply]
  constructor
  · rintro ⟨d, hd, hmem⟩
    obtain ⟨n, hn, rfl | rfl⟩ := (hmatch d hd).1 hmem
    · exact ⟨n, hn, .inl hd⟩
    · exact ⟨n, hn, .inr hd⟩
  · rintro ⟨n, hn, hd | hd⟩
    · exact ⟨_, hd, (hmatch _ hd).2 ⟨n, hn, .inl rfl⟩⟩
    · exact ⟨_, hd, (hmatch _ hd).2 ⟨n, hn, .inr rfl⟩⟩


/-! ## What a sync of the exemptions does -/

/-- A rule of `POSTROUTING` that a sync takes out. -/
def staleExemption (bridge localSubnet : String) (natExempt : List String) (r : Rule) : Bool :=
  staleIn "POSTROUTING" (natExempt.map (natExemption bridge localSubnet))
    (isNatExemption bridge localSubnet) r

lemma each_map {α β : Type} (f : β → Net Unit) (g : α → β) (as : List α) :
    Proc.each f (as.map g) = Proc.each (fun a => f (g a)) as := by
  induction as with
  | nil => rfl
  | cons a as ih => rw [List.map_cons, each_cons, each_cons, ih]

lemma syncNatExemptionRules_eq (bridge localSubnet : String) (natExempt : List String) :
    syncNatExemptionRules bridge localSubnet natExempt
      = syncRules .nat "POSTROUTING" (natExempt.map (natExemption bridge localSubnet))
          (isNatExemption bridge localSubnet) := by
  rw [syncRules, each_map]
  rfl

/-- The kernel never keeps the block of all addresses. -/
def Kept (o : Option Cidr) : Prop := ∀ n ∈ o, n.len.val ≠ 0

lemma kept_keptBlock (text : String) : Kept (keptBlock text) := by
  intro n hn
  obtain ⟨c, -, hc⟩ := Option.bind_eq_some_iff.1 hn
  split_ifs at hc with hlen
  cases hc
  exact hlen

/-- A kept block is the one of a normalised text exactly if it is listed with it. -/
lemma renderCidr_mem_iff {wanted : List String} (hw : ∀ d ∈ wanted, normalised d = true) {n : Cidr}
    (hn : n.len.val ≠ 0) : renderCidr n ∈ wanted ↔ some n ∈ wanted.map keptBlock := by
  constructor
  · intro hmem
    obtain ⟨c, hc, hrender⟩ := (Option.any_eq_true _ _).1 (hw _ hmem)
    obtain rfl := renderCidr_injective (beq_iff_eq.1 hrender)
    exact List.mem_map.2 ⟨_, hmem, keptBlock_network hc hn⟩
  · intro hmem
    obtain ⟨d, hd, hkept⟩ := List.mem_map.1 hmem
    obtain ⟨c, hc, hrender⟩ := (Option.any_eq_true _ _).1 (hw _ hd)
    by_cases hlen : c.len.val = 0
    · rw [keptBlock_all_addresses hc hlen] at hkept
      cases hkept
    · rw [keptBlock_network hc hlen] at hkept
      cases hkept
      rwa [beq_iff_eq.1 hrender]

variable {localSubnet : String} {natExempt : List String} {dst : Option Cidr}

/-- **Which exemptions of its own bridge and subnet a sync takes out.** -/
lemma staleExemption_own (hb : IfaceName bridge) (hc : parseCidr localSubnet = some c)
    (hw : ∀ d ∈ natExempt, normalised d = true) (hdst : Kept dst) :
    staleExemption bridge localSubnet natExempt
        (exemption bridge (keptBlock localSubnet) dst) = true ↔
      listed localSubnet = true ∧
        (dst = none ∨ (localSubnet ∉ natExempt ∧ dst ∉ natExempt.map keptBlock)) := by
  rw [staleExemption, staleIn, Bool.and_eq_true, isNatExemption_own hb hc, Bool.not_eq_true']
  refine and_congr_right fun hlisted => ?_
  have hspared := spared_own hb hlisted (parseCidr_of_normalised hw) dst
  rw [spared] at hspared
  rw [← Bool.not_eq_true, hspared]
  cases dst with
  | none => simp
  | some n => simp [renderCidr_mem_iff hw (hdst n rfl)]

/-! ## What the two functions build -/

/-- A masquerading rule as the kernel keeps it. -/
def masqueradeRule (bridge : String) (src : Option Cidr) : Rule :=
  ⟨{ src, outIface := some (true, bridge) }, .verdict .masquerade⟩

/-- An exemption of some bridge. -/
def IsExemption (r : Rule) : Prop :=
  ∃ bridge src dst, IfaceName bridge ∧ Kept dst ∧ r = exemption bridge src dst

/-- A masquerading rule of some bridge. -/
def IsMasquerade (r : Rule) : Prop := ∃ bridge src, IfaceName bridge ∧ r = masqueradeRule bridge src

variable {r : Rule}

lemma IsExemption.target (h : IsExemption r) : r.target = .ret := by
  obtain ⟨bridge, src, dst, -, -, rfl⟩ := h
  rfl

lemma IsMasquerade.target (h : IsMasquerade r) : r.target = .verdict .masquerade := by
  obtain ⟨bridge, src, -, rfl⟩ := h
  rfl

/-- Exemptions, and masquerading rules none of which is above an exemption. -/
structure Built (P : List Rule) : Prop where
  rules : ∀ r ∈ P, IsExemption r ∨ IsMasquerade r
  order : P.Pairwise fun r r' => r.target = .verdict .masquerade → r'.target ≠ .ret

/-- The rules of `POSTROUTING` are such a list. -/
def BuiltNat (t : Table) : Prop := ∃ P, t.lookup "POSTROUTING" = some P ∧ Built P

variable {P : List Rule}

lemma Built.sublist {P' : List Rule} (h : Built P) (hsub : P'.Sublist P) : Built P' :=
  ⟨fun r hr => h.rules r (hsub.subset hr), h.order.sublist hsub⟩

lemma Built.insert (h : Built P) (hr : IsExemption r) : Built (r :: P) := by
  refine ⟨List.forall_mem_cons.2 ⟨.inl hr, h.rules⟩, List.pairwise_cons.2 ⟨?_, h.order⟩⟩
  intro r' _ ht
  rw [hr.target] at ht
  cases ht

lemma Built.append (h : Built P) (hr : IsMasquerade r) : Built (P ++ [r]) := by
  refine ⟨fun r' hr' => ?_, List.pairwise_append.2 ⟨h.order, List.pairwise_singleton _ _, ?_⟩⟩
  · rcases List.mem_append.1 hr' with hr' | hr'
    · exact h.rules r' hr'
    · rw [List.mem_singleton.1 hr']
      exact .inr hr
  · intro r₁ _ r₂ hr₂ _ ht
    rw [List.mem_singleton.1 hr₂, hr.target] at ht
    cases ht

lemma Built.kept (h : Built P) {src : Option Cidr} (hmem : exemption bridge src dst ∈ P) :
    Kept dst := by
  rcases h.rules _ hmem with ⟨b, src', dst', -, hk, heq⟩ | hm
  · simp only [exemption, Netfilter.Rule.mk.injEq, Match.mk.injEq] at heq
    rwa [heq.1.2.1]
  · have htarget := hm.target
    simp [exemption] at htarget

/-- A command on `POSTROUTING` whose effect keeps such lists keeps such tables. -/
lemma safe_builtNat {cmd : Command} (hc : cmd.chain = "POSTROUTING")
    (h : ∀ P, Built P → ∃ P', cmd.after (some P) = some P' ∧ Built P') : cmd.Safe BuiltNat := by
  rintro t t' ⟨P, hP, hbuilt⟩ hexec
  obtain ⟨P', hafter, hbuilt'⟩ := h P hbuilt
  refine ⟨P', ?_, hbuilt'⟩
  rw [Command.lookup_exec hexec, if_pos hc.symm, hP, hafter]

lemma safe_builtNat_delete (r : Rule) : (Command.delete "POSTROUTING" r).Safe BuiltNat :=
  safe_builtNat rfl fun P hP => ⟨P.erase r, rfl, hP.sublist List.erase_sublist⟩

/-- The block of a text that was read. -/
lemma block_ok {o : Option Cidr} (h : Args.block (some text) = .ok o) : o = keptBlock text := by
  cases hc : parseCidr text with
  | none => simp [Args.block, hc] at h
  | some c =>
    rw [block_eq hc] at h
    exact (Except.ok.inj h).symm

variable {subnet : String}

lemma natExemption_rule (h : (natExemption bridge localSubnet subnet).read = .ok r) :
    r = exemption bridge (keptBlock localSubnet) (keptBlock subnet) := by
  obtain ⟨src, dst, hs, hd, rfl⟩ := natExemption_read h
  rw [block_ok hs, block_ok hd]

lemma masquerade_rule (h : (masquerade bridge subnet).read = .ok r) :
    r = masqueradeRule bridge (keptBlock subnet) := by
  obtain ⟨src, dst, dport, hs, hd, hp, rfl⟩ := Args.read_ok h
  cases hd
  cases hp
  rw [block_ok hs]
  simp [masquerade, masqueradeRule, Args.iface]

/-- A function that first checks the name keeps what it keeps for accepted names. -/
lemma keeps_of_validated {J : NetState → Prop} {α : Type} {f : Net α} {k : Unit → Net α}
    (hf : f = (Proc.lift (validateIfaceName bridge) >>= k)) (h : IfaceName bridge → Keeps J f) :
    Keeps J f := by
  cases hv : validateIfaceName bridge with
  | error e =>
    rw [hf, hv]
    exact fun s hs => hs
  | ok u => exact h (ifaceName_of_validate hv)

lemma keeps_setupNat_built (q : Prop) (bridge subnet : String) :
    Keeps (OnNat q BuiltNat) (setupNat bridge subnet) := by
  refine keeps_of_validated rfl fun hb => ?_
  refine keeps_setupNat (fun r hr => keepsNat_runCmd ?_) fun _ => keepsNat_runFilter _
  refine safe_builtNat rfl fun P hP => ⟨P ++ [r], rfl, ?_⟩
  exact hP.append ⟨bridge, _, hb, masquerade_rule hr⟩

lemma keeps_syncNetworkIsolation_built (q : Prop) (bridge localSubnet : String)
    (blocked natExempt : List String) :
    Keeps (OnNat q BuiltNat) (syncNetworkIsolation bridge localSubnet blocked natExempt) := by
  refine keeps_of_validated rfl fun hb => ?_
  refine keepsNat_syncNetworkIsolation ?_ ?_
  · intro d _ r hr
    refine safe_builtNat rfl fun P hP => ⟨r :: P, rfl, hP.insert ?_⟩
    exact ⟨bridge, _, _, hb, kept_keptBlock d, natExemption_rule hr⟩
  · exact fun r _ _ => safe_builtNat_delete r

/-- The calls that work on `POSTROUTING` while networks are attached. -/
inductive NatCall where
  | setupNat (bridge subnet : String)
  | syncNetworkIsolation (bridge localSubnet : String) (blocked natExempt : List String)

def NatCall.run : NatCall → Net Unit
  | .setupNat bridge subnet => Qarax.setupNat bridge subnet
  | .syncNetworkIsolation bridge localSubnet blocked natExempt =>
    Qarax.syncNetworkIsolation bridge localSubnet blocked natExempt

/-- One call on a node, with the runs of the tool that fail for a reason of their own.  The call may
fail. -/
def natStep (s : NetState) (a : NatCall × List Bool) : Option NetState :=
  some (a.1.run { s with faults := a.2 }).2

/-- A node after any calls. -/
def NatReach : NetState → Prop :=
  Machine.Reach natStep (fun _ _ => True) fun s => s = .fresh []

variable {s : NetState}

/-- **Exemptions stay above masquerading rules** whatever is called. -/
theorem NatReach.built (h : NatReach s) : BuiltNat s.nat := by
  refine Machine.Reach.invariant (I := fun s : NetState => BuiltNat s.nat) ?_ ?_ h
  · rintro s rfl
    exact ⟨[], AList.lookup_insert _, by simp, .nil⟩
  · rintro s ⟨call, faults⟩ s' hs - hstep
    cases hstep
    have hstart : OnNat False BuiltNat { s with faults } := ⟨False.elim, hs⟩
    cases call with
    | setupNat bridge subnet => exact (keeps_setupNat_built _ _ _ _ hstart).2
    | syncNetworkIsolation bridge localSubnet blocked natExempt =>
      exact (keeps_syncNetworkIsolation_built _ _ _ _ _ _ hstart).2

/-! ## What a sync leaves in `POSTROUTING` -/

lemma exemption_inj {src dst' : Option Cidr}
    (h : exemption bridge src dst = exemption bridge src dst') : dst = dst' := by
  simpa [exemption] using h

lemma natExemption_read_ok {d : Cidr} (hc : parseCidr localSubnet = some c)
    (hd : parseCidr subnet = some d) :
    (natExemption bridge localSubnet subnet).read
      = .ok (exemption bridge (keptBlock localSubnet) (keptBlock subnet)) := by
  simp [natExemption, Args.read, block_eq hc, block_eq hd, Args.ports, Args.iface, exemption, bind,
    Except.bind, pure, Except.pure]

/-- **The rules of `POSTROUTING` before and after a sync**: the wanted exemptions of the bridge and
subnet are there, stale rules are not, everything else is as before. -/
structure SyncedFrom (bridge localSubnet : String) (natExempt : List String) (P Q : List Rule) :
    Prop where
  stale : ∀ r, staleExemption bridge localSubnet natExempt r = true → r ∉ Q
  wanted : ∀ dst ∈ natExempt.map keptBlock,
    staleExemption bridge localSubnet natExempt (exemption bridge (keptBlock localSubnet) dst)
      = false →
    Q.count (exemption bridge (keptBlock localSubnet) dst)
      = max (P.count (exemption bridge (keptBlock localSubnet) dst)) 1
  unwanted : ∀ dst ∉ natExempt.map keptBlock,
    staleExemption bridge localSubnet natExempt (exemption bridge (keptBlock localSubnet) dst)
      = false →
    Q.count (exemption bridge (keptBlock localSubnet) dst)
      = P.count (exemption bridge (keptBlock localSubnet) dst)
  other : ∀ r, (∀ dst, r ≠ exemption bridge (keptBlock localSubnet) dst) →
    (r ∈ Q ↔ r ∈ P ∧ staleExemption bridge localSubnet natExempt r = false)

variable {s' : NetState}

lemma syncNatExemptionRules_ok {u : Unit} (hq : Quiet s) (hc : parseCidr localSubnet = some c)
    (hw : ∀ d ∈ natExempt, ∃ c, parseCidr d = some c) (hP : s.nat.lookup "POSTROUTING" = some P)
    (h : syncNatExemptionRules bridge localSubnet natExempt s = (.ok u, s')) :
    ∃ Q, s'.nat.lookup "POSTROUTING" = some Q ∧
      SyncedFrom bridge localSubnet natExempt P Q := by
  rw [syncNatExemptionRules_eq] at h
  obtain ⟨-, rs, new, hread, hnodup, hnew, hall, hQ⟩ := syncRules_ok .nat hq hP h
  replace hQ : s'.nat.lookup "POSTROUTING" = some ((new ++ P).filter fun r =>
    !staleExemption bridge localSubnet natExempt r) := hQ
  obtain rfl : rs = natExempt.map fun d =>
      exemption bridge (keptBlock localSubnet) (keptBlock d) := by
    have hok : Function.Injective (Except.ok : Rule → Except Stderr Rule) :=
      fun _ _ => Except.ok.inj
    refine List.map_injective_iff.2 hok ?_
    rw [← hread, List.map_map, List.map_map]
    refine List.map_congr_left fun d hd => ?_
    obtain ⟨c', hc'⟩ := hw d hd
    exact natExemption_read_ok hc hc'
  have hwanted : ∀ dst, exemption bridge (keptBlock localSubnet) dst
      ∈ natExempt.map (fun d => exemption bridge (keptBlock localSubnet) (keptBlock d)) ↔
        dst ∈ natExempt.map keptBlock := by
    intro dst
    simp only [List.mem_map]
    exact exists_congr fun d => and_congr_right fun _ => ⟨exemption_inj, fun h => by rw [h]⟩
  refine ⟨_, hQ, fun r hr => by simp [hr], fun dst hmem hstale => ?_, fun dst hmem hstale => ?_,
    fun r hr => ?_⟩
  · rw [List.count_filter (by simpa using hstale), List.count_append]
    by_cases hin : exemption bridge (keptBlock localSubnet) dst ∈ P
    · have hnot : exemption bridge (keptBlock localSubnet) dst ∉ new := fun h => (hnew _ h).2 hin
      have hpos := List.count_pos_iff.2 hin
      rw [List.count_eq_zero.2 hnot]
      omega
    · have hin' := (List.mem_append.1 (hall _ ((hwanted dst).2 hmem))).resolve_right hin
      rw [List.count_eq_one_of_mem hnodup hin', List.count_eq_zero.2 hin]
      rfl
  · have hnot : exemption bridge (keptBlock localSubnet) dst ∉ new := fun h =>
      hmem ((hwanted dst).1 (hnew _ h).1)
    rw [List.count_filter (by simpa using hstale), List.count_append, List.count_eq_zero.2 hnot,
      Nat.zero_add]
  · have hnot : r ∉ new := by
      intro h
      obtain ⟨d, -, rfl⟩ := List.mem_map.1 (hnew r h).1
      exact hr _ rfl
    simp [hnot]

/-- One step of a run that returned: the rest of it returned. -/
lemma ok_after {I : NetState → Prop} {α β : Type} {x : Net α} {k : α → Net β} {b : β}
    (hx : Keeps I x) (hs : I s) (h : (x >>= k) s = (.ok b, s')) :
    ∃ a s₁, I s₁ ∧ x s = (.ok a, s₁) ∧ k a s₁ = (.ok b, s') := by
  obtain ⟨a, s₁, h₁, h⟩ := ok_bind.1 h
  exact ⟨a, s₁, triple_of_keeps hx s a s₁ hs h₁, h₁, h⟩

/-- The exemptions are synced last, on the nat table the call started with. -/
lemma syncNetworkIsolation_exemptions {blocked : List String} {u : Unit} (hq : Quiet s)
    (h : syncNetworkIsolation bridge localSubnet blocked natExempt s = (.ok u, s')) :
    IfaceName bridge ∧ (∃ c, parseCidr localSubnet = some c) ∧
      ∃ s₁, Quiet s₁ ∧ s₁.nat = s.nat ∧
        syncNatExemptionRules bridge localSubnet natExempt s₁ = (.ok u, s') := by
  let J : Table → Prop := fun t => t = s.nat
  have hs : OnNat True J s := ⟨fun _ => hq, rfl⟩
  obtain ⟨_, s₁, hs, hname, h⟩ := ok_after (keeps_lift _) hs h
  obtain ⟨_, s₂, hs, hcidr, h⟩ := ok_after (keeps_lift _) hs h
  obtain ⟨_, s₃, hs, -, h⟩ := ok_after (keeps_each fun _ _ => keeps_lift _) hs h
  obtain ⟨_, s₄, hs, -, h⟩ := ok_after (keeps_each fun _ _ => keeps_lift _) hs h
  obtain ⟨_, s₅, hs, -, h⟩ := ok_after (keeps_ensureChain (keepsNat_runFilter _)) hs h
  obtain ⟨_, s₆, hs, -, h⟩ := ok_after (keeps_ensureChain (keepsNat_runFilter _)) hs h
  obtain ⟨_, s₇, hs, -, h⟩ := ok_after (keeps_ensureJumpRule fun _ _ => keepsNat_runFilter _) hs h
  obtain ⟨_, s₈, hs, -, h⟩ := ok_after (keeps_ensureJumpRule fun _ _ => keepsNat_runFilter _) hs h
  obtain ⟨_, s₉, hs, -, h⟩ := ok_after (keepsNat_runFilter _) hs h
  obtain ⟨_, s₁₀, hs, -, h⟩ := ok_after (keepsNat_runFilter _) hs h
  obtain ⟨_, s₁₁, hs, -, h⟩ := ok_after (keeps_each fun _ _ =>
    keeps_bind (keepsNat_ruleFilter _) fun _ => keepsNat_ruleFilter _) hs h
  obtain ⟨_, s₁₂, hs, -, h⟩ := ok_after (keepsNat_ruleFilter _) hs h
  obtain ⟨_, s₁₃, hs, -, h⟩ := ok_after (keepsNat_ruleFilter _) hs h
  exact ⟨ifaceName_of_validate (Prod.mk.inj hname).1, parseCidr_of_validate (Prod.mk.inj hcidr).1,
    s₁₃, hs.1 trivial, hs.2, h⟩

/-- What the lists say of a packet: the verdict is to translate when no exemption matches and some
masquerading rule does. -/
lemma Built.verdict {t : Table} (hP : t.lookup "POSTROUTING" = some P) (h : Built P) (p : Packet) :
    t.verdict p "POSTROUTING" = some .masquerade ↔
      (∀ r ∈ P, r.target = .ret → r.cond.holds p = false) ∧
        ∃ r ∈ P, r.target = .verdict .masquerade ∧ r.cond.holds p = true := by
  have hpos : ["POSTROUTING"].length ≤ t.entries.length :=
    Table.length_le (by simp) (by simpa using Table.mem_of_lookup hP)
  obtain ⟨n, hn⟩ : ∃ n, t.entries.length = n + 1 := ⟨_, (Nat.sub_add_cancel hpos).symm⟩
  rw [Table.verdict, hn, Netfilter.traverse, Table.body_of_lookup hP]
  exact Netfilter.scan_guarded
    (fun r hr => (h.rules r hr).imp IsExemption.target IsMasquerade.target) h.order

/-- Masquerading rules are never taken for exemptions. -/
lemma staleExemption_masquerade (hb : IfaceName bridge) (src : Option Cidr)
    (bridge' localSubnet : String) (natExempt : List String) :
    staleExemption bridge' localSubnet natExempt (masqueradeRule bridge src) = false := by
  have hparts : (Line.append "POSTROUTING" (masqueradeRule bridge src)).parts
      = ["-A", "POSTROUTING"] ++ (src.toList.flatMap fun c => ["-s", renderCidr c]) ++
        ["!", "-o", bridge, "-j", "MASQUERADE"] := by
    cases src <;> simp [Line.parts, Line.options, ruleOptions, masqueradeRule, targetText]
  have hret : (Line.append "POSTROUTING" (masqueradeRule bridge src)).contains "-j RETURN"
      = false := by
    have hpat : "-j RETURN".toList = "-j".toList ++ ' ' :: "RETURN".toList := by decide
    have hblank : ∀ t ∈ (Line.append "POSTROUTING" (masqueradeRule bridge src)).parts.map
        String.toList, ' ' ∉ t := by
      have hplain := fun c => (renderCidr_plain c).1
      rw [hparts]
      cases src <;> simp [hb.no_space, hplain]
    rw [Line.contains, decide_eq_false_iff_not, Line.text, hpat,
      Tokens.infix_line_iff (by decide) (by decide) hblank, hparts]
    have hwords : ∀ w ∈ ["-A", "POSTROUTING", "-s", "!", "-o"], ¬ ['-', 'j'] <:+ w.toList := by
      decide
    simp only [List.forall_mem_cons, String.reduceToList] at hwords
    cases src <;> simp [Tokens.Follows, hwords]
  rw [staleExemption, staleIn, isNatExemption, hret, Bool.and_false, Bool.false_and]

/-! ## Exactness -/

/-- **Exact exemptions** of a bridge and its subnet. -/
structure ExactExemptions (bridge localSubnet : String) (natExempt : List String) (t : Table) :
    Prop where
  /-- One rule for each exempt subnet and no other. -/
  once : ∀ d ∈ natExempt,
    (t.body "POSTROUTING").count (exemption bridge (keptBlock localSubnet) (keptBlock d)) = 1
  only : ∀ dst, exemption bridge (keptBlock localSubnet) dst ∈ t.body "POSTROUTING" →
    dst ∈ natExempt.map keptBlock
  /-- They are above the masquerading rule. -/
  above : (t.body "POSTROUTING").Pairwise fun r r' =>
    r = masqueradeRule bridge (keptBlock localSubnet) →
      ∀ dst, r' ≠ exemption bridge (keptBlock localSubnet) dst
  /-- A packet from the subnet that leaves by another interface is translated unless it goes to an
  exempt subnet. -/
  translated : masqueradeRule bridge (keptBlock localSubnet) ∈ t.body "POSTROUTING" →
    ∀ p : Packet, inSubnet localSubnet p.src = true → p.outIface ≠ bridge →
      (t.verdict p "POSTROUTING" = some .masquerade ↔ ∀ d ∈ natExempt, inSubnet d p.dst = false)

/-- **What a sync must find to leave exact exemptions.** -/
structure CleanBefore (bridge localSubnet : String) (natExempt : List String) (t : Table) :
    Prop where
  /-- No wanted rule is there twice. -/
  single : ∀ d ∈ natExempt, (t.body "POSTROUTING").count
    (exemption bridge (keptBlock localSubnet) (keptBlock d)) ≤ 1
  /-- The block of all addresses is not exempt, unless the kernel lists the local subnet with
  another text, so that nothing is found. -/
  everywhere : none ∈ natExempt.map keptBlock → listed localSubnet = false
  /-- Rules that are no longer wanted are found, and the local subnet is not itself exempt. -/
  unwanted : ∀ dst, exemption bridge (keptBlock localSubnet) dst ∈ t.body "POSTROUTING" →
    dst ∈ natExempt.map keptBlock ∨
      (listed localSubnet = true ∧ (dst = none ∨ localSubnet ∉ natExempt))
  /-- Exemptions of other bridges and subnets that stay do not meet packets from the subnet that
  are to be translated. -/
  others : masqueradeRule bridge (keptBlock localSubnet) ∈ t.body "POSTROUTING" →
    ∀ r ∈ t.body "POSTROUTING", r.target = .ret →
      (∀ dst, r ≠ exemption bridge (keptBlock localSubnet) dst) →
      staleExemption bridge localSubnet natExempt r = false →
      ∀ p : Packet, inSubnet localSubnet p.src = true → p.outIface ≠ bridge →
        (∀ d ∈ natExempt, inSubnet d p.dst = false) → r.cond.holds p = false

section Exact

variable {bridge localSubnet : String} {natExempt : List String} {P Q : List Rule} {c : Cidr}
  (h : SyncedFrom bridge localSubnet natExempt P Q) (hb : IfaceName bridge)
  (hc : parseCidr localSubnet = some c)

include hc

/-- The rules of the bridge and subnet on a packet from the subnet that leaves by another
interface. -/
lemma ownRules_hold (hname : bridge.toList.getLast? ≠ some '+')
    {p : Packet} (hsrc : inSubnet localSubnet p.src = true) (hout : p.outIface ≠ bridge) :
    (masqueradeRule bridge (keptBlock localSubnet)).cond.holds p = true ∧
      ∀ d c', parseCidr d = some c' →
        (exemption bridge (keptBlock localSubnet) (keptBlock d)).cond.holds p
          = inSubnet d p.dst := by
  have hiface : ifaceMatches bridge p.outIface = false := by
    simp [ifaceMatches, hname, Ne.symm hout]
  refine ⟨?_, fun d c' hd => ?_⟩
  · simp [masqueradeRule, Match.holds, keptBlock_all hc, hsrc, hiface]
  · simp [exemption, Match.holds, keptBlock_all hc, hsrc, hiface, keptBlock_all hd]

include h hb

/-- The rules are right exactly when nothing is there twice, the wanted rules stay and the unwanted
ones go. -/
lemma SyncedFrom.once_iff (hP : Built P) (hw : ∀ d ∈ natExempt, normalised d = true) :
    ((∀ d ∈ natExempt, Q.count (exemption bridge (keptBlock localSubnet) (keptBlock d)) = 1) ∧
      ∀ dst, exemption bridge (keptBlock localSubnet) dst ∈ Q → dst ∈ natExempt.map keptBlock) ↔
    (∀ d ∈ natExempt, P.count (exemption bridge (keptBlock localSubnet) (keptBlock d)) ≤ 1) ∧
      (none ∈ natExempt.map keptBlock → listed localSubnet = false) ∧
      ∀ dst, exemption bridge (keptBlock localSubnet) dst ∈ P → dst ∈ natExempt.map keptBlock ∨
        (listed localSubnet = true ∧ (dst = none ∨ localSubnet ∉ natExempt)) := by
  have hmap : ∀ d ∈ natExempt, keptBlock d ∈ natExempt.map keptBlock :=
    fun d hd => List.mem_map.2 ⟨d, hd, rfl⟩
  constructor
  · rintro ⟨honce, honly⟩
    have hstay : ∀ d ∈ natExempt, staleExemption bridge localSubnet natExempt
        (exemption bridge (keptBlock localSubnet) (keptBlock d)) = false := by
      intro d hd
      rw [← Bool.not_eq_true]
      intro hstale
      have hzero := List.count_eq_zero.2 (h.stale _ hstale)
      have hone := honce d hd
      omega
    refine ⟨fun d hd => ?_, fun hnone => ?_, fun dst hmem => ?_⟩
    · have hcount := h.wanted _ (hmap d hd) (hstay d hd)
      have hone := honce d hd
      omega
    · obtain ⟨d, hd, hkept⟩ := List.mem_map.1 hnone
      have hnot := hstay d hd
      rw [hkept, ← Bool.not_eq_true, staleExemption_own hb hc hw (by simp [Kept])] at hnot
      simpa using hnot
    · by_cases hd : dst ∈ natExempt.map keptBlock
      · exact .inl hd
      · have hstale : staleExemption bridge localSubnet natExempt
            (exemption bridge (keptBlock localSubnet) dst) = true := by
          rw [← Bool.not_eq_false]
          intro hnot
          have hcount := h.unwanted dst hd hnot
          rw [List.count_eq_zero.2 fun hQ => hd (honly dst hQ)] at hcount
          exact List.count_eq_zero.1 hcount.symm hmem
        obtain ⟨hlisted, hrest⟩ := (staleExemption_own hb hc hw (hP.kept hmem)).1 hstale
        exact .inr ⟨hlisted, hrest.imp_right And.left⟩
  · rintro ⟨hsingle, heverywhere, hunwanted⟩
    refine ⟨fun d hd => ?_, fun dst hmem => ?_⟩
    · have hstay : staleExemption bridge localSubnet natExempt
          (exemption bridge (keptBlock localSubnet) (keptBlock d)) = false := by
        rw [← Bool.not_eq_true, staleExemption_own hb hc hw (kept_keptBlock d)]
        rintro ⟨hlisted, hnone | ⟨-, hnot⟩⟩
        · simp [heverywhere (hnone ▸ hmap d hd)] at hlisted
        · exact hnot (hmap d hd)
      have hle := hsingle d hd
      rw [h.wanted _ (hmap d hd) hstay]
      omega
    · by_contra hd
      have hstay : staleExemption bridge localSubnet natExempt
          (exemption bridge (keptBlock localSubnet) dst) = false := by
        rw [← Bool.not_eq_true]
        exact fun hstale => h.stale _ hstale hmem
      have hP' : exemption bridge (keptBlock localSubnet) dst ∈ P := by
        rw [← List.count_pos_iff, ← h.unwanted dst hd hstay]
        exact List.count_pos_iff.2 hmem
      obtain hd' | ⟨hlisted, hrest⟩ := hunwanted dst hP'
      · exact hd hd'
      · rw [← Bool.not_eq_true, staleExemption_own hb hc hw (hP.kept hP')] at hstay
        exact hstay ⟨hlisted, hrest.imp_right fun hl => ⟨hl, hd⟩⟩

lemma SyncedFrom.translated_iff {t : Table} (hQ : t.lookup "POSTROUTING" = some Q)
    (hbuilt : Built Q) (hname : bridge.toList.getLast? ≠ some '+')
    (hw : ∀ d ∈ natExempt, ∃ c, parseCidr d = some c)
    (honce : ∀ d ∈ natExempt,
      Q.count (exemption bridge (keptBlock localSubnet) (keptBlock d)) = 1)
    (honly : ∀ dst, exemption bridge (keptBlock localSubnet) dst ∈ Q →
      dst ∈ natExempt.map keptBlock) :
    (masqueradeRule bridge (keptBlock localSubnet) ∈ Q →
      ∀ p : Packet, inSubnet localSubnet p.src = true → p.outIface ≠ bridge →
        (t.verdict p "POSTROUTING" = some .masquerade ↔
          ∀ d ∈ natExempt, inSubnet d p.dst = false)) ↔
    (masqueradeRule bridge (keptBlock localSubnet) ∈ P → ∀ r ∈ P, r.target = .ret →
      (∀ dst, r ≠ exemption bridge (keptBlock localSubnet) dst) →
      staleExemption bridge localSubnet natExempt r = false →
      ∀ p : Packet, inSubnet localSubnet p.src = true → p.outIface ≠ bridge →
        (∀ d ∈ natExempt, inSubnet d p.dst = false) → r.cond.holds p = false) := by
  have hmasq : masqueradeRule bridge (keptBlock localSubnet) ∈ Q ↔
      masqueradeRule bridge (keptBlock localSubnet) ∈ P := by
    rw [h.other _ fun dst => by simp [masqueradeRule, exemption],
      staleExemption_masquerade hb, eq_self_iff_true, and_true]
  constructor
  · intro htranslated hmem r hr hret hne hstay p hsrc hout hdst
    have hverdict := (htranslated (hmasq.2 hmem) p hsrc hout).2 hdst
    exact ((hbuilt.verdict hQ p).1 hverdict).1 r ((h.other r hne).2 ⟨hr, hstay⟩) hret
  · intro hothers hmem p hsrc hout
    obtain ⟨hm, hown⟩ := ownRules_hold hc hname hsrc hout
    rw [hbuilt.verdict hQ p]
    constructor
    · rintro ⟨hfree, -⟩ d hd
      obtain ⟨c', hc'⟩ := hw d hd
      rw [← hown d c' hc']
      have hpos : 0 < Q.count (exemption bridge (keptBlock localSubnet) (keptBlock d)) := by
        rw [honce d hd]
        exact Nat.one_pos
      exact hfree _ (List.count_pos_iff.1 hpos) rfl
    · intro hdst
      refine ⟨fun r hr hret => ?_, _, hmem, rfl, hm⟩
      by_cases hex : ∃ dst, r = exemption bridge (keptBlock localSubnet) dst
      · obtain ⟨dst, rfl⟩ := hex
        obtain ⟨d, hd, rfl⟩ := List.mem_map.1 (honly dst hr)
        obtain ⟨c', hc'⟩ := hw d hd
        rw [hown d c' hc', hdst d hd]
      · have hne := not_exists.1 hex
        obtain ⟨hP, hstay⟩ := (h.other r hne).1 hr
        exact hothers (hmasq.1 hmem) r hP hret hne hstay p hsrc hout hdst

end Exact

/-- **When the exemptions are exact.**  On a node that is in any state the two functions can lead
to, a sync that returns, with no run of the tool failing for a reason of its own, leaves exact
exemptions if and only if it found what `CleanBefore` says. -/
theorem exactExemptions_iff {s s' : NetState} {u : Unit} {bridge localSubnet : String}
    {blocked natExempt : List String} {faults : List Bool} (hs : NatReach s)
    (hq : true ∉ faults) (hname : bridge.toList.getLast? ≠ some '+')
    (hw : ∀ d ∈ natExempt, normalised d = true)
    (h : syncNetworkIsolation bridge localSubnet blocked natExempt { s with faults }
      = (.ok u, s')) :
    ExactExemptions bridge localSubnet natExempt s'.nat ↔
      CleanBefore bridge localSubnet natExempt s.nat := by
  obtain ⟨P, hP, hbuilt⟩ := hs.built
  obtain ⟨hb, ⟨c, hc⟩, s₁, hq₁, hnat, hrun⟩ :=
    syncNetworkIsolation_exemptions (show Quiet { s with faults } from hq) h
  have hparse := parseCidr_of_normalised hw
  obtain ⟨Q, hQ, hsync⟩ := syncNatExemptionRules_ok hq₁ hc hparse (hnat ▸ hP) hrun
  obtain ⟨Q', hQ', hbuilt'⟩ : BuiltNat s'.nat := by
    have hkeep := keeps_syncNetworkIsolation_built False bridge localSubnet blocked natExempt
      { s with faults } ⟨False.elim, P, hP, hbuilt⟩
    rw [h] at hkeep
    exact hkeep.2
  obtain rfl : Q = Q' := Option.some.inj (hQ.symm.trans hQ')
  have honce := hsync.once_iff hb hc hbuilt hw
  have hbody := Table.body_of_lookup hP
  have hbody' := Table.body_of_lookup hQ
  constructor
  · rintro ⟨h₁, h₂, -, h₃⟩
    rw [hbody'] at h₁ h₂ h₃
    obtain ⟨g₁, g₂, g₃⟩ := honce.1 ⟨h₁, h₂⟩
    have g₄ := (hsync.translated_iff hb hc hQ hbuilt' hname hparse h₁ h₂).1 h₃
    exact ⟨hbody ▸ g₁, g₂, hbody ▸ g₃, hbody ▸ g₄⟩
  · rintro ⟨g₁, g₂, g₃, g₄⟩
    rw [hbody] at g₁ g₃ g₄
    obtain ⟨h₁, h₂⟩ := honce.2 ⟨g₁, g₂, g₃⟩
    have h₃ := (hsync.translated_iff hb hc hQ hbuilt' hname hparse h₁ h₂).2 g₄
    refine ⟨hbody' ▸ h₁, hbody' ▸ h₂, hbody' ▸ ?_, hbody' ▸ h₃⟩
    refine hbuilt'.order.imp fun {r r'} hord hr dst hr' => ?_
    rw [hr, hr'] at hord
    exact hord rfl rfl

/-- A node with one bridge, translated but for one subnet. -/
def exemptNode : NetState :=
  (NatCall.run (.syncNetworkIsolation "br0" "10.1.0.0/24" [] ["10.3.0.0/24"])
    { (NatCall.run (.setupNat "br0" "10.1.0.0/24") { NetState.fresh [] with faults := [] }).2
      with faults := [] }).2

lemma exemptNode_reach : NatReach exemptNode := by
  have hstep : ∀ (s : NetState) (call : NatCall), NatReach s →
      NatReach (call.run { s with faults := [] }).2 := fun s call hs =>
    Machine.Reach.next hs trivial (show natStep s (call, []) = _ from rfl)
  exact hstep _ _ (hstep _ _ (.start rfl))

/-- Another subnet takes the place of the exempt one. -/
theorem exemption_replaced :
    ExactExemptions "br0" "10.1.0.0/24" ["10.2.0.0/24"]
      (syncNetworkIsolation "br0" "10.1.0.0/24" [] ["10.2.0.0/24"]
        { exemptNode with faults := [] }).2.nat := by
  have hbody : exemptNode.nat.body "POSTROUTING"
      = [exemption "br0" (keptBlock "10.1.0.0/24") (keptBlock "10.3.0.0/24"),
         masqueradeRule "br0" (keptBlock "10.1.0.0/24")] := by decide +kernel
  have hclean : CleanBefore "br0" "10.1.0.0/24" ["10.2.0.0/24"] exemptNode.nat := by
    refine ⟨?_, by decide +kernel, fun dst _ => .inr ⟨by decide +kernel, .inr (by decide)⟩, ?_⟩
    · rw [hbody]
      decide +kernel
    · rw [hbody]
      rintro - r hr hret hne
      rcases List.mem_cons.1 hr with rfl | hr
      · exact absurd rfl (hne _)
      · rw [List.mem_singleton.1 hr] at hret
        cases hret
  have hrun : syncNetworkIsolation "br0" "10.1.0.0/24" [] ["10.2.0.0/24"]
      { exemptNode with faults := [] } = (.ok (), _) := run_of_fst (by decide +kernel)
  exact (exactExemptions_iff exemptNode_reach (by simp) (by decide) (by decide +kernel) hrun).2
    hclean

/-- The kernel lists the exemption of all addresses without a destination, so the call that inserts
it takes it for a stale one and deletes it. -/
theorem exempt_everything_deleted :
    NatReach (.fresh []) ∧
      (syncNetworkIsolation "br0" "10.1.0.0/24" [] ["0.0.0.0/0"] (.fresh [])).1 = .ok () ∧
      ¬ ExactExemptions "br0" "10.1.0.0/24" ["0.0.0.0/0"]
        (syncNetworkIsolation "br0" "10.1.0.0/24" [] ["0.0.0.0/0"] (.fresh [])).2.nat := by
  refine ⟨.start rfl, by decide +kernel, fun h => ?_⟩
  have hone := h.once "0.0.0.0/0" (by simp)
  revert hone
  decide +kernel

end Qarax
