import Qarax.Node.Networking.Keeps

/-!
# The nat table

Address translation lives in a table of its own.  Of the functions of `networking/iptables.rs` only
four run commands on it, and always about `POSTROUTING`: `setup_nat` appends a masquerading rule
and `teardown_nat` deletes one, exemptions are put on top, and stale exemptions are found in a
listing and deleted.

* `OnNat` — a property of the nat table, which the commands on the filter table keep.
* `exemption` — an exemption as the kernel keeps it, with its tokens in a listing.
-/

namespace Qarax

open Proc

/-- A property of the nat table, together with quiet if `q` asks for it. -/
def OnNat (q : Prop) (J : Table → Prop) (s : NetState) : Prop := (q → Quiet s) ∧ J s.nat

variable {q : Prop} {J : Table → Prop} {bridge localSubnet subnet : String}

instance : Ticks (OnNat q J) := ⟨fun h => ⟨fun hq => (h.1 hq).tick, h.2⟩⟩

lemma keepsNat_runCmd {cmd : Command} (h : cmd.Safe J) : Keeps (OnNat q J) (runCmd .nat cmd) :=
  fun _ hs => runCmd_of hs fun t ht => ⟨fun hq => (hs.1 hq).tick, h _ t hs.2 ht⟩

lemma keepsNat_runFilter (cmd : Command) : Keeps (OnNat q J) (runCmd .filter cmd) :=
  fun _ hs => runCmd_of hs fun _ _ => ⟨fun hq => (hs.1 hq).tick, hs.2⟩

lemma keepsNat_ruleFilter {cmd : Rule → Command} (a : Args) :
    Keeps (OnNat q J) (runRule .filter cmd a) :=
  keeps_runRule fun _ _ => keepsNat_runFilter _

lemma keepsNat_teardownNetworkIsolation (bridge : String) :
    Keeps (OnNat q J) (teardownNetworkIsolation bridge) :=
  keeps_teardownNetworkIsolation (fun _ _ _ _ => keepsNat_runFilter _)
    (fun _ _ => keepsNat_runFilter _) fun _ _ => keepsNat_runFilter _

/-- Up to the exemptions a sync of a bridge is about the filter table. -/
lemma keepsNat_syncNetworkIsolation {blocked natExempt : List String}
    (hi : ∀ subnet ∈ natExempt, ∀ r, (natExemption bridge localSubnet subnet).read = .ok r →
      (Command.insert "POSTROUTING" r).Safe J)
    (hd : ∀ r, isNatExemption bridge localSubnet (.append "POSTROUTING" r) = true →
      spared bridge localSubnet natExempt (.append "POSTROUTING" r) = false →
      (Command.delete "POSTROUTING" r).Safe J) :
    Keeps (OnNat q J) (syncNetworkIsolation bridge localSubnet blocked natExempt) :=
  keeps_syncNetworkIsolation (fun _ _ => keepsNat_runFilter _) (fun _ _ => keepsNat_runFilter _)
    (fun _ _ _ _ => keepsNat_runFilter _) (fun _ _ _ _ => keepsNat_runFilter _)
    (keeps_syncNatExemptionRules (fun d hmem r hr => keepsNat_runCmd (hi d hmem r hr))
      fun r hfound hspared => keepsNat_runCmd (hd r hfound hspared))

/-! ## Exemptions in a listing -/

/-- An exemption as the kernel keeps it. -/
def exemption (bridge : String) (src dst : Option Cidr) : Rule :=
  ⟨{ src, dst, outIface := some (true, bridge) }, .ret⟩

lemma natExemption_read {r : Rule} (h : (natExemption bridge localSubnet subnet).read = .ok r) :
    ∃ src dst, Args.block (some localSubnet) = .ok src ∧ Args.block (some subnet) = .ok dst ∧
      r = exemption bridge src dst := by
  obtain ⟨src, dst, dport, hs, hd, hp, rfl⟩ := Args.read_ok h
  cases hp
  exact ⟨src, dst, hs, hd, by simp [natExemption, exemption, Args.iface]⟩

lemma exemption_parts (bridge : String) (src dst : Option Cidr) :
    (Line.append "POSTROUTING" (exemption bridge src dst)).parts
      = ["-A", "POSTROUTING"] ++ (src.toList.flatMap fun c => ["-s", renderCidr c]) ++
        (dst.toList.flatMap fun c => ["-d", renderCidr c]) ++
        ["!", "-o", bridge, "-j", "RETURN"] := by
  cases src <;> cases dst <;>
    simp [Line.parts, Line.options, ruleOptions, exemption, targetText]

/-- The kernel prints blocks without blanks and signs. -/
lemma renderCidr_plain (b : Cidr) : ' ' ∉ (renderCidr b).toList ∧ '-' ∉ (renderCidr b).toList := by
  have hspace := not_mem_renderIpv4 (show ' '.isDigit = false by decide) (by decide)
  have hdash := not_mem_renderIpv4 (show '-'.isDigit = false by decide) (by decide)
  have hspace' := not_mem_renderNat (show ' '.isDigit = false by decide)
  have hdash' := not_mem_renderNat (show '-'.isDigit = false by decide)
  simp [renderCidr, hspace, hdash, hspace', hdash']

lemma exemption_noBlank (hb : ' ' ∉ bridge.toList) (src dst : Option Cidr) :
    ∀ t ∈ (Line.append "POSTROUTING" (exemption bridge src dst)).parts.map String.toList,
      ' ' ∉ t := by
  have hplain := fun c => (renderCidr_plain c).1
  rw [exemption_parts]
  cases src <;> cases dst <;> simp [hb, hplain]

/-- The search for the exemptions of one bridge finds those of another only if the name of the one
is the beginning of the name of the other. -/
lemma isPrefix_of_contains_out {b c : String} (hb : IfaceName b) (hc : IfaceName c)
    {src dst : Option Cidr}
    (h : (Line.append "POSTROUTING" (exemption c src dst)).contains ("! -o " ++ b) = true) :
    b.toList <+: c.toList := by
  have hpat : ("! -o " ++ b).toList = ['!', ' '] ++ ("-o".toList ++ ' ' :: b.toList) := by simp
  rw [Line.contains, decide_eq_true_eq, hpat] at h
  have h := (List.suffix_append _ _).isInfix.trans h
  rw [Line.text, Tokens.infix_line_iff (by decide) hb.no_space (exemption_noBlank hc.no_space _ _),
    exemption_parts] at h
  -- only the flag itself ends in `-o`, or a bridge name, which is followed by `-j`
  have hblock : ∀ x : Cidr, ¬ ['-', 'o'] <:+ (renderCidr x).toList := fun x hx =>
    (renderCidr_plain x).2 (hx.subset (by simp))
  have hwords : ∀ w ∈ ["-A", "POSTROUTING", "-s", "-d", "!", "-j"],
      ¬ ['-', 'o'] <:+ w.toList := by decide
  simp only [List.forall_mem_cons, String.reduceToList] at hwords
  have hj : ¬ b.toList <+: ['-', 'j'] := by
    intro hp
    cases hl : b.toList with
    | nil => exact hb.ne_nil hl
    | cons x xs =>
      rw [hl, List.cons_prefix_cons] at hp
      exact hb.head_ne (by rw [hl, hp.1]; rfl)
  cases src <;> cases dst <;> simpa [Tokens.Follows, hblock, hwords, hj] using h

end Qarax
