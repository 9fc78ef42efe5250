import Qarax.Node.Networking.ForwardJumps

/-!
# Isolation of a bridge

`sync_network_isolation` gives a bridge a chain that drops what goes to blocked subnets and a jump
to it in `FORWARD`.  The first jump that matches decides, and a VM chain always decides, so the
isolation holds as long as no jump of a VM that matches such a packet stands above the bridge's own
jump.

* `Isolated` — the state in which a bridge is isolated; `Isolated.dropped` is its meaning.
* `IsolationRun` — histories in which no request puts a harmful jump on top.
* `isolationRun_drops` — in them isolation holds at every point.
* `firewall_bypasses_isolation` — a VM without egress rules, started on an isolated bridge, reaches
  a blocked subnet.
-/

namespace Qarax

open Proc Netfilter

/-- The jump of what enters on a bridge to the isolation chain of the bridge. -/
def isolationJump (bridge : String) : Rule :=
  ⟨{ inIface := Args.iface (some bridge) }, .jump (isolationOut bridge)⟩

/-- The packet entered on the bridge and goes to a blocked subnet. -/
def ToBlocked (bridge : String) (blocked : List String) (p : Packet) : Prop :=
  p.inIface = bridge ∧ ∃ text ∈ blocked, ∃ c, parseCidr text = some c ∧ c.contains p.dst = true

/-- The rule does not match what the isolation of the bridge has to drop. -/
def Clear (bridge : String) (blocked : List String) (r : Rule) : Prop :=
  ∀ p, ToBlocked bridge blocked p → r.cond.holds p = false

/-- Names of isolation chains. -/
def IsIsolationChain (c : String) : Prop := ∃ rest, c = "QXNET" ++ rest

/-- Rules that may stand above the jump of the bridge. -/
def MayPrecede (bridge : String) (blocked : List String) (r : Rule) : Prop :=
  Clear bridge blocked r ∨ ∃ c, r.target = .jump c ∧ IsIsolationChain c

/-- Isolation chains never accept. -/
def IsolationChainsOk (t : Table) : Prop :=
  ∀ c rs, IsIsolationChain c → t.lookup c = some rs → ∀ r ∈ rs, r.target = drop ∨ r.target = .ret

/-- **The bridge is isolated** from the blocked subnets. -/
structure Isolated (bridge : String) (blocked : List String) (t : Table) : Prop where
  name : IfaceName bridge
  jump : ∃ F, t.lookup "FORWARD" = some F ∧ isolationJump bridge ∈ F ∧
    ∀ r ∈ F.takeWhile (· ≠ isolationJump bridge), MayPrecede bridge blocked r
  chain : ∃ cs, ReadAll (blocked.map fun subnet => { dst := some subnet, jump := drop }) cs ∧
    t.lookup (isolationOut bridge) = some (cs ++ [⟨{}, .ret⟩])

/-! ## What stands above a rule

The rules above `a` in `l` are `l.takeWhile (· ≠ a)`.
-/

section Above

variable {α : Type} [DecidableEq α] {a : α}

lemma dropWhile_ne_cons : ∀ {l : List α}, a ∈ l → ∃ rest, l.dropWhile (· ≠ a) = a :: rest
  | x :: l, h => by
      by_cases hx : x = a
      · exact ⟨l, by simp [hx]⟩
      · obtain ⟨rest, hrest⟩ := dropWhile_ne_cons ((List.mem_cons.1 h).resolve_left (Ne.symm hx))
        exact ⟨rest, by rw [List.dropWhile_cons_of_pos (by simpa using hx), hrest]⟩

/-- Taking other elements out leaves a part of what is above. -/
lemma takeWhile_ne_sublist {l l' : List α} (h : l'.Sublist l) (hc : l'.count a = l.count a) :
    (l'.takeWhile (· ≠ a)).Sublist (l.takeWhile (· ≠ a)) := by
  induction h with
  | slnil => exact .slnil
  | @cons l₁ l₂ x hsub ih =>
    have hle := hsub.count_le a
    have hx : x ≠ a := by
      rintro rfl
      rw [List.count_cons_self] at hc
      omega
    rw [List.count_cons_of_ne hx] at hc
    rw [List.takeWhile_cons_of_pos (by simpa using hx)]
    exact (ih hc).cons x
  | @cons_cons l₁ l₂ x hsub ih =>
    by_cases hx : x = a
    · simp [hx]
    · rw [List.count_cons_of_ne hx, List.count_cons_of_ne hx] at hc
      rw [List.takeWhile_cons_of_pos (by simpa using hx),
        List.takeWhile_cons_of_pos (by simpa using hx)]
      exact (ih hc).cons_cons x

lemma takeWhile_append_of_mem {l l' : List α} (h : a ∈ l) :
    (l ++ l').takeWhile (· ≠ a) = l.takeWhile (· ≠ a) := by
  induction l with
  | nil => cases h
  | cons x l ih =>
    by_cases hx : x = a
    · simp [hx]
    · rw [List.cons_append, List.takeWhile_cons_of_pos (by simpa using hx),
        List.takeWhile_cons_of_pos (by simpa using hx),
        ih ((List.mem_cons.1 h).resolve_left (Ne.symm hx))]

/-- What is put on top comes above, and nothing else does. -/
lemma mem_takeWhile_append {l l' : List α} {x : α} (h : x ∈ (l ++ l').takeWhile (· ≠ a)) :
    x ∈ l ∨ x ∈ l'.takeWhile (· ≠ a) := by
  induction l with
  | nil => exact .inr h
  | cons y l ih =>
    rw [List.cons_append] at h
    by_cases hy : y = a
    · simp [hy] at h
    · rw [List.takeWhile_cons_of_pos (by simpa using hy)] at h
      rcases List.mem_cons.1 h with rfl | h
      · simp
      · exact (ih h).imp_left fun hm => by simp [hm]

end Above

/-! ## What isolation means -/

lemma ifaceMatches_self (name : String) : ifaceMatches name name = true := by
  unfold ifaceMatches
  split_ifs
  · rw [List.isPrefixOf_iff_prefix]
    exact List.dropLast_prefix _
  · simp

lemma isolationJump_holds (p : Packet) : (isolationJump p.inIface).cond.holds p = true := by
  have h : (Args.iface (some p.inIface)).all (ifaceMatches · p.inIface) = true := by
    unfold Args.iface
    rw [Option.filter_some]
    split_ifs
    · simp [ifaceMatches_self]
    · rfl
  simp [isolationJump, Match.holds, h]

lemma isolationOut_ne_forward (bridge : String) : "FORWARD" ≠ isolationOut bridge := by
  obtain ⟨rest, hrest⟩ := isolation_tag bridge (c := isolationOut bridge) (by simp)
  have hf : "FORWARD" = "FORWA" ++ "RD" := by decide
  rw [hrest, hf]
  exact tag_append_ne _ _ (by simp) (by decide)

variable {call : String → Option Verdict} {p : Packet} {history : List Call}

/-- A chain whose rules only drop and return cannot accept. -/
lemma scan_dropOnly {rs : List Rule}
    (h : ∀ r ∈ rs, r.target = drop ∨ r.target = .ret) :
    scan Match.holds call p rs = none ∨ scan Match.holds call p rs = some .drop := by
  induction rs with
  | nil => exact .inl rfl
  | cons r rs ih =>
    cases hm : r.cond.holds p with
    | false =>
      rw [scan_cons_no hm]
      exact ih fun x hx => h x (by simp [hx])
    | true =>
      rcases h r (by simp) with ht | ht
      · exact .inr (scan_cons_verdict hm ht)
      · exact .inl (scan_cons_ret hm ht)

/-- The isolation chain drops what goes to a blocked subnet. -/
lemma scan_blocked {bridge : String} {blocked : List String}
    {cs rest : List Rule} (hp : ToBlocked bridge blocked p)
    (h : ReadAll (blocked.map fun subnet => { dst := some subnet, jump := drop }) cs) :
    scan Match.holds call p (cs ++ rest) = some .drop := by
  have htarget : ∀ c ∈ cs, c.target = .verdict .drop := by
    intro c hc
    obtain ⟨a, ha, hread⟩ := readAll_mem h hc
    obtain ⟨subnet, -, rfl⟩ := List.mem_map.1 ha
    exact read_target hread
  obtain ⟨-, text, hmem, blk, hparse, hcontains⟩ := hp
  have hany : (cs.any fun c => c.cond.holds p) = true := by
    have hread : Args.read { dst := some text, jump := drop }
        = .ok ⟨{ dst := if blk.len.val = 0 then none else some blk.network }, drop⟩ := by
      simp [Args.read, Args.block, Args.ports, Args.iface, hparse, bind, Except.bind, pure,
        Except.pure]
    refine List.any_eq_true.2 ⟨_, readAll_of_mem h (List.mem_map_of_mem hmem) hread, ?_⟩
    split_ifs
    · simp [Match.holds]
    · simp [Match.holds, hcontains]
  rw [scan_verdicts htarget, if_pos hany]

/-- **An isolated bridge drops what goes to a blocked subnet.** -/
theorem Isolated.dropped {t : Table} {bridge : String} {blocked : List String}
    (h : Isolated bridge blocked t) (hok : IsolationChainsOk t) (hp : ToBlocked bridge blocked p) :
    t.verdict p "FORWARD" = some .drop := by
  obtain ⟨F, hF, hmem, habove⟩ := h.jump
  obtain ⟨cs, hcs, hchain⟩ := h.chain
  have hne : "FORWARD" ≠ isolationOut bridge := isolationOut_ne_forward bridge
  have hlen : 2 ≤ t.entries.length := by
    refine Table.length_le (show ["FORWARD", isolationOut bridge].Nodup by simp [hne]) ?_
    intro c hc
    rcases List.mem_pair.1 hc with rfl | rfl
    · exact Table.mem_of_lookup hF
    · exact Table.mem_of_lookup hchain
  obtain ⟨n, hn⟩ : ∃ n, t.entries.length = n + 2 := ⟨_, (Nat.sub_add_cancel hlen).symm⟩
  rw [Table.verdict, hn, Netfilter.traverse, Table.body_of_lookup hF,
    ← List.takeWhile_append_dropWhile (l := F) (p := (· ≠ isolationJump bridge))]
  have hdrop : traverse Match.holds t.body p (n + 1) (isolationOut bridge) = some .drop := by
    rw [Netfilter.traverse, Table.body_of_lookup hchain]
    exact scan_blocked hp hcs
  refine scan_agree (fun r hr hm => ?_) ?_
  · rcases habove r hr with hclear | ⟨c, ht, hc⟩
    · rw [hclear p hp] at hm
      cases hm
    · refine ⟨c, ht, ?_⟩
      rw [Netfilter.traverse]
      cases hl : t.lookup c with
      | none => exact .inl (by simp [Table.body, hl])
      | some rs =>
        rw [Table.body_of_lookup hl]
        exact scan_dropOnly (hok c rs hc hl)
  · obtain ⟨rest, hrest⟩ := dropWhile_ne_cons hmem
    rw [hrest]
    refine scan_cons_jump ?_ rfl hdrop
    rw [← hp.1]
    exact isolationJump_holds p

/-! ## Commands that keep a bridge isolated -/

lemma isIsolationChain_out (bridge : String) : IsIsolationChain (isolationOut bridge) :=
  isolation_tag bridge (by simp)

/-- The chains of VMs are no isolation chains. -/
lemma not_isIsolationChain {vmId c : String} (h : c ∈ (VmFirewallChains.new vmId).all) :
    ¬ IsIsolationChain c := by
  rintro ⟨rest, heq⟩
  simp only [VmFirewallChains.all, VmFirewallChains.children, List.mem_cons, List.not_mem_nil,
    or_false] at h
  rcases h with rfl | rfl | rfl | rfl | rfl | rfl <;>
    exact tag_append_ne _ _ (by simp) (by decide) heq

lemma isolationJump_noBlank {bridge : String} (h : IfaceName bridge) :
    NoBlank (isolationJump bridge) := by
  refine noBlank_of (fun n hn => ?_) (by simp [isolationJump]) ?_
  · rw [isolationJump, Args.iface, Option.filter_eq_some_iff] at hn
    obtain rfl := Option.some.inj hn.1
    exact h.no_space
  · have hsan := not_mem_sanitizeSuffix (show ' '.isAlphanum = false by decide) bridge 20
    simp [isolationJump, targetText, isolationOut, hsan]

/-- The search for a VM's jumps does not find the jump of a bridge. -/
lemma isolationJump_not_contains {bridge : String} (hb : IfaceName bridge) (vmId : String)
    {parent : String}
    (hp : parent ∈ [(VmFirewallChains.new vmId).outParent, (VmFirewallChains.new vmId).inParent]) :
    (Line.append "FORWARD" (isolationJump bridge)).contains ("-j " ++ parent) = false := by
  have hall : parent ∈ (VmFirewallChains.new vmId).all := by
    simp only [VmFirewallChains.all, List.mem_cons, List.not_mem_nil, or_false] at hp ⊢
    tauto
  obtain ⟨hq, hx⟩ := chain_text hall
  rw [Bool.eq_false_iff]
  intro hc
  rw [contains_jump (isolationJump_noBlank hb) hq (hx ' ' (by decide))] at hc
  obtain ⟨t, ht⟩ := hc
  obtain ⟨rest, hrest⟩ := isIsolationChain_out bridge
  have heq : parent ++ String.ofList t = "QXNET" ++ rest := by
    rw [← hrest]
    exact String.toList_inj.1 (by simpa [isolationJump, targetText] using ht)
  rcases List.mem_pair.1 hp with rfl | rfl
  · rw [VmFirewallChains.new, String.append_assoc] at heq
    exact tag_append_ne _ _ (by simp) (by decide) heq
  · rw [VmFirewallChains.new, String.append_assoc] at heq
    exact tag_append_ne _ _ (by simp) (by decide) heq

section Safe

variable {bridge : String} {blocked : List String} {cmd : Command}

lemma safe_isolated_of_ne (hf : "FORWARD" ≠ cmd.chain) (hc : isolationOut bridge ≠ cmd.chain) :
    cmd.Safe (Isolated bridge blocked) := by
  rintro t t' ⟨hn, ⟨F, hF, hrest⟩, cs, hcs, hl⟩ he
  refine ⟨hn, ⟨F, ?_, hrest⟩, cs, hcs, ?_⟩
  · rw [Command.lookup_exec he, if_neg hf, hF]
  · rw [Command.lookup_exec he, if_neg hc, hl]

/-- A change of `FORWARD` that leaves the jump of the bridge where it may be. -/
lemma safe_isolated_forward (hc : cmd.chain = "FORWARD")
    (h : ∀ F, isolationJump bridge ∈ F →
      (∀ r ∈ F.takeWhile (· ≠ isolationJump bridge), MayPrecede bridge blocked r) →
      ∃ F', cmd.after (some F) = some F' ∧ isolationJump bridge ∈ F' ∧
        ∀ r ∈ F'.takeWhile (· ≠ isolationJump bridge), MayPrecede bridge blocked r) :
    cmd.Safe (Isolated bridge blocked) := by
  rintro t t' ⟨hn, ⟨F, hF, hmem, habove⟩, cs, hcs, hl⟩ he
  obtain ⟨F', hafter, hmem', habove'⟩ := h F hmem habove
  refine ⟨hn, ⟨F', ?_, hmem', habove'⟩, cs, hcs, ?_⟩
  · rw [Command.lookup_exec he, if_pos hc.symm, hF, hafter]
  · rw [Command.lookup_exec he, if_neg (hc ▸ (isolationOut_ne_forward bridge).symm), hl]

lemma safe_isolated_append (r : Rule) :
    (Command.append "FORWARD" r).Safe (Isolated bridge blocked) := by
  refine safe_isolated_forward rfl fun F hmem habove => ⟨F ++ [r], rfl, by simp [hmem], ?_⟩
  rwa [takeWhile_append_of_mem hmem]

variable {r : Rule}

lemma safe_isolated_insert (hr : MayPrecede bridge blocked r) :
    (Command.insert "FORWARD" r).Safe (Isolated bridge blocked) := by
  refine safe_isolated_forward rfl fun F hmem habove => ⟨r :: F, rfl, by simp [hmem], ?_⟩
  intro x hx
  rcases mem_takeWhile_append (l := [r]) hx with hx | hx
  · exact List.mem_singleton.1 hx ▸ hr
  · exact habove x hx

lemma safe_isolated_delete (hr : r ≠ isolationJump bridge) :
    (Command.delete "FORWARD" r).Safe (Isolated bridge blocked) := by
  refine safe_isolated_forward rfl fun F hmem habove => ⟨F.erase r, rfl, ?_, ?_⟩
  · exact (List.mem_erase_of_ne hr.symm).2 hmem
  · intro x hx
    refine habove x ((takeWhile_ne_sublist List.erase_sublist ?_).subset hx)
    rw [List.count_erase_of_ne hr.symm]

end Safe

/-! ## Requests that keep a bridge isolated -/

section Requests

variable {q : Prop} {bridge : String} {blocked : List String}

variable {vmId localSubnet : String} {interfaces : List VmFirewallInterface} {u : Unit}
  {natExempt : List String} {F : List Rule}

/-- Commands about the chains of a VM. -/
lemma safe_isolated_vmChain {c : String} (h : c ∈ (VmFirewallChains.new vmId).all)
    {cmd : Command} (hc : cmd.chain = c) : cmd.Safe (Isolated bridge blocked) := by
  subst hc
  refine safe_isolated_of_ne (fun heq => chains_ne_forward vmId (heq ▸ h)) fun heq => ?_
  exact not_isIsolationChain h (heq ▸ isIsolationChain_out bridge)

lemma safeTeardown_isolated (hb : IfaceName bridge) (vmId : String) :
    SafeTeardown (Isolated bridge blocked) (.new vmId) where
  delete := by
    intro parent hp r hc
    refine safe_isolated_delete ?_
    rintro rfl
    rw [isolationJump_not_contains hb vmId hp] at hc
    cases hc
  flush := fun _ hc => safe_isolated_vmChain hc rfl
  remove := fun _ hc => safe_isolated_vmChain hc rfl

lemma safeSync_isolated (hb : IfaceName bridge)
    (h : ∀ r, IsJump vmId interfaces r → Clear bridge blocked r) :
    SafeSync q (Isolated bridge blocked) (.new vmId) interfaces where
  toSafeTeardown := safeTeardown_isolated hb vmId
  new := fun _ hc => safe_isolated_vmChain hc rfl
  append := by
    intro c hc r
    have hall : c ∈ (VmFirewallChains.new vmId).all := by simp [VmFirewallChains.all, hc]
    exact safe_isolated_vmChain hall rfl
  pointIn := by
    intro child _
    have hmem := (mem_all_parents vmId).1
    exact keeps_pointParentToChild (safe_isolated_vmChain hmem rfl)
      (fun t t' ht _ he => safe_isolated_vmChain hmem rfl t t' ht he)
      (safe_isolated_vmChain hmem rfl)
  pointOut := by
    intro child _
    have hmem := (mem_all_parents vmId).2
    exact keeps_pointParentToChild (safe_isolated_vmChain hmem rfl)
      (fun t t' ht _ he => safe_isolated_vmChain hmem rfl t t' ht he)
      (safe_isolated_vmChain hmem rfl)
  insert := by
    intro i hi a ha r hr
    refine safe_isolated_insert (.inl (h r ⟨i, hi, ?_⟩))
    rcases List.mem_pair.1 ha with rfl | rfl
    · exact .inl hr
    · exact .inr hr

/-- **A sync of a VM keeps the bridge isolated** if each jump it is to install is clear of it or is
already in its place. -/
lemma isolated_syncVmFirewall {s s' : NetState} (hs : Isolated bridge blocked s.filter)
    (hj : ∀ r, IsJump vmId interfaces r →
      Clear bridge blocked r ∨ (r ∈ s.filter.body "FORWARD" ∧ Quiet s))
    (h : syncVmFirewall vmId interfaces s = (.ok u, s')) : Isolated bridge blocked s'.filter := by
  have keep : (∀ r, IsJump vmId interfaces r → Clear bridge blocked r) →
      Isolated bridge blocked s'.filter := fun hclear =>
    (triple_of_keeps (I := OnFilter False (Isolated bridge blocked))
      (keeps_syncVmFirewall (safeSync_isolated hs.name hclear)) s u s' ⟨False.elim, hs⟩ h).2
  by_cases hq : Quiet s
  · obtain ⟨F, hF, hmem, habove⟩ := hs.jump
    obtain ⟨cs, hcs, hl⟩ := hs.chain
    obtain ⟨-, new, hF', hnew, -⟩ := syncVmFirewall_forward hq hF h
    have hkept : kept vmId interfaces (isolationJump bridge) = true := by
      simp [kept, stale, isolationJump_not_contains hs.name vmId (List.mem_cons_self ..),
        isolationJump_not_contains hs.name vmId (List.mem_cons_of_mem _ (List.mem_cons_self ..))]
    have hout : isolationOut bridge ∉ (VmFirewallChains.new vmId).all := fun hc =>
      not_isIsolationChain hc (isIsolationChain_out bridge)
    refine ⟨hs.name, ⟨_, hF', ?_, fun r hr => ?_⟩, cs, hcs, ?_⟩
    · simp [hmem, hkept]
    · rcases mem_takeWhile_append hr with hr | hr
      · obtain ⟨hjump, hnot⟩ := hnew r hr
        rcases hj r hjump with hclear | ⟨hin, -⟩
        · exact .inl hclear
        · rw [Table.body_of_lookup hF] at hin
          exact absurd hin hnot
      · refine habove r ((takeWhile_ne_sublist List.filter_sublist ?_).subset hr)
        exact List.count_filter hkept
    · rw [lookup_eq_of_keeps (frame_syncVmFirewall (isolationOut_ne_forward bridge).symm hout) h,
        hl]
  · exact keep fun r hr => (hj r hr).resolve_right fun hc => hq hc.2

lemma isolationOut_ne_in (b b' : String) : isolationOut b ≠ isolationIn b' :=
  tag_append_ne _ _ (by simp) (by decide)

/-- Isolating another bridge, with a chain of its own. -/
lemma keeps_isolated_other {other : String} {blocked' : List String}
    (hne : isolationOut bridge ≠ isolationOut other) :
    Keeps (OnFilter q (Isolated bridge blocked))
      (syncNetworkIsolation other localSubnet blocked' natExempt) := by
  have chain : ∀ c ∈ [isolationOut other, isolationIn other], ∀ cmd : Command, cmd.chain = c →
      cmd.Safe (Isolated bridge blocked) := by
    rintro c hc cmd rfl
    obtain ⟨rest, hrest⟩ := isolation_tag other hc
    refine safe_isolated_of_ne ?_ ?_
    · have hf : "FORWARD" = "FORWA" ++ "RD" := by decide
      rw [hrest, hf]
      exact tag_append_ne _ _ (by simp) (by decide)
    · rcases List.mem_pair.1 hc with heq | heq
      · rwa [heq]
      · rw [heq]
        exact isolationOut_ne_in bridge other
  refine keeps_syncNetworkIsolation (fun c hc => keeps_runCmd (chain c hc _ rfl))
    (fun c hc => keeps_runCmd (chain c hc _ rfl)) (fun c hc r _ => keeps_runCmd (chain c hc _ rfl))
    (fun c hc r hr => keeps_runCmd ?_) (keeps_exemptions _ _ _)
  exact safe_isolated_insert (.inr ⟨c, hr, isolation_tag other hc⟩)

/-- The jump is there afterwards; if it was not inserted, `FORWARD` is as before. -/
lemma ensureJumpRule_cases {c : String} {rule : Args} {s s' : NetState} {r : Rule}
    (hr : rule.read = .ok r) (hF : s.filter.lookup c = some F)
    (h : ensureJumpRule c rule s = (.ok u, s')) :
    (r ∈ F ∧ s'.filter.lookup c = some F) ∨ s'.filter.lookup c = some (r :: F) := by
  obtain ⟨res, s₁, hcheck, h⟩ := ok_bind.1 h
  rw [attempt_run, runRule_eq hr] at hcheck
  rcases hrun : runCmd .filter (.check c r) s with ⟨e | v, s₂⟩
  · rw [hrun] at hcheck
    cases hcheck
    rw [runRule_eq hr] at h
    refine .inr ?_
    rw [Command.lookup_exec (runCmd_ok h), (runCmd_error hrun).1, hF]
    simp [Command.chain, Command.after]
  · rw [hrun] at hcheck
    cases hcheck
    cases h
    have hexec := runCmd_ok hrun
    simp only [Command.exec, Table.body_of_lookup hF] at hexec
    split_ifs at hexec with hmem
    rw [Except.ok.injEq] at hexec
    exact .inl ⟨hmem, hexec ▸ hF⟩

/-- The loop over blocked subnets. -/
lemma blockLoop_ok {subnets : List String} {s s' : NetState}
    (h₀ : s.filter.lookup (isolationOut bridge) = some [])
    (h : Proc.each (fun subnet => do
        runRule .filter (.append (isolationOut bridge)) { dst := some subnet, jump := drop }
        runRule .filter (.append (isolationIn bridge)) { src := some subnet, jump := drop })
      subnets s = (.ok u, s')) :
    ∃ cs, ReadAll (subnets.map fun subnet => { dst := some subnet, jump := drop }) cs ∧
      s'.filter.lookup (isolationOut bridge) = some cs := by
  refine triple_each (Q := fun done s =>
    ∃ cs, ReadAll (done.map fun subnet => { dst := some subnet, jump := drop }) cs ∧
      s.filter.lookup (isolationOut bridge) = some cs) ?_ [] s u s' ⟨[], rfl, h₀⟩ h
  rintro done subnet - s v s' ⟨cs, hcs, hl⟩ hrun
  obtain ⟨_, s₁, hout, hin⟩ := ok_bind.1 hrun
  obtain ⟨r, hr, l₁⟩ := append_ok hout
  obtain ⟨_, -, l₂⟩ := append_ok hin
  refine ⟨cs ++ [r], ?_, ?_⟩
  · unfold ReadAll at hcs ⊢
    rw [List.map_append, List.map_append, hcs, List.map_append]
    simp [hr]
  · rw [l₂, if_neg (isolationOut_ne_in bridge bridge), l₁, if_pos rfl, hl]
    rfl

/-- **Isolating the bridge itself.**  Its jump goes on top unless it is there; in that case the
rules above it have to be clear of the new list of subnets. -/
lemma isolated_self {s s' : NetState} (hF : s.filter.lookup "FORWARD" = some F)
    (hguard : isolationJump bridge ∈ F →
      ∀ r ∈ F.takeWhile (· ≠ isolationJump bridge), MayPrecede bridge blocked r)
    (h : syncNetworkIsolation bridge localSubnet blocked natExempt s = (.ok u, s')) :
    Isolated bridge blocked s'.filter := by
  have fo := isolationOut_ne_forward bridge
  have fi : "FORWARD" ≠ isolationIn bridge := by
    have hf : "FORWARD" = "FORWAR" ++ "D" := by decide
    rw [hf]
    exact tag_append_ne _ _ (by simp) (by decide)
  have oi := isolationOut_ne_in bridge bridge
  obtain ⟨_, s₁, hname, h⟩ := ok_bind.1 h
  obtain ⟨_, s₂, hlocal, h⟩ := ok_bind.1 h
  obtain ⟨_, s₃, hblocked, h⟩ := ok_bind.1 h
  obtain ⟨_, s₄, hexempt, h⟩ := ok_bind.1 h
  obtain ⟨_, s₅, hnewOut, h⟩ := ok_bind.1 h
  obtain ⟨_, s₆, hnewIn, h⟩ := ok_bind.1 h
  obtain ⟨_, s₇, hjumpOut, h⟩ := ok_bind.1 h
  obtain ⟨_, s₈, hjumpIn, h⟩ := ok_bind.1 h
  obtain ⟨_, s₉, hflushOut, h⟩ := ok_bind.1 h
  obtain ⟨_, s₁₀, hflushIn, h⟩ := ok_bind.1 h
  obtain ⟨_, s₁₁, hloop, h⟩ := ok_bind.1 h
  obtain ⟨_, s₁₂, hretOut, h⟩ := ok_bind.1 h
  obtain ⟨_, s₁₃, hretIn, hnat⟩ := ok_bind.1 h
  have valid : ∀ c, s₄.filter.lookup c = s.filter.lookup c := by
    intro c
    rw [lookup_eq_of_keeps (fun v => keeps_each fun _ _ => keeps_lift _) hexempt,
      lookup_eq_of_keeps (fun v => keeps_each fun _ _ => keeps_lift _) hblocked,
      lookup_eq_of_keeps (fun v => keeps_lift _) hlocal,
      lookup_eq_of_keeps (fun v => keeps_lift _) hname]
  refine ⟨ifaceName_of_validate (Prod.mk.inj hname).1, ?_, ?_⟩
  · have hF₆ : s₆.filter.lookup "FORWARD" = some F := by
      rw [lookup_eq_of_keeps (frame_ensureChain fi) hnewIn,
        lookup_eq_of_keeps (frame_ensureChain fo) hnewOut, valid, hF]
    obtain ⟨F₇, hF₇, hmem₇, habove₇⟩ : ∃ F₇, s₇.filter.lookup "FORWARD" = some F₇ ∧
        isolationJump bridge ∈ F₇ ∧
        ∀ r ∈ F₇.takeWhile (· ≠ isolationJump bridge), MayPrecede bridge blocked r := by
      rcases ensureJumpRule_cases (r := isolationJump bridge) rfl hF₆ hjumpOut with
        ⟨hmem, hl⟩ | hl
      · exact ⟨F, hl, hmem, hguard hmem⟩
      · exact ⟨_, hl, by simp, by simp⟩
    obtain ⟨F₈, hF₈, hmem₈, habove₈⟩ : ∃ F₈, s₈.filter.lookup "FORWARD" = some F₈ ∧
        isolationJump bridge ∈ F₈ ∧
        ∀ r ∈ F₈.takeWhile (· ≠ isolationJump bridge), MayPrecede bridge blocked r := by
      rcases ensureJumpRule_cases (r := ⟨_, .jump (isolationIn bridge)⟩) rfl hF₇ hjumpIn with
        ⟨-, hl⟩ | hl
      · exact ⟨F₇, hl, hmem₇, habove₇⟩
      · refine ⟨_, hl, by simp [hmem₇], fun r hr => ?_⟩
        rcases mem_takeWhile_append (l := [_]) hr with hr | hr
        · obtain rfl := List.mem_singleton.1 hr
          exact .inr ⟨_, rfl, isolation_tag bridge (by simp)⟩
        · exact habove₇ r hr
    obtain ⟨_, -, l₁₂⟩ := append_ok hretOut
    obtain ⟨_, -, l₁₃⟩ := append_ok hretIn
    refine ⟨F₈, ?_, hmem₈, habove₈⟩
    rw [lookup_eq_of_keeps (fun v => keeps_exemptions _ _ _) hnat, l₁₃, if_neg fi, l₁₂,
      if_neg fo, lookup_eq_of_keeps (fun v => keeps_each fun subnet _ =>
        keeps_bind (keeps_runRule fun r _ => keeps_runCmd (Command.safe_lookup fo)) fun _ =>
          keeps_runRule fun r _ => keeps_runCmd (Command.safe_lookup fi)) hloop,
      flush_ok hflushIn, if_neg fi, flush_ok hflushOut, if_neg fo, hF₈]
  · have hs₈ : s₈.filter.lookup (isolationOut bridge)
        = some ((s₄.filter.lookup (isolationOut bridge)).getD []) := by
      rw [lookup_eq_of_keeps
          (fun v => keeps_ensureJumpRule fun r _ =>
            keeps_runCmd (Command.safe_lookup fo.symm)) hjumpIn,
        lookup_eq_of_keeps
          (fun v => keeps_ensureJumpRule fun r _ =>
            keeps_runCmd (Command.safe_lookup fo.symm)) hjumpOut,
        lookup_eq_of_keeps (frame_ensureChain oi) hnewIn, ensureChain_ok hnewOut]
    have hs₁₀ : s₁₀.filter.lookup (isolationOut bridge) = some [] := by
      rw [flush_ok hflushIn, if_neg oi, flush_ok hflushOut, if_pos rfl, hs₈]
      rfl
    obtain ⟨cs, hcs, hl⟩ := blockLoop_ok hs₁₀ hloop
    obtain ⟨r₁₂, hr₁₂, l₁₂⟩ := append_ok hretOut
    obtain ⟨_, -, l₁₃⟩ := append_ok hretIn
    cases hr₁₂
    refine ⟨cs, hcs, ?_⟩
    rw [lookup_eq_of_keeps (fun v => keeps_exemptions _ _ _) hnat, l₁₃, if_neg oi, l₁₂,
      if_pos rfl, hl]
    rfl

end Requests

/-! ## Histories -/

/-- What holds of every ruleset: `FORWARD` is there and isolation chains never accept. -/
structure BaseOk (t : Table) : Prop where
  forward : ∃ F, t.lookup "FORWARD" = some F
  chains : IsolationChainsOk t

lemma not_isIsolationChain_forward : ¬ IsIsolationChain "FORWARD" := by
  rintro ⟨rest, h⟩
  have hf : "FORWARD" = "FORWA" ++ "RD" := by decide
  rw [hf] at h
  exact tag_append_ne _ _ (by simp) (by decide) h

lemma safe_baseOk_forward {cmd : Command} (hc : cmd.chain = "FORWARD")
    (h : ∀ F, ∃ F', cmd.after (some F) = some F') : cmd.Safe BaseOk := by
  rintro t t' ⟨⟨F, hF⟩, hok⟩ he
  constructor
  · obtain ⟨F', hF'⟩ := h F
    exact ⟨F', by rw [Command.lookup_exec he, if_pos hc.symm, hF, hF']⟩
  · intro c rs hcc hl
    have hne : c ≠ cmd.chain := by
      rintro rfl
      exact not_isIsolationChain_forward (hc ▸ hcc)
    rw [Command.lookup_exec he, if_neg hne] at hl
    exact hok c rs hcc hl

lemma safe_baseOk_vmChain {cmd : Command} {vmId c : String}
    (h : c ∈ (VmFirewallChains.new vmId).all) (hc : cmd.chain = c) : cmd.Safe BaseOk := by
  subst hc
  rintro t t' ⟨⟨F, hF⟩, hok⟩ he
  constructor
  · refine ⟨F, ?_⟩
    have hne : "FORWARD" ≠ cmd.chain := fun heq => chains_ne_forward vmId (heq ▸ h)
    rw [Command.lookup_exec he, if_neg hne, hF]
  · intro c rs hcc hl
    have hne : c ≠ cmd.chain := by
      rintro rfl
      exact not_isIsolationChain h hcc
    rw [Command.lookup_exec he, if_neg hne] at hl
    exact hok c rs hcc hl

/-- Commands about isolation chains that leave only rules which drop or return. -/
lemma safe_baseOk_isolation {cmd : Command} {bridge c : String}
    (h : c ∈ [isolationOut bridge, isolationIn bridge]) (hc : cmd.chain = c)
    (hafter : ∀ v rs, (∀ rs₀, v = some rs₀ → ∀ r ∈ rs₀, r.target = drop ∨ r.target = .ret) →
      cmd.after v = some rs → ∀ r ∈ rs, r.target = drop ∨ r.target = .ret) :
    cmd.Safe BaseOk := by
  subst hc
  rintro t t' ⟨⟨F, hF⟩, hok⟩ he
  constructor
  · refine ⟨F, ?_⟩
    have hne : "FORWARD" ≠ cmd.chain := fun heq =>
      not_isIsolationChain_forward (heq ▸ isolation_tag bridge h)
    rw [Command.lookup_exec he, if_neg hne, hF]
  · intro c rs hcc hl
    rw [Command.lookup_exec he] at hl
    split_ifs at hl
    · exact hafter _ rs (fun rs₀ h₀ => hok c rs₀ hcc h₀) hl
    · exact hok c rs hcc hl

lemma safeTeardown_baseOk (vmId : String) : SafeTeardown BaseOk (.new vmId) where
  delete := fun _ _ _ _ => safe_baseOk_forward rfl fun _ => ⟨_, rfl⟩
  flush := fun _ hc => safe_baseOk_vmChain hc rfl
  remove := fun _ hc => safe_baseOk_vmChain hc rfl

lemma safeSync_baseOk (q : Prop) (vmId : String) (interfaces : List VmFirewallInterface) :
    SafeSync q BaseOk (.new vmId) interfaces where
  toSafeTeardown := safeTeardown_baseOk vmId
  new := fun _ hc => safe_baseOk_vmChain hc rfl
  append := fun c hc _ =>
    have hall : c ∈ (VmFirewallChains.new vmId).all := by simp [VmFirewallChains.all, hc]
    safe_baseOk_vmChain hall rfl
  pointIn := by
    intro child _
    have hmem := (mem_all_parents vmId).1
    exact keeps_pointParentToChild (safe_baseOk_vmChain hmem rfl)
      (fun t t' ht _ he => safe_baseOk_vmChain hmem rfl t t' ht he) (safe_baseOk_vmChain hmem rfl)
  pointOut := by
    intro child _
    have hmem := (mem_all_parents vmId).2
    exact keeps_pointParentToChild (safe_baseOk_vmChain hmem rfl)
      (fun t t' ht _ he => safe_baseOk_vmChain hmem rfl t t' ht he) (safe_baseOk_vmChain hmem rfl)
  insert := fun _ _ _ _ _ _ => safe_baseOk_forward rfl fun _ => ⟨_, rfl⟩

lemma keeps_baseOk_isolation {q : Prop} {bridge localSubnet : String}
    {blocked natExempt : List String} :
    Keeps (OnFilter q BaseOk) (syncNetworkIsolation bridge localSubnet blocked natExempt) := by
  refine keeps_syncNetworkIsolation (fun _ hc => keeps_runCmd (safe_baseOk_isolation hc rfl ?_))
    (fun _ hc => keeps_runCmd (safe_baseOk_isolation hc rfl ?_))
    (fun _ hc r hr => keeps_runCmd (safe_baseOk_isolation hc rfl ?_))
    (fun _ _ _ _ => keeps_runCmd (safe_baseOk_forward rfl fun _ => ⟨_, rfl⟩))
    (keeps_exemptions _ _ _)
  · rintro v rs - h
    cases h
    simp
  · rintro v rs - h
    obtain ⟨rs₀, -, rfl⟩ := Option.map_eq_some_iff.1 h
    simp
  · rintro v rs hv h x hx
    obtain ⟨rs₀, hrs₀, rfl⟩ := Option.map_eq_some_iff.1 h
    rcases List.mem_append.1 hx with hx | hx
    · exact hv rs₀ hrs₀ x hx
    · exact List.mem_singleton.1 hx ▸ hr

/-- The subnets the last request for the bridge listed as blocked. -/
def lastBlocked (bridge : String) (history : List Call) : Option (List String) :=
  history.foldl (fun last c => match c with
    | .syncNetworkIsolation b _ blocked _ => if b = bridge then some blocked else last
    | _ => last) none

/-- **Requests that do not undermine isolation**, given the history so far and the ruleset they
find.

A VM may only be synced with interfaces whose jumps match nothing that an isolated bridge has to
drop, or stand in `FORWARD` already.  A bridge may only be isolated if its chain name is its own,
and if jumps of VMs already above its own jump match nothing that is to be dropped from now on. -/
def Admissible (history : List Call) (s : NetState) : Call → Prop
  | .setupNat _ _ => True
  | .teardownVmFirewall _ => True
  | .syncVmFirewall vmId interfaces =>
    ∀ bridge blocked, lastBlocked bridge history = some blocked →
      ∀ r, IsJump vmId interfaces r →
        Clear bridge blocked r ∨ (r ∈ s.filter.body "FORWARD" ∧ Quiet s)
  | .syncNetworkIsolation bridge _ blocked _ =>
    (∀ other, (lastBlocked other history).isSome → other ≠ bridge →
      isolationOut other ≠ isolationOut bridge) ∧
    (isolationJump bridge ∈ s.filter.body "FORWARD" →
      ∀ r ∈ (s.filter.body "FORWARD").takeWhile (· ≠ isolationJump bridge),
        MayPrecede bridge blocked r)
  | _ => False

/-- Successful requests from a fresh node on, each of them admissible when it is made. -/
inductive IsolationRun : List Call → NetState → Prop
  | fresh (faults : List Bool) : IsolationRun [] (.fresh faults)
  | step {history : List Call} {s s' : NetState} {c : Call} (run : IsolationRun history s)
      (ok : c.run s = (.ok (), s')) (admissible : Admissible history s c) :
      IsolationRun (history ++ [c]) s'

/-- The invariant of such histories. -/
structure AllIsolated (history : List Call) (t : Table) : Prop where
  base : BaseOk t
  isolated : ∀ bridge blocked, lastBlocked bridge history = some blocked →
    Isolated bridge blocked t

lemma lastBlocked_append (bridge : String) (history : List Call) (c : Call) :
    lastBlocked bridge (history ++ [c]) = match c with
      | .syncNetworkIsolation b _ blocked _ =>
        if b = bridge then some blocked else lastBlocked bridge history
      | _ => lastBlocked bridge history := by
  unfold lastBlocked
  rw [List.foldl_append]
  rfl

/-- A step that changes no bridge's list and keeps what is isolated. -/
lemma allIsolated_of_keeps {s s' : NetState} {c : Call}
    (hs : AllIsolated history s.filter) (ok : c.run s = (.ok (), s'))
    (hlast : ∀ bridge, lastBlocked bridge (history ++ [c]) = lastBlocked bridge history)
    (hbase : Keeps (OnFilter False BaseOk) c.run)
    (hiso : ∀ bridge blocked, lastBlocked bridge history = some blocked →
      Isolated bridge blocked s.filter → Isolated bridge blocked s'.filter) :
    AllIsolated (history ++ [c]) s'.filter := by
  refine ⟨(triple_of_keeps hbase s () s' ⟨False.elim, hs.base⟩ ok).2, ?_⟩
  intro bridge blocked hl
  rw [hlast] at hl
  exact hiso bridge blocked hl (hs.isolated bridge blocked hl)

/-- One request. -/
lemma allIsolated_step {s s' : NetState} {c : Call}
    (hs : AllIsolated history s.filter) (ok : c.run s = (.ok (), s'))
    (hadm : Admissible history s c) : AllIsolated (history ++ [c]) s'.filter := by
  cases c with
  | setupNat bridge subnet =>
    refine allIsolated_of_keeps hs ok (fun b => lastBlocked_append b _ _)
      (keeps_setupNat (fun _ _ => keeps_runNat _)
        fun r => keeps_runCmd (safe_baseOk_forward rfl fun _ => ⟨_, rfl⟩)) ?_
    intro b blocked _ hb
    exact (triple_of_keeps (keeps_setupNat (fun _ _ => keeps_runNat _)
      fun r => keeps_runCmd (safe_isolated_append r)) s () s' ⟨False.elim, hb⟩ ok).2
  | teardownVmFirewall vmId =>
    refine allIsolated_of_keeps hs ok (fun b => lastBlocked_append b _ _)
      (keeps_teardownVmFirewall (safeTeardown_baseOk vmId)) ?_
    intro b blocked _ hb
    exact (triple_of_keeps (keeps_teardownVmFirewall (safeTeardown_isolated hb.name vmId)) s () s'
      ⟨False.elim, hb⟩ ok).2
  | syncVmFirewall vmId interfaces =>
    refine allIsolated_of_keeps hs ok (fun b => lastBlocked_append b _ _)
      (keeps_syncVmFirewall (safeSync_baseOk False vmId interfaces)) ?_
    intro b blocked hl hb
    exact isolated_syncVmFirewall hb (hadm b blocked hl) ok
  | syncNetworkIsolation bridge localSubnet blocked natExempt =>
    obtain ⟨hown, hguard⟩ := hadm
    refine ⟨(triple_of_keeps keeps_baseOk_isolation s () s' ⟨False.elim, hs.base⟩ ok).2, ?_⟩
    intro b blocked' hl
    rw [lastBlocked_append] at hl
    by_cases hb : bridge = b
    · subst hb
      obtain rfl : blocked = blocked' := by simpa using hl
      obtain ⟨F, hF⟩ := hs.base.forward
      rw [Table.body_of_lookup hF] at hguard
      exact isolated_self hF hguard ok
    · have hl : lastBlocked b history = some blocked' := by simpa [hb] using hl
      have hne := hown b (by simp [hl]) (Ne.symm hb)
      exact (triple_of_keeps (keeps_isolated_other hne) s () s'
        ⟨False.elim, hs.isolated b blocked' hl⟩ ok).2
  | teardownNat bridge subnet => exact hadm.elim
  | teardownNetworkIsolation bridge => exact hadm.elim

lemma IsolationRun.allIsolated {s : NetState}
    (h : IsolationRun history s) : AllIsolated history s.filter := by
  induction h with
  | fresh faults =>
    refine ⟨⟨⟨[], AList.lookup_insert _⟩, ?_⟩, by simp [lastBlocked]⟩
    intro c rs hc hl
    have hne : c ≠ "FORWARD" := by
      rintro rfl
      exact not_isIsolationChain_forward hc
    rw [NetState.fresh, AList.lookup_insert_ne hne] at hl
    simp at hl
  | step run ok admissible ih => exact allIsolated_step ih ok admissible

/-- **Isolation holds at every point** of a history of admissible requests: if the last request for
a bridge listed a subnet as blocked, every packet that entered on the bridge and goes to that subnet
is dropped. -/
theorem isolationRun_drops {history : List Call} {s : NetState} (h : IsolationRun history s)
    {bridge : String} {blocked : List String} (hl : lastBlocked bridge history = some blocked)
    {subnet : String} (hs : subnet ∈ blocked) {c : Cidr} (hc : parseCidr subnet = some c)
    {p : Packet} (hin : p.inIface = bridge) (hdst : c.contains p.dst = true) :
    s.filter.verdict p "FORWARD" = some .drop :=
  (h.allIsolated.isolated bridge blocked hl).dropped h.allIsolated.base.chains
    ⟨hin, subnet, hs, c, hc, hdst⟩

/-! A VM on bridge `br0` without security group rules, and a subnet of another VPC. -/

def openInterface : VmFirewallInterface := ⟨"br0", "10.1.0.5", []⟩

def syncOpenVm : Call := .syncVmFirewall "6f1c2d3e" [openInterface]

def isolateBr0 : Call := .syncNetworkIsolation "br0" "10.1.0.0/24" ["10.2.0.0/24"] []

/-- A packet of the VM to `10.2.0.7`. -/
def crossVpcPacket : Packet := ⟨167837701, 167903239, "br0", "br1", .tcp, 80, false⟩

def vmFirst : NetState := (syncOpenVm.run (.fresh [])).2

def thenIsolated : NetState := (isolateBr0.run vmFirst).2

/-- The VM was there when the bridge was isolated; its jumps keep their place below. -/
theorem resync_keeps_isolation :
    (syncOpenVm.run thenIsolated).2.filter.verdict crossVpcPacket "FORWARD" = some .drop := by
  obtain ⟨ok₁, ok₂, hnot, ok₃, hin, hout, hquiet⟩ : (syncOpenVm.run (.fresh [])).1 = .ok () ∧
      (isolateBr0.run vmFirst).1 = .ok () ∧
      isolationJump "br0" ∉ vmFirst.filter.body "FORWARD" ∧
      (syncOpenVm.run thenIsolated).1 = .ok () ∧
      (∀ r ∈ (inJump (.new "6f1c2d3e") openInterface).read.toOption,
        r ∈ thenIsolated.filter.body "FORWARD") ∧
      (∀ r ∈ (outJump (.new "6f1c2d3e") openInterface).read.toOption,
        r ∈ thenIsolated.filter.body "FORWARD") ∧
      true ∉ thenIsolated.faults := by
    decide +kernel
  have run₁ : IsolationRun [syncOpenVm] vmFirst := by
    refine IsolationRun.step (.fresh []) (run_of_fst ok₁) ?_
    intro bridge blocked hl
    simp [lastBlocked] at hl
  have run₂ : IsolationRun [syncOpenVm, isolateBr0] thenIsolated := by
    refine IsolationRun.step run₁ (run_of_fst ok₂) ⟨?_, fun hmem => absurd hmem hnot⟩
    intro other hl
    simp [lastBlocked, syncOpenVm] at hl
  have run₃ : IsolationRun [syncOpenVm, isolateBr0, syncOpenVm]
      (syncOpenVm.run thenIsolated).2 := by
    refine IsolationRun.step run₂ (run_of_fst ok₃) ?_
    rintro bridge blocked - r ⟨i, hi, hr⟩
    obtain rfl := List.mem_singleton.1 hi
    rcases hr with hr | hr
    · exact .inr ⟨hin r (by rw [hr]; rfl), hquiet⟩
    · exact .inr ⟨hout r (by rw [hr]; rfl), hquiet⟩
  have hlast : lastBlocked "br0" [syncOpenVm, isolateBr0, syncOpenVm] = some ["10.2.0.0/24"] := by
    simp [lastBlocked, syncOpenVm, isolateBr0]
  exact isolationRun_drops run₃ hlast (List.mem_singleton.2 rfl) (c := ⟨167903232, 24⟩)
    (by decide +kernel) rfl (by decide +kernel)

/-- **Security groups bypass isolation.**  The bridge is isolated, then a VM on it is synced.  The
jump of the VM stands above the jump of the bridge, and without egress rules its chain accepts what
the isolation was to drop. -/
theorem firewall_bypasses_isolation :
    (isolateBr0.run (.fresh [])).1 = .ok () ∧
      (syncOpenVm.run (isolateBr0.run (.fresh [])).2).1 = .ok () ∧
      lastBlocked "br0" [isolateBr0, syncOpenVm] = some ["10.2.0.0/24"] ∧
      crossVpcPacket.inIface = "br0" ∧
      (parseCidr "10.2.0.0/24").any (·.contains crossVpcPacket.dst) = true ∧
      (syncOpenVm.run (isolateBr0.run (.fresh [])).2).2.filter.verdict crossVpcPacket "FORWARD"
        = some .accept := by
  decide +kernel

end Qarax
