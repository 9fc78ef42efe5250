import Qarax.Node.Networking.VmFirewall

/-!
# The jumps in `FORWARD`

The node finds the `FORWARD` jumps of a VM by searching the text of a listing.  This module says
what that search finds and what a sync therefore does to `FORWARD` as a list: jumps that were
missing go on top, jumps that are no longer wanted go, and the order of the others stays.

* `contains_jump` — the text `-j chain` is in the line of a rule exactly when the name of the rule's
  target starts with `chain`.
* `Quiet` — no run of the tool fails for a reason of its own.
* `syncForwardJumpRules_forward`, `removeForwardRulesReferencing_forward` — the two functions on
  the list of rules.
-/

namespace Qarax

open Proc

/-! ## Searching a listing -/

/-- Flags of a rule other than `-j`. -/
def matchFlags : List (List String) :=
  [["-s"], ["-d"], ["-i"], ["!", "-o"], ["-o"], ["-p"], ["-m"], ["--dport"], ["--ctstate"]]

variable {r : Rule}

lemma ruleOptions_flags {o : Opt} (h : o ∈ ruleOptions r) :
    o.1 ∈ matchFlags ∨ o = (["-j"], targetText r.target) := by
  simp only [ruleOptions, List.mem_append, List.mem_map, List.mem_flatMap, List.mem_cons,
    List.not_mem_nil, or_false] at h
  rcases h with ((((((⟨c, -, rfl⟩ | ⟨c, -, rfl⟩) | ⟨n, -, rfl⟩) | ⟨n, -, rfl⟩) | ⟨q, -, rfl⟩) |
    ⟨d, -, rfl | rfl⟩) | h) | rfl
  · simp [matchFlags]
  · simp [matchFlags]
  · simp [matchFlags]
  · left
    split_ifs <;> simp [matchFlags]
  · simp [matchFlags]
  · simp [matchFlags]
  · simp [matchFlags]
  · left
    split_ifs at h
    · simp only [List.mem_cons, List.not_mem_nil, or_false] at h
      rcases h with rfl | rfl <;> simp [matchFlags]
    · simp at h
  · exact .inr rfl

/-- Flags are there, none of them looks like the name of one of the node's chains, and none has a
blank in it. -/
lemma flags_spec : ∀ fs ∈ ["-A"] :: ["-j"] :: matchFlags, fs ≠ [] ∧
    ∀ f ∈ fs, f.toList.head? ≠ some 'Q' ∧ ' ' ∉ f.toList := by
  decide +kernel

/-- Only `-j` ends in `-j`. -/
lemma flags_suffix : ∀ fs ∈ ["-A"] :: matchFlags, ∀ f ∈ fs, ¬ "-j".toList <:+ f.toList := by
  decide +kernel

/-- No text of the rule has a blank in it. -/
def NoBlank (r : Rule) : Prop := ∀ o ∈ ruleOptions r, ' ' ∉ o.2.toList

variable {α : Type} {chain : String} {cmd : Command} {G : List Rule} {desired as : List Args}
  {chains : VmFirewallChains} {i : VmFirewallInterface}

lemma head?_of_starts {a : α} {l l' : List α} (h : l <+: l') (hl : l.head? = some a) :
    l'.head? = some a := by
  obtain ⟨t, rfl⟩ := h
  cases l with
  | nil => cases hl
  | cons x xs => simpa using hl

/-- **What the search for a jump finds.** -/
theorem contains_jump (hr : NoBlank r) (hq : chain.toList.head? = some 'Q')
    (hb : ' ' ∉ chain.toList) :
    (Line.append "FORWARD" r).contains ("-j " ++ chain) = true ↔
      chain.toList <+: (targetText r.target).toList := by
  have hpat : ("-j " ++ chain).toList = "-j".toList ++ ' ' :: chain.toList := by simp
  have hopts : (Line.append "FORWARD" r).parts.map String.toList = Tokens.options
      ((Line.append "FORWARD" r).options.map fun o => (o.1.map String.toList, o.2.toList)) := by
    simp [Line.parts, Tokens.options, List.map_flatMap, List.flatMap_map]
  have hmem : ∀ o ∈ (Line.append "FORWARD" r).options, o.1 ∈ ["-A"] :: ["-j"] :: matchFlags := by
    intro o ho
    rcases List.mem_cons.1 ho with rfl | ho
    · simp
    · rcases ruleOptions_flags ho with h | rfl
      · simp [h]
      · simp
  have hblank : ∀ o ∈ (Line.append "FORWARD" r).options, ' ' ∉ o.2.toList := by
    intro o ho
    rcases List.mem_cons.1 ho with rfl | ho
    · simp
    · exact hr o ho
  rw [Line.contains, decide_eq_true_eq, Line.text, hpat, hopts,
    Tokens.infix_line_iff (by simp) hb, Tokens.follows_options]
  · simp only [List.mem_map, exists_exists_and_eq_and, List.getLast?_map, Option.mem_def,
      Option.map_eq_some_iff]
    constructor
    · rintro ⟨o, ho, g, hg, hsuf, hpre⟩
      have hg : g ∈ o.1 := List.mem_of_getLast? hg
      rcases List.mem_cons.1 ho with rfl | ho
      · exact absurd hsuf (flags_suffix _ (by simp) g hg)
      · rcases ruleOptions_flags ho with h | rfl
        · exact absurd hsuf (flags_suffix _ (by simp [h]) g hg)
        · exact hpre
    · intro hpre
      refine ⟨(["-j"], targetText r.target), ?_, "-j", rfl, List.suffix_rfl, hpre⟩
      simp [Line.options, ruleOptions]
  · rintro _ ho
    obtain ⟨o, hmo, rfl⟩ := List.mem_map.1 ho
    simpa using (flags_spec _ (hmem o hmo)).1
  · rintro _ ho f hf hpre
    obtain ⟨o, hmo, rfl⟩ := List.mem_map.1 ho
    obtain ⟨g, hg, rfl⟩ := List.mem_map.1 hf
    exact ((flags_spec _ (hmem o hmo)).2 g hg).1 (head?_of_starts hpre hq)
  · intro t ht
    simp only [Tokens.options, List.mem_flatMap, List.mem_map, List.mem_append,
      List.mem_singleton, exists_exists_and_eq_and] at ht
    obtain ⟨o, ho, ⟨g, hg, rfl⟩ | rfl⟩ := ht
    · exact ((flags_spec _ (hmem o ho)).2 g hg).2
    · exact hblank o ho

/-! ## Quiet runs -/

variable {s : NetState}

/-- Without failures of its own the tool does exactly what the command says. -/
lemma runCmd_quiet_table (hq : Quiet s) (tb : TableName) (cmd : Command) :
    runCmd tb cmd s = match cmd.exec (s.table tb) with
      | .ok t => (.ok (), s.tick.setTable t tb)
      | .error e => (.error (.command e), s.tick) := by
  have hhead : s.faults.head? ≠ some true := fun h => hq (List.mem_of_head? h)
  simp only [runCmd, runTool, if_neg hhead, NetState.tick_table]
  cases cmd.exec (s.table tb) <;> rfl

lemma runCmd_quiet (hq : Quiet s) (cmd : Command) :
    runCmd .filter cmd s = match cmd.exec s.filter with
      | .ok t => (.ok (), { s.tick with filter := t })
      | .error e => (.error (.command e), s.tick) :=
  runCmd_quiet_table hq .filter cmd

variable {s' : NetState} {tb : TableName} {rule : Args} {rs : List Rule} {c : String}

lemma check_quiet {u : Except NetError Unit} (hq : Quiet s) (hr : rule.read = .ok r)
    (hrs : (s.table tb).lookup c = some rs)
    (h : attempt (runRule tb (.check c) rule) s = (.ok u, s')) :
    s'.table tb = s.table tb ∧ ((u = .ok () ∧ r ∈ rs) ∨ ((∃ e, u = .error e) ∧ r ∉ rs)) := by
  rw [attempt_run, runRule_eq hr, runCmd_quiet_table hq, Command.exec,
    Table.body_of_lookup hrs] at h
  split_ifs at h with hmem
  · cases h
    exact ⟨by cases tb <;> rfl, .inl ⟨rfl, hmem⟩⟩
  · cases h
    exact ⟨by cases tb <;> rfl, .inr ⟨⟨_, rfl⟩, hmem⟩⟩

variable {u : Unit}

variable {F : List Rule}

lemma ensureRule_ok (tb : TableName) (hq : Quiet s) (hF : (s.table tb).lookup c = some F)
    (h : ensureRule tb c rule s = (.ok u, s')) :
    ∃ r, rule.read = .ok r ∧ (s'.table tb).lookup c = some (F.insert r) := by
  obtain ⟨res, s₁, hcheck, h⟩ := ok_bind.1 h
  cases hr : rule.read with
  | error e =>
    have hres : res = .error (.command e) := by
      have := (Prod.mk.inj hcheck).1
      simpa [runRule, hr] using this.symm
    subst hres
    simp [runRule, hr] at h
  | ok r =>
    refine ⟨r, rfl, ?_⟩
    obtain ⟨heq, ⟨rfl, hmem⟩ | ⟨⟨e, rfl⟩, hmem⟩⟩ := check_quiet hq hr hF hcheck
    · cases h
      rw [heq, List.insert_of_mem hmem, hF]
    · rw [runRule_eq hr] at h
      rw [Command.lookup_exec (runCmd_ok_table h), heq, hF, List.insert_of_not_mem hmem]
      simp [Command.chain, Command.after]

/-- A jump is put on top unless it is there. -/
lemma ensureJumpRule_ok (hq : Quiet s) (hF : s.filter.lookup c = some F)
    (h : ensureJumpRule c rule s = (.ok u, s')) :
    ∃ r, rule.read = .ok r ∧ s'.filter.lookup c = some (F.insert r) :=
  ensureRule_ok .filter hq hF h

/-- Every function keeps quiet. -/
lemma quiet_of_keeps {x : Net α} {a : α} (h : Keeps (OnFilter True fun _ => True) x)
    (hq : Quiet s) (hr : x s = (.ok a, s')) : Quiet s' :=
  (triple_of_keeps h s a s' ⟨fun _ => hq, trivial⟩ hr).1 trivial

lemma safe_true (cmd : Command) : cmd.Safe fun _ => True := fun _ _ _ _ => trivial

/-- The rules a list of arguments denotes. -/
def ReadAll (as : List Args) (rs : List Rule) : Prop := as.map Args.read = rs.map .ok

lemma quiet_ensureRule (hq : Quiet s) (h : ensureRule tb c rule s = (.ok u, s')) : Quiet s' := by
  have run : ∀ cmd : Rule → Command,
      Keeps (OnFilter True fun _ => True) (runRule tb cmd rule) := fun cmd =>
    keeps_runRule fun r _ => by
      cases tb with
      | filter => exact keeps_runCmd (safe_true _)
      | nat => exact keeps_runNat _
  refine quiet_of_keeps (keeps_bind (keeps_attempt (run _)) fun res => ?_) hq h
  rcases res with e | u
  · exact run _
  · exact keeps_pure ()

lemma ensureRules_ok (tb : TableName) {rules : List Args} (hq : Quiet s)
    (hF : (s.table tb).lookup c = some F) (h : Proc.each (ensureRule tb c) rules s = (.ok u, s')) :
    Quiet s' ∧ ∃ rs, ReadAll rules rs ∧
      (s'.table tb).lookup c = some (rs.foldl (fun F r => F.insert r) F) := by
  have step : ∀ done, ∀ a ∈ rules, Triple
      (fun s => Quiet s ∧ ∃ rs, ReadAll done rs ∧
        (s.table tb).lookup c = some (rs.foldl (fun F r => F.insert r) F))
      (ensureRule tb c a)
      (fun _ s => Quiet s ∧ ∃ rs, ReadAll (done ++ [a]) rs ∧
        (s.table tb).lookup c = some (rs.foldl (fun F r => F.insert r) F)) := by
    rintro done a - s v s' ⟨hq, rs, hread, hl⟩ h
    obtain ⟨r, hr, hl'⟩ := ensureRule_ok tb hq hl h
    refine ⟨quiet_ensureRule hq h, rs ++ [r], ?_, ?_⟩
    · unfold ReadAll at hread ⊢
      simp [hread, hr]
    · rw [List.foldl_append]
      exact hl'
  exact triple_each step [] s u s' ⟨hq, [], rfl, hF⟩ h

/-- New rules stand on top of what was there, each once. -/
lemma foldl_insert (rs : List Rule) : ∀ F : List Rule, ∃ new,
    rs.foldl (fun F r => F.insert r) F = new ++ F ∧ new.Nodup ∧ (∀ r ∈ new, r ∈ rs ∧ r ∉ F) ∧
      ∀ r ∈ rs, r ∈ new ++ F := by
  induction rs with
  | nil => exact fun F => ⟨[], rfl, .nil, by simp, by simp⟩
  | cons r rs ih =>
    intro F
    obtain ⟨new, heq, hnodup, hnew, hall⟩ := ih (F.insert r)
    rw [List.foldl_cons, heq]
    by_cases hmem : r ∈ F
    · rw [List.insert_of_mem hmem] at hnew hall ⊢
      refine ⟨new, rfl, hnodup, fun x hx => ⟨by simp [(hnew x hx).1], (hnew x hx).2⟩, ?_⟩
      intro x hx
      rcases List.mem_cons.1 hx with rfl | hx
      · simp [hmem]
      · exact hall x hx
    · rw [List.insert_of_not_mem hmem] at hnew hall ⊢
      have hr : r ∉ new := fun h => (hnew r h).2 (by simp)
      refine ⟨new ++ [r], by simp, ?_, ?_, ?_⟩
      · refine List.nodup_append'.2 ⟨hnodup, List.nodup_singleton r, ?_⟩
        simpa using hr
      · intro x hx
        rcases List.mem_append.1 hx with hx | hx
        · exact ⟨by simp [(hnew x hx).1], fun hF => (hnew x hx).2 (by simp [hF])⟩
        · obtain rfl := List.mem_singleton.1 hx
          exact ⟨by simp, hmem⟩
      · intro x hx
        rcases List.mem_cons.1 hx with rfl | hx
        · simp
        · simpa using hall x hx

/-- Erasing every listed rule with a property leaves the others, in their order. -/
lemma diff_filter (p : Rule → Bool) : ∀ F : List Rule, F.diff (F.filter p) = F.filter fun r => !p r
  | [] => rfl
  | r :: F => by
      cases hp : p r with
      | true => simp [hp, diff_filter p F]
      | false =>
        have hnot : r ∉ F.filter p := by simp [hp]
        rw [List.filter_cons_of_neg (by simp [hp]), List.cons_diff, if_neg hnot, diff_filter p F,
          List.filter_cons_of_pos (by simp [hp])]

/-- The rule a line shows. -/
def Line.rules : Line → List Rule
  | .append _ r => [r]
  | _ => []

variable {ls : List Line}

/-- A loop over listed lines of a chain that erases the rules of those it does not spare. -/
lemma deleteLoop_ok (tb : TableName) {body : Line → Net Unit} {spare : Line → Bool}
    {I : NetState → Prop} (hI : I s) (hF : (s.table tb).lookup c = some F)
    (hbody : ∀ l ∈ ls, ∀ s v s' G, I s → (s.table tb).lookup c = some G →
      body l s = (.ok v, s') →
      I s' ∧ (s'.table tb).lookup c = some (if spare l then G else G.diff l.rules))
    (h : Proc.each body ls s = (.ok u, s')) :
    I s' ∧ (s'.table tb).lookup c
      = some (F.diff ((ls.filter fun l => !spare l).flatMap Line.rules)) := by
  have step : ∀ done, ∀ l ∈ ls, Triple
      (fun s => I s ∧ (s.table tb).lookup c
        = some (F.diff ((done.filter fun l => !spare l).flatMap Line.rules)))
      (body l)
      (fun _ s => I s ∧ (s.table tb).lookup c
        = some (F.diff (((done ++ [l]).filter fun l => !spare l).flatMap Line.rules))) := by
    rintro done l hl s v s' ⟨hs, hG⟩ hrun
    obtain ⟨hs', hG'⟩ := hbody l hl s v s' _ hs hG hrun
    refine ⟨hs', hG'.trans ?_⟩
    cases hsp : spare l with
    | true => simp [hsp]
    | false => simp [hsp, List.diff_append]
  exact triple_each step [] s u s' ⟨hI, by simpa using hF⟩ h

lemma headLine_rules (c : String) : (headLine c).rules = [] := by
  unfold headLine
  split_ifs <;> rfl

/-- The rules of the listed lines with a property. -/
lemma listed_rules (c : String) (p : Line → Bool) (F : List Rule) :
    ((headLine c :: F.map (.append c)).filter p).flatMap Line.rules
      = F.filter fun r => p (.append c r) := by
  have htail : ((F.map (Line.append c)).filter p).flatMap Line.rules
      = F.filter fun r => p (.append c r) := by
    induction F with
    | nil => rfl
    | cons r F ih =>
      cases hp : p (.append c r) with
      | true => simpa [hp, Line.rules] using ih
      | false => simpa [hp] using ih
  rw [List.filter_cons]
  split_ifs
  · rw [List.flatMap_cons, headLine_rules, htail]
    rfl
  · exact htail

/-- The common shape of the two syncs: the desired rules are put on top of a chain unless they are
there, then the rules that a search of the listing finds and no desired rule matches are deleted. -/
def syncRules (tb : TableName) (c : String) (desired : List Args) (found : Line → Bool) :
    Net Unit := do
  Proc.each (ensureRule tb c) desired
  let rules ← runList tb c
  Proc.each (fun line =>
      if desired.any (ruleMatches line) then pure () else deleteListed tb line)
    (rules.filter found)

/-- A rule that such a sync takes out. -/
def staleIn (c : String) (desired : List Args) (found : Line → Bool) (r : Rule) : Bool :=
  found (.append c r) && !desired.any (ruleMatches (.append c r))

lemma deleteListed_ok (hG : (s.table tb).lookup c = some G)
    (h : deleteListed tb (.append c r) s = (.ok u, s')) :
    (s'.table tb).lookup c = some (G.erase r) := by
  rw [Command.lookup_exec (runCmd_ok_table h), hG]
  simp [Command.chain, Command.after]

lemma quiet_runCmd (hq : Quiet s) (h : runCmd tb cmd s = (.ok u, s')) :
    Quiet s' := by
  cases tb with
  | filter => exact quiet_of_keeps (keeps_runCmd (safe_true _)) hq h
  | nat => exact quiet_of_keeps (keeps_runNat _) hq h

/-- **What a sync does to its chain.**  Missing rules go on top, stale ones go. -/
theorem syncRules_ok (tb : TableName) {found : Line → Bool} (hq : Quiet s)
    (hF : (s.table tb).lookup c = some F) (h : syncRules tb c desired found s = (.ok u, s')) :
    Quiet s' ∧ ∃ rs new, ReadAll desired rs ∧ new.Nodup ∧ (∀ r ∈ new, r ∈ rs ∧ r ∉ F) ∧
      (∀ r ∈ rs, r ∈ new ++ F) ∧
      (s'.table tb).lookup c = some ((new ++ F).filter fun r => !staleIn c desired found r) := by
  obtain ⟨_, s₁, hens, h⟩ := ok_bind.1 h
  obtain ⟨ls, s₂, hlist, hdel⟩ := ok_bind.1 h
  obtain ⟨hq₁, rs, hread, hF₁⟩ := ensureRules_ok tb hq hF hens
  obtain ⟨new, heq, hnodup, hnew, hall⟩ := foldl_insert rs F
  rw [heq] at hF₁
  obtain ⟨rfl, G, hG, rfl⟩ := runList_ok_table hlist
  obtain rfl : new ++ F = G := Option.some.inj (hF₁.symm.trans hG)
  have hF₂ : (s₁.tick.table tb).lookup c = some (new ++ F) := by cases tb <;> exact hF₁
  have hbody : ∀ l ∈ (headLine c :: (new ++ F).map (.append c)).filter found, ∀ s v s' G, Quiet s →
      (s.table tb).lookup c = some G →
      (if desired.any (ruleMatches l) then pure () else deleteListed tb l) s = (.ok v, s') →
        Quiet s' ∧ (s'.table tb).lookup c
          = some (if desired.any (ruleMatches l) then G else G.diff l.rules) := by
    intro l hl s v s' G hq hG hrun
    split_ifs at hrun ⊢
    · cases hrun
      exact ⟨hq, hG⟩
    · simp only [List.mem_filter, List.mem_cons, List.mem_map] at hl
      obtain ⟨rfl | ⟨r, -, rfl⟩, -⟩ := hl
      · rw [deleteListed_headLine] at hrun
        cases hrun
        exact ⟨hq, by rw [headLine_rules, List.diff_nil, hG]⟩
      · exact ⟨quiet_runCmd hq hrun, by simpa [Line.rules] using deleteListed_ok hG hrun⟩
  obtain ⟨hq', hF'⟩ := deleteLoop_ok tb hq₁.tick hF₂ hbody hdel
  refine ⟨hq', rs, new, hread, hnodup, hnew, hall, hF'.trans ?_⟩
  rw [List.filter_filter, listed_rules, diff_filter]
  simp only [staleIn, Bool.and_comm]

/-- A jump that a sync of `parent` takes out. -/
def stale (parent : String) (desired : List Args) (r : Rule) : Bool :=
  (Line.append "FORWARD" r).contains ("-j " ++ parent) &&
    !desired.any (ruleMatches (.append "FORWARD" r))

/-- **What a sync of one parent does to `FORWARD`.**  Missing jumps go on top, stale ones go. -/
theorem syncForwardJumpRules_forward {parent : String} (hq : Quiet s)
    (hF : s.filter.lookup "FORWARD" = some F)
    (h : syncForwardJumpRules parent desired s = (.ok u, s')) :
    Quiet s' ∧ ∃ rs new, ReadAll desired rs ∧ (∀ r ∈ new, r ∈ rs ∧ r ∉ F) ∧
      (∀ r ∈ rs, r ∈ new ++ F) ∧
      s'.filter.lookup "FORWARD" = some ((new ++ F).filter fun r => !stale parent desired r) := by
  obtain ⟨hq', rs, new, hread, -, hnew, hall, hF'⟩ := syncRules_ok .filter hq hF h
  exact ⟨hq', rs, new, hread, hnew, hall, hF'⟩

/-- In a quiet run an ignored deletion takes the rule out if it is there. -/
lemma deleteAttempt_quiet {u : Except NetError Unit} (hq : Quiet s)
    (hG : s.filter.lookup c = some G)
    (h : attempt (deleteListed .filter (.append c r)) s = (.ok u, s')) :
    s'.filter.lookup c = some (G.erase r) := by
  rw [attempt_run, deleteListed, runCmd_quiet hq] at h
  cases hexec : (Command.delete c r).exec s.filter with
  | ok t =>
    rw [hexec] at h
    cases h
    have hl := Command.lookup_exec hexec c
    rw [hG] at hl
    simpa [Command.chain, Command.after] using hl
  | error e =>
    rw [hexec] at h
    cases h
    simp only [Command.exec, Table.edit, hG] at hexec
    split_ifs at hexec with hmem
    · simp [Except.map] at hexec
    · rw [List.erase_of_not_mem hmem]
      exact hG

/-- **What the removal of a chain does to `FORWARD`.** -/
theorem removeForwardRulesReferencing_forward (hc : chain ≠ "FORWARD")
    (hq : Quiet s) (hF : s.filter.lookup "FORWARD" = some F)
    (h : removeForwardRulesReferencing chain s = (.ok u, s')) :
    Quiet s' ∧ s'.filter.lookup "FORWARD" = some (F.filter fun r =>
      !(Line.append "FORWARD" r).contains ("-j " ++ chain)) := by
  obtain ⟨ls, s₁, hlist, hloop⟩ := ok_bind.1 h
  obtain ⟨_, s₂, hdel, hrest⟩ := ok_bind.1 hloop
  have hq₁ := quiet_of_keeps (keeps_runList _ _) hq hlist
  obtain ⟨hs₁, G, hG, rfl⟩ := runList_ok hlist
  obtain rfl : F = G := by simpa [hF] using hG
  rw [← hs₁] at hF
  have hbody : ∀ l ∈ (headLine "FORWARD" :: F.map (.append "FORWARD")).filter
      (fun line => line.contains ("-j " ++ chain)), ∀ s v s' G, Quiet s →
      s.filter.lookup "FORWARD" = some G →
      (do let _ ← Proc.attempt (deleteListed .filter l) : Net Unit) s = (.ok v, s') →
        Quiet s' ∧ s'.filter.lookup "FORWARD" = some (if false then G else G.diff l.rules) := by
    intro l hl s v s' G hq hG hrun
    obtain ⟨_, s₁, hatt, hret⟩ := ok_bind.1 hrun
    cases hret
    simp only [List.mem_filter, List.mem_cons, List.mem_map] at hl
    obtain ⟨rfl | ⟨r, -, rfl⟩, -⟩ := hl
    · obtain rfl : s = s' := by simpa [deleteListed_headLine] using (Prod.mk.inj hatt).2
      exact ⟨hq, by simpa [headLine_rules] using hG⟩
    · refine ⟨quiet_of_keeps (keeps_attempt (keeps_runCmd (safe_true _))) hq hatt, ?_⟩
      simpa [Line.rules] using deleteAttempt_quiet hq hG hatt
  obtain ⟨hq₂, hF₂⟩ := deleteLoop_ok .filter hq₁ hF hbody hdel
  have rest : Keeps (OnFilter True (HasRules "FORWARD" (s₂.filter.lookup "FORWARD"))) (do
      let _ ← Proc.attempt (runCmd .filter (.flush chain))
      let _ ← Proc.attempt (runCmd .filter (.remove chain)) : Net Unit) := by
    refine keeps_bind (keeps_attempt (keeps_runCmd (Command.safe_lookup hc.symm))) fun _ => ?_
    exact keeps_bind (keeps_attempt (keeps_runCmd (Command.safe_lookup hc.symm)))
      fun _ => keeps_pure _
  obtain ⟨hq', hl'⟩ := triple_of_keeps rest s₂ u s' ⟨fun _ => hq₂, rfl⟩ hrest
  refine ⟨hq' trivial, hl'.trans (hF₂.trans ?_)⟩
  rw [List.filter_filter, listed_rules, diff_filter]
  simp

/-! ## A sync as a whole -/

lemma not_mem_renderCidr {c : Char} (hc : c.isDigit = false) (hdot : c ≠ '.') (hslash : c ≠ '/')
    (b : Cidr) : c ∉ (renderCidr b).toList := by
  simp [renderCidr, not_mem_renderIpv4 hc hdot, not_mem_renderNat hc, hslash]

/-- Blanks could only come from interface names and chain names. -/
lemma noBlank_of (hi : ∀ n, r.cond.inIface = some n → ' ' ∉ n.toList)
    (ho : ∀ o, r.cond.outIface = some o → ' ' ∉ o.2.toList)
    (ht : ' ' ∉ (targetText r.target).toList) : NoBlank r := by
  have hnat := not_mem_renderNat (show ' '.isDigit = false by decide)
  have hcidr := not_mem_renderCidr (show ' '.isDigit = false by decide) (by decide) (by decide)
  have hl4 : ∀ l : L4, ' ' ∉ l.text.toList := by
    intro l
    cases l <;> simp [L4.text]
  intro o hmem
  simp only [ruleOptions, List.mem_append, List.mem_map, List.mem_flatMap, List.mem_cons,
    List.not_mem_nil, or_false, Option.mem_toList] at hmem
  rcases hmem with ((((((⟨c, -, rfl⟩ | ⟨c, -, rfl⟩) | ⟨n, hn, rfl⟩) | ⟨n, hn, rfl⟩) | ⟨l, -, rfl⟩) |
    ⟨d, -, rfl | rfl⟩) | h) | rfl
  · exact hcidr c
  · exact hcidr c
  · exact hi n hn
  · exact ho n hn
  · exact hl4 l
  · exact hl4 _
  · simp only
    split_ifs
    · exact hnat _
    · simp [hnat]
  · split_ifs at h
    · simp only [List.mem_cons, List.not_mem_nil, or_false] at h
      rcases h with rfl | rfl <;> simp
    · simp at h
  · exact ht

lemma not_mem_sanitizeSuffix {c : Char} (hc : c.isAlphanum = false) (input : String) (n : ℕ) :
    c ∉ (sanitizeSuffix input n).toList := by
  intro h
  rw [sanitizeSuffix, String.toList_ofList] at h
  have := (List.mem_filter.1 (List.mem_of_mem_take h)).2
  rw [hc] at this
  cases this

variable {vmId : String}

/-- Chain names start with a `Q` and have no other characters than letters and digits. -/
lemma chain_text (h : c ∈ (VmFirewallChains.new vmId).all) :
    c.toList.head? = some 'Q' ∧ ∀ x : Char, x.isAlphanum = false → x ∉ c.toList := by
  simp only [VmFirewallChains.all, VmFirewallChains.children, VmFirewallChains.new, List.mem_cons,
    List.not_mem_nil, or_false] at h
  have hx : ∀ x : Char, x.isAlphanum = false → x ∉ "QXVMIOAB".toList := by
    intro x hx hm
    have hall : "QXVMIOAB".toList.all Char.isAlphanum = true := by decide +kernel
    rw [List.all_eq_true.1 hall x hm] at hx
    cases hx
  rcases h with rfl | rfl | rfl | rfl | rfl | rfl <;>
    exact ⟨by simp, fun x hxa => by
      have h₁ := hx x hxa
      have h₂ := not_mem_sanitizeSuffix hxa vmId 21
      simp_all⟩

/-- The rule of a jump to an interface. -/
lemma inJump_read (h : (inJump chains i).read = .ok r) :
    r.target = .jump chains.inParent ∧ r.cond.inIface = none ∧
      r.cond.outIface = Option.filter (· ≠ (false, "+")) (some (false, i.bridgeName)) := by
  obtain ⟨src, dst, dport, -, -, -, rfl⟩ := Args.read_ok h
  exact ⟨rfl, rfl, rfl⟩

/-- The rule of a jump from an interface. -/
lemma outJump_read (h : (outJump chains i).read = .ok r) :
    r.target = .jump chains.outParent ∧ r.cond.inIface = Args.iface (some i.bridgeName) ∧
      r.cond.outIface = none := by
  obtain ⟨src, dst, dport, -, -, -, rfl⟩ := Args.read_ok h
  exact ⟨rfl, rfl, rfl⟩

/-- The `FORWARD` jumps of a VM's interfaces. -/
def IsJump (vmId : String) (interfaces : List VmFirewallInterface) (r : Rule) : Prop :=
  ∃ i ∈ interfaces, (inJump (.new vmId) i).read = .ok r ∨ (outJump (.new vmId) i).read = .ok r

variable {interfaces : List VmFirewallInterface}

lemma IsJump.target (h : IsJump vmId interfaces r) :
    ∃ c ∈ [(VmFirewallChains.new vmId).inParent, (VmFirewallChains.new vmId).outParent],
      r.target = .jump c := by
  obtain ⟨i, -, h | h⟩ := h
  · exact ⟨_, by simp, (inJump_read h).1⟩
  · exact ⟨_, by simp, (outJump_read h).1⟩

lemma IsJump.noBlank (hn : ∀ i ∈ interfaces, IfaceName i.bridgeName)
    (h : IsJump vmId interfaces r) :
    NoBlank r := by
  obtain ⟨i, hi, h | h⟩ := h
  · obtain ⟨ht, hin, hout⟩ := inJump_read h
    refine noBlank_of (by simp [hin]) (fun o ho => ?_) ?_
    · rw [hout, Option.filter_eq_some_iff] at ho
      obtain ⟨rfl, -⟩ : (false, i.bridgeName) = o ∧ _ := ⟨Option.some.inj ho.1, trivial⟩
      exact (hn i hi).no_space
    · rw [ht]
      exact (chain_text (mem_all_parents vmId).1).2 ' ' (by decide)
  · obtain ⟨ht, hin, hout⟩ := outJump_read h
    refine noBlank_of (fun n hn' => ?_) (by simp [hout]) ?_
    · rw [hin, Args.iface, Option.filter_eq_some_iff] at hn'
      obtain rfl := Option.some.inj hn'.1
      exact (hn i hi).no_space
    · rw [ht]
      exact (chain_text (mem_all_parents vmId).2).2 ' ' (by decide)

/-- Searching for one parent does not find the jumps to the other. -/
lemma not_contains_other (hn : ∀ i ∈ interfaces, IfaceName i.bridgeName)
    (h : IsJump vmId interfaces r) (ht : r.target = .jump (VmFirewallChains.new vmId).outParent) :
    (Line.append "FORWARD" r).contains ("-j " ++ (VmFirewallChains.new vmId).inParent) = false := by
  obtain ⟨hq, hb⟩ := chain_text (mem_all_parents vmId).1
  rw [Bool.eq_false_iff]
  intro hc
  rw [contains_jump (h.noBlank hn) hq (hb ' ' (by decide)), ht] at hc
  have hlen : (VmFirewallChains.new vmId).inParent.toList.length
      = (VmFirewallChains.new vmId).outParent.toList.length := by
    simp [VmFirewallChains.new]
  have heq := String.toList_inj.1 (hc.eq_of_length hlen)
  exact tag_append_ne _ _ (by simp) (by decide) heq

/-- What a sync leaves of the `FORWARD` rules it finds. -/
def kept (vmId : String) (interfaces : List VmFirewallInterface) (r : Rule) : Bool :=
  !stale (VmFirewallChains.new vmId).outParent (interfaces.map (outJump (.new vmId))) r &&
    !stale (VmFirewallChains.new vmId).inParent (interfaces.map (inJump (.new vmId))) r

lemma readAll_mem (h : ReadAll as rs) (hr : r ∈ rs) :
    ∃ a ∈ as, a.read = .ok r := by
  have hm : (.ok r : Except Stderr Rule) ∈ as.map Args.read := by
    rw [h]
    exact List.mem_map_of_mem hr
  obtain ⟨a, ha, hread⟩ := List.mem_map.1 hm
  exact ⟨a, ha, hread⟩

lemma readAll_of_mem (h : ReadAll as rs) {a : Args} (ha : a ∈ as)
    (hr : a.read = .ok r) : r ∈ rs := by
  have hm : (.ok r : Except Stderr Rule) ∈ rs.map .ok := by
    rw [← h, ← hr]
    exact List.mem_map_of_mem ha
  simpa using hm

/-- A teardown keeps what a sync without interfaces would keep. -/
lemma teardownVmFirewall_forward (hq : Quiet s) (hF : s.filter.lookup "FORWARD" = some F)
    (h : teardownVmFirewall vmId s = (.ok u, s')) :
    Quiet s' ∧ s'.filter.lookup "FORWARD" = some (F.filter (kept vmId [])) := by
  have ne : ∀ c ∈ (VmFirewallChains.new vmId).all, c ≠ "FORWARD" := by
    rintro c hc rfl
    exact chains_ne_forward vmId hc
  obtain ⟨_, s₁, hout, h⟩ := ok_bind.1 h
  obtain ⟨_, s₂, hin, hrest⟩ := ok_bind.1 h
  obtain ⟨hq₁, hF₁⟩ :=
    removeForwardRulesReferencing_forward (ne _ (mem_all_parents vmId).2) hq hF hout
  obtain ⟨hq₂, hF₂⟩ :=
    removeForwardRulesReferencing_forward (ne _ (mem_all_parents vmId).1) hq₁ hF₁ hin
  have chain : ∀ c ∈ (VmFirewallChains.new vmId).all,
      Keeps (OnFilter True (HasRules "FORWARD" (s₂.filter.lookup "FORWARD")))
        (deleteChainIfExists c) :=
    fun c hc => frame_deleteChainIfExists (ne c hc).symm _
  have rest : Keeps (OnFilter True (HasRules "FORWARD" (s₂.filter.lookup "FORWARD"))) (do
      deleteChainIfExists (VmFirewallChains.new vmId).outParent
      deleteChainIfExists (VmFirewallChains.new vmId).inParent
      deleteChainIfExists (VmFirewallChains.new vmId).outA
      deleteChainIfExists (VmFirewallChains.new vmId).outB
      deleteChainIfExists (VmFirewallChains.new vmId).inA
      deleteChainIfExists (VmFirewallChains.new vmId).inB : Net Unit) := by
    iterate 5
      refine keeps_bind (chain _ ?_) fun _ => ?_
      · simp [VmFirewallChains.all, VmFirewallChains.children]
    exact chain _ (by simp [VmFirewallChains.all, VmFirewallChains.children])
  obtain ⟨hq', hl'⟩ := triple_of_keeps rest s₂ u s' ⟨fun _ => hq₂, rfl⟩ hrest
  refine ⟨hq' trivial, hl'.trans (hF₂.trans ?_)⟩
  rw [List.filter_filter]
  refine congrArg some (List.filter_congr fun r _ => ?_)
  rw [kept, stale, stale, Bool.and_comm]
  simp

/-- **What the sync of a VM does to `FORWARD`.**  In a quiet run jumps of the VM's interfaces that
were missing are put on top, and below them stands what is kept of the old list.  Every jump that
the sync does not itself regard as stale is there. -/
theorem syncVmFirewall_forward (hq : Quiet s) (hF : s.filter.lookup "FORWARD" = some F)
    (h : syncVmFirewall vmId interfaces s = (.ok u, s')) :
    Quiet s' ∧ ∃ new,
      s'.filter.lookup "FORWARD" = some (new ++ F.filter (kept vmId interfaces)) ∧
      (∀ r ∈ new, IsJump vmId interfaces r ∧ r ∉ F) ∧
      ∀ r, IsJump vmId interfaces r → kept vmId interfaces r = true →
        r ∈ new ++ F.filter (kept vmId interfaces) := by
  unfold syncVmFirewall at h
  split_ifs at h with hnil
  · subst hnil
    obtain ⟨hq', hF'⟩ := teardownVmFirewall_forward hq hF h
    exact ⟨hq', [], hF', by simp, fun r hr => absurd hr (by simp [IsJump])⟩
  obtain ⟨⟨nextIn, nextOut⟩, s₁, hprep, h⟩ := ok_bind.1 h
  obtain ⟨acc, s₂, hfill, hswitch⟩ := ok_bind.1 h
  obtain ⟨hi, ho⟩ := prepareChildren_mem (P := fun _ => True) s _ _ trivial hprep
  have hacc := fillChildren_collected (P := fun _ => True) s₁ _ _ trivial hfill
  have hnames := sync_names_nodup ho hi
  simp only [List.nodup_cons, List.mem_cons, List.not_mem_nil, or_false, not_or] at hnames
  obtain ⟨⟨f₁, f₂, f₃, f₄, f₅, f₆⟩, -⟩ := hnames
  obtain ⟨_, s₃, hpi, h₃⟩ := ok_bind.1 hswitch
  obtain ⟨_, s₄, hpo, h₄⟩ := ok_bind.1 h₃
  obtain ⟨_, s₅, hsi, h₅⟩ := ok_bind.1 h₄
  obtain ⟨_, s₆, hso, h₆⟩ := ok_bind.1 h₅
  obtain ⟨_, s₇, hdi, hdo⟩ := ok_bind.1 h₆
  -- up to the first jump only chains of the VM change
  have before : OnFilter True (HasRules "FORWARD" (some F)) s₄ := by
    have hnew : ∀ c ∈ (VmFirewallChains.new vmId).all,
        (Command.new c).Safe (HasRules "FORWARD" (some F)) := fun c hc =>
      Command.safe_lookup fun heq => chains_ne_forward vmId (heq ▸ hc)
    have i₀ : OnFilter True (HasRules "FORWARD" (some F)) s := ⟨fun _ => hq, hF⟩
    have i₁ := triple_of_keeps (keeps_prepareChildren hnew) s _ s₁ i₀ hprep
    have i₂ := triple_of_keeps (frame_fillChildren f₄ f₃ _) s₁ _ s₂ i₁ hfill
    have i₃ := triple_of_keeps (frame_pointParentToChild f₂ _) s₂ _ s₃ i₂ hpi
    exact triple_of_keeps (frame_pointParentToChild f₁ _) s₃ _ s₄ i₃ hpo
  obtain ⟨hq₅, rs₁, n₁, hr₁, hn₁, hall₁, hF₁⟩ :=
    syncForwardJumpRules_forward (before.1 trivial) before.2 hsi
  obtain ⟨hq₆, rs₂, n₂, hr₂, hn₂, hall₂, hF₂⟩ := syncForwardJumpRules_forward hq₅ hF₁ hso
  have after : OnFilter True (HasRules "FORWARD" (s₆.filter.lookup "FORWARD")) s' := by
    have i₆ : OnFilter True (HasRules "FORWARD" (s₆.filter.lookup "FORWARD")) s₆ :=
      ⟨fun _ => hq₆, rfl⟩
    have i₇ := triple_of_keeps (frame_deleteChainIfExists f₆ _) s₆ _ s₇ i₆ hdi
    exact triple_of_keeps (frame_deleteChainIfExists f₅ _) s₇ _ s' i₇ hdo
  rw [hacc.desiredIn] at hr₁ hF₁ hn₂ hall₂ hF₂
  rw [hacc.desiredOut] at hr₂ hF₂
  have isIn : ∀ r ∈ rs₁, IsJump vmId interfaces r := by
    intro r hr
    obtain ⟨a, ha, hread⟩ := readAll_mem hr₁ hr
    obtain ⟨i, hi, rfl⟩ := List.mem_map.1 ha
    exact ⟨i, hi, .inl hread⟩
  have isOut : ∀ r ∈ rs₂, IsJump vmId interfaces r ∧
      r.target = .jump (VmFirewallChains.new vmId).outParent := by
    intro r hr
    obtain ⟨a, ha, hread⟩ := readAll_mem hr₂ hr
    obtain ⟨i, hi, rfl⟩ := List.mem_map.1 ha
    exact ⟨⟨i, hi, .inr hread⟩, (outJump_read hread).1⟩
  refine ⟨after.1 trivial, n₂.filter (fun r => !stale (VmFirewallChains.new vmId).outParent
    (interfaces.map (outJump (.new vmId))) r) ++ n₁.filter (kept vmId interfaces), ?_, ?_, ?_⟩
  · rw [after.2, hF₂]
    rw [List.filter_append, List.filter_filter, List.filter_append, ← List.append_assoc]
    rfl
  · intro r hr
    rcases List.mem_append.1 hr with hr | hr
    · obtain ⟨hr, -⟩ := List.mem_filter.1 hr
      obtain ⟨hj, ht⟩ := isOut r (hn₂ r hr).1
      refine ⟨hj, fun hmem => (hn₂ r hr).2 (List.mem_filter.2 ⟨by simp [hmem], ?_⟩)⟩
      simp [stale, not_contains_other hacc.name hj ht]
    · obtain ⟨hr, -⟩ := List.mem_filter.1 hr
      exact ⟨isIn r (hn₁ r hr).1, (hn₁ r hr).2⟩
  · rintro r ⟨i, hi, hread | hread⟩ hk
    · have hmem := hall₁ r (readAll_of_mem hr₁ (List.mem_map_of_mem hi) hread)
      rcases List.mem_append.1 hmem with hm | hm
      · simp [hm, hk]
      · simp [hm, hk]
    · have hmem := hall₂ r (readAll_of_mem hr₂ (List.mem_map_of_mem hi) hread)
      have hk₂ : stale (VmFirewallChains.new vmId).outParent
          (interfaces.map (outJump (.new vmId))) r = false := by simp_all [kept]
      rcases List.mem_append.1 hmem with hm | hm
      · simp [hm, hk₂]
      · obtain ⟨hm, -⟩ := List.mem_filter.1 hm
        rcases List.mem_append.1 hm with hm | hm
        · simp [hm, hk]
        · simp [hm, hk]

end Qarax
