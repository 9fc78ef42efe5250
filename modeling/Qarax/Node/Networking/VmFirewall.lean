import Qarax.Control.NetworkPolicy
import Qarax.Node.Networking.Keeps

/-!
# The firewall of one VM

After a successful sync the parent chains of a VM decide exactly what its security groups promise,
whatever earlier requests left behind.

* **Double buffer.**  `ParentsOk`: a parent chain that exists is empty or holds one jump to one of
  its own children.  Every request keeps this, also when one of its commands fails.
* **Children.**  `Children` says what a sync writes; `childRules_verdict` is its meaning.
-/

namespace Qarax

open Proc Netfilter Command

variable {q : Prop}

/-! ## Chain names -/

variable {a b : String}

/-- Names with different tags of one length differ, whatever follows the tag. -/
lemma tag_append_ne (s t : String) (hl : a.toList.length = b.toList.length) (hne : a ≠ b) :
    a ++ s ≠ b ++ t := by
  intro h
  have h' : a.toList ++ s.toList = b.toList ++ t.toList := by
    simpa using congrArg String.toList h
  exact hne (String.toList_inj.1 (List.append_inj h' hl).1)

/-- Parent chains and their two children. -/
inductive ParentOf : String → String → String → Prop
  | out (suffix : String) : ParentOf ("QXVMO" ++ suffix) ("QXVOA" ++ suffix) ("QXVOB" ++ suffix)
  | inn (suffix : String) : ParentOf ("QXVMI" ++ suffix) ("QXVIA" ++ suffix) ("QXVIB" ++ suffix)

lemma parentOf_out (vmId : String) :
    ParentOf (VmFirewallChains.new vmId).outParent (VmFirewallChains.new vmId).outA
      (VmFirewallChains.new vmId).outB := .out _

lemma parentOf_in (vmId : String) :
    ParentOf (VmFirewallChains.new vmId).inParent (VmFirewallChains.new vmId).inA
      (VmFirewallChains.new vmId).inB := .inn _

variable {p : String}

lemma ParentOf.unique {a' b' : String} (h : ParentOf p a b) (h' : ParentOf p a' b') :
    a = a' ∧ b = b' := by
  generalize hq : p = q at h'
  cases h with
  | out s =>
    cases h' with
    | out t =>
      obtain rfl : s = t := by simpa using hq
      exact ⟨rfl, rfl⟩
    | inn t => exact absurd hq (tag_append_ne s t (by simp) (by decide))
  | inn s =>
    cases h' with
    | out t => exact absurd hq (tag_append_ne s t (by simp) (by decide))
    | inn t =>
      obtain rfl : s = t := by simpa using hq
      exact ⟨rfl, rfl⟩

/-- Chains with another tag are no parents. -/
lemma ParentOf.ne_tag {tag : String} (h : ParentOf p a b) (suffix : String)
    (hl : tag.toList.length = 5) (ho : tag ≠ "QXVMO") (hi : tag ≠ "QXVMI") : p ≠ tag ++ suffix := by
  cases h with
  | out s => exact tag_append_ne s suffix hl.symm ho.symm
  | inn s => exact tag_append_ne s suffix hl.symm hi.symm

lemma ParentOf.ne_forward (h : ParentOf p a b) : p ≠ "FORWARD" := by
  have hf : "FORWARD" = "FORWA" ++ "RD" := by decide
  rw [hf]
  exact h.ne_tag "RD" (by simp) (by decide) (by decide)

variable {c : String}

lemma isolation_tag (bridge : String) (h : c ∈ [isolationOut bridge, isolationIn bridge]) :
    ∃ rest, c = "QXNET" ++ rest := by
  simp only [List.mem_cons, List.not_mem_nil, or_false] at h
  rcases h with rfl | rfl
  · exact ⟨"O" ++ sanitizeSuffix bridge 20, by rw [← String.append_assoc]; rfl⟩
  · exact ⟨"I" ++ sanitizeSuffix bridge 20, by rw [← String.append_assoc]; rfl⟩

/-! ## The double buffer -/

/-- Nothing, or one jump to one of the two children. -/
def OneJump (a b : String) (rs : List Rule) : Prop :=
  rs = [] ∨ rs = [⟨{}, .jump a⟩] ∨ rs = [⟨{}, .jump b⟩]

/-- Every parent chain holds at most one rule, a jump to a child of the same VM. -/
def ParentsOk (t : Table) : Prop :=
  ∀ p a b, ParentOf p a b → ∀ rs, t.lookup p = some rs → OneJump a b rs

variable {cmd : Command}

/-- Commands about other chains. -/
lemma safe_parentsOk_of_ne (h : ∀ p a b, ParentOf p a b → p ≠ cmd.chain) : cmd.Safe ParentsOk := by
  intro t t' ht he p a b hp rs hl
  rw [lookup_exec he, if_neg (h p a b hp)] at hl
  exact ht p a b hp rs hl

/-- A command that leaves at most one jump wherever there was at most one. -/
def Command.Shrinks (cmd : Command) : Prop :=
  ∀ a b v, (∀ rs, v = some rs → OneJump a b rs) → ∀ rs, cmd.after v = some rs → OneJump a b rs

lemma safe_parentsOk_of_shrinks (h : cmd.Shrinks) : cmd.Safe ParentsOk := by
  intro t t' ht he p a b hp rs hl
  rw [lookup_exec he] at hl
  split_ifs at hl
  · exact h a b _ (ht p a b hp) rs hl
  · exact ht p a b hp rs hl

lemma shrinks_new (c : String) : (new c).Shrinks := by
  intro a b v _ rs h
  exact .inl (Option.some.inj h).symm

lemma shrinks_remove (c : String) : (remove c).Shrinks := by
  intro a b v _ rs h
  cases h

/-- A command that only takes rules away. -/
lemma shrinks_of_sublist {f : List Rule → List Rule} (hf : ∀ v, cmd.after v = v.map f)
    (hs : ∀ rs, (f rs).Sublist rs) : cmd.Shrinks := by
  intro a b v hv rs h
  rw [hf] at h
  obtain ⟨rs₀, hrs₀, rfl⟩ := Option.map_eq_some_iff.1 h
  have hsub := hs rs₀
  rcases hv rs₀ hrs₀ with rfl | rfl | rfl
  · exact .inl (List.sublist_nil.1 hsub)
  · rcases List.sublist_singleton.1 hsub with h₁ | h₁
    · exact .inl h₁
    · exact .inr (.inl h₁)
  · rcases List.sublist_singleton.1 hsub with h₁ | h₁
    · exact .inl h₁
    · exact .inr (.inr h₁)

lemma shrinks_flush (c : String) : (flush c).Shrinks :=
  shrinks_of_sublist (fun _ => rfl) List.nil_sublist

lemma shrinks_delete (c : String) (r : Rule) : (delete c r).Shrinks :=
  shrinks_of_sublist (fun _ => rfl) fun _ => List.erase_sublist

lemma shrinks_deleteSecond (c : String) : (deleteSecond c).Shrinks := by
  refine shrinks_of_sublist (fun _ => rfl) fun rs => ?_
  have h : rs.drop 2 = (rs.drop 1).drop 1 := by simp
  calc (rs.take 1 ++ rs.drop 2).Sublist (rs.take 1 ++ rs.drop 1) := by
        rw [h]
        exact (List.drop_sublist 1 _).append_left _
    _ = rs := List.take_append_drop 1 rs

variable {parent child : String}

/-- Moving a parent over to a child of its own. -/
lemma keeps_parentsOk_point (hp : ParentOf parent a b) (hc : child = a ∨ child = b) :
    Keeps (OnFilter q ParentsOk) (pointParentToChild parent child) := by
  have single : OneJump a b [⟨{}, .jump child⟩] := by
    rcases hc with rfl | rfl
    · exact .inr (.inl rfl)
    · exact .inr (.inr rfl)
  refine keeps_pointParentToChild ?_ ?_ (safe_parentsOk_of_shrinks (shrinks_deleteSecond parent))
  · intro t t' ht he p a' b' hp' rs hl
    rw [lookup_exec he] at hl
    split_ifs at hl with heq
    · obtain rfl : p = parent := heq
      obtain ⟨rfl, rfl⟩ := hp.unique hp'
      obtain ⟨rs₀, hrs₀, rfl⟩ := Option.map_eq_some_iff.1 hl
      rcases ht p a b hp rs₀ hrs₀ with rfl | rfl | rfl <;> exact single
    · exact ht p a' b' hp' rs hl
  · intro t t' ht hnil he p a' b' hp' rs hl
    rw [lookup_exec he] at hl
    split_ifs at hl with heq
    · obtain rfl : p = parent := heq
      obtain ⟨rfl, rfl⟩ := hp.unique hp'
      obtain rfl : [⟨{}, .jump child⟩] = rs := by simpa [hnil, after] using hl
      exact single
    · exact ht p a' b' hp' rs hl

lemma safeTeardown_parentsOk (chains : VmFirewallChains) : SafeTeardown ParentsOk chains where
  delete := fun _ _ r _ => safe_parentsOk_of_shrinks (shrinks_delete _ r)
  flush := fun c _ => safe_parentsOk_of_shrinks (shrinks_flush c)
  remove := fun c _ => safe_parentsOk_of_shrinks (shrinks_remove c)

lemma safeSync_parentsOk (vmId : String) (interfaces : List VmFirewallInterface) :
    SafeSync q ParentsOk (.new vmId) interfaces where
  toSafeTeardown := safeTeardown_parentsOk _
  new := fun c _ => safe_parentsOk_of_shrinks (shrinks_new c)
  append := by
    intro c hc r
    refine safe_parentsOk_of_ne fun p a b hp => ?_
    simp only [VmFirewallChains.children, List.mem_cons, List.not_mem_nil, or_false] at hc
    rcases hc with rfl | rfl | rfl | rfl <;> exact hp.ne_tag _ (by simp) (by decide) (by decide)
  pointIn := fun child hc => keeps_parentsOk_point (parentOf_in vmId) (by simpa using hc)
  pointOut := fun child hc => keeps_parentsOk_point (parentOf_out vmId) (by simpa using hc)
  insert := fun _ _ _ _ r _ => safe_parentsOk_of_ne fun _ _ _ hp => hp.ne_forward

/-- **Every request keeps the double buffer in order**, however far it gets. -/
lemma keeps_parentsOk (c : Call) : Keeps (OnFilter q ParentsOk) c.run := by
  have forward : ∀ cmd : Command, cmd.chain = "FORWARD" →
      Keeps (OnFilter q ParentsOk) (runCmd .filter cmd) :=
    fun cmd hc => keeps_runCmd (safe_parentsOk_of_ne fun _ _ _ hp => hc ▸ hp.ne_forward)
  cases c with
  | setupNat bridge subnet =>
    exact keeps_setupNat (fun _ _ => keeps_runNat _) fun r => forward _ rfl
  | teardownNat bridge subnet =>
    exact keeps_teardownNat (fun _ => keeps_runNat _) fun r => forward _ rfl
  | syncNetworkIsolation bridge localSubnet blocked natExempt =>
    refine keeps_syncNetworkIsolation
      (fun c _ => keeps_runCmd (safe_parentsOk_of_shrinks (shrinks_new c)))
      (fun c _ => keeps_runCmd (safe_parentsOk_of_shrinks (shrinks_flush c)))
      (fun c hc r _ => keeps_runCmd ?_) (fun c _ r _ => forward _ rfl) (keeps_exemptions _ _ _)
    refine safe_parentsOk_of_ne fun p a b hp => ?_
    obtain ⟨letter, rfl⟩ := isolation_tag _ hc
    exact hp.ne_tag _ (by simp) (by decide) (by decide)
  | teardownNetworkIsolation bridge =>
    exact keeps_teardownNetworkIsolation (fun _ _ r _ => forward _ rfl)
      (fun c _ => keeps_runCmd (safe_parentsOk_of_shrinks (shrinks_flush c)))
      fun c _ => keeps_runCmd (safe_parentsOk_of_shrinks (shrinks_remove c))
  | syncVmFirewall vmId interfaces =>
    exact keeps_syncVmFirewall (safeSync_parentsOk vmId interfaces)
  | teardownVmFirewall vmId => exact keeps_teardownVmFirewall (safeTeardown_parentsOk _)

variable {s : NetState}

lemma Reachable.parentsOk (h : Reachable s) : ParentsOk s.filter := by
  induction h with
  | fresh faults =>
    intro p a b hp rs hl
    rw [NetState.fresh, AList.lookup_insert_ne hp.ne_forward] at hl
    simp at hl
  | call c _ ih => exact (keeps_parentsOk (q := False) c _ ⟨False.elim, ih⟩).2

/-! ## A successful sync -/

/-- A chain that the procedure does not work on. -/
def HasRules (c : String) (v : Option (List Rule)) (t : Table) : Prop := t.lookup c = v

variable {s' : NetState}

lemma lookup_eq_of_keeps {α : Type} {x : Net α} {a : α}
    (h : ∀ v, Keeps (OnFilter False (HasRules c v)) x) (hr : x s = (.ok a, s')) :
    s'.filter.lookup c = s.filter.lookup c :=
  (triple_of_keeps (h _) s a s' ⟨False.elim, rfl⟩ hr).2

variable {d : String} {chains : VmFirewallChains} {u : Unit} {rs : List Rule}

lemma frame_ensureChain (h : c ≠ d) (v : Option (List Rule)) :
    Keeps (OnFilter q (HasRules c v)) (ensureChain d) :=
  keeps_ensureChain (keeps_runCmd (safe_lookup h))

lemma frame_pointParentToChild (h : c ≠ parent) (v : Option (List Rule)) :
    Keeps (OnFilter q (HasRules c v)) (pointParentToChild parent child) :=
  keeps_pointParentToChild (safe_lookup h)
    (fun t t' ht _ he => safe_lookup h t t' ht he) (safe_lookup h)

variable {nextIn nextOut : String} {interfaces : List VmFirewallInterface}

lemma frame_fillChildren (hi : c ≠ nextIn) (ho : c ≠ nextOut)
    (v : Option (List Rule)) :
    Keeps (OnFilter q (HasRules c v)) (fillChildren chains nextIn nextOut interfaces) := by
  refine keeps_fillChildren (fun d hd => ?_) (fun d hd r => ?_)
  · exact safe_lookup (by rcases List.mem_pair.1 hd with rfl | rfl <;> assumption)
  · exact safe_lookup (by rcases List.mem_pair.1 hd with rfl | rfl <;> assumption)

lemma frame_syncForwardJumpRules {desired : List Args} (h : c ≠ "FORWARD")
    (v : Option (List Rule)) :
    Keeps (OnFilter q (HasRules c v)) (syncForwardJumpRules parent desired) :=
  keeps_syncForwardJumpRules (fun _ _ _ _ => keeps_runCmd (safe_lookup h))
    fun _ _ => keeps_runCmd (safe_lookup h)

lemma frame_deleteChainIfExists (h : c ≠ d) (v : Option (List Rule)) :
    Keeps (OnFilter q (HasRules c v)) (deleteChainIfExists d) :=
  keeps_deleteChainIfExists (keeps_runCmd (safe_lookup h))
    (keeps_runCmd (safe_lookup h))

lemma nextChildChain_filter (h : nextChildChain parent a b s = (.ok c, s')) :
    s'.filter = s.filter :=
  (triple_of_keeps (I := OnFilter False (· = s.filter)) (keeps_nextChildChain _ _ _) s c s'
    ⟨False.elim, rfl⟩ h).2

/-- A parent that holds at most one rule afterwards holds the jump to the child. -/
lemma pointParentToChild_ok (hrs : s.filter.lookup parent = some rs)
    (hlen : rs.length ≤ 1) (h : pointParentToChild parent child s = (.ok u, s')) :
    s'.filter.lookup parent = some [⟨{}, .jump child⟩] := by
  obtain ⟨ls, s₁, hlist, h⟩ := ok_bind.1 h
  obtain ⟨heq, rs', hrs', rfl⟩ := runList_ok hlist
  obtain rfl : rs = rs' := by simpa [hrs] using hrs'
  rw [listed_any_append] at h
  split_ifs at h with hne
  · obtain ⟨_, s₂, hrep, hrest⟩ := ok_bind.1 h
    rw [runRule_eq (read_bareJump child)] at hrep
    have hs₂ : s₂.filter.lookup parent = some [⟨{}, .jump child⟩] := by
      rw [lookup_exec (runCmd_ok hrep), heq, hrs]
      have htail : rs.tail = [] := List.eq_nil_of_length_eq_zero (by rw [List.length_tail]; omega)
      simp [chain, after, htail]
    have rest : ∀ n, Keeps (OnFilter False (HasRules parent (some [⟨{}, .jump child⟩])))
        (deleteRest parent n) := by
      intro n
      refine keeps_deleteRest fun t t' ht he => ?_
      rw [HasRules, lookup_exec he, ht]
      simp [after]
    exact (triple_of_keeps (rest _) s₂ u s' ⟨False.elim, hs₂⟩ hrest).2
  · obtain rfl : rs = [] := by simpa using hne
    rw [runRule_eq (read_bareJump child)] at h
    rw [lookup_exec (runCmd_ok h), heq, hrs]
    simp [chain, after]

lemma chains_nodup (vmId : String) : (VmFirewallChains.new vmId).all.Nodup := by
  simp [VmFirewallChains.all, VmFirewallChains.children, VmFirewallChains.new]

lemma chains_ne_forward (vmId : String) : "FORWARD" ∉ (VmFirewallChains.new vmId).all := by
  simp only [VmFirewallChains.all, VmFirewallChains.children, List.mem_cons, List.not_mem_nil,
    or_false, not_or]
  have hf : "FORWARD" = "FORWA" ++ "RD" := by decide
  rw [hf]
  refine ⟨?_, ?_, ?_, ?_, ?_, ?_⟩ <;> exact tag_append_ne _ _ (by simp) (by decide)

variable {vmId : String}

/-- The names a sync works with are all different. -/
lemma sync_names_nodup
    (ho : nextOut = (VmFirewallChains.new vmId).outA ∨ nextOut = (VmFirewallChains.new vmId).outB)
    (hi : nextIn = (VmFirewallChains.new vmId).inA ∨ nextIn = (VmFirewallChains.new vmId).inB) :
    ["FORWARD", (VmFirewallChains.new vmId).outParent, (VmFirewallChains.new vmId).inParent,
      nextOut, nextIn,
      staleChild nextOut (VmFirewallChains.new vmId).outA (VmFirewallChains.new vmId).outB,
      staleChild nextIn (VmFirewallChains.new vmId).inA (VmFirewallChains.new vmId).inB].Nodup := by
  have hdist := chains_nodup vmId
  have hfwd := chains_ne_forward vmId
  generalize VmFirewallChains.new vmId = chains at *
  simp only [VmFirewallChains.all, VmFirewallChains.children] at hdist hfwd
  rcases ho with rfl | rfl <;> rcases hi with rfl | rfl <;> unfold staleChild <;> grind

/-- **The chains of a VM after a successful sync.**  Each parent holds one jump, to one child, and
the children hold the rules. -/
structure Synced (chains : VmFirewallChains) (rules : List VmFirewallRule)
    (nextIn nextOut : String) (t : Table) : Prop where
  mem_in : nextIn = chains.inA ∨ nextIn = chains.inB
  mem_out : nextOut = chains.outA ∨ nextOut = chains.outB
  inParent : t.lookup chains.inParent = some [⟨{}, .jump nextIn⟩]
  outParent : t.lookup chains.outParent = some [⟨{}, .jump nextOut⟩]
  children : Children nextIn nextOut rules t

lemma OneJump.length_le (h : OneJump a b rs) : rs.length ≤ 1 := by
  rcases h with rfl | rfl | rfl <;> simp

/-- Before the children are filled: both parents are there with at most one rule, both children are
there. -/
lemma prepareChildren_ok (hs : ParentsOk s.filter)
    (h : prepareChildren (.new vmId) s = (.ok (nextIn, nextOut), s')) :
    (∃ rs, s'.filter.lookup (VmFirewallChains.new vmId).outParent = some rs ∧ rs.length ≤ 1) ∧
      (∃ rs, s'.filter.lookup (VmFirewallChains.new vmId).inParent = some rs ∧ rs.length ≤ 1) ∧
      (∃ rs, s'.filter.lookup nextOut = some rs) ∧ ∃ rs, s'.filter.lookup nextIn = some rs := by
  have hpout := hs _ _ _ (parentOf_out vmId)
  have hpin := hs _ _ _ (parentOf_in vmId)
  obtain ⟨hi, ho⟩ := prepareChildren_mem (P := fun _ => True) s _ _ trivial h
  have hnames := sync_names_nodup ho hi
  generalize VmFirewallChains.new vmId = chains at *
  simp only [List.nodup_cons, List.mem_cons, List.not_mem_nil, or_false, not_or] at hnames
  obtain ⟨-, ⟨o₁, o₂, o₃, -⟩, ⟨i₁, i₂, -⟩, ⟨n₁, -⟩, -⟩ := hnames
  obtain ⟨_, s₁, h₁, h⟩ := ok_bind.1 h
  obtain ⟨_, s₂, h₂, h⟩ := ok_bind.1 h
  obtain ⟨_, s₃, h₃, h⟩ := ok_bind.1 h
  obtain ⟨_, s₄, h₄, h⟩ := ok_bind.1 h
  obtain ⟨_, s₅, h₅, h⟩ := ok_bind.1 h
  obtain ⟨_, s₆, h₆, h⟩ := ok_bind.1 h
  cases h
  have small : ∀ {a b : String} {v : Option (List Rule)},
      (∀ rs, v = some rs → OneJump a b rs) → (v.getD []).length ≤ 1 := by
    intro a b v hv
    cases v with
    | none => simp
    | some rs => exact (hv rs rfl).length_le
  refine ⟨⟨_, ?_, small hpout⟩, ⟨_, ?_, small hpin⟩,
    ⟨_, (lookup_eq_of_keeps (frame_ensureChain n₁) h₆).trans (ensureChain_ok h₅)⟩,
    ⟨_, ensureChain_ok h₆⟩⟩
  · rw [lookup_eq_of_keeps (frame_ensureChain o₃) h₆, lookup_eq_of_keeps (frame_ensureChain o₂) h₅,
      nextChildChain_filter h₄, nextChildChain_filter h₃,
      lookup_eq_of_keeps (frame_ensureChain o₁) h₂, ensureChain_ok h₁]
  · rw [lookup_eq_of_keeps (frame_ensureChain i₂) h₆, lookup_eq_of_keeps (frame_ensureChain i₁) h₅,
      nextChildChain_filter h₄, nextChildChain_filter h₃, ensureChain_ok h₂,
      lookup_eq_of_keeps (frame_ensureChain (Ne.symm o₁)) h₁]

/-- Chains the last part of a sync does not work on. -/
lemma frame_switchOver {acc : SyncAcc} (hf : c ≠ "FORWARD")
    (hi : c ≠ chains.inParent) (ho : c ≠ chains.outParent)
    (hsi : c ≠ staleChild nextIn chains.inA chains.inB)
    (hso : c ≠ staleChild nextOut chains.outA chains.outB) (v : Option (List Rule)) :
    Keeps (OnFilter q (HasRules c v)) (switchOver chains nextIn nextOut acc) := by
  refine keeps_bind (frame_pointParentToChild hi v) fun _ => ?_
  refine keeps_bind (frame_pointParentToChild ho v) fun _ => ?_
  refine keeps_bind (frame_syncForwardJumpRules hf v) fun _ => ?_
  refine keeps_bind (frame_syncForwardJumpRules hf v) fun _ => ?_
  exact keeps_bind (frame_deleteChainIfExists hsi v) fun _ => frame_deleteChainIfExists hso v

lemma mem_all_parents (vmId : String) :
    (VmFirewallChains.new vmId).inParent ∈ (VmFirewallChains.new vmId).all ∧
      (VmFirewallChains.new vmId).outParent ∈ (VmFirewallChains.new vmId).all := by
  simp [VmFirewallChains.all]

/-- Chains other than `FORWARD` and the VM's own are out of reach of a sync. -/
lemma frame_syncVmFirewall (hf : c ≠ "FORWARD") (hc : c ∉ (VmFirewallChains.new vmId).all)
    (v : Option (List Rule)) :
    Keeps (OnFilter q (HasRules c v)) (syncVmFirewall vmId interfaces) := by
  have ne : ∀ d ∈ (VmFirewallChains.new vmId).all, c ≠ d := by
    rintro d hd rfl
    exact hc hd
  have hin := ne _ (mem_all_parents vmId).1
  have hout := ne _ (mem_all_parents vmId).2
  refine keeps_syncVmFirewall ⟨⟨?_, ?_, ?_⟩, ?_, ?_, ?_, ?_, ?_⟩
  · exact fun _ _ r _ => safe_lookup hf
  · exact fun d hd => safe_lookup (ne d hd)
  · exact fun d hd => safe_lookup (ne d hd)
  · exact fun d hd => safe_lookup (ne d hd)
  · exact fun d hd r => safe_lookup (ne d (by simp [VmFirewallChains.all, hd]))
  · exact fun child _ => frame_pointParentToChild hin v
  · exact fun child _ => frame_pointParentToChild hout v
  · exact fun i _ a _ r _ => safe_lookup hf

theorem syncVmFirewall_synced (hne : interfaces ≠ []) (hs : ParentsOk s.filter)
    (h : syncVmFirewall vmId interfaces s = (.ok u, s')) :
    ∃ nextIn nextOut,
      Synced (.new vmId) (interfaces.flatMap (·.rules)) nextIn nextOut s'.filter := by
  unfold syncVmFirewall at h
  rw [if_neg hne] at h
  obtain ⟨⟨nextIn, nextOut⟩, s₁, hprep, h⟩ := ok_bind.1 h
  obtain ⟨acc, s₂, hfill, hswitch⟩ := ok_bind.1 h
  obtain ⟨hi, ho⟩ := prepareChildren_mem (P := fun _ => True) s _ _ trivial hprep
  obtain ⟨⟨rsO, hO, lenO⟩, ⟨rsI, hI, lenI⟩, ⟨_, hco⟩, _, hci⟩ := prepareChildren_ok hs hprep
  have hnames := sync_names_nodup ho hi
  generalize VmFirewallChains.new vmId = chains at *
  simp only [List.nodup_cons, List.mem_cons, List.not_mem_nil, or_false, not_or] at hnames
  obtain ⟨⟨f₁, f₂, f₃, f₄, -⟩, ⟨o₁, o₂, o₃, o₄, o₅⟩, ⟨i₁, i₂, i₃, i₄⟩, ⟨n₁, n₂, n₃⟩, ⟨m₁, m₂⟩, -⟩ :=
    hnames
  have children := fillChildren_ok (Ne.symm n₁) hci hco hfill
  have hO₂ := (lookup_eq_of_keeps (frame_fillChildren o₃ o₂) hfill).trans hO
  have hI₂ := (lookup_eq_of_keeps (frame_fillChildren i₂ i₁) hfill).trans hI
  have parents : s'.filter.lookup chains.inParent = some [⟨{}, .jump nextIn⟩] ∧
      s'.filter.lookup chains.outParent = some [⟨{}, .jump nextOut⟩] := by
    obtain ⟨_, s₃, h₃, h⟩ := ok_bind.1 hswitch
    obtain ⟨_, s₄, h₄, h⟩ := ok_bind.1 h
    obtain ⟨_, s₅, h₅, h⟩ := ok_bind.1 h
    obtain ⟨_, s₆, h₆, h⟩ := ok_bind.1 h
    obtain ⟨_, s₇, h₇, h₈⟩ := ok_bind.1 h
    have hO₃ := (lookup_eq_of_keeps (frame_pointParentToChild o₁) h₃).trans hO₂
    constructor
    · rw [lookup_eq_of_keeps (frame_deleteChainIfExists i₃) h₈,
        lookup_eq_of_keeps (frame_deleteChainIfExists i₄) h₇,
        lookup_eq_of_keeps (frame_syncForwardJumpRules (Ne.symm f₂)) h₆,
        lookup_eq_of_keeps (frame_syncForwardJumpRules (Ne.symm f₂)) h₅,
        lookup_eq_of_keeps (frame_pointParentToChild (Ne.symm o₁)) h₄,
        pointParentToChild_ok hI₂ lenI h₃]
    · rw [lookup_eq_of_keeps (frame_deleteChainIfExists o₄) h₈,
        lookup_eq_of_keeps (frame_deleteChainIfExists o₅) h₇,
        lookup_eq_of_keeps (frame_syncForwardJumpRules (Ne.symm f₁)) h₆,
        lookup_eq_of_keeps (frame_syncForwardJumpRules (Ne.symm f₁)) h₅,
        pointParentToChild_ok hO₃ lenO h₄]
  obtain ⟨⟨ci, hcomp, hl⟩, co, hcomp', hl'⟩ := children
  refine ⟨nextIn, nextOut, hi, ho, parents.1, parents.2, ⟨ci, hcomp, ?_⟩, co, hcomp', ?_⟩
  · rw [lookup_eq_of_keeps (frame_switchOver (Ne.symm f₄) (Ne.symm i₂) (Ne.symm o₃) m₂ m₁) hswitch,
      hl]
  · rw [lookup_eq_of_keeps (frame_switchOver (Ne.symm f₃) (Ne.symm i₁) (Ne.symm o₂) n₃ n₂) hswitch,
      hl']

end Qarax
