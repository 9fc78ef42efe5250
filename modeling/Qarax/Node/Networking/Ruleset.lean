import Mathlib.Data.List.AList
import Qarax.Core.Effect
import Qarax.Core.Netfilter
import Qarax.Core.Tokens
import Qarax.Node.Networking.Validate

/-!
# The ruleset of a node and the `iptables` tool

The node never talks to the kernel: it runs `iptables` with text arguments and reads back what
`iptables -S` prints.  This module is that tool, as far as the node uses it.

* `Match`, `Rule`, `Table` — rules as the kernel keeps them.  Blocks have their host bits cleared
  and a condition that always holds is absent, which is what `-C` and `-D` compare and `-S` prints.
* `Args` — a rule as the node writes it, with its address texts still unread.
* `Command.exec` — what each command does to a table, and when it is refused.
* `Line` — one line of `-S`, with its tokens and its text.
* `runCmd` — one run of the tool.  `NetState.faults` decides which runs fail for a reason that is
  not in the ruleset; the table is unchanged then.
-/

namespace Qarax

/-! ## Packets and conditions -/

/-- The protocol of a packet. -/
inductive L4 where
  | tcp
  | udp
  | icmp
  | other
  deriving DecidableEq

/-- What the rules of the node look at.  `dport` is the destination port of a TCP or UDP packet,
`established` the connection state `ESTABLISHED` or `RELATED`. -/
structure Packet where
  src : Ipv4
  dst : Ipv4
  inIface : String
  outIface : String
  proto : L4
  dport : ℕ
  established : Bool

/-- An interface pattern: a final plus sign stands for any rest. -/
def ifaceMatches (pattern name : String) : Bool :=
  if pattern.toList.getLast? = some '+' then
    pattern.toList.dropLast.isPrefixOf name.toList
  else pattern = name

/-- The condition of a rule; what is absent is not looked at.  A negated outgoing interface is
`(true, name)`. -/
structure Match where
  src : Option Cidr := none
  dst : Option Cidr := none
  inIface : Option String := none
  outIface : Option (Bool × String) := none
  proto : Option L4 := none
  dport : Option (ℕ × ℕ) := none
  established : Bool := false
  deriving DecidableEq

/-- Does the packet meet the condition? -/
def Match.holds (m : Match) (p : Packet) : Bool :=
  m.src.all (·.contains p.src) && m.dst.all (·.contains p.dst) &&
    m.inIface.all (ifaceMatches · p.inIface) &&
    m.outIface.all (fun o => o.1 ^^ ifaceMatches o.2 p.outIface) &&
    m.proto.all (· == p.proto) &&
    m.dport.all (fun r => r.1 ≤ p.dport && p.dport ≤ r.2) &&
    (!m.established || p.established)

/-- The terminal targets. -/
inductive Verdict where
  | accept
  | drop
  | masquerade
  deriving DecidableEq

/-- Targets of the node's rules. -/
abbrev Target := Netfilter.Target Verdict String

/-- A rule of the kernel. -/
abbrev Rule := Netfilter.Rule Match Verdict String

/-- A table: chain names and their rules. -/
abbrev Table := AList fun _ : String => List Rule

/-- The rules of a chain; a chain that does not exist has none. -/
def Table.body (t : Table) (c : String) : List Rule := (t.lookup c).getD []

variable {t : Table} {c : String}

variable {rs : List Rule} {r : Rule} {α : Type} {e : NetError}

lemma Table.mem_of_lookup (h : t.lookup c = some rs) : c ∈ t := AList.lookup_isSome.1
    (by rw [h]; rfl)

lemma Table.body_of_lookup (h : t.lookup c = some rs) : t.body c = rs := by simp [body, h]

/-- Different chains of a table are different entries. -/
lemma Table.length_le {cs : List String} (hn : cs.Nodup) (h : ∀ c ∈ cs, c ∈ t) :
    cs.length ≤ t.entries.length := by
  have hsub : cs ⊆ t.keys := fun c hc => AList.mem_keys.1 (h c hc)
  have hle := (List.subperm_of_subset hn hsub).length_le
  simpa [AList.keys, List.keys] using hle

/-- The verdict of chain `c`.  The kernel refuses rulesets whose jumps form a cycle, so jumps nest
at most as deep as there are chains. -/
def Table.verdict (t : Table) (p : Packet) (c : String) : Option Verdict :=
  Netfilter.traverse Match.holds t.body p t.entries.length c

/-! ## Arguments -/

/-- A rule as it is written on a command line. -/
structure Args where
  src : Option String := none
  dst : Option String := none
  inIface : Option String := none
  outIface : Option (Bool × String) := none
  proto : Option L4 := none
  dport : Option (ℤ × ℤ) := none
  established : Bool := false
  jump : Target

/-- An address argument: the network it denotes, nothing for the block of all addresses. -/
def Args.block : Option String → Except Stderr (Option Cidr)
  | none => .ok none
  | some text =>
    match parseCidr text with
    | none => .error .badArgument
    | some c => .ok (if c.len.val = 0 then none else some c.network)

/-- The pattern that is only a plus sign means any interface. -/
def Args.iface (name : Option String) : Option String := name.filter (· ≠ "+")

/-- A port range is two ports in order. -/
def Args.ports : Option (ℤ × ℤ) → Except Stderr (Option (ℕ × ℕ))
  | none => .ok none
  | some (lo, hi) =>
    if 0 ≤ lo ∧ lo ≤ hi ∧ hi ≤ 65535 then .ok (some (lo.toNat, hi.toNat))
    else .error .badArgument

/-- The rule that `iptables` reads from its arguments. -/
def Args.read (a : Args) : Except Stderr Rule := do
  let src ← block a.src
  let dst ← block a.dst
  let dport ← ports a.dport
  return {
    cond := {
      src, dst, dport
      inIface := iface a.inIface
      outIface := a.outIface.filter (· ≠ (false, "+"))
      proto := a.proto
      established := a.established }
    target := a.jump }

variable {a : Args}

lemma Args.read_ok (h : a.read = .ok r) :
    ∃ src dst dport, block a.src = .ok src ∧ block a.dst = .ok dst ∧ ports a.dport = .ok dport ∧
      r = ⟨{ src, dst, dport, inIface := iface a.inIface,
             outIface := a.outIface.filter (· ≠ (false, "+")), proto := a.proto,
             established := a.established }, a.jump⟩ := by
  unfold read at h
  cases hs : block a.src with
  | error e => simp [hs, bind, Except.bind] at h
  | ok src =>
    cases hd : block a.dst with
    | error e => simp [hs, hd, bind, Except.bind] at h
    | ok dst =>
      cases hp : ports a.dport with
      | error e => simp [hs, hd, hp, bind, Except.bind] at h
      | ok dport =>
        simp only [hs, hd, hp, bind, Except.bind, pure, Except.pure, Except.ok.injEq] at h
        exact ⟨src, dst, dport, rfl, rfl, rfl, h.symm⟩

/-! ## Commands -/

/-- The commands the node uses. -/
inductive Command where
  /-- Option `-N`. -/
  | new (c : String)
  /-- Option `-A`. -/
  | append (c : String) (r : Rule)
  /-- Option `-I` at position 1. -/
  | insert (c : String) (r : Rule)
  /-- Option `-R` at position 1. -/
  | replace (c : String) (r : Rule)
  /-- Option `-C`. -/
  | check (c : String) (r : Rule)
  /-- Option `-D` with a rule. -/
  | delete (c : String) (r : Rule)
  /-- Option `-D` with position 2. -/
  | deleteSecond (c : String)
  /-- Option `-F`. -/
  | flush (c : String)
  /-- Option `-X`. -/
  | remove (c : String)

/-- A jump needs a chain to go to. -/
def Table.hasTarget (t : Table) : Target → Bool
  | .jump c => decide (c ∈ t)
  | _ => true

/-- Some rule of some chain jumps to `c`. -/
def Table.refers (t : Table) (c : String) : Bool :=
  t.entries.any fun e => e.2.any fun r => r.target == .jump c

/-- Change the rules of an existing chain. -/
def Table.edit (t : Table) (c : String) (f : List Rule → Except Stderr (List Rule)) :
    Except Stderr Table :=
  match t.lookup c with
  | none => .error .noChain
  | some rs => (f rs).map fun rs' => t.insert c rs'

/-- The effect of a command. -/
def Command.exec (t : Table) : Command → Except Stderr Table
  | .new c => if c ∈ t then .error .chainExists else .ok (t.insert c [])
  | .append c r =>
    if t.hasTarget r.target then t.edit c fun rs => .ok (rs ++ [r]) else .error .noChain
  | .insert c r =>
    if t.hasTarget r.target then t.edit c fun rs => .ok (r :: rs) else .error .noChain
  | .replace c r =>
    if t.hasTarget r.target then
      t.edit c fun rs => match rs with
        | [] => .error .indexTooBig
        | _ :: rs => .ok (r :: rs)
    else .error .noChain
  | .check c r => if r ∈ t.body c then .ok t else .error .badRule
  | .delete c r => t.edit c fun rs => if r ∈ rs then .ok (rs.erase r) else .error .badRule
  | .deleteSecond c => t.edit c fun rs => match rs with
      | r :: _ :: rs => .ok (r :: rs)
      | _ => .error .indexTooBig
  | .flush c => t.edit c fun _ => .ok []
  | .remove c => match t.lookup c with
      | none => .error .noChain
      | some [] => if t.refers c then .error .tooManyLinks else .ok (t.erase c)
      | some (_ :: _) => .error .notEmpty

/-- The chain a command is about. -/
def Command.chain : Command → String
  | .new c | .append c _ | .insert c _ | .replace c _ | .check c _ | .delete c _
  | .deleteSecond c | .flush c | .remove c => c

/-- What the chain of an accepted command holds afterwards. -/
def Command.after : Command → Option (List Rule) → Option (List Rule)
  | .new _, _ => some []
  | .append _ r, rs => rs.map (· ++ [r])
  | .insert _ r, rs => rs.map (r :: ·)
  | .replace _ r, rs => rs.map fun rs => r :: rs.tail
  | .check _ _, rs => rs
  | .delete _ r, rs => rs.map (·.erase r)
  | .deleteSecond _, rs => rs.map fun rs => rs.take 1 ++ rs.drop 2
  | .flush _, rs => rs.map fun _ => []
  | .remove _, _ => none

variable {t' : Table}

lemma Table.lookup_edit {f : List Rule → Except Stderr (List Rule)}
    {g : List Rule → List Rule} (hf : ∀ rs rs', f rs = .ok rs' → rs' = g rs)
    (h : t.edit c f = .ok t') (c' : String) :
    t'.lookup c' = if c' = c then (t.lookup c').map g else t.lookup c' := by
  unfold edit at h
  cases hl : t.lookup c with
  | none => simp [hl] at h
  | some rs =>
    rw [hl] at h
    cases hr : f rs with
    | error e => simp [hr, Except.map] at h
    | ok rs' =>
      simp only [hr, Except.map, Except.ok.injEq] at h
      subst h
      by_cases hc : c' = c
      · subst hc
        simp [hl, hf rs rs' hr]
      · simp [hc, AList.lookup_insert_ne hc]

variable {cmd : Command}

/-- **What an accepted command does to the chains.**  It changes its own chain as `after` says and
no other. -/
theorem Command.lookup_exec (h : cmd.exec t = .ok t') (c : String) :
    t'.lookup c = if c = cmd.chain then cmd.after (t.lookup c) else t.lookup c := by
  cases cmd with
  | new d =>
    simp only [exec] at h
    split_ifs at h
    cases h
    by_cases hc : c = d
    · subst hc
      simp [chain, after]
    · simp [chain, hc, AList.lookup_insert_ne hc]
  | append d r | insert d r =>
    simp only [exec] at h
    split_ifs at h
    exact Table.lookup_edit (fun _ _ hr => by simpa using hr.symm) h c
  | replace d r =>
    simp only [exec] at h
    split_ifs at h
    refine Table.lookup_edit (fun rs rs' hr => ?_) h c
    cases rs with
    | nil => simp at hr
    | cons x xs => simpa using hr.symm
  | check d r =>
    simp only [exec] at h
    split_ifs at h
    cases h
    simp [after]
  | delete d r =>
    simp only [exec] at h
    refine Table.lookup_edit (fun rs rs' hr => ?_) h c
    split_ifs at hr
    simpa using hr.symm
  | deleteSecond d =>
    simp only [exec] at h
    refine Table.lookup_edit (fun rs rs' hr => ?_) h c
    rcases rs with _ | ⟨x, _ | ⟨y, ys⟩⟩
    · simp at hr
    · simp at hr
    · simpa using hr.symm
  | flush d => exact Table.lookup_edit (fun _ _ hr => by simpa using hr.symm) h c
  | remove d =>
    simp only [exec] at h
    split at h
    · cases h
    · split_ifs at h
      cases h
      by_cases hc : c = d
      · subst hc
        simp [chain, after]
      · simp [chain, hc, AList.lookup_erase_ne hc]
    · cases h

/-! ## Listings -/

/-- The name `-j` is followed by. -/
def targetText : Target → String
  | .verdict .accept => "ACCEPT"
  | .verdict .drop => "DROP"
  | .verdict .masquerade => "MASQUERADE"
  | .ret => "RETURN"
  | .jump c => c

/-- The name of a protocol. -/
def L4.text : L4 → String
  | .tcp => "tcp"
  | .udp => "udp"
  | .icmp => "icmp"
  | .other => "other"

/-- Flags and the value they take. -/
abbrev Opt := List String × String

/-- The options of a rule in the order of `-S`. -/
def ruleOptions (r : Rule) : List Opt :=
  (r.cond.src.toList.map fun c => (["-s"], renderCidr c)) ++
    (r.cond.dst.toList.map fun c => (["-d"], renderCidr c)) ++
    (r.cond.inIface.toList.map fun n => (["-i"], n)) ++
    (r.cond.outIface.toList.map fun o => (if o.1 then ["!", "-o"] else ["-o"], o.2)) ++
    (r.cond.proto.toList.map fun q => (["-p"], q.text)) ++
    (r.cond.dport.toList.flatMap fun d =>
      [(["-m"], (r.cond.proto.getD .other).text),
       (["--dport"],
        if d.1 = d.2 then renderNat d.1 else renderNat d.1 ++ ":" ++ renderNat d.2)]) ++
    (if r.cond.established then
      [(["-m"], "conntrack"), (["--ctstate"], "RELATED,ESTABLISHED")] else []) ++
    [(["-j"], targetText r.target)]

/-- A line of `iptables -S`. -/
inductive Line where
  | policy (c : String)
  | newChain (c : String)
  | append (c : String) (r : Rule)

/-- The options a line consists of. -/
def Line.options : Line → List Opt
  | .policy c => [(["-P", c], "ACCEPT")]
  | .newChain c => [(["-N"], c)]
  | .append c r => (["-A"], c) :: ruleOptions r

/-- `line.split_whitespace()`: no token the tool prints here has white space in it. -/
def Line.parts (l : Line) : List String := l.options.flatMap fun o => o.1 ++ [o.2]

/-- The characters of a line. -/
def Line.text (l : Line) : List Char := Tokens.line ' ' (l.parts.map String.toList)

/-- `str::contains` on a line. -/
def Line.contains (l : Line) (pattern : String) : Bool := decide (pattern.toList <:+: l.text)

/-- The line that declares a chain. -/
def headLine (c : String) : Line := if c = "FORWARD" then .policy c else .newChain c

/-- `-S c`. -/
def Table.list (t : Table) (c : String) : Except Stderr (List Line) :=
  match t.lookup c with
  | none => .error .noChain
  | some rs => .ok (headLine c :: rs.map (.append c))

/-- `-S`. -/
def Table.listAll (t : Table) : List Line :=
  t.keys.map headLine ++ t.entries.flatMap fun e => e.2.map (.append e.1)

/-! ## Running the tool -/

/-- The tables of a node the networking code works on, and which of the next runs of the tool fail
for a reason of their own. -/
structure NetState where
  filter : Table
  nat : Table
  faults : List Bool

/-- Option `-t`; without it the filter table is meant. -/
inductive TableName where
  | filter
  | nat

/-- The table of that name. -/
def NetState.table (s : NetState) : TableName → Table
  | .filter => s.filter
  | .nat => s.nat

/-- Replace the table of that name. -/
def NetState.setTable (s : NetState) (t : Table) : TableName → NetState
  | .filter => { s with filter := t }
  | .nat => { s with nat := t }

/-- One more run of the tool is over. -/
def NetState.tick (s : NetState) : NetState := { s with faults := s.faults.tail }

/-- Procedures of the networking code. -/
abbrev Net := Proc NetError NetState

/-- Fail if this run of the tool is one of those that fail, otherwise go on with `k`. -/
def runTool {α : Type} (k : NetState → Except Stderr (α × NetState)) : Net α := fun s =>
  if s.faults.head? = some true then (.error (.command .unavailable), s.tick)
  else
    match k s.tick with
    | .error e => (.error (.command e), s.tick)
    | .ok (a, s') => (.ok a, s')

/-- `run_cmd` on a table. -/
def runCmd (tb : TableName) (cmd : Command) : Net Unit :=
  runTool fun s => (cmd.exec (s.table tb)).map fun t => ((), s.setTable t tb)

/-- `run_cmd` with a rule that is still to be read. -/
def runRule (tb : TableName) (cmd : Rule → Command) (a : Args) : Net Unit :=
  match a.read with
  | .error e => Proc.fail (.command e)
  | .ok r => runCmd tb (cmd r)

/-- `run_cmd_capture` of `-S c`. -/
def runList (tb : TableName) (c : String) : Net (List Line) :=
  runTool fun s => ((s.table tb).list c).map fun ls => (ls, s)

/-- `run_cmd_capture` of `-S`. -/
def runListAll : Net (List Line) := runTool fun s => .ok (s.filter.listAll, s)

/-! ### What a run leaves behind -/

/-- No run of the tool is going to fail for a reason of its own. -/
def Quiet (s : NetState) : Prop := true ∉ s.faults

/-- A property of the filter table, together with quiet if `q` asks for it. -/
def OnFilter (q : Prop) (J : Table → Prop) (s : NetState) : Prop := (q → Quiet s) ∧ J s.filter

/-- The command keeps `J` whenever it is accepted. -/
def Command.Safe (J : Table → Prop) (cmd : Command) : Prop :=
  ∀ t t', J t → cmd.exec t = .ok t' → J t'

@[simp] lemma NetState.tick_filter (s : NetState) : s.tick.filter = s.filter := rfl

variable {s : NetState}

lemma Quiet.tick (h : Quiet s) : Quiet s.tick := fun hm => h (List.mem_of_mem_tail hm)

@[simp] lemma NetState.tick_table (s : NetState) (tb : TableName) :
    s.tick.table tb = s.table tb := by
  cases tb <;> rfl

/-- A property that a run without effect leaves alone. -/
class Ticks (P : NetState → Prop) : Prop where
  tick {s : NetState} : P s → P s.tick

instance {q : Prop} {J : Table → Prop} : Ticks (OnFilter q J) :=
  ⟨fun h => ⟨fun hq => (h.1 hq).tick, h.2⟩⟩

variable {s' : NetState}

lemma runTool_ok {k : NetState → Except Stderr (α × NetState)} {a : α}
    (h : runTool k s = (.ok a, s')) : k s.tick = .ok (a, s') := by
  unfold runTool at h
  split_ifs at h
  · simp at h
  · split at h
    · simp at h
    · rename_i hk
      cases h
      exact hk

lemma runTool_error {k : NetState → Except Stderr (α × NetState)}
    (h : runTool k s = (.error e, s')) :
    s' = s.tick ∧ (e = .command .unavailable ∨ ∃ e', k s.tick = .error e' ∧ e = .command e') := by
  unfold runTool at h
  split_ifs at h
  · cases h
    exact ⟨rfl, .inl rfl⟩
  · split at h
    · rename_i e' hk
      cases h
      exact ⟨rfl, .inr ⟨e', hk, rfl⟩⟩
    · simp at h

variable {u : Unit} {tb : TableName}

lemma runCmd_run (h : runCmd tb cmd s = (.ok u, s')) :
    ∃ t, cmd.exec (s.table tb) = .ok t ∧ s' = s.tick.setTable t tb := by
  have h := runTool_ok h
  rw [NetState.tick_table] at h
  cases ht : cmd.exec (s.table tb) with
  | error e => simp [ht, Except.map] at h
  | ok t =>
    simp only [ht, Except.map, Except.ok.injEq, Prod.mk.injEq] at h
    exact ⟨t, rfl, h.2.symm⟩

lemma runCmd_ok_table (h : runCmd tb cmd s = (.ok u, s')) :
    cmd.exec (s.table tb) = .ok (s'.table tb) := by
  obtain ⟨t, ht, rfl⟩ := runCmd_run h
  cases tb <;> exact ht

lemma runCmd_ok (h : runCmd .filter cmd s = (.ok u, s')) : cmd.exec s.filter = .ok s'.filter :=
  runCmd_ok_table h

lemma runCmd_error (h : runCmd .filter cmd s = (.error e, s')) :
    s'.filter = s.filter ∧
      (e = .command .unavailable ∨ ∃ e', cmd.exec s.filter = .error e' ∧ e = .command e') := by
  obtain ⟨rfl, he⟩ := runTool_error h
  refine ⟨rfl, he.imp_right ?_⟩
  rintro ⟨e', hk, rfl⟩
  refine ⟨e', ?_, rfl⟩
  simp only [NetState.table, NetState.tick_filter] at hk
  cases ht : cmd.exec s.filter with
  | error e => simpa [ht, Except.map] using hk
  | ok t => simp [ht, Except.map] at hk

lemma runRule_eq {cmd : Rule → Command} (h : a.read = .ok r) :
    runRule tb cmd a = runCmd tb (cmd r) := by
  simp [runRule, h]

lemma runRule_ok {cmd : Rule → Command} (h : runRule tb cmd a s = (.ok u, s')) :
    ∃ r, a.read = .ok r ∧ runCmd tb (cmd r) s = (.ok u, s') := by
  unfold runRule at h
  cases hr : a.read with
  | error e => simp [hr] at h
  | ok r =>
    rw [hr] at h
    exact ⟨r, rfl, h⟩

lemma runList_ok_table {ls : List Line} (h : runList tb c s = (.ok ls, s')) :
    s' = s.tick ∧ ∃ rs, (s.table tb).lookup c = some rs ∧
      ls = headLine c :: rs.map (.append c) := by
  have h := runTool_ok h
  rw [NetState.tick_table, Table.list] at h
  cases hl : (s.table tb).lookup c with
  | none => simp [hl, Except.map] at h
  | some rs =>
    simp only [hl, Except.map, Except.ok.injEq, Prod.mk.injEq] at h
    exact ⟨h.2.symm, rs, rfl, h.1.symm⟩

lemma runList_ok {ls : List Line} (h : runList .filter c s = (.ok ls, s')) :
    s'.filter = s.filter ∧
      ∃ rs, s.filter.lookup c = some rs ∧ ls = headLine c :: rs.map (.append c) := by
  obtain ⟨rfl, hrs⟩ := runList_ok_table h
  exact ⟨rfl, hrs⟩

section Keeps

variable {P : NetState → Prop} {q : Prop} {J : Table → Prop}

lemma keeps_runRule {cmd : Rule → Command}
    (h : ∀ r, a.read = .ok r → Proc.Keeps P (runCmd tb (cmd r))) :
    Proc.Keeps P (runRule tb cmd a) := by
  unfold runRule
  split
  · exact fun _ hs => hs
  · rename_i r hr
    exact h r hr

variable [Ticks P]

lemma keeps_runTool {α : Type} {k : NetState → Except Stderr (α × NetState)}
    (h : ∀ s a s', k s = .ok (a, s') → P s → P s') : Proc.Keeps P (runTool k) := by
  intro s hs
  rcases hr : runTool k s with ⟨e | a, s'⟩
  · rw [(runTool_error hr).1]
    exact Ticks.tick hs
  · exact h _ a s' (runTool_ok hr) (Ticks.tick hs)

lemma runCmd_of (hs : P s) (h : ∀ t, cmd.exec (s.table tb) = .ok t → P (s.tick.setTable t tb)) :
    P (runCmd tb cmd s).2 := by
  rcases hr : runCmd tb cmd s with ⟨e | u, s'⟩
  · rw [(runTool_error hr).1]
    exact Ticks.tick hs
  · obtain ⟨t, ht, rfl⟩ := runCmd_run hr
    exact h t ht

lemma keeps_runList (tb : TableName) (c : String) : Proc.Keeps P (runList tb c) := by
  refine keeps_runTool fun s ls s' hk hs => ?_
  cases hl : (s.table tb).list c with
  | error e => simp [hl, Except.map] at hk
  | ok ls' =>
    simp only [hl, Except.map, Except.ok.injEq, Prod.mk.injEq] at hk
    rw [← hk.2]
    exact hs

lemma keeps_runListAll : Proc.Keeps P runListAll := by
  refine keeps_runTool fun s ls s' hk hs => ?_
  simp only [Except.ok.injEq, Prod.mk.injEq] at hk
  rw [← hk.2]
  exact hs

lemma keeps_runCmd (h : cmd.Safe J) : Proc.Keeps (OnFilter q J) (runCmd .filter cmd) :=
  fun _ hs => runCmd_of hs fun t ht => ⟨fun hq => (hs.1 hq).tick, h _ t hs.2 ht⟩

/-- Commands on the other table. -/
lemma keeps_runNat (cmd : Command) : Proc.Keeps (OnFilter q J) (runCmd .nat cmd) :=
  fun _ hs => runCmd_of hs fun _ _ => ⟨fun hq => (hs.1 hq).tick, hs.2⟩

end Keeps

/-- Whether a chain exists, and with which rules, is only changed by commands about it. -/
lemma Command.safe_lookup {v : Option (List Rule)} (h : c ≠ cmd.chain) :
    cmd.Safe fun t => t.lookup c = v := by
  intro t t' ht he
  rw [lookup_exec he, if_neg h]
  exact ht

/-- A node on which nothing is set up: the built-in chains are there and empty. -/
def NetState.fresh (faults : List Bool) : NetState where
  filter := (∅ : Table).insert "FORWARD" []
  nat := (∅ : Table).insert "POSTROUTING" []
  faults := faults

end Qarax
