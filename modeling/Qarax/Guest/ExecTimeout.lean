import Mathlib.Data.List.Basic
import Mathlib.Order.MinMax
import Mathlib.Tactic.Common

/-!
# `qarax-init/src/main.rs`: the timeout of a command in a guest

`serve_exec_connection` starts a command, waits for its exit, kills it when the time is up, and then
waits for the two threads that read its output.  A reader ends when every process that has the pipe
has closed it.  The command itself is gone by then, but the kill does not reach its descendants.

* `serveExecConnection` — the connection once the request line has been read, with all its returns.
* `responds_within_iff` — a response comes within a bounded time after the timeout exactly if no
  command is started or every descendant has closed the pipes by then.
-/

namespace Qarax.GuestExec

/-! ## Processes

All times are seconds since the command was started. -/

structure ExecRequest where
  command : List String
  timeoutSecs : Option Nat

structure ExecResponse where
  exitCode : Int
  stdout : String := ""
  stderr : String := ""
  timedOut : Bool := false
  deriving DecidableEq

/-- A descendant of the command that has write ends of the pipes, and when it is gone or has closed
them. -/
structure Holder where
  stdout : Bool
  stderr : Bool
  closes : Option Nat

/-- What the processes do. -/
structure Behaviour where
  /-- The error of `spawn`. -/
  spawnError : Option String := none
  /-- When the command ends if it is not killed. -/
  ends : Option Nat
  /-- How long after the end of the command its waiter is told, and of which code (`none`: the
  channel is disconnected). -/
  report : Option (Nat × Option Int)
  descendants : List Holder
  /-- What is written to the pipes. -/
  output : String × String

/-! ## The connection -/

/-- `recv_timeout`: what arrives by then. -/
def recvTimeout {α : Type} (arrives : Option (Nat × α)) (deadline : Nat) : Option (Nat × α) :=
  arrives.filter (·.1 ≤ deadline)

/-- `read_to_end`: when the last one closes. -/
def readToEnd : List (Option Nat) → Option Nat
  | [] => some 0
  | closes :: rest => do
      let t ← closes
      (readToEnd rest).map (max t)

namespace Behaviour

/-- What the waiter is told of a command that has ended on its own. -/
def exit (b : Behaviour) : Option (Nat × Option Int) := do
  let t ← b.ends
  let (delay, code) ← b.report
  some (t + delay, code)

/-- What it is told of one that was killed; the kill may have come too late. -/
def killed (b : Behaviour) (timeout : Nat) : Option (Nat × Option Int) := do
  let (delay, code) ← b.report
  match b.ends.filter (· ≤ timeout) with
  | some t => some (t + delay, code)
  -- 128 + SIGKILL
  | none => some (timeout + delay, code.map fun _ => 137)

/-- The wait for the exit code: until when, with what, and when the command was gone. -/
def wait (b : Behaviour) : Option Nat → Option (Nat × ExecResponse × Option Nat)
  | none => b.exit.map fun (t, code) => (t, { exitCode := code.getD 1 }, b.ends)
  | some timeout => match recvTimeout b.exit timeout with
    | some (t, code) => some (t, { exitCode := code.getD 1 }, b.ends)
    | none =>
      let gone := some ((b.ends.filter (· ≤ timeout)).getD timeout)
      match recvTimeout (b.killed timeout) (timeout + 5) with
      | some (t, code) =>
        some (max timeout t, { exitCode := code.getD 124, timedOut := true }, gone)
      | none => some (timeout + 5, { exitCode := 124, timedOut := true }, gone)

/-- When the reader of one of the pipes has read everything. -/
def eof (b : Behaviour) (gone : Option Nat) (pipe : Holder → Bool) : Option Nat :=
  readToEnd (gone :: (b.descendants.filter pipe).map (·.closes))

end Behaviour

/-- `serve_exec_connection` after it has read the request: when it responds, if it does. -/
def serveExecConnection (b : Behaviour) (request : ExecRequest) : Option (Nat × ExecResponse) :=
  match request.command, b.spawnError with
  | [], _ => some (0, { exitCode := 2, stderr := "command must not be empty" })
  | program :: _, some e =>
    some (0, { exitCode := 127, stderr := s!"failed to spawn '{program}': {e}" })
  | _ :: _, none => do
    let (waited, response, gone) ← b.wait request.timeoutSecs
    let stdout ← b.eof gone (·.stdout)
    let stderr ← b.eof gone (·.stderr)
    some (max waited (max stdout stderr),
      { response with stdout := b.output.1, stderr := b.output.2 })

/-! ## The bound -/

variable {b : Behaviour} {timeout n : Nat}

lemma readToEnd_le : ∀ {closes : List (Option Nat)},
    (∃ t, readToEnd closes = some t ∧ t ≤ n) ↔ ∀ c ∈ closes, ∃ t, c = some t ∧ t ≤ n
  | [] => by simp [readToEnd]
  | none :: rest => by simp [readToEnd]
  | some t :: rest => by
      rw [List.forall_mem_cons, ← readToEnd_le]
      cases h : readToEnd rest <;> simp [readToEnd, h]

/-- A command that is gone holds up no reader. -/
lemma eof_le {pipe : Holder → Bool} {gone : Nat} (hgone : gone ≤ n) :
    (∃ t, b.eof (some gone) pipe = some t ∧ t ≤ n) ↔
      ∀ p ∈ b.descendants, pipe p = true → ∃ t, p.closes = some t ∧ t ≤ n := by
  simp only [Behaviour.eof, readToEnd_le, List.forall_mem_cons, Option.some.injEq, exists_eq_left',
    hgone, true_and, List.forall_mem_map, List.mem_filter, and_imp]

lemma recvTimeout_le {α : Type} {arrives : Option (Nat × α)} {w : Nat × α}
    (h : recvTimeout arrives n = some w) : arrives = some w ∧ w.1 ≤ n := by
  obtain ⟨harrives, hle⟩ := Option.filter_eq_some_iff.1 h
  exact ⟨harrives, of_decide_eq_true hle⟩

/-- With a timeout the wait for the code ends, the grace period after it at the latest, and the
command is gone. -/
lemma wait_le : ∃ waited response gone, b.wait (some timeout) = some (waited, response, some gone) ∧
    waited ≤ timeout + 5 ∧ gone ≤ timeout := by
  rw [Behaviour.wait]
  cases hexit : recvTimeout b.exit timeout with
  | some w =>
    obtain ⟨htold, hle⟩ := recvTimeout_le hexit
    obtain ⟨t, hends, htold⟩ := Option.bind_eq_some_iff.1 htold
    obtain ⟨⟨delay, code⟩, -, htold⟩ := Option.bind_eq_some_iff.1 htold
    cases htold
    refine ⟨_, _, t, by rw [hends], hle.trans (Nat.le_add_right _ _), ?_⟩
    exact (Nat.le_add_right t delay).trans hle
  | none =>
    have hgone : (b.ends.filter (· ≤ timeout)).getD timeout ≤ timeout := by
      cases hends : b.ends.filter (· ≤ timeout) with
      | none => exact le_rfl
      | some t => exact of_decide_eq_true (Option.filter_eq_some_iff.1 hends).2
    cases hkilled : recvTimeout (b.killed timeout) (timeout + 5) with
    | some w =>
      exact ⟨_, _, _, rfl, max_le (Nat.le_add_right _ _) (recvTimeout_le hkilled).2, hgone⟩
    | none => exact ⟨_, _, _, rfl, le_rfl, hgone⟩

/-- **The timeout is honoured**, up to the grace period and any delay, exactly when no command is
started or every descendant of it with one of the pipes has closed it by then. -/
theorem responds_within_iff {command : List String} {delay : Nat} :
    (∃ t response, serveExecConnection b ⟨command, some timeout⟩ = some (t, response) ∧
        t ≤ timeout + 5 + delay) ↔
      command = [] ∨ b.spawnError.isSome = true ∨
        ∀ p ∈ b.descendants, (p.stdout || p.stderr) = true →
          ∃ t, p.closes = some t ∧ t ≤ timeout + 5 + delay := by
  match command, hspawn : b.spawnError with
  | [], _ => simp [serveExecConnection]
  | program :: args, some e => simp [serveExecConnection, hspawn]
  | program :: args, none =>
    obtain ⟨waited, response, gone, hwait, hle, hgone⟩ := @wait_le b timeout
    have hle : waited ≤ timeout + 5 + delay := hle.trans (Nat.le_add_right _ _)
    have hgone : gone ≤ timeout + 5 + delay := by omega
    simp only [reduceCtorEq, Option.isSome_none, Bool.false_eq_true, false_or]
    trans (∃ t, b.eof (some gone) (·.stdout) = some t ∧ t ≤ timeout + 5 + delay) ∧
      ∃ t, b.eof (some gone) (·.stderr) = some t ∧ t ≤ timeout + 5 + delay
    · cases hout : b.eof (some gone) (·.stdout) <;> cases herr : b.eof (some gone) (·.stderr) <;>
        simp [serveExecConnection, hspawn, hwait, hout, herr, hle]
    · rw [eof_le hgone, eof_le hgone, ← forall₂_and]
      simp only [Bool.or_eq_true, or_imp]

/-- A shell that exits at once and leaves a process in the background. -/
def background (closes : Option Nat) : Behaviour where
  ends := some 0
  report := some (0, some 0)
  descendants := [⟨true, false, closes⟩]
  output := ("", "")

/-- **There is no response while a descendant has the pipe**; for one that never ends there is none
at all. -/
theorem background_process_delays_response :
    serveExecConnection (background (some 3600)) ⟨["sh", "-c", "sleep 3600 &"], some 10⟩
        = some (3600, { exitCode := 0 }) ∧
      serveExecConnection (background none) ⟨["sh", "-c", "sleep infinity &"], some 10⟩ = none := by
  decide

end Qarax.GuestExec
