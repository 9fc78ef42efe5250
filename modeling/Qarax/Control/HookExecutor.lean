import Qarax.Core.Interleave
import Qarax.Core.Records
import Qarax.Control.Vms

/-!
# The webhook executor

Changes of a VM's status are queued in `hook_executions`, and a background task of every replica of
the control plane delivers them: it claims what is due, marking the rows PROCESSING, and each
claimed execution is delivered by a task of its own, which looks the hook up, makes one HTTP
request, and marks the row.  When a replica starts it sets all PROCESSING rows back to PENDING, to
recover those of a crashed one, and the marks name the row by its id only.

Replicas start and crash at any time.  `sent` is every HTTP request made so far, and `enqueued`
every execution that ever was, with its `max_attempts`; both are kept for the property.

* `claimPendingExecutions`, `resetProcessingToPending`, `Mark.apply` — the statements on the table.
* `deliverNext`, `handleFailure` — `deliver_hook`, one step at a time.
* `step` — replicas, their deliveries, and the table.
* `quiet` — nothing that is under way or uncounted is reset.
-/

namespace Qarax

namespace Hooks

open Machine

/-! ## Tables -/

inductive HookExecutionStatus where
  | pending
  | processing
  | delivered
  | failed
  deriving DecidableEq

structure LifecycleHook where
  id : Uuid
  url : String
  secret : Option String

structure HookExecution where
  id : Uuid
  hookId : Uuid
  status : HookExecutionStatus
  attemptCount : ℕ
  maxAttempts : ℕ
  nextRetryAt : ℕ
  payload : String
  responseStatus : Option ℕ
  responseBody : Option String
  lastError : Option String
  deliveredAt : Option ℕ

/-- A new row has the defaults of the table. -/
def HookExecution.new (id hookId : Uuid) (payload : String) (now : ℕ) : HookExecution :=
  ⟨id, hookId, .pending, 0, 5, now, payload, none, none, none, none⟩

/-- The rows that are due and not locked by another statement, earliest first. -/
def dueExecutions (executions : List HookExecution) (locked : List Uuid) (now limit : ℕ) :
    List HookExecution :=
  ((executions.filter fun x => x.status = .pending && x.nextRetryAt ≤ now && x.id ∉ locked)
    |>.insertionSort fun x y => x.nextRetryAt ≤ y.nextRetryAt).take limit

/-- Marks the due rows PROCESSING. -/
def claimPendingExecutions (executions : List HookExecution) (due : List Uuid) :
    List HookExecution :=
  executions.map fun x => if x.id ∈ due then { x with status := .processing } else x

def resetProcessingToPending (executions : List HookExecution) : List HookExecution :=
  executions.map fun x => if x.status = .processing then { x with status := .pending } else x

inductive Mark where
  | delivered (responseStatus : ℕ) (responseBody : Option String)
  | retry (error : String) (nextRetryAt : ℕ)
  | failed (error : String)

/-- `mark_delivered`, `mark_retry`, `mark_failed` on a row. -/
def Mark.write (now : ℕ) (x : HookExecution) : Mark → HookExecution
  | .delivered responseStatus responseBody =>
    { x with status := .delivered, attemptCount := x.attemptCount + 1,
             responseStatus := some responseStatus, responseBody, deliveredAt := some now }
  | .retry error nextRetryAt =>
    { x with status := .pending, attemptCount := x.attemptCount + 1, lastError := some error,
             nextRetryAt }
  | .failed error =>
    { x with status := .failed, lastError := some error, attemptCount := x.attemptCount + 1 }

/-- The row is named by its id only. -/
def Mark.apply (m : Mark) (id : Uuid) (now : ℕ) (executions : List HookExecution) :
    List HookExecution :=
  Rows.update HookExecution.id id (fun x => m.write now x) executions

/-! ## `deliver_hook` -/

def backoffSecs : List ℕ := [5, 30, 120, 600, 1800]

def handleFailure (execution : HookExecution) (error : String) (now : ℕ) : Mark :=
  let nextAttempt := execution.attemptCount + 1
  if nextAttempt ≥ execution.maxAttempts then .failed error
  else
    let backoffIdx := min nextAttempt (backoffSecs.length - 1)
    .retry error (now + backoffSecs.getD backoffIdx 0)

/-- Where a delivery is. -/
inductive Stage where
  | lookup
  | send (hook : LifecycleHook)
  /-- The request is under way. -/
  | sent
  | mark (mark : Mark)

/-- What comes of a statement or of the request. -/
inductive Answer where
  | ok
  | error (message : String)
  | response (status : ℕ) (body : Option String)
  deriving DecidableEq

def rowNotFound : String := "no rows returned by a query that expected to return at least one row"

/-- The stages after the lookup and after the request; `execution` is the row as it was claimed. -/
def afterLookup (hooks : List LifecycleHook) (execution : HookExecution) : Answer → Option Stage
  | .ok =>
    match hooks.find? (·.id = execution.hookId) with
    | some hook => some (.send hook)
    | none => some (.mark (.failed s!"hook not found: {rowNotFound}"))
  | .error message => some (.mark (.failed s!"hook not found: {message}"))
  | .response _ _ => none

def afterRequest (execution : HookExecution) (now : ℕ) : Answer → Option Stage
  | .ok => none
  | .error message => some (.mark (handleFailure execution s!"request error: {message}" now))
  | .response status body =>
    if 200 ≤ status ∧ status < 300 then some (.mark (.delivered status body))
    else
      let respBody := body.getD ""
      some (.mark (handleFailure execution s!"HTTP {status}: {respBody}" now))

structure Request where
  executionId : Uuid
  url : String
  event : String
  signature : Option String
  body : String

/-- The request; `sign` is the hex text of the HMAC of a body under a secret. -/
def request (sign : String → String → String) (hook : LifecycleHook) (execution : HookExecution) :
    Request where
  executionId := execution.id
  url := hook.url
  event := "vm.status_changed"
  signature := hook.secret.map fun secret => "sha256=" ++ sign secret execution.payload
  body := execution.payload

/-! ## Replicas -/

structure Executor where
  id : ℕ
  /-- It has made its reset, and claims. -/
  ready : Bool

structure Delivery where
  executor : ℕ
  execution : HookExecution
  stage : Stage

structure Queue where
  hooks : List LifecycleHook
  executions : List HookExecution
  executors : List Executor
  deliveries : List Delivery
  enqueued : List (Uuid × ℕ)
  sent : List Request

/-- The HTTP requests made for an execution. -/
def Queue.attempts (s : Queue) (id : Uuid) : ℕ := s.sent.countP (·.executionId = id)

inductive Act where
  /-- `enqueue_matching`, with the hooks that match and the ids their rows get. -/
  | enqueue (rows : List (Uuid × Uuid)) (payload : String) (now : ℕ)
  | createHook (hook : LifecycleHook)
  | deleteHook (id : Uuid)
  | start (executor : ℕ)
  | reset (executor : ℕ) (ok : Bool)
  | claim (executor : ℕ) (locked : List Uuid) (now : ℕ)
  | deliver (i : ℕ) (answer : Answer) (now : ℕ)
  | crash (executor : ℕ)

def claimLimit : ℕ := 20

/-- The next step of a delivery. -/
def deliverNext (sign : String → String → String) (s : Queue) (i : ℕ) (d : Delivery)
    (answer : Answer) (now : ℕ) : Option Queue :=
  match d.stage with
  | .lookup => (afterLookup s.hooks d.execution answer).map fun stage =>
    { s with deliveries := s.deliveries.set i { d with stage } }
  | .send hook => some { s with
      sent := request sign hook d.execution :: s.sent
      deliveries := s.deliveries.set i { d with stage := .sent } }
  | .sent => (afterRequest d.execution now answer).map fun stage =>
    { s with deliveries := s.deliveries.set i { d with stage } }
  | .mark mark => some { s with
      -- an error of the mark is ignored
      executions :=
        if answer = .ok then mark.apply d.execution.id now s.executions else s.executions
      deliveries := s.deliveries.eraseIdx i }

def step (sign : String → String → String) (s : Queue) : Act → Option Queue
  | .enqueue rows payload now =>
    if (rows.map Prod.fst).Nodup ∧ (∀ r ∈ rows, r.1 ∉ s.enqueued.map Prod.fst) ∧
      ∀ r ∈ rows, r.2 ∈ s.hooks.map LifecycleHook.id then
      let new := rows.map fun r => HookExecution.new r.1 r.2 payload now
      some { s with
        executions := s.executions ++ new
        enqueued := s.enqueued ++ new.map fun x => (x.id, x.maxAttempts) }
    else none
  | .createHook hook =>
    if hook.id ∈ s.hooks.map LifecycleHook.id then none
    else some { s with hooks := s.hooks ++ [hook] }
  | .deleteHook id => some { s with
      hooks := s.hooks.filter (·.id ≠ id), executions := s.executions.filter (·.hookId ≠ id) }
  | .start e =>
    if e ∈ s.executors.map Executor.id then none
    else some { s with executors := s.executors ++ [⟨e, false⟩] }
  | .reset e ok =>
    if s.executors.any fun x => x.id = e && !x.ready then some { s with
      executors := Rows.update Executor.id e (fun x => { x with ready := true }) s.executors
      executions := if ok then resetProcessingToPending s.executions else s.executions }
    else none
  | .claim e locked now =>
    if s.executors.any fun x => x.id = e && x.ready then
      let due := dueExecutions s.executions locked now claimLimit
      some { s with
        executions := claimPendingExecutions s.executions (due.map HookExecution.id)
        deliveries := s.deliveries ++
          due.map fun x => ⟨e, { x with status := .processing }, .lookup⟩ }
    else none
  | .deliver i answer now => s.deliveries[i]?.bind fun d => deliverNext sign s i d answer now
  | .crash e => some { s with
      executors := s.executors.filter (·.id ≠ e)
      deliveries := s.deliveries.filter (·.executor ≠ e) }

/-- **Nothing under way or uncounted is reset.**  When a replica that starts sets the PROCESSING
rows back, no running replica delivers one of them, and their HTTP requests are all counted. -/
def quiet (s : Queue) : Act → Bool
  | .reset _ true => s.executions.all fun x =>
    x.status ≠ .processing ||
      (s.deliveries.all fun d => d.execution.id ≠ x.id) && s.attempts x.id ≤ x.attemptCount
  | _ => true

/-! ## What a delivery relies on -/

/-- The HTTP requests a delivery may have made. -/
def Stage.requests : Stage → ℕ
  | .lookup | .send _ => 0
  | .sent | .mark _ => 1

/-- The row of a delivery, if it is still there, is PROCESSING and as it was claimed. -/
structure Own (s : Queue) (d : Delivery) : Prop where
  known : (d.execution.id, d.execution.maxAttempts) ∈ s.enqueued
  left : d.execution.attemptCount < d.execution.maxAttempts
  attempts : s.attempts d.execution.id ≤ d.execution.attemptCount + d.stage.requests
  row : ∀ x ∈ s.executions, x.id = d.execution.id →
    x.status = .processing ∧ x.attemptCount = d.execution.attemptCount
  retry : ∀ error nextRetryAt, d.stage = .mark (.retry error nextRetryAt) →
    d.execution.attemptCount + 1 < d.execution.maxAttempts

def HookExecution.key (x : HookExecution) : Uuid × ℕ := (x.id, x.maxAttempts)

def HookExecution.settled (x : HookExecution) : Prop := x.status = .delivered ∨ x.status = .failed

structure Orderly (s : Queue) : Prop where
  ids : (s.executions.map HookExecution.id).Nodup
  keys : (s.enqueued.map Prod.fst).Nodup
  known : ∀ x ∈ s.executions, x.key ∈ s.enqueued
  requests : ∀ q ∈ s.sent, q.executionId ∈ s.enqueued.map Prod.fst
  bounded : ∀ e ∈ s.enqueued, s.attempts e.1 ≤ e.2
  pending : ∀ x ∈ s.executions, x.status = .pending → s.attempts x.id ≤ x.attemptCount
  left : ∀ x ∈ s.executions, ¬ x.settled → x.attemptCount < x.maxAttempts
  apart : (s.deliveries.map (·.execution.id)).Nodup
  own : ∀ d ∈ s.deliveries, Own s d

variable {now i : ℕ} {answer : Answer} {stage : Stage}

section Steps

variable {sign : String → String → String} {s s' : Queue} {d : Delivery} {x : HookExecution}

lemma not_settled_of_pending (h : x.status = .pending) : ¬ x.settled := by
  simp [HookExecution.settled, h]

lemma not_settled_of_processing (h : x.status = .processing) : ¬ x.settled := by
  simp [HookExecution.settled, h]

/-- A delivery goes on relying on its row when neither the row nor its requests change. -/
lemma Own.mono (h : Own s d) (henqueued : s.enqueued ⊆ s'.enqueued)
    (hattempts : s'.attempts d.execution.id = s.attempts d.execution.id)
    (hrows : ∀ x ∈ s'.executions, x.id = d.execution.id → x ∈ s.executions) : Own s' d :=
  ⟨henqueued h.known, h.left, hattempts ▸ h.attempts, fun x hx hid => h.row x (hrows x hx hid) hid,
    h.retry⟩

variable (h : Orderly s)

include h

lemma Orderly.eq_of_id {y : HookExecution} (hx : x ∈ s.executions)
    (hy : y ∈ s.executions) (hid : x.id = y.id) : x = y :=
  List.inj_on_of_nodup_map h.ids hx hy hid

lemma Orderly.max_eq {id : Uuid} {m n : ℕ} (hm : (id, m) ∈ s.enqueued)
    (hn : (id, n) ∈ s.enqueued) : m = n :=
  congrArg Prod.snd (List.inj_on_of_nodup_map h.keys hm hn rfl)

lemma attempts_of_not_enqueued {id : Uuid} (hid : id ∉ s.enqueued.map Prod.fst) :
    s.attempts id = 0 := by
  refine List.countP_eq_zero.2 fun q hq heq => hid ?_
  exact of_decide_eq_true heq ▸ h.requests q hq

lemma orderly_enqueue {rows : List (Uuid × Uuid)} {payload : String}
    (hs : step sign s (.enqueue rows payload now) = some s') : Orderly s' := by
  simp only [step] at hs
  split_ifs at hs with hnew
  obtain ⟨hnodup, hfresh, -⟩ := hnew
  cases hs
  set new := rows.map fun r => HookExecution.new r.1 r.2 payload now with hdef
  have hids : new.map HookExecution.id = rows.map Prod.fst := by rw [hdef, List.map_map]; rfl
  have hmem {x : HookExecution} (hx : x ∈ new) :
      x.id ∉ s.enqueued.map Prod.fst ∧ x.status = .pending ∧ x.attemptCount = 0 ∧
        x.maxAttempts = 5 := by
    obtain ⟨r, hr, rfl⟩ := List.mem_map.1 hx
    exact ⟨hfresh r hr, rfl, rfl, rfl⟩
  have hnone {x : HookExecution} (hx : x ∈ new) : s.attempts x.id = 0 :=
    attempts_of_not_enqueued h (hmem hx).1
  refine ⟨?_, ?_, ?_, ?_, ?_, ?_, ?_, h.apart, fun d hd => ?_⟩
  · rw [List.map_append, hids]
    refine h.ids.append hnodup fun id hid hid' => ?_
    obtain ⟨x, hx, rfl⟩ := List.mem_map.1 hid
    obtain ⟨r, hr, hrx⟩ := List.mem_map.1 hid'
    exact hfresh r hr (hrx ▸ List.mem_map_of_mem (h.known x hx))
  · rw [List.map_append, List.map_map]
    refine h.keys.append (by simpa [Function.comp_def, hids] using hnodup) fun id hid hid' => ?_
    obtain ⟨x, hx, rfl⟩ := List.mem_map.1 hid'
    exact (hmem hx).1 hid
  · intro x hx
    rcases List.mem_append.1 hx with hx | hx
    · exact List.mem_append_left _ (h.known x hx)
    · exact List.mem_append_right _ (List.mem_map_of_mem hx)
  · intro q hq
    rw [List.map_append]
    exact List.mem_append_left _ (h.requests q hq)
  · intro e he
    rcases List.mem_append.1 he with he | he
    · exact h.bounded e he
    · obtain ⟨x, hx, rfl⟩ := List.mem_map.1 he
      exact (hnone hx).trans_le (Nat.zero_le _)
  · intro x hx hpending
    rcases List.mem_append.1 hx with hx | hx
    · exact h.pending x hx hpending
    · exact (hnone hx).trans_le (Nat.zero_le _)
  · intro x hx hopen
    rcases List.mem_append.1 hx with hx | hx
    · exact h.left x hx hopen
    · obtain ⟨-, -, hcount, hmax⟩ := hmem hx
      omega
  · have hd' := h.own d hd
    refine hd'.mono (List.subset_append_left _ _) rfl fun x hx hid => ?_
    rcases List.mem_append.1 hx with hx | hx
    · exact hx
    · exact absurd (hid ▸ List.mem_map_of_mem hd'.known) (hmem hx).1

variable {deliveries : List Delivery} {f : HookExecution → HookExecution} {due : List HookExecution}
  {a : Act}

/-- Rows are written or deleted, and deliveries come, go on and end, without a request or a new
row. -/
lemma Orderly.change (hooks : List LifecycleHook) (executors : List Executor)
    {executions : List HookExecution}
    (hkeys : (executions.map HookExecution.key).Sublist (s.executions.map HookExecution.key))
    (hpending : ∀ x ∈ executions, x.status = .pending → s.attempts x.id ≤ x.attemptCount)
    (hleft : ∀ x ∈ executions, ¬ x.settled → x.attemptCount < x.maxAttempts)
    (hapart : (deliveries.map (·.execution.id)).Nodup)
    (hown : ∀ d ∈ deliveries, Own { s with executions } d) :
    Orderly { s with hooks, executors, executions, deliveries } := by
  have hmap (l : List HookExecution) :
      l.map HookExecution.id = (l.map HookExecution.key).map Prod.fst := by
    rw [List.map_map]
    rfl
  refine ⟨?_, h.keys, fun x hx => ?_, h.requests, h.bounded, hpending, hleft, hapart,
    fun d hd => (hown d hd).mono (List.Subset.refl _) rfl fun x hx _ => hx⟩
  · rw [hmap]
    refine List.Nodup.sublist (hkeys.map _) ?_
    rw [← hmap]
    exact h.ids
  · obtain ⟨y, hy, hkey⟩ := List.mem_map.1 (hkeys.subset (List.mem_map_of_mem hx))
    exact hkey ▸ h.known y hy

/-- Only deliveries change. -/
lemma Orderly.move (executors : List Executor)
    (hapart : (deliveries.map (·.execution.id)).Nodup) (hown : ∀ d ∈ deliveries, Own s d) :
    Orderly { s with executors, deliveries } :=
  h.change s.hooks executors (.refl _) h.pending h.left hapart hown

lemma orderly_deleteHook (id : Uuid) : Orderly { s with
    hooks := s.hooks.filter (·.id ≠ id), executions := s.executions.filter (·.hookId ≠ id) } := by
  have hsub {x : HookExecution} (hx : x ∈ s.executions.filter (·.hookId ≠ id)) :
      x ∈ s.executions := (List.mem_filter.1 hx).1
  exact h.change _ s.executors (List.filter_sublist.map _) (fun x hx => h.pending x (hsub hx))
    (fun x hx => h.left x (hsub hx)) h.apart
    fun d hd => (h.own d hd).mono (List.Subset.refl _) rfl fun x hx _ => hsub hx

omit h in
lemma map_key_of_status (hf : ∀ x, (f x).key = x.key)
    (l : List HookExecution) : (l.map f).map HookExecution.key = l.map HookExecution.key := by
  rw [List.map_map]
  exact List.map_congr_left fun x _ => hf x

lemma orderly_reset {e : ℕ} (hquiet : quiet s (.reset e true) = true)
    (executors : List Executor) :
    Orderly { s with executors, executions := resetProcessingToPending s.executions } := by
  have hrow {x : HookExecution} (hx : x ∈ s.executions) (hp : x.status = .processing) :
      (∀ d ∈ s.deliveries, d.execution.id ≠ x.id) ∧ s.attempts x.id ≤ x.attemptCount := by
    have := List.all_eq_true.1 hquiet x hx
    simpa [hp] using this
  refine h.change s.hooks executors ?_ ?_ ?_ h.apart fun d hd => ?_
  · rw [resetProcessingToPending, map_key_of_status]
    intro x
    split_ifs <;> rfl
  · intro x' hx' hpending
    obtain ⟨x, hx, rfl⟩ := List.mem_map.1 hx'
    split_ifs at hpending ⊢ with hp
    · exact (hrow hx hp).2
    · exact h.pending x hx hpending
  · intro x' hx' hopen
    obtain ⟨x, hx, rfl⟩ := List.mem_map.1 hx'
    split_ifs at hopen ⊢ with hp
    · exact h.left x hx (not_settled_of_processing hp)
    · exact h.left x hx hopen
  · refine (h.own d hd).mono (List.Subset.refl _) rfl fun x' hx' hid => ?_
    obtain ⟨x, hx, rfl⟩ := List.mem_map.1 hx'
    split_ifs at hid ⊢ with hp
    · exact absurd hid.symm ((hrow hx hp).1 d hd)
    · exact hx

omit h in
lemma mem_dueExecutions {locked : List Uuid} {limit : ℕ}
    (hx : x ∈ dueExecutions s.executions locked now limit) :
    x ∈ s.executions ∧ x.status = .pending := by
  have hx' := List.mem_filter.1 ((List.mem_insertionSort _).1 (List.mem_of_mem_take hx))
  simp only [Bool.and_eq_true, decide_eq_true_eq] at hx'
  exact ⟨hx'.1, hx'.2.1.1⟩

lemma nodup_dueExecutions (locked : List Uuid) (now limit : ℕ) :
    ((dueExecutions s.executions locked now limit).map HookExecution.id).Nodup := by
  refine List.Nodup.sublist ((List.take_sublist _ _).map _) ?_
  refine (List.Perm.nodup_iff ((List.perm_insertionSort _ _).map _)).2 ?_
  exact h.ids.sublist (List.filter_sublist.map _)

lemma Orderly.pending_of_due (hdue : ∀ x ∈ due, x ∈ s.executions ∧ x.status = .pending)
    (hx : x ∈ s.executions)
    (hid : x.id ∈ due.map HookExecution.id) : x.status = .pending := by
  obtain ⟨y, hy, hyx⟩ := List.mem_map.1 hid
  exact h.eq_of_id (hdue y hy).1 hx hyx ▸ (hdue y hy).2

lemma orderly_claim (e : ℕ)
    (hdue : ∀ x ∈ due, x ∈ s.executions ∧ x.status = .pending)
    (hnodup : (due.map HookExecution.id).Nodup) : Orderly { s with
      executions := claimPendingExecutions s.executions (due.map HookExecution.id)
      deliveries := s.deliveries ++
        due.map fun x => ⟨e, { x with status := .processing }, .lookup⟩ } := by
  -- a row under delivery is PROCESSING, and so not among those that are due
  have hidle {x : HookExecution} {d : Delivery} (hd : d ∈ s.deliveries) (hx : x ∈ s.executions)
      (hid : x.id = d.execution.id) : x.status ≠ .pending := by
    rw [((h.own d hd).row x hx hid).1]
    decide
  refine h.change s.hooks s.executors ?_ ?_ ?_ ?_ fun d hd => ?_
  · rw [claimPendingExecutions, map_key_of_status]
    intro x
    split_ifs <;> rfl
  · intro x' hx' hpending
    obtain ⟨x, hx, rfl⟩ := List.mem_map.1 hx'
    split_ifs at hpending ⊢ with hin
    exact h.pending x hx hpending
  · intro x' hx' hopen
    obtain ⟨x, hx, rfl⟩ := List.mem_map.1 hx'
    split_ifs at hopen ⊢ with hin
    · exact h.left x hx (not_settled_of_pending (h.pending_of_due hdue hx hin))
    · exact h.left x hx hopen
  · rw [List.map_append, List.map_map]
    refine h.apart.append hnodup fun id hold hnew => ?_
    obtain ⟨d, hd, rfl⟩ := List.mem_map.1 hold
    obtain ⟨x, hx, hid⟩ := List.mem_map.1 hnew
    exact hidle hd (hdue x hx).1 hid (hdue x hx).2
  · rcases List.mem_append.1 hd with hd | hd
    · refine (h.own d hd).mono (List.Subset.refl _) rfl fun x' hx' hid => ?_
      obtain ⟨x, hx, rfl⟩ := List.mem_map.1 hx'
      split_ifs at hid ⊢ with hin
      · exact absurd (h.pending_of_due hdue hx hin) (hidle hd hx hid)
      · exact hx
    · obtain ⟨y, hy, rfl⟩ := List.mem_map.1 hd
      obtain ⟨hy', hpending⟩ := hdue y hy
      refine ⟨h.known y hy', h.left y hy' (not_settled_of_pending hpending),
        h.pending y hy' hpending, fun x' hx' hid => ?_, fun _ _ hstage => by cases hstage⟩
      obtain ⟨x, hx, rfl⟩ := List.mem_map.1 hx'
      have hxy : x = y := by
        refine h.eq_of_id hx hy' ?_
        split_ifs at hid <;> exact hid
      rw [if_pos (hxy ▸ List.mem_map_of_mem hy), hxy]
      exact ⟨rfl, rfl⟩

/-! ## Steps of a delivery -/

omit h in
lemma afterLookup_spec {hooks : List LifecycleHook} (h : afterLookup hooks x answer = some stage) :
    (∃ hook, stage = .send hook) ∨ ∃ error, stage = .mark (.failed error) := by
  cases answer with
  | ok =>
    simp only [afterLookup] at h
    split at h <;> cases h
    · exact .inl ⟨_, rfl⟩
    · exact .inr ⟨_, rfl⟩
  | error message =>
    cases h
    exact .inr ⟨_, rfl⟩
  | response status body => cases h

omit h in
lemma handleFailure_retry {error error' : String} {nextRetryAt : ℕ}
    (h : handleFailure x error now = .retry error' nextRetryAt) :
    x.attemptCount + 1 < x.maxAttempts := by
  simp only [handleFailure] at h
  split_ifs at h with hlast
  omega

omit h in
lemma afterRequest_spec (h : afterRequest x now answer = some stage) : ∃ m, stage = .mark m ∧
      ∀ error nextRetryAt, m = .retry error nextRetryAt → x.attemptCount + 1 < x.maxAttempts := by
  cases answer with
  | ok => cases h
  | error message =>
    cases h
    exact ⟨_, rfl, fun _ _ => handleFailure_retry⟩
  | response status body =>
    simp only [afterRequest] at h
    split_ifs at h <;> cases h
    · exact ⟨_, rfl, fun _ _ hm => by cases hm⟩
    · exact ⟨_, rfl, fun _ _ => handleFailure_retry⟩

omit h in
lemma map_set_of_eq {α β : Type} {l : List α} {g : α → β} {a b : α} (ha : l[i]? = some a)
    (hg : g b = g a) : (l.set i b).map g = l.map g := by
  obtain ⟨hi, rfl⟩ := List.getElem?_eq_some_iff.1 ha
  rw [List.map_set, hg, ← List.getElem_map g, List.set_getElem_self]
  simpa using hi

variable (hd : s.deliveries[i]? = some d)

include hd

lemma Orderly.ne_of_index {j : ℕ} {u : Delivery} (hu : s.deliveries[j]? = some u) (hij : j ≠ i) :
    u.execution.id ≠ d.execution.id := by
  intro heq
  have hi : (s.deliveries.map (·.execution.id))[i]? = some d.execution.id := by
    rw [List.getElem?_map, hd]
    rfl
  have hj : (s.deliveries.map (·.execution.id))[j]? = some d.execution.id := by
    rw [List.getElem?_map, hu, ← heq]
    rfl
  exact hij ((List.getElem?_inj (List.getElem?_eq_some_iff.1 hj).1 h.apart).1 (hj.trans hi.symm))

/-- The deliveries after one of them has gone on. -/
lemma Orderly.advance (hown : Own s { d with stage }) :
    Orderly { s with deliveries := s.deliveries.set i { d with stage } } := by
  refine h.move s.executors ?_ fun u hu => ?_
  · have hids : (s.deliveries.set i { d with stage }).map (·.execution.id)
        = s.deliveries.map (·.execution.id) := map_set_of_eq hd rfl
    rw [hids]
    exact h.apart
  · rcases List.mem_or_eq_of_mem_set hu with hu | rfl
    · exact h.own u hu
    · exact hown

omit hd in
omit h in
lemma attempts_send (q : Request) (deliveries : List Delivery) (id : Uuid) :
    Queue.attempts { s with sent := q :: s.sent, deliveries } id =
      s.attempts id + if q.executionId = id then 1 else 0 := by
  simp [Queue.attempts, List.countP_cons]

lemma orderly_send {hook : LifecycleHook} (hstage : d.stage = .send hook) : Orderly { s with
      sent := request sign hook d.execution :: s.sent
      deliveries := s.deliveries.set i { d with stage := .sent } } := by
  have hown := h.own d (List.mem_of_getElem? hd)
  have hcount : s.attempts d.execution.id ≤ d.execution.attemptCount := by
    simpa [hstage, Stage.requests] using hown.attempts
  have hleft := hown.left
  have hother {id : Uuid} (hid : id ≠ d.execution.id) :
      (if (request sign hook d.execution).executionId = id then 1 else 0) = 0 :=
    if_neg (Ne.symm hid)
  refine ⟨h.ids, h.keys, h.known, ?_, ?_, ?_, h.left, ?_, fun u hu => ?_⟩
  · exact List.forall_mem_cons.2 ⟨List.mem_map_of_mem hown.known, h.requests⟩
  · rintro ⟨id, m⟩ he
    rw [attempts_send]
    by_cases hid : id = d.execution.id
    · subst hid
      have hm := h.max_eq he hown.known
      dsimp only
      split_ifs <;> omega
    · rw [hother hid]
      exact h.bounded _ he
  · intro x hx hpending
    have hid : x.id ≠ d.execution.id := fun hid => by
      rw [(hown.row x hx hid).1] at hpending
      cases hpending
    rw [attempts_send, hother hid]
    exact h.pending x hx hpending
  · have hids : (s.deliveries.set i { d with stage := .sent }).map (·.execution.id)
        = s.deliveries.map (·.execution.id) := map_set_of_eq hd rfl
    rw [hids]
    exact h.apart
  · obtain ⟨j, hj⟩ := List.mem_iff_getElem?.1 hu
    rcases Interleave.getElem?_set_cases hj with ⟨-, rfl⟩ | ⟨hji, hj⟩
    · refine ⟨hown.known, hleft, ?_, hown.row, fun _ _ hmark => by cases hmark⟩
      rw [attempts_send]
      exact add_le_add hcount (ite_le_one le_rfl (Nat.zero_le 1))
    · refine (h.own u (List.mem_of_getElem? hj)).mono (List.Subset.refl _) ?_ fun x hx _ => hx
      rw [attempts_send, hother (h.ne_of_index hd hj hji)]
      rfl

omit hd in
omit h in
lemma key_write (m : Mark) (now : ℕ) (x : HookExecution) : (m.write now x).key = x.key := by
  cases m <;> rfl

/-- A delivery ends, and its row is marked, or stays PROCESSING when the mark fails. -/
lemma orderly_mark {m : Mark} (hstage : d.stage = .mark m) : Orderly { s with
      executions := m.apply d.execution.id now s.executions
      deliveries := s.deliveries.eraseIdx i } := by
  have hmem := List.mem_of_getElem? hd
  have hown := h.own d hmem
  have hcount : s.attempts d.execution.id ≤ d.execution.attemptCount + 1 := by
    simpa [hstage, Stage.requests] using hown.attempts
  refine h.change s.hooks s.executors ?_ ?_ ?_ (h.apart.sublist ((List.eraseIdx_sublist _ _).map _))
    fun u hu => ?_
  · rw [Mark.apply, Rows.map_update fun x => key_write m now x]
  · refine Rows.forall_update.2 fun x hx => ⟨fun hid hpending => ?_, fun _ => h.pending x hx⟩
    have hx' := (hown.row x hx hid).2
    cases m with
    | retry error nextRetryAt =>
      rw [← hid] at hcount
      exact hcount.trans_eq (by rw [← hx']; rfl)
    | delivered responseStatus responseBody => cases hpending
    | failed error => cases hpending
  · refine Rows.forall_update.2 fun x hx => ⟨fun hid hopen => ?_, fun _ => h.left x hx⟩
    have hx' := (hown.row x hx hid).2
    cases m with
    | retry error nextRetryAt =>
      have hmax : x.maxAttempts = d.execution.maxAttempts :=
        h.max_eq (hid ▸ h.known x hx) hown.known
      have := hown.retry error nextRetryAt hstage
      show x.attemptCount + 1 < x.maxAttempts
      omega
    | delivered responseStatus responseBody => exact absurd (.inl rfl) hopen
    | failed error => exact absurd (.inr rfl) hopen
  · obtain ⟨j, hji, hj⟩ := List.mem_eraseIdx_iff_getElem?.1 hu
    refine (h.own u (List.mem_of_getElem? hj)).mono (List.Subset.refl _) rfl fun x hx hid => ?_
    rcases Rows.mem_update.1 hx with ⟨y, hy, hyid, rfl⟩ | ⟨hx, -⟩
    · have hkey : (m.write now y).id = y.id := congrArg Prod.fst (key_write m now y)
      exact absurd (hid.symm.trans (hkey.trans hyid)) (h.ne_of_index hd hj hji)
    · exact hx

lemma orderly_deliver (hs : deliverNext sign s i d answer now = some s') : Orderly s' := by
  have hmem := List.mem_of_getElem? hd
  have hown := h.own d hmem
  cases hstage : d.stage with
  | lookup =>
    simp only [deliverNext, hstage] at hs
    obtain ⟨stage, hafter, rfl⟩ := Option.map_eq_some_iff.1 hs
    have hcount := hown.attempts
    rw [hstage] at hcount
    rcases afterLookup_spec hafter with ⟨hook, rfl⟩ | ⟨error, rfl⟩
    · exact h.advance hd ⟨hown.known, hown.left, hcount, hown.row, fun _ _ hm => by cases hm⟩
    · exact h.advance hd ⟨hown.known, hown.left, Nat.le_succ_of_le hcount, hown.row,
        fun _ _ hm => by cases hm⟩
  | send hook =>
    simp only [deliverNext, hstage] at hs
    cases hs
    exact orderly_send h hd hstage
  | sent =>
    simp only [deliverNext, hstage] at hs
    obtain ⟨stage, hafter, rfl⟩ := Option.map_eq_some_iff.1 hs
    have hcount := hown.attempts
    rw [hstage] at hcount
    obtain ⟨m, rfl, hretry⟩ := afterRequest_spec hafter
    exact h.advance hd ⟨hown.known, hown.left, hcount, hown.row,
      fun error nextRetryAt hm => hretry error nextRetryAt (Stage.mark.inj hm)⟩
  | mark m =>
    simp only [deliverNext, hstage] at hs
    cases hs
    split_ifs
    · exact orderly_mark h hd hstage
    · exact h.move s.executors (h.apart.sublist ((List.eraseIdx_sublist _ _).map _))
        fun u hu => h.own u (List.eraseIdx_subset hu)

omit hd

/-- **One step.** -/
lemma orderly_step (hquiet : quiet s a = true)
    (hs : step sign s a = some s') : Orderly s' := by
  cases a with
  | enqueue rows payload now => exact orderly_enqueue h hs
  | createHook hook =>
    simp only [step] at hs
    split_ifs at hs
    cases hs
    exact h.change _ s.executors (.refl _) h.pending h.left h.apart h.own
  | deleteHook id =>
    cases hs
    exact orderly_deleteHook h id
  | start e =>
    simp only [step] at hs
    split_ifs at hs
    cases hs
    exact h.move _ h.apart h.own
  | reset e ok =>
    simp only [step] at hs
    split_ifs at hs with _ hok <;> cases hs
    · subst hok
      exact orderly_reset h hquiet _
    · exact h.move _ h.apart h.own
  | claim e locked now =>
    simp only [step] at hs
    split_ifs at hs
    cases hs
    exact orderly_claim h e (fun x => mem_dueExecutions) (nodup_dueExecutions h locked now _)
  | deliver i answer now =>
    obtain ⟨d, hd, hs⟩ := Option.bind_eq_some_iff.1 hs
    exact orderly_deliver h hd hs
  | crash e =>
    cases hs
    exact h.move _ (h.apart.sublist (List.filter_sublist.map _))
      fun d hd => h.own d (List.mem_filter.1 hd).1

/-! ## Settled executions -/

/-- Executions stay known, and a row is an older one, settled as before, or new. -/
structure Follows (s s' : Queue) : Prop where
  enqueued : s.enqueued ⊆ s'.enqueued
  origin : ∀ x' ∈ s'.executions, x'.id ∈ s.enqueued.map Prod.fst →
    ∃ x ∈ s.executions, x.id = x'.id ∧ (x.settled → x'.status = x.status)

omit h in
lemma Follows.of_subset (henqueued : s.enqueued ⊆ s'.enqueued)
    (hrows : s'.executions ⊆ s.executions) : Follows s s' :=
  ⟨henqueued, fun x' hx' _ => ⟨x', hrows hx', rfl, fun _ => rfl⟩⟩

omit h in
/-- Rows that are written are not settled. -/
lemma Follows.of_map (henqueued : s.enqueued ⊆ s'.enqueued)
    (hrows : s'.executions = s.executions.map f) (hkey : ∀ x, (f x).id = x.id)
    (hf : ∀ x ∈ s.executions, x.settled → f x = x) : Follows s s' := by
  refine ⟨henqueued, fun x' hx' _ => ?_⟩
  rw [hrows] at hx'
  obtain ⟨x, hx, rfl⟩ := List.mem_map.1 hx'
  exact ⟨x, hx, (hkey x).symm, fun hsettled => by rw [hf x hx hsettled]⟩

lemma follows_deliver (hd : s.deliveries[i]? = some d)
    (hs : deliverNext sign s i d answer now = some s') : Follows s s' := by
  have hsame := List.Subset.refl s.executions
  cases hstage : d.stage with
  | lookup | sent =>
    simp only [deliverNext, hstage] at hs
    obtain ⟨stage, -, rfl⟩ := Option.map_eq_some_iff.1 hs
    exact .of_subset (List.Subset.refl _) hsame
  | send hook =>
    simp only [deliverNext, hstage] at hs
    cases hs
    exact .of_subset (List.Subset.refl _) hsame
  | mark m =>
    simp only [deliverNext, hstage] at hs
    cases hs
    split_ifs
    · refine .of_map (List.Subset.refl _) rfl (fun x => ?_)
        fun x hx hsettled => if_neg fun hid => ?_
      · split_ifs
        · exact congrArg Prod.fst (key_write m now x)
        · rfl
      · have hp := ((h.own d (List.mem_of_getElem? hd)).row x hx hid).1
        exact not_settled_of_processing hp hsettled
    · exact .of_subset (List.Subset.refl _) hsame

lemma follows_step (hs : step sign s a = some s') : Follows s s' := by
  have hsame := List.Subset.refl s.executions
  cases a with
  | enqueue rows payload now =>
    simp only [step] at hs
    split_ifs at hs with hnew
    cases hs
    refine ⟨List.subset_append_left _ _, fun x' hx' hold => ?_⟩
    rcases List.mem_append.1 hx' with hx' | hx'
    · exact ⟨x', hx', rfl, fun _ => rfl⟩
    · obtain ⟨r, hr, rfl⟩ := List.mem_map.1 hx'
      exact absurd hold (hnew.2.1 r hr)
  | createHook hook | start e =>
    simp only [step] at hs
    split_ifs at hs
    cases hs
    exact .of_subset (List.Subset.refl _) hsame
  | deleteHook id =>
    cases hs
    exact .of_subset (List.Subset.refl _) List.filter_sublist.subset
  | reset e ok =>
    simp only [step] at hs
    split_ifs at hs <;> cases hs
    · refine .of_map (List.Subset.refl _) rfl (fun x => ?_)
        fun x hx hsettled => if_neg fun hp => ?_
      · split_ifs <;> rfl
      · exact not_settled_of_processing hp hsettled
    · exact .of_subset (List.Subset.refl _) hsame
  | claim e locked now =>
    simp only [step] at hs
    split_ifs at hs
    cases hs
    refine .of_map (List.Subset.refl _) rfl (fun x => ?_)
      fun x hx hsettled => if_neg fun hin => ?_
    · split_ifs <;> rfl
    · exact not_settled_of_pending (h.pending_of_due (fun y => mem_dueExecutions) hx hin) hsettled
  | deliver i answer now =>
    obtain ⟨d, hd, hs⟩ := Option.bind_eq_some_iff.1 hs
    exact follows_deliver h hd hs
  | crash e =>
    cases hs
    exact .of_subset (List.Subset.refl _) hsame

/-- A table with attempts left for what is not settled, and no replica yet. -/
structure Starts (s : Queue) : Prop where
  executors : s.executors = []
  deliveries : s.deliveries = []
  sent : s.sent = []
  enqueued : s.enqueued = s.executions.map HookExecution.key
  ids : (s.executions.map HookExecution.id).Nodup
  left : ∀ x ∈ s.executions, ¬ x.settled → x.attemptCount < x.maxAttempts

omit h in
lemma Starts.orderly (h : Starts s) : Orderly s := by
  have hattempts (id : Uuid) : s.attempts id = 0 := by rw [Queue.attempts, h.sent]; rfl
  refine ⟨h.ids, ?_, fun x hx => ?_, by simp [h.sent], fun e _ => ?_, fun x _ _ => ?_, h.left,
    by simp [h.deliveries], by simp [h.deliveries]⟩
  · rw [h.enqueued, List.map_map]
    exact h.ids
  · rw [h.enqueued]
    exact List.mem_map_of_mem hx
  · exact (hattempts _).trans_le (Nat.zero_le _)
  · exact (hattempts _).trans_le (Nat.zero_le _)

/-- The states reached by steps that reset nothing under way or uncounted. -/
abbrev Reached (sign : String → String → String) (start : Queue → Prop) (s : Queue) : Prop :=
  Reach (step sign) (fun s a => quiet s a = true) start s

lemma status_of_settled (hx : x ∈ s.executions) (hsettled : x.settled)
    (hr : Reached sign (· = s) s') : ∀ y ∈ s'.executions, y.id = x.id → y.status = x.status := by
  have hinv : Orderly s' ∧ x.key ∈ s'.enqueued ∧
      ∀ y ∈ s'.executions, y.id = x.id → y.status = x.status := by
    refine hr.invariant (I := fun t => Orderly t ∧ x.key ∈ t.enqueued ∧
      ∀ y ∈ t.executions, y.id = x.id → y.status = x.status) ?_ ?_
    · rintro t rfl
      exact ⟨h, h.known x hx, fun y hy hid => by rw [h.eq_of_id hy hx hid]⟩
    · rintro t a t' ⟨ht, hkey, hrow⟩ hquiet hs
      have hfollows := follows_step ht hs
      refine ⟨orderly_step ht hquiet hs, hfollows.enqueued hkey, fun y hy hid => ?_⟩
      obtain ⟨z, hz, hzid, hstatus⟩ := hfollows.origin y hy (hid ▸ List.mem_map_of_mem hkey)
      have hzx := hrow z hz (hzid.trans hid)
      have hzsettled : z.settled := by rwa [HookExecution.settled, hzx]
      exact (hstatus hzsettled).trans hzx
  exact hinv.2.2

omit h

/-- **Webhook executions** are delivered by one replica at a time, stay delivered or failed, and are
tried at most `max_attempts` times, in every run in which a replica that starts resets only rows
that nobody delivers and all of whose requests are counted. -/
theorem executions_delivered_in_order (h : Reached sign Starts s) :
    (∀ d ∈ s.deliveries, ∀ d' ∈ s.deliveries, d.execution.id = d'.execution.id →
      d.executor = d'.executor) ∧
    (∀ x ∈ s.executions, x.settled → ∀ s', Reached sign (· = s) s' →
      ∀ y ∈ s'.executions, y.id = x.id → y.status = x.status) ∧
    ∀ e ∈ s.enqueued, s.attempts e.1 ≤ e.2 := by
  have hs : Orderly s := h.invariant (fun _ => Starts.orderly)
    fun _ _ _ hs hquiet hstep => orderly_step hs hquiet hstep
  refine ⟨fun d hd d' hd' hid => ?_, fun x hx hsettled s' hr => ?_, hs.bounded⟩
  · rw [List.inj_on_of_nodup_map hs.apart hd hd' hid]
  · exact status_of_settled hs hx hsettled hr

end Steps

/-! ## A small queue -/

def labHook : LifecycleHook := ⟨⟨"k"⟩, "receiver", some "secret"⟩

def labQueue : Queue := ⟨[labHook], [], [], [], [], []⟩

def labSign (secret body : String) : String := secret ++ body

lemma labQueue_starts : Starts labQueue :=
  ⟨rfl, rfl, rfl, rfl, List.nodup_nil, fun _ hx => absurd hx List.not_mem_nil⟩

/-- A replica comes up, with its reset. -/
def bringUp (e : ℕ) : List Act := [.start e, .reset e true]

/-- A request of the delivery at that index is made and answered, and the row is marked. -/
def attempt (i status now : ℕ) : List Act :=
  [.deliver i .ok now, .deliver i .ok now, .deliver i (.response status none) now,
   .deliver i .ok now]

/-- The first request fails, its replica crashes, the next one crashes before its request, and the
third one delivers. -/
def calmRun : List Act :=
  bringUp 1 ++ [.enqueue [(⟨"x"⟩, ⟨"k"⟩)] "body" 0, .claim 1 [] 0] ++ attempt 0 500 0 ++
  bringUp 2 ++ [.crash 1, .claim 2 [] 30, .deliver 0 .ok 30, .crash 2] ++
  bringUp 3 ++ [.claim 3 [] 40] ++ attempt 0 200 40

theorem calmRun_delivered : ∃ s ∈ run (step labSign) labQueue calmRun,
    s.executions.map (fun x => (x.status, x.attemptCount)) = [(.delivered, 2)] ∧
    (∀ x ∈ s.executions, x.settled → ∀ s', Reached labSign (· = s) s' →
      ∀ y ∈ s'.executions, y.id = x.id → y.status = x.status) ∧
    ∀ e ∈ s.enqueued, s.attempts e.1 ≤ e.2 := by
  refine (exists_reach labQueue_starts ?_).imp fun s h =>
    ⟨h.1, h.2.1, (executions_delivered_in_order h.2.2).2⟩
  decide +kernel

/-- A replica comes up while the execution is under way. -/
def twiceRun : List Act :=
  bringUp 1 ++ [.enqueue [(⟨"x"⟩, ⟨"k"⟩)] "body" 0, .claim 1 [] 0, .deliver 0 .ok 0,
    .deliver 0 .ok 0] ++ bringUp 2 ++ [.claim 2 [] 0]

/-- Six replicas one after the other make the request and crash. -/
def crashRun : List Act :=
  .enqueue [(⟨"x"⟩, ⟨"k"⟩)] "body" 0 :: (List.range 6).flatMap fun e =>
    bringUp e ++ [.claim e [] 0, .deliver 0 .ok 0, .deliver 0 .ok 0, .crash e]

/-- **A reset of rows that are under way.**  Two replicas deliver one execution; it is delivered,
and then pending again when the other one fails; and six replicas that crash make six requests. -/
theorem reset_while_delivering :
    (∃ s ∈ run (step labSign) labQueue twiceRun,
      s.deliveries.map (fun d => (d.executor, d.execution.id)) = [(1, ⟨"x"⟩), (2, ⟨"x"⟩)] ∧
      ∃ s₁ ∈ run (step labSign) s (attempt 1 200 0),
        s₁.executions.map (·.status) = [.delivered] ∧
        ∃ s₂ ∈ run (step labSign) s₁ [.deliver 0 (.response 500 none) 0, .deliver 0 .ok 0],
          s₂.executions.map (·.status) = [.pending]) ∧
    ∃ s ∈ run (step labSign) labQueue crashRun,
      s.enqueued = [(⟨"x"⟩, 5)] ∧ s.attempts ⟨"x"⟩ = 6 := by
  decide +kernel

end Hooks

end Qarax
