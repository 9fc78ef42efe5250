import Qarax.Core.Interleave
import Qarax.Control.PoolAccounting

/-!
# Deleting the files of storage objects

A row of `storage_cleanup` stands for files that are still on nodes; `storage_cleanup::process` asks
the nodes to delete them and deletes the row when they have.  It runs for a request and in a loop in
the background, so there may be several workers, and each holds the lock on its row from the first
statement to the end.  What has been done is kept in the list of hosts of the row.  For a shared
pool, and for a row without hosts, the hosts are those that the pool is attached to now.

`serial`, `enqueued`, `succeeded` and `settled` are not columns.  They tell which insertion a row
comes from, what was inserted, on which hosts the files of that row were deleted, and which of these
deletions are known from runs that have committed.

* `CleanupTask.next` — one statement or one call of a worker, or one change by others.
* `Kept` — what the stored list of hosts says about the deletions.
-/

namespace Qarax

namespace Cleanup

open Interleave Machine Accounting

/-! ## Tables -/

structure QueuedRow extends CleanupRow where
  attempts : Nat
  lastError : Option String
  serial : Nat

structure CleanupDb where
  pools : List (Uuid × StoragePoolType)
  hosts : List Uuid
  hostPools : List (Uuid × Uuid)
  rows : List QueuedRow
  /-- The locked rows. -/
  locks : List Uuid
  enqueued : List CleanupRow
  succeeded : List (Nat × Uuid)
  settled : List (Nat × Uuid)

namespace CleanupDb

def poolType? (db : CleanupDb) (poolId : Uuid) : Option StoragePoolType := db.pools.lookup poolId

def listHostIds (db : CleanupDb) (poolId : Uuid) : List Uuid :=
  (db.hostPools.filter fun hp => hp.2 = poolId).map Prod.fst

/-- A transaction that had the row locked ends. -/
def unlock (db : CleanupDb) (objectId : Uuid) : CleanupDb :=
  { db with locks := db.locks.filter (· ≠ objectId) }

def confirm (db : CleanupDb) (serial : Nat) (hostId : Uuid) : CleanupDb :=
  { db with succeeded := (serial, hostId) :: db.succeeded }

def deleteRow (db : CleanupDb) (row : QueuedRow) : CleanupDb :=
  { db with rows := db.rows.filter (·.objectId ≠ row.objectId) }

/-- The `UPDATE` of a run that is not done. -/
def postpone (db : CleanupDb) (row : QueuedRow) (remaining : List Uuid) (lastError : String)
    (confirmed : List Uuid) : CleanupDb :=
  { db with
    rows := Rows.update (·.objectId) row.objectId (fun row =>
      { row with hostIds := remaining, attempts := row.attempts + 1, lastError := some lastError })
      db.rows
    settled := confirmed.map (row.serial, ·) ++ db.settled }

/-- `queue_storage_cleanup` inserts a row. -/
def enqueue (db : CleanupDb) (row : CleanupRow) : CleanupDb :=
  { db with
    rows := { row with attempts := 0, lastError := none, serial := db.enqueued.length } :: db.rows
    enqueued := db.enqueued ++ [row] }

end CleanupDb

/-! ## Workers -/

/-- What a query or a call comes to. -/
inductive CallOutcome where
  | ok
  | fails (error : String)
  | timedOut
  deriving DecidableEq

/-- What a run has found out. -/
structure RunState where
  row : QueuedRow
  shared : Bool
  remaining : List Uuid
  lastError : String
  /-- The hosts on which this run has deleted the files. -/
  confirmed : List Uuid

/-- Where `process` is. -/
inductive ProcessPc where
  /-- `SELECT … FOR UPDATE` -/
  | select
  | pool (row : QueuedRow)
  | hosts (row : QueuedRow) (shared : Bool)
  /-- The loop, with the hosts it has still to come to. -/
  | ask (run : RunState) (todo : List Uuid)
  | call (run : RunState) (hostId : Uuid) (todo : List Uuid)
  | finish (run : RunState) (completed : Bool)
  /-- The value that is returned, if it is not an error. -/
  | done (result : Option Bool)

/-- The loop begins. -/
def begun (row : QueuedRow) (shared : Bool) (remaining : List Uuid) : ProcessPc :=
  .ask ⟨row, shared, remaining, "No node is available to clean up this pool", []⟩ remaining

/-- The files are deleted on one more host. -/
def RunState.retain (run : RunState) (hostId : Uuid) : RunState :=
  { run with remaining := run.remaining.filter (· ≠ hostId), confirmed := hostId :: run.confirmed }

/-- An error ends the run and its transaction. -/
def abort (db : CleanupDb) (row : QueuedRow) : Option (ProcessPc × CleanupDb) :=
  some (.done none, db.unlock row.objectId)

def processNext (objectId : Uuid) (db : CleanupDb) (o : CallOutcome) :
    ProcessPc → Option (ProcessPc × CleanupDb)
  | .select =>
    if o ≠ .ok then some (.done none, db)
    else match db.rows.find? (·.objectId = objectId) with
      | none => some (.done (some true), db)
      | some row =>
        if objectId ∈ db.locks then none
        else some (.pool row, { db with locks := objectId :: db.locks })
  | .pool row =>
    if o ≠ .ok then abort db row
    else match db.poolType? row.poolId with
      | none => abort db row
      | some type =>
        let shared := type = .nfs
        if shared || row.hostIds = [] then some (.hosts row shared, db)
        else some (begun row shared row.hostIds, db)
  | .hosts row shared =>
    if o ≠ .ok then abort db row
    else some (begun row shared (db.listHostIds row.poolId), db)
  | .ask run [] => some (.finish run false, db)
  | .ask run (hostId :: todo) =>
    if o ≠ .ok then abort db run.row
    else if hostId ∈ db.hosts then some (.call run hostId todo, db)
    else
      let lastError := s!"Cleanup host {hostId.text} no longer exists"
      some (.ask { run with lastError } todo, db)
  | .call run hostId todo =>
    match o with
    | .ok =>
      let run := run.retain hostId
      let db := db.confirm run.row.serial hostId
      if run.shared || run.remaining = [] then some (.finish run true, db)
      else some (.ask run todo, db)
    | .fails error => some (.ask { run with lastError := error } todo, db)
    | .timedOut => some (.ask { run with lastError := "Node cleanup timed out" } todo, db)
  | .finish run completed =>
    if o ≠ .ok then abort db run.row
    else if completed then
      some (.done (some true), (db.deleteRow run.row).unlock run.row.objectId)
    else some (.done (some false),
      (db.postpone run.row run.remaining run.lastError run.confirmed).unlock run.row.objectId)
  | .done _ => none

/-- What others do meanwhile. -/
inductive Change where
  | attach (hostId poolId : Uuid)
  | detach (hostId poolId : Uuid)
  | addHost (hostId : Uuid)
  | deleteHost (hostId : Uuid)
  /-- An object with files is deleted. -/
  | enqueue (row : CleanupRow)

def Change.apply (db : CleanupDb) : Change → Option CleanupDb
  | .attach hostId poolId => some { db with hostPools := (hostId, poolId) :: db.hostPools }
  | .detach hostId poolId =>
    some { db with hostPools := db.hostPools.filter (· ≠ (hostId, poolId)) }
  | .addHost hostId => some { db with hosts := hostId :: db.hosts }
  | .deleteHost hostId => some { db with
      hosts := db.hosts.filter (· ≠ hostId)
      hostPools := db.hostPools.filter fun hp => hp.1 ≠ hostId }
  | .enqueue row =>
    -- the keys of the table
    if db.rows.all (·.objectId ≠ row.objectId) && (db.poolType? row.poolId).isSome then
      some (db.enqueue row)
    else none

inductive CleanupTask where
  | process (objectId : Uuid) (pc : ProcessPc)
  | change (c : Change)
  | changed

namespace CleanupTask

def begins : CleanupTask → Bool
  | .process _ .select | .change _ => true
  | _ => false

/-- **One statement, call or change.** -/
def next (db : CleanupDb) (task : CleanupTask) (o : CallOutcome) :
    Option (CleanupTask × CleanupDb) :=
  match task with
  | .process objectId pc =>
    (processNext objectId db o pc).map fun (pc, db) => (.process objectId pc, db)
  | .change c => (c.apply db).map fun db => (.changed, db)
  | .changed => none

end CleanupTask

abbrev CleanupPool := Pool CleanupDb CleanupTask

abbrev cleanupStep : CleanupPool → Act CleanupTask CallOutcome → Option CleanupPool :=
  step CleanupTask.begins CleanupTask.next

/-! ## What the stored list says -/

/-- The row that the task has locked. -/
def ProcessPc.held : ProcessPc → Option QueuedRow
  | .pool row | .hosts row _ => some row
  | .ask run _ | .call run _ _ | .finish run _ => some run.row
  | _ => none

def CleanupTask.held : CleanupTask → Option QueuedRow
  | .process _ pc => pc.held
  | _ => none

/-- The pool of a row keeps its files on each host. -/
def PerHost (db : CleanupDb) (poolId : Uuid) : Prop := db.poolType? poolId ≠ some .nfs

/-- **Files are gone where they have to be.** -/
structure Released (db : CleanupDb) (serial : Nat) (original : CleanupRow) : Prop where
  perHost : PerHost db original.poolId → original.hostIds ≠ [] →
    ∀ hostId ∈ original.hostIds, (serial, hostId) ∈ db.succeeded
  once : db.poolType? original.poolId = some .nfs → ∃ hostId, (serial, hostId) ∈ db.succeeded

/-- What a row says about the files it was inserted for. -/
structure Tells (db : CleanupDb) (row : QueuedRow) (original : CleanupRow) : Prop where
  pool : original.poolId = row.poolId
  nonempty : PerHost db row.poolId → original.hostIds ≠ [] → row.hostIds ≠ []
  rest : PerHost db row.poolId → row.hostIds ≠ [] → ∀ hostId ∈ original.hostIds,
    hostId ∈ row.hostIds ∨ (row.serial, hostId) ∈ db.succeeded
  settled : PerHost db row.poolId → ∀ hostId, (row.serial, hostId) ∈ db.settled →
    row.hostIds ≠ [] ∧ hostId ∉ row.hostIds

structure Kept (db : CleanupDb) : Prop where
  keys : (db.rows.map (·.objectId)).Nodup
  serials : (db.rows.map (·.serial)).Nodup
  tells : ∀ row ∈ db.rows, ∃ original, db.enqueued[row.serial]? = some original ∧
    Tells db row original
  known : ∀ n hostId, (n, hostId) ∈ db.settled → n < db.enqueued.length
  released : ∀ n original, db.enqueued[n]? = some original →
    (∃ row ∈ db.rows, row.serial = n) ∨ Released db n original

/-- What holds in a run. -/
structure RunOk (db : CleanupDb) (run : RunState) : Prop where
  shared : run.shared = true ↔ db.poolType? run.row.poolId = some .nfs
  rest : ∀ hostId ∈ run.row.hostIds, run.shared = false →
    hostId ∈ run.remaining ∨ (run.row.serial, hostId) ∈ db.succeeded
  within : run.shared = false → run.row.hostIds ≠ [] → run.remaining ⊆ run.row.hostIds
  confirmed : ∀ hostId ∈ run.confirmed,
    hostId ∉ run.remaining ∧ (run.row.serial, hostId) ∈ db.succeeded

/-- There is something left to do for a run that goes on. -/
def RunState.Open (run : RunState) : Prop :=
  run.shared = false → run.row.hostIds ≠ [] ∨ run.confirmed ≠ [] → run.remaining ≠ []

def PcOk (db : CleanupDb) : ProcessPc → Prop
  | .hosts row shared => (shared = true ↔ db.poolType? row.poolId = some .nfs) ∧
      (shared = true ∨ row.hostIds = [])
  | .ask run todo => RunOk db run ∧ run.Open ∧
      (run.shared = false → run.row.hostIds ≠ [] → todo ⊆ run.row.hostIds)
  | .call run hostId todo => RunOk db run ∧ run.Open ∧
      (run.shared = false → run.row.hostIds ≠ [] → hostId :: todo ⊆ run.row.hostIds)
  | .finish run false => RunOk db run ∧ run.Open
  | .finish run true => RunOk db run ∧ run.confirmed ≠ [] ∧
    (run.shared = false → run.remaining = [])
  | _ => True

/-- What a task relies on: its row is as it was read, and locked. -/
structure Relies (db : CleanupDb) (t : CleanupTask) : Prop where
  locked : ∀ row, t.held = some row → row ∈ db.rows ∧ row.objectId ∈ db.locks
  pc : ∀ objectId pc, t = .process objectId pc → PcOk db pc

/-- No two tasks have the same row locked. -/
def Apart (t u : CleanupTask) : Prop :=
  ∀ row row', t.held = some row → u.held = some row' → row.objectId ≠ row'.objectId

/-- **What a statement can write**; `own` is the row its task has locked. -/
inductive Write (db : CleanupDb) (own : Option QueuedRow) : CleanupDb → Prop
  | keep : Write db own db
  | lock (row : QueuedRow) : row ∈ db.rows → row.objectId ∉ db.locks →
      Write db own { db with locks := row.objectId :: db.locks }
  | unlock (row : QueuedRow) : own = some row → Write db own (db.unlock row.objectId)
  | confirm (serial : Nat) (hostId : Uuid) : Write db own (db.confirm serial hostId)
  | delete (run : RunState) : own = some run.row → PcOk db (.finish run true) →
      Write db own ((db.deleteRow run.row).unlock run.row.objectId)
  | postpone (run : RunState) : own = some run.row → PcOk db (.finish run false) →
      Write db own
        ((db.postpone run.row run.remaining run.lastError run.confirmed).unlock run.row.objectId)
  | hosts (hosts : List Uuid) (hostPools : List (Uuid × Uuid)) :
      Write db own { db with hosts, hostPools }
  | enqueue (row : CleanupRow) : (∀ other ∈ db.rows, other.objectId ≠ row.objectId) →
      Write db own (db.enqueue row)

variable {run : RunState} {original : CleanupRow} {row : QueuedRow}

section Writes

variable {db db' : CleanupDb} {own : Option QueuedRow} {t u : CleanupTask}

/-- The files of the row are gone where they have to be when a run is completed. -/
lemma released_of_completed (htells : Tells db run.row original) (h : PcOk db (.finish run true)) :
    Released db run.row.serial original := by
  obtain ⟨hrun, hconfirmed, hdone⟩ := h
  refine ⟨fun hperHost hhosts hostId hhostId => ?_, fun hnfs => ?_⟩
  · rw [htells.pool] at hperHost
    have hshared : run.shared = false := by
      rw [← Bool.not_eq_true, hrun.shared]
      exact hperHost
    rcases htells.rest hperHost (htells.nonempty hperHost hhosts) hostId hhostId with
      hleft | hdeleted
    · rcases hrun.rest hostId hleft hshared with hremaining | hdeleted
      · rw [hdone hshared] at hremaining
        cases hremaining
      · exact hdeleted
    · exact hdeleted
  · obtain ⟨hostId, hmem⟩ := List.exists_mem_of_ne_nil _ hconfirmed
    exact ⟨hostId, (hrun.confirmed hostId hmem).2⟩

lemma perHost_congr (hpools : db'.pools = db.pools) (poolId : Uuid) :
    PerHost db' poolId ↔ PerHost db poolId := by
  simp only [PerHost, CleanupDb.poolType?, hpools]

lemma Released.mono {n : Nat} (h : Released db n original) (hpools : db'.pools = db.pools)
    (hsucceeded : db.succeeded ⊆ db'.succeeded) : Released db' n original := by
  refine ⟨fun hp hne hostId hmem => ?_, fun hnfs => ?_⟩
  · exact hsucceeded (h.perHost ((perHost_congr hpools _).1 hp) hne hostId hmem)
  · rw [CleanupDb.poolType?, hpools] at hnfs
    exact (h.once hnfs).imp fun _ hmem => hsucceeded hmem

/-- More is known to be deleted, and no more is settled for this row. -/
lemma Tells.mono (h : Tells db row original) (hpools : db'.pools = db.pools)
    (hsucceeded : db.succeeded ⊆ db'.succeeded)
    (hsettled : ∀ hostId, (row.serial, hostId) ∈ db'.settled → (row.serial, hostId) ∈ db.settled) :
    Tells db' row original := by
  have hp := perHost_congr hpools row.poolId
  refine ⟨h.pool, fun hper => h.nonempty (hp.1 hper), fun hper hne hostId hmem => ?_,
    fun hper hostId hmem => h.settled (hp.1 hper) hostId (hsettled hostId hmem)⟩
  exact (h.rest (hp.1 hper) hne hostId hmem).imp_right fun hs => hsucceeded hs

/-- The rows stay. -/
lemma Kept.mono (h : Kept db) (hrows : db'.rows = db.rows) (hpools : db'.pools = db.pools)
    (henqueued : db'.enqueued = db.enqueued) (hsettled : db'.settled = db.settled)
    (hsucceeded : db.succeeded ⊆ db'.succeeded) : Kept db' := by
  refine ⟨hrows ▸ h.keys, hrows ▸ h.serials, fun row hrow => ?_, ?_, fun n original hn => ?_⟩
  · obtain ⟨original, horiginal, htells⟩ := h.tells row (hrows ▸ hrow)
    exact ⟨original, henqueued ▸ horiginal, htells.mono hpools hsucceeded fun _ => (hsettled ▸ ·)⟩
  · rw [hsettled, henqueued]
    exact h.known
  · rw [hrows]
    exact (h.released n original (henqueued ▸ hn)).imp_right (·.mono hpools hsucceeded)

/-- A completed run deletes its row. -/
lemma Kept.delete (h : Kept db) (hrow : run.row ∈ db.rows) (hpc : PcOk db (.finish run true)) :
    Kept (db.deleteRow run.row) := by
  have hsub : (db.deleteRow run.row).rows.Sublist db.rows := List.filter_sublist
  refine ⟨(hsub.map _).nodup h.keys, (hsub.map _).nodup h.serials, fun row hmem => ?_, h.known,
    fun n original hn => ?_⟩
  · obtain ⟨original, horiginal, htells⟩ := h.tells row (hsub.subset hmem)
    exact ⟨original, horiginal, htells.mono rfl (List.Subset.refl _) fun _ => id⟩
  · have hmono := fun hreleased : Released db n original =>
      (hreleased.mono rfl (List.Subset.refl _) : Released (db.deleteRow run.row) n original)
    rcases h.released n original hn with ⟨row, hmem, rfl⟩ | hreleased
    · by_cases hid : row.objectId = run.row.objectId
      · obtain rfl : row = run.row := List.inj_on_of_nodup_map h.keys hmem hrow hid
        obtain ⟨original', horiginal, htells⟩ := h.tells _ hrow
        cases horiginal.symm.trans hn
        exact .inr (hmono (released_of_completed htells hpc))
      · exact .inl ⟨row, List.mem_filter.2 ⟨hmem, by simpa using hid⟩, rfl⟩
    · exact .inr (hmono hreleased)

/-- What a run that is not completed stores in its row. -/
lemma tells_postponed (htells : Tells db run.row original) (hpc : PcOk db (.finish run false)) :
    Tells (db.postpone run.row run.remaining run.lastError run.confirmed)
      { run.row with
        hostIds := run.remaining
        attempts := run.row.attempts + 1
        lastError := some run.lastError } original := by
  obtain ⟨hrun, hopen⟩ := hpc
  have hshared : PerHost db run.row.poolId → run.shared = false := fun hp => by
    rw [← Bool.not_eq_true, hrun.shared]
    exact hp
  refine ⟨htells.pool, fun hp hne => ?_, fun hp _ hostId hmem => ?_, fun hp hostId hmem => ?_⟩
  · exact hopen (hshared hp) (.inl (htells.nonempty hp hne))
  · rcases htells.rest hp (htells.nonempty hp (List.ne_nil_of_mem hmem)) hostId hmem with
      hleft | hdeleted
    · exact hrun.rest hostId hleft (hshared hp)
    · exact .inr hdeleted
  · rcases List.mem_append.1 hmem with hnew | hold
    · obtain ⟨hostId', hconfirmed, heq⟩ := List.mem_map.1 hnew
      cases heq
      exact ⟨hopen (hshared hp) (.inr (List.ne_nil_of_mem hconfirmed)),
        (hrun.confirmed _ hconfirmed).1⟩
    · obtain ⟨hne, hnot⟩ := htells.settled hp hostId hold
      exact ⟨hopen (hshared hp) (.inl hne), fun hleft => hnot (hrun.within (hshared hp) hne hleft)⟩

/-- A run that is not completed keeps its row. -/
lemma Kept.postpone (h : Kept db) (hrow : run.row ∈ db.rows) (hpc : PcOk db (.finish run false)) :
    Kept (db.postpone run.row run.remaining run.lastError run.confirmed) := by
  have hmap : ∀ {β : Type} (g : QueuedRow → β), (∀ row hostIds attempts lastError,
      g { row with hostIds, attempts, lastError } = g row) →
      (db.postpone run.row run.remaining run.lastError run.confirmed).rows.map g
        = db.rows.map g := fun g hg => Rows.map_update fun row => hg row _ _ _
  have hserials := hmap (·.serial) fun _ _ _ _ => rfl
  refine ⟨(hmap (·.objectId) fun _ _ _ _ => rfl) ▸ h.keys, hserials ▸ h.serials,
    fun row' hrow' => ?_, fun n hostId hmem => ?_, fun n original hn => ?_⟩
  · rcases Rows.mem_update.1 hrow' with ⟨row, hmem, hid, rfl⟩ | ⟨hmem, hne⟩
    · obtain rfl : row = run.row := List.inj_on_of_nodup_map h.keys hmem hrow hid
      obtain ⟨original, horiginal, htells⟩ := h.tells _ hrow
      exact ⟨original, horiginal, tells_postponed htells hpc⟩
    · obtain ⟨original, horiginal, htells⟩ := h.tells row' hmem
      refine ⟨original, horiginal, htells.mono rfl (List.Subset.refl _) fun hostId hmem' => ?_⟩
      rcases List.mem_append.1 hmem' with hnew | hold
      · obtain ⟨hostId', -, heq⟩ := List.mem_map.1 hnew
        have hserial : row'.serial = run.row.serial := (congrArg Prod.fst heq).symm
        rw [List.inj_on_of_nodup_map h.serials hmem hrow hserial] at hne
        exact absurd rfl hne
      · exact hold
  · rcases List.mem_append.1 hmem with hnew | hold
    · obtain ⟨hostId, -, heq⟩ := List.mem_map.1 hnew
      obtain ⟨original, horiginal, -⟩ := h.tells _ hrow
      cases heq
      exact (List.getElem?_eq_some_iff.1 horiginal).1
    · exact h.known n hostId hold
  · refine (h.released n original hn).imp (fun ⟨row, hmem, hserial⟩ => ?_)
      (·.mono rfl (List.Subset.refl _))
    have hmem' : n ∈ db.rows.map (·.serial) := hserial ▸ List.mem_map_of_mem hmem
    rw [← hserials] at hmem'
    exact List.mem_map.1 hmem'

/-- A new row is inserted. -/
lemma Kept.enqueue {row : CleanupRow} (h : Kept db)
    (hnew : ∀ other ∈ db.rows, other.objectId ≠ row.objectId) : Kept (db.enqueue row) := by
  have hlt : ∀ other ∈ db.rows, other.serial < db.enqueued.length := fun other hother => by
    obtain ⟨original, horiginal, -⟩ := h.tells other hother
    exact (List.getElem?_eq_some_iff.1 horiginal).1
  have hlength : (db.enqueue row).enqueued.length = db.enqueued.length + 1 := List.length_append
  have hlast : (db.enqueue row).enqueued[db.enqueued.length]? = some row :=
    List.getElem?_concat_length
  refine ⟨List.nodup_cons.2 ⟨fun hmem => ?_, h.keys⟩, List.nodup_cons.2 ⟨fun hmem => ?_, h.serials⟩,
    fun other hother => ?_, fun n hostId hmem => ?_, fun n original hn => ?_⟩
  · obtain ⟨other, hother, hid⟩ := List.mem_map.1 hmem
    exact hnew other hother hid
  · obtain ⟨other, hother, hserial⟩ := List.mem_map.1 hmem
    exact (hlt other hother).ne hserial
  · rcases List.mem_cons.1 hother with rfl | hother
    · refine ⟨row, hlast, rfl, fun _ => id, fun _ _ _ => .inl, fun _ hostId hmem => ?_⟩
      exact absurd (h.known _ hostId hmem) (lt_irrefl _)
    · obtain ⟨original, horiginal, htells⟩ := h.tells other hother
      exact ⟨original, (List.getElem?_append_left (hlt other hother)).trans horiginal,
        htells.mono rfl (List.Subset.refl _) fun _ => id⟩
  · exact hlength ▸ (h.known n hostId hmem).trans (Nat.lt_succ_self _)
  · rcases getElem?_append_cases hn with ⟨rfl, -⟩ | ⟨-, hn⟩
    · exact .inl ⟨_, List.mem_cons_self, rfl⟩
    · exact (h.released n original hn).imp
        (fun ⟨row, hmem, hserial⟩ => ⟨row, List.mem_cons_of_mem _ hmem, hserial⟩)
        (·.mono rfl (List.Subset.refl _))

/-- **The stored lists stay true.** -/
lemma kept_write (h : Kept db) (hown : ∀ row, own = some row → row ∈ db.rows)
    (hw : Write db own db') : Kept db' := by
  cases hw with
  | keep => exact h
  | lock _ _ _ | unlock _ _ | hosts _ _ => exact h.mono rfl rfl rfl rfl (List.Subset.refl _)
  | confirm serial hostId => exact h.mono rfl rfl rfl rfl (List.subset_cons_self _ _)
  | delete run hrow hpc =>
    exact (h.delete (hown _ hrow) hpc).mono rfl rfl rfl rfl (List.Subset.refl _)
  | postpone run hrow hpc =>
    exact (h.postpone (hown _ hrow) hpc).mono rfl rfl rfl rfl (List.Subset.refl _)
  | enqueue row hnew => exact h.enqueue hnew

/-- Pools stay, and what was deleted stays deleted. -/
lemma grows_write (hw : Write db own db') :
    db'.pools = db.pools ∧ db.succeeded ⊆ db'.succeeded := by
  cases hw with
  | confirm serial hostId => exact ⟨rfl, List.subset_cons_self _ _⟩
  | _ => exact ⟨rfl, List.Subset.refl _⟩

/-- A row that another task has locked stays. -/
lemma locked_write (hw : Write db own db') (hrow : row ∈ db.rows) (hlock : row.objectId ∈ db.locks)
    (hown : ∀ mine, own = some mine → mine.objectId ≠ row.objectId) :
    row ∈ db'.rows ∧ row.objectId ∈ db'.locks := by
  have hunlock : ∀ mine, own = some mine → row.objectId ∈ db.locks.filter (· ≠ mine.objectId) :=
    fun mine hmine => List.mem_filter.2 ⟨hlock, by simpa using (hown mine hmine).symm⟩
  cases hw with
  | keep | confirm _ _ | hosts _ _ => exact ⟨hrow, hlock⟩
  | lock _ _ _ => exact ⟨hrow, List.mem_cons_of_mem _ hlock⟩
  | unlock mine hmine => exact ⟨hrow, hunlock mine hmine⟩
  | delete run hmine _ =>
    exact ⟨List.mem_filter.2 ⟨hrow, by simpa using (hown _ hmine).symm⟩, hunlock _ hmine⟩
  | postpone run hmine _ =>
    exact ⟨Rows.mem_update.2 (.inr ⟨hrow, (hown _ hmine).symm⟩), hunlock _ hmine⟩
  | enqueue _ _ => exact ⟨List.mem_cons_of_mem _ hrow, hlock⟩

lemma RunOk.mono (h : RunOk db run) (hpools : db'.pools = db.pools)
    (hsucceeded : db.succeeded ⊆ db'.succeeded) : RunOk db' run := by
  refine ⟨?_, fun hostId hmem hshared => ?_, h.within, fun hostId hmem => ?_⟩
  · rw [CleanupDb.poolType?, hpools]
    exact h.shared
  · exact (h.rest hostId hmem hshared).imp_right fun hs => hsucceeded hs
  · exact (h.confirmed hostId hmem).imp_right fun hs => hsucceeded hs

lemma PcOk.mono {pc : ProcessPc} (h : PcOk db pc) (hpools : db'.pools = db.pools)
    (hsucceeded : db.succeeded ⊆ db'.succeeded) : PcOk db' pc := by
  cases pc with
  | select | pool _ | done _ => trivial
  | hosts row shared =>
    rw [PcOk, CleanupDb.poolType?, hpools]
    exact h
  | ask _ _ | call _ _ _ => exact ⟨h.1.mono hpools hsucceeded, h.2⟩
  | finish run completed => cases completed <;> exact ⟨h.1.mono hpools hsucceeded, h.2⟩

/-- **A statement of another task** breaks nothing that a task relies on. -/
lemma relies_write (h : Relies db u) (hw : Write db own db')
    (hown : ∀ mine row, own = some mine → u.held = some row → mine.objectId ≠ row.objectId) :
    Relies db' u := by
  obtain ⟨hpools, hsucceeded⟩ := grows_write hw
  refine ⟨fun row hrow => ?_, fun objectId pc hpc => (h.pc objectId pc hpc).mono hpools hsucceeded⟩
  obtain ⟨hmem, hlock⟩ := h.locked row hrow
  exact locked_write hw hmem hlock fun mine hmine => hown mine row hmine hrow

/-- **What a statement of a task comes to**, when it could rely on its row. -/
structure Moves (db : CleanupDb) (t t' : CleanupTask) (db' : CleanupDb) : Prop where
  write : Write db t.held db'
  relies : Relies db' t'
  held : ∀ row, t'.held = some row → t.held = some row ∨ row.objectId ∉ db.locks

end Writes

/-! ## What a worker does -/

section Runs

variable {db db' : CleanupDb} {objectId : Uuid} {pc pc' : ProcessPc} {row : QueuedRow}
  {run : RunState}

/-- The worker goes on with its row. -/
lemma moves_on (h : Relies db (.process objectId pc)) (hheld : pc'.held = pc.held)
    (hw : Write db pc.held db') (hrows : db'.rows = db.rows) (hlocks : db'.locks = db.locks)
    (hpc : PcOk db' pc') : Moves db (.process objectId pc) (.process objectId pc') db' := by
  refine ⟨hw, ⟨fun row hrow => ?_, ?_⟩, fun row hrow => .inl (hheld.symm.trans hrow)⟩
  · rw [hrows, hlocks]
    exact h.locked row (hheld.symm.trans hrow)
  · rintro _ _ ⟨rfl, rfl⟩
    exact hpc

/-- The worker ends. -/
lemma moves_done {result : Option Bool} (hw : Write db pc.held db') :
    Moves db (.process objectId pc) (.process objectId (.done result)) db' := by
  refine ⟨hw, ⟨fun _ hrow => (nomatch hrow), ?_⟩, fun _ hrow => (nomatch hrow)⟩
  rintro _ _ ⟨rfl, rfl⟩
  trivial

lemma moves_abort (h : abort db row = some (pc', db')) (hheld : pc.held = some row) :
    Moves db (.process objectId pc) (.process objectId pc') db' := by
  cases h
  exact moves_done (.unlock row hheld)

/-- The loop begins with the stored hosts, unless there are none or the pool is shared. -/
lemma pcOk_begun {shared : Bool} {remaining : List Uuid}
    (hshared : shared = true ↔ db.poolType? row.poolId = some .nfs)
    (h : shared = false → row.hostIds ≠ [] → remaining = row.hostIds) :
    PcOk db (begun row shared remaining) := by
  refine ⟨⟨hshared, fun hostId hmem hs => ?_, fun hs hne => ?_, fun _ hmem => (nomatch hmem)⟩,
    fun hs hor => ?_, fun hs hne => ?_⟩
  · exact .inl (h hs (List.ne_nil_of_mem hmem) ▸ hmem)
  · exact h hs hne ▸ List.Subset.refl _
  · rcases hor with hne | hne
    · exact h hs hne ▸ hne
    · exact absurd rfl hne
  · exact h hs hne ▸ List.Subset.refl _

/-- A host has confirmed. -/
lemma runOk_retain (h : RunOk db run) (hostId : Uuid) :
    RunOk (db.confirm run.row.serial hostId) (run.retain hostId) := by
  refine ⟨h.shared, fun host hmem hs => ?_, fun hs hne => ?_, fun host hmem => ?_⟩
  · by_cases heq : host = hostId
    · exact .inr (heq ▸ List.mem_cons_self)
    · rcases h.rest host hmem hs with hleft | hdeleted
      · exact .inl (List.mem_filter.2 ⟨hleft, by simpa using heq⟩)
      · exact .inr (List.mem_cons_of_mem _ hdeleted)
  · exact fun host hmem => h.within hs hne (List.mem_of_mem_filter hmem)
  · rcases List.mem_cons.1 hmem with rfl | hmem
    · exact ⟨by simp [RunState.retain], List.mem_cons_self⟩
    · obtain ⟨hnot, hdeleted⟩ := h.confirmed host hmem
      exact ⟨fun hleft => hnot (List.mem_of_mem_filter hleft), List.mem_cons_of_mem _ hdeleted⟩

section Statements

variable {o : CallOutcome} {hostId : Uuid} {todo : List Uuid}

/-- The row is locked, if it is there and nobody has it. -/
lemma moves_select (hn : processNext objectId db o .select = some (pc', db')) :
    Moves db (.process objectId .select) (.process objectId pc') db' := by
  simp only [processNext] at hn
  split at hn
  · cases hn
    exact moves_done .keep
  · split at hn
    · cases hn
      exact moves_done .keep
    · rename_i row hfind
      split_ifs at hn with hlocked
      cases hn
      obtain ⟨hrow, rfl⟩ := Rows.mem_of_find? hfind
      refine ⟨.lock row hrow hlocked, ⟨?_, ?_⟩, ?_⟩
      · rintro _ ⟨rfl⟩
        exact ⟨hrow, List.mem_cons_self⟩
      · rintro _ _ ⟨rfl, rfl⟩
        trivial
      · rintro _ ⟨rfl⟩
        exact .inr hlocked

/-- The type of the pool is read, and with it whether its hosts have to be. -/
lemma moves_pool (h : Relies db (.process objectId (.pool row)))
    (hn : processNext objectId db o (.pool row) = some (pc', db')) :
    Moves db (.process objectId (.pool row)) (.process objectId pc') db' := by
  simp only [processNext] at hn
  split at hn
  · exact moves_abort hn rfl
  · split at hn
    · exact moves_abort hn rfl
    · rename_i type htype
      have hshared : decide (type = .nfs) = true ↔ db.poolType? row.poolId = some .nfs := by
        rw [htype, decide_eq_true_iff, Option.some_inj]
      split_ifs at hn with hreload
      · cases hn
        exact moves_on h rfl .keep rfl rfl ⟨hshared, by simpa using hreload⟩
      · cases hn
        exact moves_on h rfl .keep rfl rfl (pcOk_begun hshared fun _ _ => rfl)

/-- The loop goes on to the next host, or past one that is not there. -/
lemma moves_ask (h : Relies db (.process objectId (.ask run todo)))
    (hn : processNext objectId db o (.ask run todo) = some (pc', db')) :
    Moves db (.process objectId (.ask run todo)) (.process objectId pc') db' := by
  obtain ⟨hrun, hopen, htodo⟩ := h.pc objectId _ rfl
  cases todo with
  | nil =>
    cases hn
    exact moves_on h rfl .keep rfl rfl ⟨hrun, hopen⟩
  | cons hostId todo =>
    simp only [processNext] at hn
    split at hn
    · exact moves_abort hn rfl
    · split_ifs at hn
      · cases hn
        exact moves_on h rfl .keep rfl rfl ⟨hrun, hopen, htodo⟩
      · cases hn
        refine moves_on h rfl .keep rfl rfl
          ⟨⟨hrun.shared, hrun.rest, hrun.within, hrun.confirmed⟩, hopen, fun hs hne => ?_⟩
        exact List.Subset.trans (List.subset_cons_self _ _) (htodo hs hne)

/-- The node has answered, or not. -/
lemma moves_call (h : Relies db (.process objectId (.call run hostId todo)))
    (hn : processNext objectId db o (.call run hostId todo) = some (pc', db')) :
    Moves db (.process objectId (.call run hostId todo)) (.process objectId pc') db' := by
  obtain ⟨hrun, hopen, htodo⟩ := h.pc objectId _ rfl
  have hrest := fun hs hne => List.Subset.trans (List.subset_cons_self hostId todo) (htodo hs hne)
  simp only [processNext] at hn
  split at hn
  · split_ifs at hn with hcompleted
    · cases hn
      refine moves_on h rfl (.confirm _ _) rfl rfl
        ⟨runOk_retain hrun hostId, List.cons_ne_nil _ _, fun hs => ?_⟩
      simpa [hs] using hcompleted
    · cases hn
      refine moves_on h rfl (.confirm _ _) rfl rfl
        ⟨runOk_retain hrun hostId, fun hs _ hnil => hcompleted ?_, hrest⟩
      simp [hnil]
  all_goals
    cases hn
    exact moves_on h rfl .keep rfl rfl
      ⟨⟨hrun.shared, hrun.rest, hrun.within, hrun.confirmed⟩, hopen, hrest⟩

/-- **One statement or call of a worker.** -/
lemma moves_process (h : Relies db (.process objectId pc))
    (hn : processNext objectId db o pc = some (pc', db')) :
    Moves db (.process objectId pc) (.process objectId pc') db' := by
  have hpc := h.pc objectId pc rfl
  cases pc with
  | select => exact moves_select hn
  | pool row => exact moves_pool h hn
  | hosts row shared =>
    simp only [processNext] at hn
    split at hn
    · exact moves_abort hn rfl
    · cases hn
      refine moves_on h rfl .keep rfl rfl (pcOk_begun hpc.1 fun hs hne => ?_)
      exact absurd (hpc.2.resolve_left (by simp [hs])) hne
  | ask run todo => exact moves_ask h hn
  | call run hostId todo => exact moves_call h hn
  | finish run completed =>
    simp only [processNext] at hn
    split at hn
    · exact moves_abort hn rfl
    · cases completed with
      | true =>
        cases hn
        exact moves_done (.delete run rfl hpc)
      | false =>
        cases hn
        exact moves_done (.postpone run rfl hpc)
  | done result => cases hn

end Statements

lemma moves_change {c : Change} (hn : c.apply db = some db') :
    Moves db (.change c) .changed db' := by
  refine ⟨?_, ⟨fun _ hrow => (nomatch hrow), fun _ _ hpc => (nomatch hpc)⟩,
    fun _ hrow => (nomatch hrow)⟩
  cases c with
  | enqueue row =>
    simp only [Change.apply] at hn
    split_ifs at hn with hkeys
    cases hn
    refine .enqueue row fun other hother => ?_
    rw [Bool.and_eq_true, List.all_eq_true] at hkeys
    simpa using hkeys.1 other hother
  | _ =>
    cases hn
    exact .hosts _ _

lemma moves_next {t t' : CleanupTask} {o : CallOutcome} (h : Relies db t)
    (hn : t.next db o = some (t', db')) : Moves db t t' db' := by
  cases t with
  | process objectId pc =>
    obtain ⟨⟨pc', db'⟩, hnext, heq⟩ := Option.map_eq_some_iff.1 hn
    cases heq
    exact moves_process h hnext
  | change c =>
    obtain ⟨db', happly, heq⟩ := Option.map_eq_some_iff.1 hn
    cases heq
    exact moves_change happly
  | changed => cases hn

end Runs

/-! ## Every run -/

/-- The queue is empty, and no worker has begun. -/
def Fresh (p : CleanupPool) : Prop :=
  p.tasks = [] ∧ p.shared = { p.shared with
    rows := [], locks := [], enqueued := [], succeeded := [], settled := [] }

/-- The hosts that a run has still to ask or waits for. -/
def ProcessPc.requires : ProcessPc → List Uuid
  | .ask run todo => run.remaining ++ todo
  | .call run hostId todo => run.remaining ++ hostId :: todo
  | .finish run false => run.remaining
  | _ => []

lemma kept_fresh {p : CleanupPool} (h : Fresh p) : Kept p.shared := by
  obtain ⟨-, h⟩ := h
  rw [h]
  exact ⟨List.nodup_nil, List.nodup_nil, fun _ hrow => (nomatch hrow),
    fun _ _ hmem => (nomatch hmem),
    fun _ _ hn => (nomatch hn)⟩

/-- A task that begins holds nothing. -/
lemma relies_begins (db : CleanupDb) {t : CleanupTask} (hb : t.begins = true) :
    t.held = none ∧ Relies db t := by
  unfold CleanupTask.begins at hb
  split at hb
  · exact ⟨rfl, fun _ hrow => (nomatch hrow), by rintro _ _ ⟨rfl, rfl⟩; trivial⟩
  · exact ⟨rfl, fun _ hrow => (nomatch hrow), fun _ _ hpc => (nomatch hpc)⟩
  · cases hb

lemma inv_reached {p : CleanupPool} (h : Reach cleanupStep (fun _ _ => True) Fresh p) :
    Inv Kept Relies Apart p := by
  refine reach_inv (fun t u hR row row' hrow hrow' => (hR row' row hrow' hrow).symm)
    (fun p hp => ?_) (fun p t _ hb _ => ?_) (fun p i o t t' db' hinv _ ht hn => ?_) h
  · exact inv_nil hp.1 (kept_fresh hp)
  · obtain ⟨hheld, hrelies⟩ := relies_begins p.shared hb
    refine ⟨hrelies, fun u _ row row' hrow => ?_⟩
    rw [hheld] at hrow
    cases hrow
  · have hrelies := hinv.each i t ht
    obtain ⟨hwrite, hrelies', hheld⟩ := moves_next hrelies hn
    refine ⟨kept_write hinv.shared (fun row hrow => (hrelies.locked row hrow).1) hwrite, hrelies',
      fun u _ hother hapart => ?_⟩
    refine ⟨relies_write hother hwrite hapart, fun row row' hrow hrow' => ?_⟩
    rcases hheld row hrow with hrow | hnew
    · exact hapart row row' hrow hrow'
    · exact fun heq => hnew (heq ▸ (hother.locked row' hrow').2)

/-- A worker does not wait for a host that has confirmed in a committed run. -/
lemma not_requires_settled {db : CleanupDb} {objectId hostId : Uuid} {pc : ProcessPc}
    (hkept : Kept db) (hrelies : Relies db (.process objectId pc)) (hrow : pc.held = some row)
    (hp : PerHost db row.poolId) (hsettled : (row.serial, hostId) ∈ db.settled) :
    hostId ∉ pc.requires := by
  obtain ⟨original, -, htells⟩ := hkept.tells row (hrelies.locked row hrow).1
  obtain ⟨hne, hnot⟩ := htells.settled hp hostId hsettled
  have hpc := hrelies.pc objectId pc rfl
  have hsub : pc.requires ⊆ row.hostIds := by
    cases pc with
    | select | done _ => cases hrow
    | pool _ | hosts _ _ => exact List.nil_subset _
    | ask run todo | call run _ todo =>
      cases hrow
      have hshared : run.shared = false := by
        rw [← Bool.not_eq_true, hpc.1.shared]
        exact hp
      exact List.append_subset.2 ⟨hpc.1.within hshared hne, hpc.2.2 hshared hne⟩
    | finish run completed =>
      cases completed with
      | true => exact List.nil_subset _
      | false =>
        cases hrow
        have hshared : run.shared = false := by
          rw [← Bool.not_eq_true, hpc.1.shared]
          exact hp
        exact hpc.1.within hshared hne
  exact fun hmem => hnot (hsub hmem)

/-- **Allocation is released only after confirmed deletion.**  In every state reached by any number
of workers, with any outcomes and any changes of attachments: where the row of an insertion is gone,
the files are gone, on every host of the inserted list, or on one host for a shared pool; and a host
that has confirmed in a committed run is neither in the list of a row nor waited for by a worker. -/
theorem row_removed_after_deletion {p : CleanupPool}
    (h : Reach cleanupStep (fun _ _ => True) Fresh p) :
    (∀ n original, p.shared.enqueued[n]? = some original →
      (∀ row ∈ p.shared.rows, row.serial ≠ n) → Released p.shared n original) ∧
    (∀ row ∈ p.shared.rows, PerHost p.shared row.poolId →
      ∀ hostId, (row.serial, hostId) ∈ p.shared.settled → hostId ∉ row.hostIds) ∧
    ∀ objectId pc row, .process objectId pc ∈ p.tasks → pc.held = some row →
      PerHost p.shared row.poolId →
      ∀ hostId, (row.serial, hostId) ∈ p.shared.settled → hostId ∉ pc.requires := by
  obtain ⟨hkept, heach, -⟩ := inv_reached h
  refine ⟨fun n original hn hgone => ?_, fun row hrow hp hostId hsettled => ?_,
    fun objectId pc row ht hrow hp hostId hsettled => ?_⟩
  · rcases hkept.released n original hn with ⟨row, hrow, hserial⟩ | hreleased
    · exact absurd hserial (hgone row hrow)
    · exact hreleased
  · obtain ⟨original, -, htells⟩ := hkept.tells row hrow
    exact (htells.settled hp hostId hsettled).2
  · obtain ⟨i, ht⟩ := List.mem_iff_getElem?.1 ht
    exact not_requires_settled hkept (heach i _ ht) hrow hp hsettled

/-- **One worker for a row**, in any run and whatever fails: no two workers have it, and nobody has
written it since its worker has read it. -/
theorem one_worker_for_row {p : CleanupPool} (h : Reach cleanupStep (fun _ _ => True) Fresh p) :
    p.tasks.Pairwise Apart ∧ ∀ t ∈ p.tasks, ∀ row, t.held = some row → row ∈ p.shared.rows := by
  obtain ⟨-, heach, hapart⟩ := inv_reached h
  refine ⟨List.pairwise_iff_getElem.2 fun i j hi hj hij => ?_, fun t ht row hrow => ?_⟩
  · exact hapart i j _ _ hij.ne (List.getElem?_eq_getElem hi) (List.getElem?_eq_getElem hj)
  · obtain ⟨i, hi⟩ := List.getElem?_of_mem ht
    exact ((heach i t hi).locked row hrow).1

/-- Two hosts, with a pool of each kind. -/
def twoHosts : CleanupPool where
  shared :=
    { pools := [(⟨"local"⟩, .local), (⟨"nfs"⟩, .nfs)]
      hosts := [⟨"h1"⟩, ⟨"h2"⟩]
      hostPools := [(⟨"h1"⟩, ⟨"local"⟩), (⟨"h2"⟩, ⟨"local"⟩), (⟨"h2"⟩, ⟨"nfs"⟩)]
      rows := []
      locks := []
      enqueued := []
      succeeded := []
      settled := [] }
  tasks := []

/-- One host confirms, the other does not answer; the pool is detached from it; a worker crashes
after it has confirmed at last, and another one asks it again. -/
def retried : List (Act CleanupTask CallOutcome) :=
  let files : CleanupRow := ⟨⟨"disk"⟩, ⟨"local"⟩, false, 64, [⟨"h1"⟩, ⟨"h2"⟩]⟩
  let worker : CleanupTask := .process ⟨"disk"⟩ .select
  [.spawn (.change (.enqueue files)), .run 0 .ok, .spawn worker, .spawn worker] ++
    List.replicate 5 (.run 1 .ok) ++ [.run 1 .timedOut, .run 1 .ok, .run 1 .ok] ++
    [.spawn (.change (.detach ⟨"h2"⟩ ⟨"local"⟩)), .run 3 .ok] ++
    List.replicate 4 (.run 2 .ok) ++ [.run 2 .timedOut, .spawn worker] ++
    List.replicate 5 (.run 4 .ok)

theorem retried_row_removed :
    ∃ p, Machine.run cleanupStep twoHosts retried = some p ∧ p.shared.rows = [] ∧
      p.shared.settled = [(0, ⟨"h1"⟩)] ∧ (0, ⟨"h1"⟩) ∈ p.shared.succeeded ∧
      (0, ⟨"h2"⟩) ∈ p.shared.succeeded := by
  have hrun : (∃ p ∈ Machine.run cleanupStep twoHosts retried, p.shared.rows = [] ∧
      p.shared.settled = [(0, ⟨"h1"⟩)] ∧
      p.shared.enqueued = [⟨⟨"disk"⟩, ⟨"local"⟩, false, 64, [⟨"h1"⟩, ⟨"h2"⟩]⟩] ∧
      p.shared.poolType? ⟨"local"⟩ = some .local) ∧
      Along cleanupStep (fun _ _ => True) twoHosts retried := by decide +kernel
  obtain ⟨⟨p, hp, hrows, hsettled, henqueued, htype⟩, halong⟩ := hrun
  have hfresh : Fresh twoHosts := ⟨rfl, rfl⟩
  obtain ⟨hreleased, -⟩ := row_removed_after_deletion (reach_of_run (.start hfresh) halong hp)
  have hall := (hreleased 0 _ (by rw [henqueued]; rfl) (by simp [hrows])).perHost
    (by simp [PerHost, htype]) (List.cons_ne_nil _ _)
  exact ⟨p, hp, hrows, hsettled, hall _ (by simp), hall _ (by simp)⟩

theorem retried_one_worker : ∃ p ∈ Machine.run cleanupStep twoHosts (retried.take 6),
    p.tasks.length = 3 ∧ p.tasks.Pairwise Apart := by
  refine (exists_reach (P := fun p : CleanupPool => p.tasks.length = 3) ⟨rfl, rfl⟩ ?_).imp
    fun p h => ⟨h.1, h.2.1, (one_worker_for_row h.2.2).1⟩
  decide +kernel

end Cleanup

end Qarax
