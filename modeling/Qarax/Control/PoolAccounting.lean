import Qarax.Core.Machine
import Qarax.Core.Records
import Qarax.Core.Effect
import Qarax.Control.VmDisks

/-!
# What storage pools have given away

`storage_pools.allocated_bytes` is written by no handler.  Triggers of the database keep it:
`account_storage_object` on every row of `storage_objects` that comes, changes or goes,
`queue_storage_cleanup` when an object with files of its own is deleted, and
`release_storage_cleanup` when these files are gone.  For one event the triggers fire in the order
of their names, so the second takes back what the first has just released, without asking for room
again.

* `Tables.exec` — one statement with its triggers; it commits as a whole or not at all.
* `Balanced` — the counter of each pool is the sum over its rows.
-/

namespace Qarax

namespace Accounting

open Machine

/-! ## Tables -/

structure PoolRow where
  id : Uuid
  poolType : StoragePoolType
  capacityBytes : Option Int
  allocatedBytes : Int

structure ObjectRow where
  id : Uuid
  name : String
  storagePoolId : Uuid
  objectType : StorageObjectType
  sizeBytes : Int
  /-- Null for an object that was registered and not made. -/
  managedHostIds : Option (List Uuid)

structure CleanupRow where
  objectId : Uuid
  poolId : Uuid
  upperLayer : Bool
  sizeBytes : Int
  hostIds : List Uuid
  deriving DecidableEq

structure Tables where
  pools : List PoolRow
  objects : List ObjectRow
  cleanup : List CleanupRow
  hostPools : List (Uuid × Uuid)

inductive PgError where
  | violates (constraint : String)
  | raised (message constraint : String)
  | outOfRange

/-- A result of arithmetic on `BIGINT`. -/
def bigint (n : Int) : Except PgError Int :=
  if -2 ^ 63 ≤ n ∧ n < 2 ^ 63 then .ok n else .error .outOfRange

def insist (condition : Bool) (constraint : String) : Except PgError Unit :=
  if condition then .ok () else .error (.violates constraint)

/-- `UPDATE storage_pools SET allocated_bytes = … WHERE id = …`, with the constraint of the
column. -/
def setAllocated (pools : List PoolRow) (poolId : Uuid) (allocated : Int) :
    Except PgError (List PoolRow) := do
  insist (0 ≤ allocated) "storage_pool_allocation_nonnegative"
  .ok (Rows.update PoolRow.id poolId (fun pool => { pool with allocatedBytes := allocated }) pools)

/-! ## Triggers -/

def adjustStoragePoolAllocation (pools : List PoolRow) (poolId : Uuid) (delta : Int) :
    Except PgError (List PoolRow) :=
  match pools.find? (·.id = poolId) with
  | none => .error (.raised "Insufficient storage pool capacity" "storage_pool_capacity")
  | some pool => do
      let allocated ← bigint (pool.allocatedBytes + delta)
      if delta ≤ 0 || pool.capacityBytes.all (allocated ≤ ·) then
        setAllocated pools poolId allocated
      else .error (.raised "Insufficient storage pool capacity" "storage_pool_capacity")

/-- `account_storage_object` after an `UPDATE`. -/
def accountUpdate (pools : List PoolRow) (old new : ObjectRow) : Except PgError (List PoolRow) :=
  if new.storagePoolId = old.storagePoolId then
    adjustStoragePoolAllocation pools new.storagePoolId (new.sizeBytes - max old.sizeBytes 0)
  else do
    let pools ← adjustStoragePoolAllocation pools old.storagePoolId (-max old.sizeBytes 0)
    adjustStoragePoolAllocation pools new.storagePoolId new.sizeBytes

/-- The row `queue_storage_cleanup` inserts for an object with files. -/
def cleanupRow (hostPools : List (Uuid × Uuid)) (old : ObjectRow) (managed : List Uuid) :
    CleanupRow where
  objectId := old.id
  poolId := old.storagePoolId
  upperLayer := old.objectType = .overlaybdUpper
  sizeBytes := max old.sizeBytes 0
  hostIds :=
    if managed = [] then (hostPools.filter fun hp => hp.2 = old.storagePoolId).map Prod.fst
    else managed

def queueStorageCleanup (db : Tables) (old : ObjectRow) : Except PgError Tables :=
  match old.managedHostIds with
  | none => .ok db
  | some managed => do
      insist (db.cleanup.all (·.objectId ≠ old.id)) "storage_cleanup_pkey"
      match db.pools.find? (·.id = old.storagePoolId) with
      | none => .error (.violates "storage_cleanup_pool_id_fkey")
      | some pool => do
          let allocated ← bigint (pool.allocatedBytes + max old.sizeBytes 0)
          let pools ← setAllocated db.pools pool.id allocated
          .ok { db with pools, cleanup := cleanupRow db.hostPools old managed :: db.cleanup }

/-! ## Statements -/

/-- The constraints on a row of `storage_objects` that is new or changed; `others` are the other
rows.  The constraint on sizes was added `NOT VALID`, so older rows may violate it. -/
def checkObject (db : Tables) (others : List ObjectRow) (new : ObjectRow) :
    Except PgError Unit := do
  let _ ← bigint new.sizeBytes
  insist (0 ≤ new.sizeBytes) "storage_object_size_nonnegative"
  insist (others.all fun o => o.storagePoolId ≠ new.storagePoolId || o.name ≠ new.name)
    "storage_objects_storage_pool_id_name_key"
  insist (db.pools.any (·.id = new.storagePoolId)) "storage_objects_storage_pool_id_fkey"

inductive Statement where
  | insertObject (object : ObjectRow)
  /-- A change of size, of the pool, or of both. -/
  | updateObject (id : Uuid) (sizeBytes : Int) (storagePoolId : Uuid)
  | deleteObject (id : Uuid)
  | deleteCleanup (objectId : Uuid)

namespace Tables

def insertObject (db : Tables) (new : ObjectRow) : Except PgError Tables := do
  insist (db.objects.all (·.id ≠ new.id)) "storage_objects_pkey"
  checkObject db db.objects new
  let pools ← adjustStoragePoolAllocation db.pools new.storagePoolId new.sizeBytes
  .ok { db with pools, objects := new :: db.objects }

def updateObject (db : Tables) (old : ObjectRow) (sizeBytes : Int) (storagePoolId : Uuid) :
    Except PgError Tables := do
  let new := { old with sizeBytes, storagePoolId }
  checkObject db (db.objects.filter (·.id ≠ old.id)) new
  let pools ← accountUpdate db.pools old new
  .ok { db with pools, objects := Rows.update ObjectRow.id old.id (fun _ => new) db.objects }

def deleteObject (db : Tables) (old : ObjectRow) : Except PgError Tables := do
  let objects := db.objects.filter (·.id ≠ old.id)
  -- `account_storage_object`, then `queue_storage_cleanup`
  let pools ← adjustStoragePoolAllocation db.pools old.storagePoolId (-max old.sizeBytes 0)
  queueStorageCleanup { db with pools, objects } old

def deleteCleanup (db : Tables) (old : CleanupRow) : Except PgError Tables := do
  let pools ← adjustStoragePoolAllocation db.pools old.poolId (-old.sizeBytes)
  .ok { db with pools, cleanup := db.cleanup.filter (·.objectId ≠ old.objectId) }

/-- **A statement with its triggers.**  One whose row is not there changes nothing. -/
def exec (db : Tables) : Statement → Except PgError Tables
  | .insertObject object => db.insertObject object
  | .updateObject id sizeBytes storagePoolId =>
    match db.objects.find? (·.id = id) with
    | none => .ok db
    | some old => db.updateObject old sizeBytes storagePoolId
  | .deleteObject id =>
    match db.objects.find? (·.id = id) with
    | none => .ok db
    | some old => db.deleteObject old
  | .deleteCleanup objectId =>
    match db.cleanup.find? (·.objectId = objectId) with
    | none => .ok db
    | some old => db.deleteCleanup old

/-- A statement that fails is rolled back. -/
def step (db : Tables) (statement : Statement) : Option Tables :=
  match db.exec statement with
  | .ok db' => some db'
  | .error _ => some db

/-- What is allocated to objects, as the migration counts it. -/
def objectBytes (db : Tables) (poolId : Uuid) : Int :=
  Rows.total ObjectRow.storagePoolId (fun o => max o.sizeBytes 0) poolId db.objects

def cleanupBytes (db : Tables) (poolId : Uuid) : Int :=
  Rows.total CleanupRow.poolId CleanupRow.sizeBytes poolId db.cleanup

/-- The migrations that introduce the triggers, on tables as they were. -/
def migrate (db : Tables) : Except PgError Tables :=
  if db.pools.all fun pool => db.objectBytes pool.id < 2 ^ 63 then
    .ok { db with
      pools := db.pools.map fun pool => { pool with allocatedBytes := db.objectBytes pool.id }
      cleanup := [] }
  else .error .outOfRange

end Tables

/-! ## What a trigger books -/

/-- A change of one pool. -/
def single (poolId : Uuid) (delta : Int) (p : Uuid) : Int := if poolId = p then delta else 0

/-- The counters change by `delta`, and nothing else of the pools. -/
structure Booked (delta : Uuid → Int) (pools pools' : List PoolRow) : Prop where
  ids : pools'.map PoolRow.id = pools.map PoolRow.id
  rows : ∀ pool' ∈ pools', ∃ pool ∈ pools, pool.id = pool'.id ∧
    pool'.capacityBytes = pool.capacityBytes ∧
    pool'.allocatedBytes = pool.allocatedBytes + delta pool'.id

/-- A counter that grows stays within the capacity. -/
def Roomy (delta : Uuid → Int) (pools' : List PoolRow) : Prop :=
  ∀ pool' ∈ pools', ∀ capacity, pool'.capacityBytes = some capacity → 0 < delta pool'.id →
    pool'.allocatedBytes ≤ capacity

section Booking

variable {pools pools' pools'' : List PoolRow} {poolId : Uuid} {delta : Int} {d d' : Uuid → Int}

lemma Booked.trans (h : Booked d pools pools') (h' : Booked d' pools' pools'') :
    Booked (d + d') pools pools'' := by
  refine ⟨h'.ids.trans h.ids, fun pool'' hpool'' => ?_⟩
  obtain ⟨pool', hpool', hid', hcapacity', hallocated'⟩ := h'.rows pool'' hpool''
  obtain ⟨pool, hpool, hid, hcapacity, hallocated⟩ := h.rows pool' hpool'
  refine ⟨pool, hpool, hid.trans hid', hcapacity'.trans hcapacity, ?_⟩
  rw [hallocated', hallocated, hid', Pi.add_apply, add_assoc]

lemma insist_eq_ok {condition : Bool} {constraint : String} {u : Unit}
    (h : insist condition constraint = .ok u) : condition = true := by
  unfold insist at h
  split_ifs at h with hc
  exact hc

lemma bigint_eq_ok {n m : Int} (h : bigint n = .ok m) : m = n := by
  unfold bigint at h
  split_ifs at h
  exact (Except.ok.inj h).symm

/-- The one row that is written. -/
lemma booked_setAllocated {pool : PoolRow} (hids : (pools.map PoolRow.id).Nodup)
    (hpool : pool ∈ pools)
    (h : setAllocated pools pool.id (pool.allocatedBytes + delta) = .ok pools') :
    Booked (single pool.id delta) pools pools' := by
  obtain ⟨-, -, h⟩ := except_bind_eq_ok.1 h
  cases h
  refine ⟨Rows.map_update fun _ => rfl, fun pool' hpool' => ?_⟩
  rcases Rows.mem_update.1 hpool' with ⟨pool₀, hpool₀, hid, rfl⟩ | ⟨hpool', hne⟩
  · obtain rfl : pool₀ = pool := List.inj_on_of_nodup_map hids hpool₀ hpool hid
    exact ⟨pool₀, hpool, rfl, rfl, by simp [single]⟩
  · exact ⟨pool', hpool', rfl, rfl, by simp [single, Ne.symm hne]⟩

/-- **What `adjust_storage_pool_allocation` does when it returns.** -/
lemma booked_adjust (hids : (pools.map PoolRow.id).Nodup)
    (h : adjustStoragePoolAllocation pools poolId delta = .ok pools') :
    Booked (single poolId delta) pools pools' ∧ Roomy (single poolId delta) pools' := by
  unfold adjustStoragePoolAllocation at h
  split at h
  · cases h
  · rename_i pool hfind
    obtain ⟨allocated, hallocated, h⟩ := except_bind_eq_ok.1 h
    obtain rfl := bigint_eq_ok hallocated
    split_ifs at h with hroom
    obtain rfl : pool.id = poolId := by simpa using List.find?_some hfind
    have hpool : pool ∈ pools := List.mem_of_find?_eq_some hfind
    have hbooked := booked_setAllocated hids hpool h
    refine ⟨hbooked, fun pool' hpool' capacity hcapacity hgrows => ?_⟩
    obtain ⟨pool₀, hpool₀, hid, hcapacity', hallocated'⟩ := hbooked.rows pool' hpool'
    by_cases hself : pool.id = pool'.id
    · obtain rfl : pool₀ = pool := List.inj_on_of_nodup_map hids hpool₀ hpool (hid.trans hself.symm)
      rw [single, if_pos hself] at hgrows hallocated'
      rw [← hcapacity', hcapacity] at hroom
      rw [hallocated']
      simpa [hgrows.not_ge] using hroom
    · simp [single, hself] at hgrows

end Booking

/-! ## What a statement books -/

/-- Counters and rows change by the same amounts. -/
structure Posted (delta : Uuid → Int) (db db' : Tables) : Prop where
  booked : Booked delta db.pools db'.pools
  bytes : ∀ p, db'.objectBytes p + db'.cleanupBytes p
    = db.objectBytes p + db.cleanupBytes p + delta p
  roomy : Roomy delta db'.pools

/-- **Counters are sums.** -/
structure Balanced (db : Tables) : Prop where
  poolIds : (db.pools.map PoolRow.id).Nodup
  objectIds : (db.objects.map ObjectRow.id).Nodup
  cleanupIds : (db.cleanup.map CleanupRow.objectId).Nodup
  pending : ∀ row ∈ db.cleanup, 0 ≤ row.sizeBytes
  allocated : ∀ pool ∈ db.pools,
    pool.allocatedBytes = db.objectBytes pool.id + db.cleanupBytes pool.id

section Statements

variable {db db' : Tables}

lemma share_eq_single {α : Type} (owner : α → Uuid) (weight : α → Int) (p : Uuid) (r : α) :
    Rows.share owner weight p r = single (owner r) (weight r) p := rfl

lemma single_neg (poolId : Uuid) (n : Int) (p : Uuid) :
    single poolId (-n) p = -single poolId n p := by
  unfold single
  split_ifs <;> simp

variable {new old : ObjectRow} {sizeBytes : Int} {storagePoolId : Uuid} {statement : Statement}

lemma nonneg_of_checkObject {others : List ObjectRow} {u : Unit}
    (h : checkObject db others new = .ok u) : 0 ≤ new.sizeBytes := by
  obtain ⟨_, _, h⟩ := except_bind_eq_ok.1 h
  obtain ⟨_, hsize, _⟩ := except_bind_eq_ok.1 h
  simpa using insist_eq_ok hsize

variable (hdb : Balanced db)

include hdb

lemma posted_insertObject (h : db.insertObject new = .ok db') :
    Posted (single new.storagePoolId new.sizeBytes) db db' := by
  obtain ⟨_, _, h⟩ := except_bind_eq_ok.1 h
  obtain ⟨_, hcheck, h⟩ := except_bind_eq_ok.1 h
  obtain ⟨pools, hadjust, h⟩ := except_bind_eq_ok.1 h
  cases h
  obtain ⟨hbooked, hroomy⟩ := booked_adjust hdb.poolIds hadjust
  refine ⟨hbooked, fun p => ?_, hroomy⟩
  simp only [Tables.objectBytes, Tables.cleanupBytes, Rows.total_cons, share_eq_single,
    max_eq_left (nonneg_of_checkObject hcheck)]
  ring

omit hdb in
/-- The pools after an update: the old size is released and the new one taken. -/
lemma booked_accountUpdate {pools pools' : List PoolRow} (hids : (pools.map PoolRow.id).Nodup)
    (h : accountUpdate pools old new = .ok pools') :
    let delta := single old.storagePoolId (-max old.sizeBytes 0)
      + single new.storagePoolId new.sizeBytes
    Booked delta pools pools' ∧ Roomy delta pools' := by
  unfold accountUpdate at h
  split_ifs at h with hpool
  · have hdelta : single old.storagePoolId (-max old.sizeBytes 0)
        + single new.storagePoolId new.sizeBytes
        = single new.storagePoolId (new.sizeBytes - max old.sizeBytes 0) := by
      funext p
      rw [← hpool, Pi.add_apply]
      unfold single
      split_ifs <;> ring
    rw [hdelta]
    exact booked_adjust hids h
  · obtain ⟨pools₁, h₁, h⟩ := except_bind_eq_ok.1 h
    obtain ⟨hbooked₁, -⟩ := booked_adjust hids h₁
    obtain ⟨hbooked, hroomy⟩ := booked_adjust (hbooked₁.ids ▸ hids) h
    refine ⟨hbooked₁.trans hbooked, fun pool' hpool' capacity hcapacity hgrows => ?_⟩
    -- only the new pool can have grown
    refine hroomy pool' hpool' capacity hcapacity (hgrows.trans_le ?_)
    have hreleased : single old.storagePoolId (-max old.sizeBytes 0) pool'.id ≤ 0 := by
      unfold single
      split_ifs
      · exact neg_nonpos.2 (le_max_right _ _)
      · exact le_rfl
    simpa using hreleased

lemma posted_updateObject (hold : old ∈ db.objects)
    (h : db.updateObject old sizeBytes storagePoolId = .ok db') :
    Posted (single old.storagePoolId (-max old.sizeBytes 0) + single storagePoolId sizeBytes)
      db db' := by
  obtain ⟨_, hcheck, h⟩ := except_bind_eq_ok.1 h
  obtain ⟨pools, haccount, h⟩ := except_bind_eq_ok.1 h
  cases h
  have hsize : 0 ≤ sizeBytes := nonneg_of_checkObject hcheck
  obtain ⟨hbooked, hroomy⟩ := booked_accountUpdate hdb.poolIds haccount
  refine ⟨hbooked, fun p => ?_, hroomy⟩
  have htotal := Rows.total_update (f := fun _ => { old with sizeBytes, storagePoolId })
    ObjectRow.storagePoolId (fun o => max o.sizeBytes 0) p hdb.objectIds hold
  simp only [share_eq_single, max_eq_left hsize] at htotal
  simp only [Tables.objectBytes, Tables.cleanupBytes, Pi.add_apply, single_neg]
  linarith

/-- The rows of the object are gone. -/
lemma objectBytes_delete (hold : old ∈ db.objects) (p : Uuid) :
    Rows.total ObjectRow.storagePoolId (fun o => max o.sizeBytes 0) p
        (db.objects.filter (·.id ≠ old.id))
      = db.objectBytes p + single old.storagePoolId (-max old.sizeBytes 0) p := by
  have htotal := Rows.total_delete ObjectRow.storagePoolId (fun o => max o.sizeBytes 0) p
    hdb.objectIds hold
  rw [share_eq_single] at htotal
  rw [Tables.objectBytes, single_neg]
  linarith

/-- An object without files is released; one with files goes on counting as a row of
`storage_cleanup`. -/
lemma posted_deleteObject (hold : old ∈ db.objects)
    (h : db.deleteObject old = .ok db') : ∃ delta, Posted delta db db' := by
  obtain ⟨pools, hadjust, h⟩ := except_bind_eq_ok.1 h
  obtain ⟨hbooked, hroomy⟩ := booked_adjust hdb.poolIds hadjust
  unfold queueStorageCleanup at h
  split at h
  · cases h
    refine ⟨_, hbooked, fun p => ?_, hroomy⟩
    rw [Tables.objectBytes, objectBytes_delete hdb hold, Tables.cleanupBytes, Tables.cleanupBytes]
    ring
  · rename_i managed _
    obtain ⟨_, _, h⟩ := except_bind_eq_ok.1 h
    split at h
    · cases h
    · rename_i pool hfind
      obtain ⟨allocated, hallocated, h⟩ := except_bind_eq_ok.1 h
      obtain rfl := bigint_eq_ok hallocated
      obtain ⟨pools', hset, h⟩ := except_bind_eq_ok.1 h
      cases h
      have hid : pool.id = old.storagePoolId := by simpa using List.find?_some hfind
      have hbooked' := hbooked.trans
        (booked_setAllocated (hbooked.ids ▸ hdb.poolIds) (List.mem_of_find?_eq_some hfind) hset)
      have hdelta : single old.storagePoolId (-max old.sizeBytes 0)
          + single pool.id (max old.sizeBytes 0) = 0 := by
        funext p
        rw [hid, Pi.add_apply, single_neg, neg_add_cancel, Pi.zero_apply]
      rw [hdelta] at hbooked'
      refine ⟨0, hbooked', fun p => ?_, fun _ _ _ _ hgrows => absurd hgrows (lt_irrefl 0)⟩
      simp only [Tables.objectBytes, Tables.cleanupBytes, objectBytes_delete hdb hold,
        Rows.total_cons,
        share_eq_single, cleanupRow, single_neg, Pi.zero_apply]
      ring

lemma posted_deleteCleanup {old : CleanupRow} (hold : old ∈ db.cleanup)
    (h : db.deleteCleanup old = .ok db') : Posted (single old.poolId (-old.sizeBytes)) db db' := by
  obtain ⟨pools, hadjust, h⟩ := except_bind_eq_ok.1 h
  cases h
  obtain ⟨hbooked, hroomy⟩ := booked_adjust hdb.poolIds hadjust
  refine ⟨hbooked, fun p => ?_, hroomy⟩
  have htotal := Rows.total_delete CleanupRow.poolId CleanupRow.sizeBytes p hdb.cleanupIds hold
  rw [share_eq_single] at htotal
  simp only [Tables.objectBytes, Tables.cleanupBytes, single_neg]
  linarith

/-- **Every statement books what it does.** -/
lemma posted_exec (h : db.exec statement = .ok db') :
    ∃ delta, Posted delta db db' := by
  have hkeep : Posted 0 db db := by
    refine ⟨⟨rfl, fun pool hpool => ⟨pool, hpool, rfl, rfl, by simp⟩⟩, fun p => by simp,
      fun _ _ _ _ hgrows => absurd hgrows (lt_irrefl 0)⟩
  cases statement with
  | insertObject object => exact ⟨_, posted_insertObject hdb h⟩
  | updateObject id sizeBytes storagePoolId =>
    simp only [Tables.exec] at h
    split at h
    · cases h
      exact ⟨0, hkeep⟩
    · rename_i old hfind
      exact ⟨_, posted_updateObject hdb (List.mem_of_find?_eq_some hfind) h⟩
  | deleteObject id =>
    simp only [Tables.exec] at h
    split at h
    · cases h
      exact ⟨0, hkeep⟩
    · rename_i old hfind
      exact posted_deleteObject hdb (List.mem_of_find?_eq_some hfind) h
  | deleteCleanup objectId =>
    simp only [Tables.exec] at h
    split at h
    · cases h
      exact ⟨0, hkeep⟩
    · rename_i old hfind
      exact ⟨_, posted_deleteCleanup hdb (List.mem_of_find?_eq_some hfind) h⟩

/-- Keys stay keys, and pending rows have no negative size. -/
lemma Balanced.of_posted {delta : Uuid → Int} (hposted : Posted delta db db')
    (hobjects : (db'.objects.map ObjectRow.id).Nodup)
    (hcleanup : (db'.cleanup.map CleanupRow.objectId).Nodup)
    (hpending : ∀ row ∈ db'.cleanup, 0 ≤ row.sizeBytes) : Balanced db' := by
  refine ⟨hposted.booked.ids ▸ hdb.poolIds, hobjects, hcleanup, hpending, fun pool' hpool' => ?_⟩
  obtain ⟨pool, hpool, hid, -, hallocated⟩ := hposted.booked.rows pool' hpool'
  rw [hallocated, hdb.allocated pool hpool, hid, hposted.bytes]

lemma keys_insertObject (h : db.insertObject new = .ok db') :
    (db'.objects.map ObjectRow.id).Nodup ∧ db'.cleanup = db.cleanup := by
  obtain ⟨_, hnew, h⟩ := except_bind_eq_ok.1 h
  obtain ⟨_, _, h⟩ := except_bind_eq_ok.1 h
  obtain ⟨pools, _, h⟩ := except_bind_eq_ok.1 h
  cases h
  refine ⟨List.nodup_cons.2 ⟨fun hmem => ?_, hdb.objectIds⟩, rfl⟩
  obtain ⟨old, hold, hid⟩ := List.mem_map.1 hmem
  simpa [hid] using List.all_eq_true.1 (insist_eq_ok hnew) old hold

omit hdb in
lemma keys_updateObject (h : db.updateObject old sizeBytes storagePoolId = .ok db') :
    db'.objects.map ObjectRow.id = db.objects.map ObjectRow.id ∧ db'.cleanup = db.cleanup := by
  obtain ⟨_, _, h⟩ := except_bind_eq_ok.1 h
  obtain ⟨pools, _, h⟩ := except_bind_eq_ok.1 h
  cases h
  exact ⟨Rows.map_key_update fun _ _ => rfl, rfl⟩

lemma keys_deleteObject (h : db.deleteObject old = .ok db') :
    db'.objects = db.objects.filter (·.id ≠ old.id) ∧
      (db'.cleanup.map CleanupRow.objectId).Nodup ∧ ∀ row ∈ db'.cleanup, 0 ≤ row.sizeBytes := by
  obtain ⟨pools, _, h⟩ := except_bind_eq_ok.1 h
  unfold queueStorageCleanup at h
  split at h
  · cases h
    exact ⟨rfl, hdb.cleanupIds, hdb.pending⟩
  · obtain ⟨_, hnew, h⟩ := except_bind_eq_ok.1 h
    split at h
    · cases h
    · obtain ⟨allocated, _, h⟩ := except_bind_eq_ok.1 h
      obtain ⟨pools', _, h⟩ := except_bind_eq_ok.1 h
      cases h
      refine ⟨rfl, List.nodup_cons.2 ⟨fun hmem => ?_, hdb.cleanupIds⟩,
        List.forall_mem_cons.2 ⟨le_max_right _ _, hdb.pending⟩⟩
      · obtain ⟨row, hrow, hid⟩ := List.mem_map.1 hmem
        have hne := List.all_eq_true.1 (insist_eq_ok hnew) row hrow
        simp [cleanupRow, hid] at hne

/-- **A statement keeps counters and sums equal.** -/
lemma balanced_exec (h : db.exec statement = .ok db') :
    Balanced db' := by
  obtain ⟨delta, hposted⟩ := posted_exec hdb h
  cases statement with
  | insertObject object =>
    obtain ⟨hobjects, hcleanup⟩ := keys_insertObject hdb h
    exact hdb.of_posted hposted hobjects (hcleanup ▸ hdb.cleanupIds) (hcleanup ▸ hdb.pending)
  | updateObject id sizeBytes storagePoolId =>
    simp only [Tables.exec] at h
    split at h
    · cases h
      exact hdb
    · obtain ⟨hobjects, hcleanup⟩ := keys_updateObject h
      exact hdb.of_posted hposted (hobjects ▸ hdb.objectIds) (hcleanup ▸ hdb.cleanupIds)
        (hcleanup ▸ hdb.pending)
  | deleteObject id =>
    simp only [Tables.exec] at h
    split at h
    · cases h
      exact hdb
    · obtain ⟨hobjects, hcleanup, hpending⟩ := keys_deleteObject hdb h
      refine hdb.of_posted hposted ?_ hcleanup hpending
      rw [hobjects]
      exact (List.filter_sublist.map _).nodup hdb.objectIds
  | deleteCleanup objectId =>
    simp only [Tables.exec] at h
    split at h
    · cases h
      exact hdb
    · obtain ⟨pools, _, h⟩ := except_bind_eq_ok.1 h
      cases h
      exact hdb.of_posted hposted hdb.objectIds ((List.filter_sublist.map _).nodup hdb.cleanupIds)
        fun row hrow => hdb.pending row (List.mem_filter.1 hrow).1

end Statements

/-- Tables as the migrations leave them.  What was in them may be anything, over capacity and with
negative sizes included. -/
def Migrated (db : Tables) : Prop :=
  ∃ legacy : Tables, (legacy.pools.map PoolRow.id).Nodup ∧ (legacy.objects.map ObjectRow.id).Nodup ∧
    legacy.migrate = .ok db

lemma balanced_migrated {db : Tables} (h : Migrated db) : Balanced db := by
  obtain ⟨legacy, hpools, hobjects, h⟩ := h
  unfold Tables.migrate at h
  split_ifs at h
  cases h
  refine ⟨?_, hobjects, List.nodup_nil, (fun row hrow => nomatch hrow), fun pool' hpool' => ?_⟩
  · rw [List.map_map]
    exact hpools
  · obtain ⟨pool, -, rfl⟩ := List.mem_map.1 hpool'
    exact (add_zero _).symm

lemma Balanced.nonneg {db : Tables} (h : Balanced db) {pool : PoolRow} (hpool : pool ∈ db.pools) :
    0 ≤ pool.allocatedBytes := by
  rw [h.allocated pool hpool]
  refine add_nonneg (List.sum_nonneg fun n hn => ?_) (List.sum_nonneg fun n hn => ?_)
  · obtain ⟨object, -, rfl⟩ := List.mem_map.1 hn
    exact le_max_right _ _
  · obtain ⟨row, hrow, rfl⟩ := List.mem_map.1 hn
    exact h.pending row (List.mem_filter.1 hrow).1

/-- **The accounting of storage pools.**  After every sequence of statements the counter of a pool
is the sum over its objects and its pending rows, and not negative; and no statement that commits
makes a counter grow beyond a known capacity. -/
theorem allocated_bytes_accounted {db : Tables}
    (h : Reach Tables.step (fun _ _ => True) Migrated db) :
    (∀ pool ∈ db.pools, 0 ≤ pool.allocatedBytes ∧ pool.allocatedBytes =
      ((db.objects.filter (·.storagePoolId = pool.id)).map fun o => max o.sizeBytes 0).sum
        + ((db.cleanup.filter (·.poolId = pool.id)).map (·.sizeBytes)).sum) ∧
    ∀ statement db', db.exec statement = .ok db' →
      ∀ pool' ∈ db'.pools, ∀ capacity, pool'.capacityBytes = some capacity →
        ∃ pool ∈ db.pools, pool.id = pool'.id ∧ pool.capacityBytes = some capacity ∧
          (pool.allocatedBytes < pool'.allocatedBytes → pool'.allocatedBytes ≤ capacity) := by
  have hbalanced : Balanced db := by
    refine h.invariant (fun _ => balanced_migrated) fun db statement db' hdb _ hstep => ?_
    unfold Tables.step at hstep
    split at hstep
    · rename_i hexec
      cases hstep
      exact balanced_exec hdb hexec
    · cases hstep
      exact hdb
  refine ⟨fun pool hpool => ⟨hbalanced.nonneg hpool, hbalanced.allocated pool hpool⟩, ?_⟩
  intro statement db' hexec pool' hpool' capacity hcapacity
  obtain ⟨delta, hposted⟩ := posted_exec hbalanced hexec
  obtain ⟨pool, hpool, hid, hsame, hallocated⟩ := hposted.booked.rows pool' hpool'
  refine ⟨pool, hpool, hid, hsame ▸ hcapacity, fun hgrows => ?_⟩
  exact hposted.roomy pool' hpool' capacity hcapacity (by linarith)

/-- A pool that is over capacity, with a size that is negative. -/
def legacyTables : Tables where
  pools := [⟨⟨"p1"⟩, .local, some 10, 0⟩, ⟨⟨"p2"⟩, .nfs, none, 0⟩]
  objects := [⟨⟨"a"⟩, "a", ⟨"p1"⟩, .disk, -5, none⟩, ⟨⟨"b"⟩, "b", ⟨"p1"⟩, .disk, 12, some [⟨"h"⟩]⟩]
  cleanup := []
  hostPools := []

def migratedTables : Tables :=
  { legacyTables with
    pools := [⟨⟨"p1"⟩, .local, some 10, 12⟩, ⟨⟨"p2"⟩, .nfs, none, 0⟩] }

/-- There is room again when the files of the large object are gone, and not before. -/
def makeRoom : List Statement :=
  [.insertObject ⟨⟨"c"⟩, "c", ⟨"p1"⟩, .disk, 1, none⟩, .deleteObject ⟨"b"⟩,
    .insertObject ⟨⟨"d"⟩, "d", ⟨"p1"⟩, .disk, 1, none⟩, .deleteCleanup ⟨"b"⟩,
    .insertObject ⟨⟨"e"⟩, "e", ⟨"p1"⟩, .disk, 6, none⟩, .updateObject ⟨"a"⟩ 3 ⟨"p1"⟩,
    .updateObject ⟨"e"⟩ 8 ⟨"p1"⟩, .updateObject ⟨"e"⟩ 8 ⟨"p2"⟩]

theorem makeRoom_accounted :
    ∃ db, run Tables.step migratedTables makeRoom = some db ∧
      db.pools.map (·.allocatedBytes) = [3, 8] ∧
      ∀ pool ∈ db.pools, 0 ≤ pool.allocatedBytes ∧ pool.allocatedBytes =
        ((db.objects.filter (·.storagePoolId = pool.id)).map fun o => max o.sizeBytes 0).sum
          + ((db.cleanup.filter (·.poolId = pool.id)).map (·.sizeBytes)).sum := by
  have hstart : Migrated migratedTables := ⟨legacyTables, by decide, by decide, by rfl⟩
  refine (exists_reach hstart ?_).imp fun db h =>
    ⟨h.1, h.2.1, (allocated_bytes_accounted h.2.2).1⟩
  decide +kernel

end Accounting

end Qarax
