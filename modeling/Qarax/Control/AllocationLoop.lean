import Qarax.Core.Retry
import Qarax.Control.Ipam

/-!
# Looking for a free address again and again

`allocate_network_ip_tx` asks `next_available_ip` for an address and tries to insert it, until that
succeeds.  The search is a query on the pool, which sees what is committed; the insertion is part of
the transaction, and fails as well if the transaction itself has the address.  Other transactions
commit in between.

* `round` — one round of the loop, with what is committed at its two statements.
* `Others` — what the others may commit: finitely many new addresses of the network.
* `tried` — the addresses of the request that the search may come to.
* `allocation_ends_iff` — the loop ends whatever the others do if there are none, and only then.
* `allocateNetworkIpTx_eq_round` — without others, the loop is the one of `Ipam`.
-/

namespace Qarax

namespace Ipam

open Retry

/-! ## The loop -/

/-- One round: `none` if the address was taken, and the loop goes on. -/
def round (search insert : LedgerDb) (vmId networkId : Uuid) :
    Option (Except Halt (Inet × LedgerDb)) :=
  match nextAvailableIp search networkId with
  | .error e => some (.error e)
  | .ok none => some (.error (.failed (.unprocessableEntity "No available IPs in network")))
  | .ok (some addr) =>
    match tryAllocateIpTx insert networkId (.ofIpv4 addr) vmId with
    | .error e => some (.error e)
    | .ok (some tx) => some (.ok (.ofIpv4 addr, tx))
    | .ok none => none

/-- The rows that the transaction of a request has inserted when its loop begins. -/
def Request.own : Request → List IpAllocation
  | .create vm _ => (statics vm.id vm.networks).reverse
  | _ => []

/-- The VM and the network that a request looks for an address for. -/
def Request.managed : Request → Option (Uuid × Uuid)
  | .create vm _ => vm.networkId.map fun networkId => (vm.id, networkId)
  | .addNic vmId req _ =>
    if req.ip.isNone then req.networkId.map fun networkId => (vmId, networkId) else none
  | _ => none

/-- The transaction of a request when its loop begins. -/
def atLoop (db : LedgerDb) : Request → Except Halt LedgerDb
  | .create vm others => do
      validateRequestedStaticIpsAreAvailable db vm.networks
      insist others .internalServerError
      insist (db.vm? vm.id).isNone (.conflict "Vm with this pkey already exists")
      let tx ← registerStaticIpsTx db vm.id vm.networks
        { db with vms := ⟨vm.id, vm.status⟩ :: db.vms }
      createNics vm.id vm.networks tx
  | .addNic vmId req _ => do
      let vm ← check (row (db.vm? vmId))
      nicsCanChange "NICs can only be added to VMs in Created or Running state" vm.status
      let existing := db.listByVm vmId
      let req := if req.id = "" then { req with id := nextNetId existing } else req
      insist (existing.all (·.deviceId ≠ req.id))
        (.conflict s!"NIC device ID '{req.id}' is already in use on this VM")
      .ok db
  | _ => .ok db

/-- The addresses of a network that have a row. -/
def taken (networkId : Uuid) (rows : List IpAllocation) : Set Inet :=
  {ip | ∃ a ∈ rows, a.networkId = networkId ∧ a.ipAddress = ip}

/-- **What other transactions commit** while the loop runs, statement by statement.  None of it is
what this transaction has inserted. -/
structure Others (own start : List IpAllocation) (networkId : Uuid) where
  committed : ℕ → List IpAllocation
  start_eq : committed 0 = start
  unique : ∀ k, ((own ++ committed k).map (·.key)).Nodup
  /-- They allocate only finitely many addresses. -/
  settles : Settles fun k => taken networkId (committed k)

/-- The rounds of a loop. -/
def rounds (db tx : LedgerDb) (own : List IpAllocation) (committed : ℕ → List IpAllocation)
    (vmId networkId : Uuid) (k : ℕ) : Option (Except Halt (Inet × LedgerDb)) :=
  round { db with allocations := committed (2 * k) }
    { tx with allocations := own ++ committed (2 * k + 1) } vmId networkId

/-- The addresses that `next_available_ip` goes through. -/
def candidates (db : LedgerDb) (networkId : Uuid) : List Ipv4 :=
  match db.network? networkId with
  | none => []
  | some n => if n.subnet.family = .v6 then [] else n.searched

/-- The addresses that a request names on the network it also looks for an address on, as far as the
search goes through them. -/
def tried (db : LedgerDb) (request : Request) (networkId : Uuid) : List Ipv4 :=
  (candidates db networkId).filter fun addr =>
    request.own.any fun a => a.networkId = networkId && a.ipAddress = .ofIpv4 addr

/-! ## The loop of `Ipam` -/

section Rounds

variable {db tx : LedgerDb} {vmId networkId : Uuid}

/-- **Without others** the loop of `Ipam` is this one: it hangs where a round comes to nothing. -/
lemma allocateNetworkIpTx_eq_round :
    allocateNetworkIpTx db tx vmId networkId none =
      (round db tx vmId networkId).getD (.error .hangs) := by
  unfold allocateNetworkIpTx round
  cases nextAvailableIp db networkId with
  | error e => rfl
  | ok found =>
    cases found with
    | none => rfl
    | some addr =>
      cases hinsert : tryAllocateIpTx tx networkId (.ofIpv4 addr) vmId with
      | error e => simp [bind, Except.bind, hinsert]
      | ok inserted => cases inserted <;> simp [bind, Except.bind, hinsert]

/-- The address has a row. -/
def isTaken (networkId : Uuid) (rows : List IpAllocation) (addr : Ipv4) : Bool :=
  rows.any fun a => a.networkId = networkId && a.ipAddress = .ofIpv4 addr

variable {addr : Ipv4}

lemma isTaken_iff {rows : List IpAllocation} :
    isTaken networkId rows addr = true ↔ Inet.ofIpv4 addr ∈ taken networkId rows := by
  simp [isTaken, taken]

lemma isTaken_append {rows rows' : List IpAllocation} :
    isTaken networkId (rows ++ rows') addr = true ↔
      isTaken networkId rows addr = true ∨ isTaken networkId rows' addr = true := by
  simp [isTaken]

/-- The search goes through its candidates; without the network it fails. -/
lemma nextAvailableIp_eq_candidates (rows : List IpAllocation) :
    nextAvailableIp { db with allocations := rows } networkId =
      if (db.network? networkId).isSome then
        .ok ((candidates db networkId).find? fun addr => !isTaken networkId rows addr)
      else .error (.failed .notFound) := by
  have hnetwork : ({ db with allocations := rows } : LedgerDb).network? networkId =
    db.network? networkId := rfl
  unfold nextAvailableIp candidates
  rw [hnetwork]
  cases db.network? networkId with
  | none => rfl
  | some n =>
    have hrow : check (row (some n)) = .ok n := rfl
    have htexts := funext fun addr => free_text { db with allocations := rows } networkId addr
    simp only [hrow, bind, Except.bind, Option.isSome_some, if_true]
    split_ifs
    · rfl
    · exact congrArg (fun p => Except.ok (n.searched.find? p)) htexts

lemma tryAllocateIpTx_eq_none {ip : Inet} :
    tryAllocateIpTx tx networkId ip vmId = .ok none ↔ tx.allocated networkId ip = true := by
  unfold tryAllocateIpTx
  split_ifs with h
  · simp [h]
  · refine ⟨fun hok => ?_, fun hallocated => absurd hallocated h⟩
    obtain ⟨-, -, hok⟩ := except_bind_eq_ok.1 hok
    cases hok

/-- **A round comes to nothing** when the first address without a committed row is taken at the
insertion. -/
lemma rounds_eq_none_iff {own : List IpAllocation} {committed : ℕ → List IpAllocation} {k : ℕ} :
    rounds db tx own committed vmId networkId k = none ↔ ∃ addr,
      (candidates db networkId).find? (fun addr => !isTaken networkId (committed (2 * k)) addr)
        = some addr ∧ isTaken networkId (own ++ committed (2 * k + 1)) addr = true := by
  unfold rounds round
  rw [nextAvailableIp_eq_candidates]
  split_ifs with hnetwork
  · cases hfound : (candidates db networkId).find? fun addr =>
        !isTaken networkId (committed (2 * k)) addr with
    | none => simp
    | some addr =>
      have hiff : tryAllocateIpTx { tx with allocations := own ++ committed (2 * k + 1) }
          networkId (.ofIpv4 addr) vmId = .ok none ↔
            isTaken networkId (own ++ committed (2 * k + 1)) addr = true :=
        tryAllocateIpTx_eq_none
      simp only [Option.some.injEq, exists_eq_left', ← hiff]
      split <;> simp_all
  · have hnone : candidates db networkId = [] := by
      unfold candidates
      cases h : db.network? networkId with
      | none => rfl
      | some n => simp [h] at hnetwork
    simp [hnone]

end Rounds

/-! ## When it ends -/

section Ends

variable {db tx : LedgerDb} {vmId networkId : Uuid} {own : List IpAllocation}

/-- The addresses of the transaction are not among the candidates, so the first round after the
others have settled succeeds. -/
lemma ends_of_spared (others : Others own db.allocations networkId)
    (h : ∀ addr ∈ candidates db networkId, isTaken networkId own addr = false) :
    ∃ k, (rounds db tx own others.committed vmId networkId k).isSome = true := by
  obtain ⟨settled, hsettled⟩ := others.settles.eventually
  refine ⟨settled, Option.isSome_iff_ne_none.2 fun hnone => ?_⟩
  obtain ⟨addr, hfound, htaken⟩ := rounds_eq_none_iff.1 hnone
  have hfree : isTaken networkId (others.committed (2 * settled)) addr = false := by
    simpa using List.find?_some hfound
  rcases isTaken_append.1 htaken with hown | hcommitted
  · rw [h addr (List.mem_of_find?_eq_some hfound)] at hown
    cases hown
  · have hbefore := hsettled (2 * settled) (2 * settled + 1) (by omega) (by omega)
      (isTaken_iff.1 hcommitted)
    rw [isTaken_iff.2 hbefore] at hfree
    cases hfree

/-- What others commit at once: all candidates before the address, as far as they are free. -/
def crowding (db : LedgerDb) (networkId : Uuid) (before : List Ipv4) : List IpAllocation :=
  (before.filter fun addr => !isTaken networkId db.allocations addr).map fun addr =>
    ⟨networkId, ⟨"other"⟩, .ofIpv4 addr⟩

def crowded (db : LedgerDb) (networkId : Uuid) (before : List Ipv4) (k : ℕ) : List IpAllocation :=
  if k = 0 then db.allocations else crowding db networkId before ++ db.allocations

variable {before : List Ipv4} {addr : Ipv4}

lemma isTaken_crowding :
    isTaken networkId (crowding db networkId before) addr = true ↔
      addr ∈ before ∧ isTaken networkId db.allocations addr = false := by
  have hinj : ∀ {a b : Ipv4}, Inet.ofIpv4 a = .ofIpv4 b → a = b := fun {a b} h =>
    Fin.ext (congrArg Inet.addr h)
  constructor
  · intro h
    obtain ⟨a, ha, -, heq⟩ := isTaken_iff.1 h
    obtain ⟨addr', haddr, rfl⟩ := List.mem_map.1 ha
    cases hinj heq
    simpa using haddr
  · rintro ⟨hmem, hfree⟩
    have haddr : addr ∈ before.filter fun addr => !isTaken networkId db.allocations addr :=
      List.mem_filter.2 ⟨hmem, by simp [hfree]⟩
    exact isTaken_iff.2 ⟨_, List.mem_map.2 ⟨addr, haddr, rfl⟩, rfl, rfl⟩

/-- **An address of the transaction that comes first** is found in every round, once the addresses
before it are gone. -/
lemma rounds_crowded {after : List Ipv4}
    (hcandidates : candidates db networkId = before ++ addr :: after)
    (hown : isTaken networkId own addr = true)
    (hfree : isTaken networkId db.allocations addr = false) (hnot : addr ∉ before) (k : ℕ) :
    rounds db tx own (crowded db networkId before) vmId networkId k = none := by
  have hsub : ∀ {j a}, isTaken networkId db.allocations a = true →
      isTaken networkId (crowded db networkId before j) a = true := by
    intro j a ha
    unfold crowded
    split_ifs
    · exact ha
    · exact isTaken_append.2 (.inr ha)
  have hlater : crowded db networkId before (2 * k + 1) =
      crowding db networkId before ++ db.allocations := if_neg (by omega)
  have haddr : isTaken networkId (crowded db networkId before (2 * k)) addr = false := by
    rw [← Bool.not_eq_true]
    unfold crowded
    split_ifs
    · simp [hfree]
    · rw [isTaken_append, isTaken_crowding]
      simp [hfree, hnot]
  have hsome : ((candidates db networkId).find? fun a =>
      !isTaken networkId (crowded db networkId before (2 * k)) a).isSome = true :=
    List.find?_isSome.2 ⟨addr, by simp [hcandidates], by simp [haddr]⟩
  obtain ⟨found, hfound⟩ := Option.isSome_iff_exists.1 hsome
  refine rounds_eq_none_iff.2 ⟨found, hfound, isTaken_append.2 ?_⟩
  -- the address found is the one of the transaction, or others have taken it by now
  have hp : isTaken networkId (crowded db networkId before (2 * k)) found = false := by
    simpa using List.find?_some hfound
  rw [hcandidates, List.find?_append] at hfound
  cases hbefore : before.find? fun a =>
      !isTaken networkId (crowded db networkId before (2 * k)) a with
  | none =>
    rw [hbefore, Option.none_or, List.find?_cons_of_pos (by simp [haddr])] at hfound
    cases hfound
    exact .inl hown
  | some first =>
    rw [hbefore, Option.some_or] at hfound
    cases hfound
    refine .inr (hlater ▸ isTaken_append.2 (.inl (isTaken_crowding.2 ?_)))
    refine ⟨List.mem_of_find?_eq_some hbefore, ?_⟩
    by_contra htaken
    rw [hsub (Bool.not_eq_false _ ▸ htaken)] at hp
    cases hp

lemma nodup_candidates : (candidates db networkId).Nodup := by
  unfold candidates
  split
  · exact List.nodup_nil
  · next n _ =>
      split_ifs with hfamily
      · exact List.nodup_nil
      · have hv4 : n.subnet.family = .v4 := by
          cases h : n.subnet.family with
          | v4 => rfl
          | v6 => exact absurd h hfamily
        exact (sorted_searched hv4).imp fun h heq => absurd h (by rw [heq]; exact lt_irrefl _)

/-- The rows that crowd the network are new ones. -/
lemma unique_crowded (hkeys : ((own ++ db.allocations).map (·.key)).Nodup)
    (hbefore : before.Nodup) (hown : ∀ addr ∈ before, isTaken networkId own addr = false) (k : ℕ) :
    ((own ++ crowded db networkId before k).map (·.key)).Nodup := by
  unfold crowded
  split_ifs
  · exact hkeys
  · have hperm : (own ++ (crowding db networkId before ++ db.allocations)).Perm
        (crowding db networkId before ++ (own ++ db.allocations)) := by
      rw [← List.append_assoc, ← List.append_assoc]
      exact List.perm_append_comm.append_right _
    rw [(hperm.map _).nodup_iff, List.map_append, List.nodup_append]
    refine ⟨?_, hkeys, ?_⟩
    · have hinj : Function.Injective fun addr : Ipv4 => ((networkId, .ofIpv4 addr) : Uuid × Inet) :=
        fun a b h => Fin.ext (congrArg Inet.addr (Prod.mk.inj h).2)
      rw [crowding, List.map_map]
      exact (hbefore.filter _).map hinj
    · intro key hnew _ hold rfl
      obtain ⟨a, ha, rfl⟩ := List.mem_map.1 hnew
      obtain ⟨b, hb, hab⟩ := List.mem_map.1 hold
      obtain ⟨addr, haddr, rfl⟩ := List.mem_map.1 ha
      obtain ⟨hmem, hfree⟩ := List.mem_filter.1 haddr
      obtain ⟨hnetwork, hip⟩ := Prod.mk.inj hab
      have htaken : isTaken networkId (own ++ db.allocations) addr = true :=
        isTaken_iff.2 ⟨b, hb, hnetwork, hip⟩
      rcases isTaken_append.1 htaken with htaken | htaken
      · rw [hown addr hmem] at htaken
        cases htaken
      · simp [htaken] at hfree

/-- When the loop begins, the rows of the transaction are new. -/
lemma keys_atLoop {request : Request} (hkeys : (db.allocations.map (·.key)).Nodup)
    (hloop : atLoop db request = .ok tx) :
    ((request.own ++ db.allocations).map (·.key)).Nodup := by
  cases request with
  | create vm others =>
    simp only [atLoop, except_bind_eq_ok] at hloop
    obtain ⟨-, -, -, -, -, -, tx', hregister, -⟩ := hloop
    obtain ⟨rfl, hnodup⟩ := registerStaticIpsTx_eq hregister
    exact hnodup hkeys
  | addNic vmId req hotplug => exact hkeys
  | removeNic vmId deviceId unplugged => exact hkeys
  | delete vmId => exact hkeys
  | setStatus vmId status => exact hkeys

/-- The candidates before the first address of the transaction can be taken by others at once. -/
lemma exists_others (hkeys : ((own ++ db.allocations).map (·.key)).Nodup)
    (hmem : addr ∈ candidates db networkId) (hown : isTaken networkId own addr = true) :
    ∃ others : Others own db.allocations networkId,
      ∀ k, rounds db tx own others.committed vmId networkId k = none := by
  have hsome : ((candidates db networkId).find? (isTaken networkId own)).isSome = true :=
    List.find?_isSome.2 ⟨addr, hmem, hown⟩
  obtain ⟨first, hfind⟩ := Option.isSome_iff_exists.1 hsome
  obtain ⟨hfirst, before, after, hcandidates, hbefore⟩ := List.find?_eq_some_iff_append.1 hfind
  have hnodup : (before ++ first :: after).Nodup := hcandidates ▸ nodup_candidates
  have hfree : isTaken networkId db.allocations first = false := by
    rw [← Bool.not_eq_true]
    intro htaken
    obtain ⟨a, ha, hanetwork, haip⟩ := isTaken_iff.1 hfirst
    obtain ⟨b, hb, hbnetwork, hbip⟩ := isTaken_iff.1 htaken
    rw [List.map_append, List.nodup_append] at hkeys
    refine hkeys.2.2 _ (List.mem_map_of_mem ha) _ (List.mem_map_of_mem hb) ?_
    exact Prod.ext (hanetwork.trans hbnetwork.symm) (haip.trans hbip.symm)
  have hnot : first ∉ before := fun hin =>
    (List.nodup_append.1 hnodup).2.2 first hin first (by simp) rfl
  have hunique := unique_crowded hkeys (List.nodup_append.1 hnodup).1 fun a ha => by
    simpa using hbefore a ha
  refine ⟨⟨crowded db networkId before, rfl, hunique, settles_of_eq 1 fun k hk => ?_⟩,
    rounds_crowded hcandidates hfirst hfree hnot⟩
  rw [crowded, crowded, if_neg (by omega), if_neg (by omega)]

/-- **When the search for an address ends.**  Whatever finitely many addresses others allocate, the
loop of a request ends, if the request names none of the addresses that the search goes through on
the same network; and if it names one, others can make the loop go on for ever. -/
theorem allocation_ends_iff {request : Request} (hkeys : (db.allocations.map (·.key)).Nodup)
    (hloop : atLoop db request = .ok tx) : ∀ m ∈ request.managed,
      (∀ others : Others request.own db.allocations m.2, ∃ count,
        (Retry.run (rounds db tx request.own others.committed m.1 m.2) count 0).isSome = true) ↔
        tried db request m.2 = [] := by
  rintro ⟨vmId, networkId⟩ -
  simp only [exists_run_iff]
  constructor
  · intro h
    rw [List.eq_nil_iff_forall_not_mem]
    intro addr haddr
    obtain ⟨hmem, hown⟩ := List.mem_filter.1 haddr
    obtain ⟨others, hnone⟩ := exists_others (keys_atLoop hkeys hloop) hmem hown
    obtain ⟨k, hk⟩ := h others
    rw [hnone k] at hk
    cases hk
  · intro h others
    refine ends_of_spared others fun addr hmem => Bool.eq_false_iff.2 fun hown => ?_
    have haddr : addr ∈ tried db request networkId := List.mem_filter.2 ⟨hmem, hown⟩
    rw [h] at haddr
    cases haddr

end Ends

/-- A VM with an interface on the network for which an address is looked for, and another with an
address that is given. -/
def twoInterfaces (given : Inet) : Request :=
  .create ⟨⟨"vm"⟩, .created, [⟨⟨"nic1"⟩, "net1", some ⟨"lab"⟩, some given⟩], some ⟨"lab"⟩,
    ⟨"nic0"⟩⟩ true

/-- The address that is given has a mask, so the search does not come to it. -/
theorem masked_address_allocation_ends :
    ∃ tx, atLoop lab (twoInterfaces (lab4 2 29)) = .ok tx ∧
      tried lab (twoInterfaces (lab4 2 29)) ⟨"lab"⟩ = [] ∧
      ∀ others : Others (twoInterfaces (lab4 2 29)).own lab.allocations ⟨"lab"⟩, ∃ count,
        (Retry.run (rounds lab tx (twoInterfaces (lab4 2 29)).own others.committed ⟨"vm"⟩ ⟨"lab"⟩)
          count 0).isSome = true := by
  have hloop : (atLoop lab (twoInterfaces (lab4 2 29))).toOption.isSome = true := by decide +kernel
  have htried : tried lab (twoInterfaces (lab4 2 29)) ⟨"lab"⟩ = [] := by decide +kernel
  cases h : atLoop lab (twoInterfaces (lab4 2 29)) with
  | error e =>
    rw [h] at hloop
    cases hloop
  | ok tx =>
    have hkeys : (lab.allocations.map (·.key)).Nodup := List.nodup_nil
    have hiff := allocation_ends_iff hkeys h (⟨"vm"⟩, ⟨"lab"⟩) rfl
    exact ⟨tx, rfl, htried, hiff.2 htried⟩

/-- **A request that does not end**, though nobody else does anything: `10.0.0.2` is given, and it
is the first address without a committed row. -/
theorem given_address_never_ends :
    ∃ tx, atLoop lab (twoInterfaces (lab4 2 32)) = .ok tx ∧
      ∃ others : Others (twoInterfaces (lab4 2 32)).own lab.allocations ⟨"lab"⟩,
        (∀ k, others.committed k = lab.allocations) ∧ ∀ count,
          Retry.run (rounds lab tx (twoInterfaces (lab4 2 32)).own others.committed ⟨"vm"⟩ ⟨"lab"⟩)
            count 0 = none := by
  have hloop : (atLoop lab (twoInterfaces (lab4 2 32))).toOption.isSome = true := by decide +kernel
  cases h : atLoop lab (twoInterfaces (lab4 2 32)) with
  | error e =>
    rw [h] at hloop
    cases hloop
  | ok tx =>
    have hunique : (((twoInterfaces (lab4 2 32)).own ++ lab.allocations).map (·.key)).Nodup := by
      decide +kernel
    obtain ⟨addr, hfound, htaken⟩ : ∃ addr : Ipv4,
        (candidates lab ⟨"lab"⟩).find? (fun a => !isTaken ⟨"lab"⟩ lab.allocations a) = some addr ∧
          isTaken ⟨"lab"⟩ ((twoInterfaces (lab4 2 32)).own ++ lab.allocations) addr = true :=
      ⟨⟨167772162, by decide⟩, by decide +kernel, by decide +kernel⟩
    refine ⟨tx, rfl, ⟨fun _ => lab.allocations, rfl, fun _ => hunique,
      settles_of_eq 0 fun _ _ => rfl⟩, fun _ => rfl, fun count => ?_⟩
    rw [← Option.not_isSome_iff_eq_none, isSome_run]
    rintro ⟨k, -, hk⟩
    rw [rounds_eq_none_iff.2 ⟨addr, hfound, htaken⟩] at hk
    cases hk

end Ipam

end Qarax
