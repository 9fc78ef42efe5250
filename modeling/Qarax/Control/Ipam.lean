import Qarax.Core.Machine
import Qarax.Core.Tokens
import Qarax.Control.VmDisks
import Qarax.Node.Networking.Validate

/-!
# The ledger of addresses

`ip_allocations` has a row for each address of a network that a VM has, and `network_interfaces` one
for each interface.  They are written together: when a VM is created, with addresses that the
request names or one that `next_available_ip` finds, and when an interface is added or removed.
Deleting a VM deletes both by their foreign keys.

An address in a request is a text that PostgreSQL reads as an `INET`, a host address with a mask
length.  The code only passes it on, so it is an `Inet` here.  The unique constraint compares these;
the search for a free address compares texts.

* `createVm`, `addNic`, `removeNic`, `deleteVm` — the requests, each as a whole.
* `Ledger` — what the rows of a network should be.
* `sparing` — the requests that do not give away an address that is taken or is none.
-/

namespace Qarax

namespace Ipam

open Machine

/-! ## Addresses -/

inductive Family where
  | v4
  | v6
  deriving DecidableEq

def Family.bits : Family → Nat
  | .v4 => 32
  | .v6 => 128

/-- A value of the type `INET`.  Two are equal when the addresses and the mask lengths are. -/
structure Inet where
  family : Family
  addr : Nat
  len : Nat
  addr_lt : addr < 2 ^ family.bits
  len_le : len ≤ family.bits
  deriving DecidableEq

namespace Inet

/-- The host address, without the mask. -/
def host (i : Inet) : Family × Nat := (i.family, i.addr)

/-- What PostgreSQL reads in the dotted text of an address. -/
def ofIpv4 (ip : Ipv4) : Inet := ⟨.v4, ip, 32, ip.isLt, le_refl _⟩

def hexGroup (addr k : Nat) : String :=
  String.ofList (Nat.toDigits 16 (addr / 65536 ^ (7 - k) % 65536))

/-- An address of IPv6.  PostgreSQL leaves out zeros, which makes no difference to a search for
dotted texts. -/
def groups (addr : Nat) : String :=
  hexGroup addr 0 ++ ":" ++ hexGroup addr 1 ++ ":" ++ hexGroup addr 2 ++ ":" ++
    hexGroup addr 3 ++ ":" ++ hexGroup addr 4 ++ ":" ++ hexGroup addr 5 ++ ":" ++
    hexGroup addr 6 ++ ":" ++ hexGroup addr 7

/-- `ip_address::text`, which always has the mask length. -/
def text (i : Inet) : String :=
  (match i.family with
    | .v4 => renderIpv4 (Fin.ofNat (2 ^ 32) i.addr)
    | .v6 => groups i.addr) ++ "/" ++ renderNat i.len

end Inet

/-! ## Tables -/

/-- A row of `networks`.  A value of the type `CIDR` has no bits behind its mask. -/
structure Network where
  id : Uuid
  subnet : Inet
  gateway : Option Inet
  aligned : subnet.addr % 2 ^ (subnet.family.bits - subnet.len) = 0

structure VmEntry where
  id : Uuid
  status : VmStatus

structure IpAllocation where
  networkId : Uuid
  vmId : Uuid
  ipAddress : Inet

structure NetworkInterface where
  id : Uuid
  vmId : Uuid
  networkId : Option Uuid
  deviceId : String
  ipAddress : Option Inet

structure LedgerDb where
  networks : List Network
  vms : List VmEntry
  allocations : List IpAllocation
  nics : List NetworkInterface

namespace LedgerDb

def network? (db : LedgerDb) (id : Uuid) : Option Network := db.networks.find? (·.id = id)

def vm? (db : LedgerDb) (id : Uuid) : Option VmEntry := db.vms.find? (·.id = id)

/-- The unique constraint of `ip_allocations`. -/
def allocated (db : LedgerDb) (networkId : Uuid) (ip : Inet) : Bool :=
  db.allocations.any fun a => a.networkId = networkId && a.ipAddress = ip

def listByVm (db : LedgerDb) (vmId : Uuid) : List NetworkInterface := db.nics.filter (·.vmId = vmId)

end LedgerDb

/-! ## Statements -/

/-- How a request ends before it has committed.  `internalServerError` stands for the other errors
of the database, too. -/
inductive Halt where
  | failed (error : ApiError)
  /-- It does not end. -/
  | hangs

def check {α : Type} (x : Except ApiError α) : Except Halt α := x.mapError .failed

def insist (condition : Bool) (error : ApiError) : Except Halt Unit :=
  if condition then .ok () else .error (.failed error)

/-- The addresses from the first to before the second. -/
def addresses (lo hi : Nat) : List Ipv4 := (List.range' lo (hi - lo)).map (Fin.ofNat (2 ^ 32))

/-- The first and the last address of `next_available_ip`, with shifts by up to 31 bits. -/
def Network.bounds (network : Network) : Nat × Nat :=
  let hostBits := (32 - network.subnet.len) % 32
  let networkAddr := network.subnet.addr / 2 ^ hostBits * 2 ^ hostBits
  (networkAddr, networkAddr + (2 ^ hostBits - 1))

/-- The gateway, if it is an address of IPv4. -/
def Network.gatewayU32 (network : Network) : Option Nat :=
  network.gateway.bind fun gw => if gw.family = .v4 then some gw.addr else none

/-- The loop of `next_available_ip`; the sum before it wraps around. -/
def Network.searched (network : Network) : List Ipv4 :=
  (addresses ((network.bounds.1 + 1) % 2 ^ 32) network.bounds.2).filter fun addr =>
    network.gatewayU32 ≠ some addr.val

def nextAvailableIp (db : LedgerDb) (networkId : Uuid) : Except Halt (Option Ipv4) := do
  let network ← check (row (db.network? networkId))
  if network.subnet.family = .v6 then .ok none
  else
    let allocated := (db.allocations.filter (·.networkId = networkId)).map (·.ipAddress.text)
    .ok (network.searched.find? fun addr =>
      renderIpv4 addr ∉ allocated && renderIpv4 addr ++ "/32" ∉ allocated)

/-- `INSERT … ON CONFLICT DO NOTHING`, with the foreign keys. -/
def tryAllocateIpTx (tx : LedgerDb) (networkId : Uuid) (ip : Inet) (vmId : Uuid) :
    Except Halt (Option LedgerDb) :=
  if tx.allocated networkId ip then .ok none
  else do
    insist ((tx.network? networkId).isSome && (tx.vm? vmId).isSome) .internalServerError
    .ok (some { tx with allocations := ⟨networkId, vmId, ip⟩ :: tx.allocations })

def alreadyAllocated (networkId : Uuid) (ip : Inet) : ApiError :=
  .conflict s!"IP address {ip.text} is already allocated on network {networkId.text}"

/-- `allocate_network_ip_tx`.  The search reads what is committed, and nothing is committed
meanwhile: if the address it finds is one this transaction has taken, the loop does not end. -/
def allocateNetworkIpTx (pool tx : LedgerDb) (vmId networkId : Uuid) :
    Option Inet → Except Halt (Inet × LedgerDb)
  | some ip => do
      match ← tryAllocateIpTx tx networkId ip vmId with
      | some tx => .ok (ip, tx)
      | none => .error (.failed (alreadyAllocated networkId ip))
  | none => do
      match ← nextAvailableIp pool networkId with
      | none => .error (.failed (.unprocessableEntity "No available IPs in network"))
      | some addr =>
        match ← tryAllocateIpTx tx networkId (.ofIpv4 addr) vmId with
        | some tx => .ok (.ofIpv4 addr, tx)
        | none => .error .hangs

/-- `network_interfaces::create`, with the keys of the table. -/
def createNic (tx : LedgerDb) (nic : NetworkInterface) : Except Halt LedgerDb := do
  insist (tx.nics.all fun other =>
    other.id ≠ nic.id && !(other.vmId = nic.vmId && other.deviceId = nic.deviceId))
    (.conflict "Network with this interfaces already exists")
  insist ((tx.vm? nic.vmId).isSome && nic.networkId.all fun id => (tx.network? id).isSome)
    .internalServerError
  .ok { tx with nics := nic :: tx.nics }

def deleteNicAndReleaseIp (db : LedgerDb) (nic : NetworkInterface) : LedgerDb :=
  { db with
    nics := db.nics.filter (·.id ≠ nic.id)
    allocations :=
      match nic.networkId, nic.ipAddress with
      | some networkId, some ip =>
        db.allocations.filter fun a => !(a.networkId = networkId && a.ipAddress = ip)
      | _, _ => db.allocations }

/-! ## Requests -/

/-- An interface in a request, with the id its row will get. -/
structure NewVmNetwork where
  nicId : Uuid
  id : String
  networkId : Option Uuid
  ip : Option Inet

def NewVmNetwork.nic (net : NewVmNetwork) (vmId : Uuid) : NetworkInterface :=
  ⟨net.nicId, vmId, net.networkId, net.id, net.ip⟩

structure NewVm where
  id : Uuid
  /-- `Created`, or `Pending` while an image is pulled. -/
  status : VmStatus
  networks : List NewVmNetwork
  /-- The managed network, and the id of the interface on it. -/
  networkId : Option Uuid
  nicId : Uuid

def validateRequestedStaticIpsAreAvailable (pool : LedgerDb) :
    List NewVmNetwork → Except Halt Unit
  | [] => .ok ()
  | net :: nets => do
      match net.networkId, net.ip with
      | some networkId, some ip =>
        insist (!pool.allocated networkId ip) (alreadyAllocated networkId ip)
      | _, _ => .ok ()
      validateRequestedStaticIpsAreAvailable pool nets

def registerStaticIpsTx (pool : LedgerDb) (vmId : Uuid) :
    List NewVmNetwork → LedgerDb → Except Halt LedgerDb
  | [], tx => .ok tx
  | net :: nets, tx =>
    match net.networkId, net.ip with
    | some networkId, some ip => do
        let (_, tx) ← allocateNetworkIpTx pool tx vmId networkId (some ip)
        registerStaticIpsTx pool vmId nets tx
    | _, _ => registerStaticIpsTx pool vmId nets tx

def createNics (vmId : Uuid) : List NewVmNetwork → LedgerDb → Except Halt LedgerDb
  | [], tx => .ok tx
  | net :: nets, tx => do
      let tx ← createNic tx (net.nic vmId)
      createNics vmId nets tx

def createManagedNetworkInterfaceTx (pool tx : LedgerDb) (vmId nicId networkId : Uuid) :
    Except Halt LedgerDb := do
  let (ip, tx) ← allocateNetworkIpTx pool tx vmId networkId none
  createNic tx ⟨nicId, vmId, some networkId, "net0", some ip⟩

/-- `create_vm_internal` and `create_vm_with_image_internal`; `others` tells whether everything else
they do succeeds. -/
def createVm (db : LedgerDb) (vm : NewVm) (others : Bool) : Except Halt LedgerDb := do
  validateRequestedStaticIpsAreAvailable db vm.networks
  insist others .internalServerError
  insist (db.vm? vm.id).isNone (.conflict "Vm with this pkey already exists")
  let tx := { db with vms := ⟨vm.id, vm.status⟩ :: db.vms }
  let tx ← registerStaticIpsTx db vm.id vm.networks tx
  let tx ← createNics vm.id vm.networks tx
  vm.networkId.elim (.ok tx) (createManagedNetworkInterfaceTx db tx vm.id vm.nicId)

/-- The first of `net0`, `net1`, … that is free.  There are more of them here than interfaces. -/
def nextNetId (existing : List NetworkInterface) : String :=
  let ids := (List.range (existing.length + 1)).map fun i => s!"net{i}"
  (ids.find? fun id => existing.all (·.deviceId ≠ id)).getD ""

def nicsCanChange (message : String) (status : VmStatus) : Except Halt Unit :=
  insist (status = .created || status = .running) (.unprocessableEntity message)

/-- What comes of telling the node, if the VM is running. -/
inductive Hotplug where
  | ok
  /-- The host or its network is not found, and the interface stays. -/
  | unready
  /-- The node does not add the interface; it is deleted, if that succeeds. -/
  | refused (cleaned : Bool)

/-- The transaction of `add_nic`. -/
def insertNic (db : LedgerDb) (vmId : Uuid) (req : NewVmNetwork) :
    Except Halt (NetworkInterface × LedgerDb) := do
  match req.networkId with
  | some networkId =>
    let (ip, tx) ← allocateNetworkIpTx db db vmId networkId req.ip
    let nic := { req with ip := some ip }.nic vmId
    let tx ← createNic tx nic
    .ok (nic, tx)
  | none =>
    let tx ← createNic db (req.nic vmId)
    .ok (req.nic vmId, tx)

/-- The error is one that is reported after the transaction. -/
def addNic (db : LedgerDb) (vmId : Uuid) (req : NewVmNetwork) (hotplug : Hotplug) :
    Except Halt (LedgerDb × Option ApiError) := do
  let vm ← check (row (db.vm? vmId))
  nicsCanChange "NICs can only be added to VMs in Created or Running state" vm.status
  let existing := db.listByVm vmId
  let req := if req.id = "" then { req with id := nextNetId existing } else req
  insist (existing.all (·.deviceId ≠ req.id))
    (.conflict s!"NIC device ID '{req.id}' is already in use on this VM")
  let (nic, db) ← insertNic db vmId req
  if vm.status = .running then
    match hotplug with
    | .ok => .ok (db, none)
    | .unready => .ok (db, some .internalServerError)
    | .refused cleaned =>
      .ok (if cleaned then deleteNicAndReleaseIp db nic else db, some .internalServerError)
  else .ok (db, none)

def removeNic (db : LedgerDb) (vmId : Uuid) (deviceId : String) (unplugged : Bool) :
    Except Halt LedgerDb := do
  let vm ← check (row (db.vm? vmId))
  nicsCanChange "NICs can only be removed from VMs in Created or Running state" vm.status
  let nic ← check (row ((db.listByVm vmId).find? (·.deviceId = deviceId)))
  insist (vm.status ≠ .running || unplugged) .internalServerError
  .ok (deleteNicAndReleaseIp db nic)

/-- `DELETE FROM vms`, with the foreign keys that cascade. -/
def deleteVm (db : LedgerDb) (vmId : Uuid) : Except Halt LedgerDb := do
  let _ ← check (row (db.vm? vmId))
  .ok { db with
    vms := db.vms.filter (·.id ≠ vmId)
    allocations := db.allocations.filter (·.vmId ≠ vmId)
    nics := db.nics.filter (·.vmId ≠ vmId) }

inductive Request where
  | create (vm : NewVm) (others : Bool)
  | addNic (vmId : Uuid) (req : NewVmNetwork) (hotplug : Hotplug)
  | removeNic (vmId : Uuid) (deviceId : String) (unplugged : Bool)
  | delete (vmId : Uuid)
  /-- The status of a VM changes. -/
  | setStatus (vmId : Uuid) (status : VmStatus)

def handle (db : LedgerDb) : Request → Except Halt LedgerDb
  | .create vm others => createVm db vm others
  | .addNic vmId req hotplug => (addNic db vmId req hotplug).map Prod.fst
  | .removeNic vmId deviceId unplugged => removeNic db vmId deviceId unplugged
  | .delete vmId => deleteVm db vmId
  | .setStatus vmId status =>
    .ok { db with vms := Rows.update VmEntry.id vmId (fun vm => { vm with status }) db.vms }

/-- **One request after the other.**  One that fails leaves the tables as they are, and one that
hangs does not end. -/
def step (db : LedgerDb) (request : Request) : Option LedgerDb :=
  match handle db request with
  | .ok db => some db
  | .error (.failed _) => some db
  | .error .hangs => none

/-! ## What the rows should be -/

/-- An interface with a network and an address, as it should be in `ip_allocations`. -/
def NetworkInterface.entry (nic : NetworkInterface) : Option IpAllocation := do
  let networkId ← nic.networkId
  let ip ← nic.ipAddress
  some ⟨networkId, nic.vmId, ip⟩

def Network.hostBits (n : Network) : Nat := n.subnet.family.bits - n.subnet.len

/-- An address for VMs: inside the subnet, and not the network, broadcast or gateway address. -/
def Network.Assigns (n : Network) (ip : Inet) : Prop :=
  ip.family = n.subnet.family ∧ ip.addr / 2 ^ n.hostBits = n.subnet.addr / 2 ^ n.hostBits ∧
    ip.addr ≠ n.subnet.addr ∧ ip.addr ≠ n.subnet.addr + (2 ^ n.hostBits - 1) ∧
    ∀ gw ∈ n.gateway, gw.host ≠ ip.host

instance decidableAssigns (n : Network) (ip : Inet) : Decidable (n.Assigns ip) :=
  inferInstanceAs (Decidable (_ ∧ _ ∧ _ ∧ _ ∧ _))

/-- **The rows of a network**: distinct host addresses for VMs, and the same VMs with the same host
addresses among the interfaces. -/
structure Ledger (db : LedgerDb) (n : Network) : Prop where
  distinct : ((db.allocations.filter (·.networkId = n.id)).map (·.ipAddress.host)).Nodup
  assigned : ∀ a ∈ db.allocations, a.networkId = n.id → n.Assigns a.ipAddress
  interfaces :
    ((db.allocations.filter (·.networkId = n.id)).map fun a => (a.vmId, a.ipAddress.host)).Perm
      (((db.nics.filterMap NetworkInterface.entry).filter (·.networkId = n.id)).map
        fun a => (a.vmId, a.ipAddress.host))

def IpAllocation.key (a : IpAllocation) : Uuid × Inet := (a.networkId, a.ipAddress)

/-- Two rows for one host address of a network are one. -/
def Clear (a b : IpAllocation) : Prop :=
  a.networkId = b.networkId → a.ipAddress.host = b.ipAddress.host → a.ipAddress = b.ipAddress

/-- The same for all networks, with the keys of the tables. -/
structure Booked (db : LedgerDb) : Prop where
  networks : (db.networks.map (·.id)).Nodup
  nics : (db.nics.map (·.id)).Nodup
  keys : (db.allocations.map (·.key)).Nodup
  clear : ∀ a ∈ db.allocations, ∀ b ∈ db.allocations, Clear a b
  assigned : ∀ a ∈ db.allocations, ∀ n ∈ db.networks, n.id = a.networkId → n.Assigns a.ipAddress
  interfaces : db.allocations.Perm (db.nics.filterMap NetworkInterface.entry)

/-- The addresses that a request names. -/
def statics (vmId : Uuid) (nets : List NewVmNetwork) : List IpAllocation :=
  nets.filterMap fun net => (net.nic vmId).entry

/-- The new addresses are for VMs, and none is in a row, or named twice, with another mask. -/
def proper (db : LedgerDb) (news : List IpAllocation) : Bool :=
  news.all fun a =>
    db.networks.all (fun n => n.id ≠ a.networkId || n.Assigns a.ipAddress) &&
      (news ++ db.allocations).all fun b => a.networkId ≠ b.networkId ||
        a.ipAddress.host ≠ b.ipAddress.host || a.ipAddress = b.ipAddress

/-- The search does not come to an address that is taken with another mask: there is a free one
before it.  The subnet is not the last address alone, after which the search would begin again at
the first. -/
def findable (db : LedgerDb) (news : List IpAllocation) (networkId : Uuid) : Bool :=
  db.networks.all fun n => n.id ≠ networkId || n.subnet.family = .v6 ||
    (n.subnet.addr + 1 ≠ 2 ^ 32 &&
      (news ++ db.allocations).all fun b => b.networkId ≠ networkId || b.ipAddress.family = .v6 ||
        b.ipAddress.len = 32 ||
        n.searched.any fun addr =>
          addr.val < b.ipAddress.addr && !db.allocated networkId (.ofIpv4 addr))

def sparing (db : LedgerDb) : Request → Bool
  | .create vm _ =>
    proper db (statics vm.id vm.networks) &&
      vm.networkId.all (findable db (statics vm.id vm.networks))
  | .addNic vmId req _ =>
    match req.networkId, req.ip with
    | some networkId, some ip => proper db [⟨networkId, vmId, ip⟩]
    | some networkId, none => findable db [] networkId
    | none, _ => true
  | _ => true

/-! ## The search -/

section Search

variable {db : LedgerDb} {n : Network} {networkId : Uuid} {addr : Ipv4}

lemma slash_mem_text (i : Inet) : '/' ∈ i.text.toList := by
  simp [Inet.text]

lemma colon_mem_text {i : Inet} (h : i.family = .v6) : ':' ∈ i.text.toList := by
  simp [Inet.text, h, Inet.groups]

/-- The text that is searched for is that of the address alone. -/
lemma text_eq_iff {i : Inet} : i.text = renderIpv4 addr ++ "/32" ↔ i = .ofIpv4 addr := by
  have h32 : "/32" = "/" ++ renderNat 32 := by decide +kernel
  obtain ⟨family, a, len, ha, hlen⟩ := i
  cases family with
  | v6 =>
    refine ⟨fun h => absurd (colon_mem_text (i := ⟨.v6, a, len, ha, hlen⟩) rfl) ?_, fun h => ?_⟩
    · rw [h, String.toList_append, List.mem_append, not_or]
      exact ⟨not_mem_renderIpv4 (by decide) (by decide) addr, by decide⟩
    · exact absurd (congrArg Inet.family h) (by simp [Inet.ofIpv4])
  | v4 =>
    have hfin : (Fin.ofNat (2 ^ 32) a).val = a := Nat.mod_eq_of_lt ha
    constructor
    · intro h
      have hchars := congrArg String.toList h
      rw [Inet.text, h32] at hchars
      simp only [String.toList_append, String.reduceToList, List.append_assoc, List.cons_append,
        List.nil_append] at hchars
      have hslash := not_mem_renderIpv4 (show '/'.isDigit = false by decide) (by decide)
      obtain ⟨haddr, hmask⟩ := Tokens.append_sep_inj (hslash _) (hslash _) hchars
      have haddr := renderIpv4_injective (String.toList_injective haddr)
      have hmask := renderNat_injective (String.toList_injective hmask)
      subst hmask
      simp only [Inet.ofIpv4, ← haddr, hfin]
    · intro h
      cases h
      rw [Inet.text, h32, String.append_assoc]
      simp

/-- **Texts and values agree** in the search: the address is found if the unique constraint lets
it. -/
lemma free_text (db : LedgerDb) (networkId : Uuid) (addr : Ipv4) :
    (decide (renderIpv4 addr ∉
        (db.allocations.filter (·.networkId = networkId)).map (·.ipAddress.text))
      && decide (renderIpv4 addr ++ "/32" ∉
        (db.allocations.filter (·.networkId = networkId)).map (·.ipAddress.text)))
      = !db.allocated networkId (.ofIpv4 addr) := by
  have hplain : renderIpv4 addr ∉
      (db.allocations.filter (·.networkId = networkId)).map (·.ipAddress.text) := by
    intro h
    obtain ⟨a, -, ha⟩ := List.mem_map.1 h
    exact not_mem_renderIpv4 (by decide) (by decide) addr (ha ▸ slash_mem_text a.ipAddress)
  rw [decide_eq_true hplain, Bool.true_and, Bool.eq_iff_iff, decide_eq_true_eq, Bool.not_eq_true',
    ← Bool.not_eq_true, not_iff_not, List.mem_map, LedgerDb.allocated, List.any_eq_true]
  simp only [List.mem_filter, text_eq_iff, Bool.and_eq_true, decide_eq_true_eq, and_assoc]

lemma mem_addresses {lo hi : Nat} (hhi : hi ≤ 2 ^ 32) :
    addr ∈ addresses lo hi ↔ lo ≤ addr.val ∧ addr.val < hi := by
  simp only [addresses, List.mem_map, List.mem_range'_1]
  constructor
  · rintro ⟨k, hk, rfl⟩
    have hval : (Fin.ofNat (2 ^ 32) k).val = k := Nat.mod_eq_of_lt (by omega)
    omega
  · rintro ⟨hlo, hlt⟩
    exact ⟨addr.val, by omega, Fin.ext (Nat.mod_eq_of_lt addr.isLt)⟩

lemma sorted_addresses {lo hi : Nat} (hhi : hi ≤ 2 ^ 32) :
    (addresses lo hi).Pairwise fun a b => a.val < b.val := by
  rw [addresses, List.pairwise_map]
  refine (List.pairwise_lt_range' 1).imp_of_mem fun {a b} ha hb hab => ?_
  rw [List.mem_range'_1] at ha hb
  have hval : ∀ k < hi, (Fin.ofNat (2 ^ 32) k).val = k := fun k hk => Nat.mod_eq_of_lt (by omega)
  rw [hval a (by omega), hval b (by omega)]
  exact hab

/-- The loop is over the addresses between those of the network and of the broadcast; over none if
the mask is empty. -/
lemma bounds_v4 (hv4 : n.subnet.family = .v4) :
    (n.subnet.len = 0 ∧ n.bounds = (0, 0)) ∨
      (n.bounds = (n.subnet.addr, n.subnet.addr + (2 ^ n.hostBits - 1)) ∧
        n.subnet.addr + 2 ^ n.hostBits ≤ 2 ^ 32) := by
  have haligned := n.aligned
  have hlt := n.subnet.addr_lt
  have hle := n.subnet.len_le
  simp only [hv4, Family.bits] at haligned hlt hle
  rcases Nat.eq_zero_or_pos n.subnet.len with hlen | hlen
  · rw [hlen, Nat.mod_eq_of_lt hlt] at haligned
    exact .inl ⟨hlen, by simp [Network.bounds, hlen, haligned]⟩
  · have hbits : n.hostBits = 32 - n.subnet.len := by rw [Network.hostBits, hv4, Family.bits]
    have hmod : (32 - n.subnet.len) % 32 = 32 - n.subnet.len := Nat.mod_eq_of_lt (by omega)
    obtain ⟨q, hq⟩ := Nat.dvd_of_mod_eq_zero haligned
    have hpow : (2 : Nat) ^ 32 = 2 ^ (32 - n.subnet.len) * 2 ^ n.subnet.len := by
      rw [← pow_add, Nat.sub_add_cancel hle]
    refine .inr ⟨?_, ?_⟩
    · simp only [Network.bounds, hmod, hbits]
      rw [Nat.div_mul_cancel ⟨q, hq⟩]
    · rw [hbits, hq, ← Nat.mul_succ, hpow]
      rw [hq, hpow] at hlt
      exact Nat.mul_le_mul_left _ (Nat.lt_of_mul_lt_mul_left hlt)

lemma sorted_searched (hv4 : n.subnet.family = .v4) :
    n.searched.Pairwise fun a b => a.val < b.val := by
  refine (sorted_addresses ?_).filter _
  rcases bounds_v4 hv4 with ⟨-, h⟩ | ⟨h, hle⟩
  · simp [h]
  · have hpos := Nat.two_pow_pos n.hostBits
    rw [h]
    omega

/-- **An address that is found is one for VMs.** -/
lemma assigns_of_searched (hv4 : n.subnet.family = .v4) (hlast : n.subnet.addr + 1 ≠ 2 ^ 32)
    (h : addr ∈ n.searched) : n.Assigns (.ofIpv4 addr) := by
  obtain ⟨hmem, hgateway⟩ := List.mem_filter.1 h
  have hlt := n.subnet.addr_lt
  rw [hv4, Family.bits] at hlt
  rcases bounds_v4 hv4 with ⟨-, hbounds⟩ | ⟨hbounds, hle⟩
  · rw [hbounds, mem_addresses (by omega)] at hmem
    omega
  · rw [hbounds, mem_addresses (by dsimp only; omega),
      Nat.mod_eq_of_lt (by dsimp only; omega)] at hmem
    dsimp only at hmem
    refine ⟨hv4.symm, ?_, ?_, ?_, fun gw hgw heq => ?_⟩
    · obtain ⟨q, hq⟩ := Nat.dvd_of_mod_eq_zero n.aligned
      have hq : n.subnet.addr = 2 ^ n.hostBits * q := hq
      have haddr : addr.val = 2 ^ n.hostBits * q + (addr.val - 2 ^ n.hostBits * q) := by omega
      have hrest : addr.val - 2 ^ n.hostBits * q < 2 ^ n.hostBits := by omega
      show addr.val / _ = _
      rw [haddr, hq, Nat.mul_add_div (Nat.two_pow_pos _), Nat.div_eq_of_lt hrest,
        Nat.mul_div_cancel_left _ (Nat.two_pow_pos _), Nat.add_zero]
    · show addr.val ≠ _
      omega
    · show addr.val ≠ _
      omega
    · obtain ⟨hfamily, haddr⟩ := Prod.mk.inj heq
      refine absurd ?_ (of_decide_eq_true hgateway)
      have hfamily : gw.family = .v4 := hfamily
      rw [Network.gatewayU32, Option.mem_def.1 hgw, Option.bind_some, if_pos hfamily]
      exact congrArg some haddr

/-- **What the search finds**: the first address that the unique constraint lets. -/
lemma nextAvailableIp_eq (h : nextAvailableIp db networkId = .ok (some addr)) :
    ∃ n ∈ db.networks, n.id = networkId ∧ n.subnet.family = .v4 ∧
      n.searched.find? (fun addr => !db.allocated networkId (.ofIpv4 addr)) = some addr := by
  obtain ⟨n, hn, h⟩ := except_bind_eq_ok.1 h
  have hfind : db.network? networkId = some n := by
    cases hq : db.network? networkId with
    | none => simp [hq, check, row, Except.mapError] at hn
    | some n' => simpa [hq, check, row, Except.mapError] using hn
  refine ⟨n, List.mem_of_find?_eq_some hfind, by simpa using List.find?_some hfind, ?_⟩
  split_ifs at h with hfamily
  · cases h
  · cases hv : n.subnet.family with
    | v6 => exact absurd hv hfamily
    | v4 =>
      refine ⟨rfl, ?_⟩
      simp only [free_text] at h
      exact Except.ok.inj h

lemma not_free_before {p : Ipv4 → Bool} {l : List Ipv4} {x : Ipv4}
    (hsorted : l.Pairwise fun a b => a.val < b.val) (h : l.find? p = some addr) (hx : x ∈ l)
    (hlt : x.val < addr.val) : p x = false := by
  obtain ⟨-, before, after, rfl, hbefore⟩ := List.find?_eq_some_iff_append.1 h
  rcases List.mem_append.1 hx with hx | hx
  · simpa using hbefore x hx
  · rcases List.mem_cons.1 hx with rfl | hx
    · exact absurd hlt (lt_irrefl _)
    · have hgt := (List.pairwise_cons.1 (List.pairwise_append.1 hsorted).2.1).1 x hx
      exact absurd (hlt.trans hgt) (lt_irrefl _)

end Search

/-! ## What a request writes -/

section Writes

variable {db db' pool tx tx' : LedgerDb} {vmId networkId : Uuid} {ip ip' : Inet}
  {nic : NetworkInterface} {news : List IpAllocation} {nics : List NetworkInterface}
  {nets : List NewVmNetwork}

lemma of_insist {condition : Bool} {error : ApiError} {u : Unit}
    (h : insist condition error = .ok u) : condition = true := by
  unfold insist at h
  split_ifs at h with hcondition
  exact hcondition

lemma of_check_row {α : Type} {o : Option α} {a : α} (h : check (row o) = .ok a) : o = some a := by
  cases o with
  | none => cases h
  | some b =>
    cases h
    rfl

/-- A row is inserted that is not there yet. -/
lemma tryAllocateIpTx_eq (h : tryAllocateIpTx tx networkId ip vmId = .ok (some tx')) :
    tx.allocated networkId ip = false ∧
      tx' = { tx with allocations := ⟨networkId, vmId, ip⟩ :: tx.allocations } := by
  unfold tryAllocateIpTx at h
  split_ifs at h with hallocated
  · cases h
  · obtain ⟨-, -, h⟩ := except_bind_eq_ok.1 h
    cases h
    exact ⟨Bool.eq_false_iff.2 hallocated, rfl⟩

lemma allocate_static (h : allocateNetworkIpTx pool tx vmId networkId (some ip) = .ok (ip', tx')) :
    ip' = ip ∧ tx.allocated networkId ip = false ∧
      tx' = { tx with allocations := ⟨networkId, vmId, ip⟩ :: tx.allocations } := by
  obtain ⟨o, ho, h⟩ := except_bind_eq_ok.1 h
  cases o with
  | none => cases h
  | some tx₁ =>
    cases h
    exact ⟨rfl, tryAllocateIpTx_eq ho⟩

lemma allocate_managed (h : allocateNetworkIpTx pool tx vmId networkId none = .ok (ip, tx')) :
    ∃ addr, nextAvailableIp pool networkId = .ok (some addr) ∧ ip = .ofIpv4 addr ∧
      tx.allocated networkId ip = false ∧
      tx' = { tx with allocations := ⟨networkId, vmId, ip⟩ :: tx.allocations } := by
  obtain ⟨found, hfound, h⟩ := except_bind_eq_ok.1 h
  cases found with
  | none => cases h
  | some addr =>
    obtain ⟨o, ho, h⟩ := except_bind_eq_ok.1 h
    cases o with
    | none => cases h
    | some tx₁ =>
      cases h
      exact ⟨addr, hfound, rfl, tryAllocateIpTx_eq ho⟩

lemma createNic_eq (h : createNic tx nic = .ok tx') :
    nic.id ∉ tx.nics.map (·.id) ∧ tx' = { tx with nics := nic :: tx.nics } := by
  obtain ⟨u, hkeys, h⟩ := except_bind_eq_ok.1 h
  obtain ⟨-, -, h⟩ := except_bind_eq_ok.1 h
  cases h
  refine ⟨fun hmem => ?_, rfl⟩
  obtain ⟨other, hother, hid⟩ := List.mem_map.1 hmem
  have hne := List.all_eq_true.1 (of_insist hkeys) other hother
  simp [hid] at hne

/-- The key of a new row is new. -/
lemma key_not_mem (h : db.allocated networkId ip = false) :
    (networkId, ip) ∉ db.allocations.map (·.key) := by
  intro hmem
  obtain ⟨a, ha, hkey⟩ := List.mem_map.1 hmem
  obtain ⟨rfl, rfl⟩ := Prod.mk.inj hkey
  have hany : db.allocated a.networkId a.ipAddress = true :=
    List.any_eq_true.2 ⟨a, ha, by simp⟩
  rw [h] at hany
  cases hany

/-- **All addresses that the request names** are in the ledger, or none. -/
lemma registerStaticIpsTx_eq (h : registerStaticIpsTx pool vmId nets tx = .ok tx') :
    tx' = { tx with allocations := (statics vmId nets).reverse ++ tx.allocations } ∧
      ((tx.allocations.map (·.key)).Nodup → (tx'.allocations.map (·.key)).Nodup) := by
  induction nets generalizing tx with
  | nil =>
    cases h
    exact ⟨rfl, id⟩
  | cons net nets ih =>
    unfold registerStaticIpsTx at h
    split at h
    · rename_i networkId ip hnetwork hip
      obtain ⟨⟨ip', tx₁⟩, hallocate, h⟩ := except_bind_eq_ok.1 h
      obtain ⟨rfl, hfree, rfl⟩ := allocate_static hallocate
      obtain ⟨rfl, hkeys⟩ := ih h
      have hentry : (net.nic vmId).entry = some ⟨networkId, vmId, ip'⟩ := by
        simp [NetworkInterface.entry, NewVmNetwork.nic, hnetwork, hip]
      refine ⟨?_, fun hnodup => hkeys (List.nodup_cons.2 ⟨key_not_mem hfree, hnodup⟩)⟩
      simp [statics, hentry]
    · rename_i hnone
      obtain ⟨rfl, hkeys⟩ := ih h
      have hentry : (net.nic vmId).entry = none := by
        cases hnetwork : net.networkId with
        | none => simp [NetworkInterface.entry, NewVmNetwork.nic, hnetwork]
        | some networkId =>
          cases hip : net.ip with
          | none => simp [NetworkInterface.entry, NewVmNetwork.nic, hnetwork, hip]
          | some ip => exact absurd hip (hnone networkId ip hnetwork)
      refine ⟨?_, hkeys⟩
      simp [statics, hentry]

lemma createNics_eq (h : createNics vmId nets tx = .ok tx') :
    tx' = { tx with nics := (nets.map (·.nic vmId)).reverse ++ tx.nics } ∧
      ((tx.nics.map (·.id)).Nodup → (tx'.nics.map (·.id)).Nodup) := by
  induction nets generalizing tx with
  | nil =>
    cases h
    exact ⟨rfl, id⟩
  | cons net nets ih =>
    obtain ⟨tx₁, hcreate, h⟩ := except_bind_eq_ok.1 h
    obtain ⟨hnew, rfl⟩ := createNic_eq hcreate
    obtain ⟨rfl, hids⟩ := ih h
    exact ⟨by simp, fun hnodup => hids (List.nodup_cons.2 ⟨hnew, hnodup⟩)⟩

variable (h : Booked db)

include h

/-- New rows of both kinds. -/
lemma Booked.extend (news : List IpAllocation) (nics : List NetworkInterface)
    (hnetworks : db'.networks = db.networks)
    (hallocations : db'.allocations = news ++ db.allocations) (hnics : db'.nics = nics ++ db.nics)
    (hids : (db'.nics.map (·.id)).Nodup) (hkeys : (db'.allocations.map (·.key)).Nodup)
    (hentries : news.Perm (nics.filterMap NetworkInterface.entry))
    (hassigned : ∀ a ∈ news, ∀ n ∈ db.networks, n.id = a.networkId → n.Assigns a.ipAddress)
    (hclear : ∀ a ∈ news, ∀ b ∈ news ++ db.allocations, Clear a b) : Booked db' := by
  refine ⟨hnetworks ▸ h.networks, hids, hkeys, ?_, ?_, ?_⟩
  · rw [hallocations]
    intro a ha b hb hnetwork hhost
    rcases List.mem_append.1 ha with hnew | hold
    · exact hclear a hnew b hb hnetwork hhost
    · rcases List.mem_append.1 hb with hnew' | hold'
      · exact (hclear b hnew' a ha hnetwork.symm hhost.symm).symm
      · exact h.clear a hold b hold' hnetwork hhost
  · rw [hallocations, hnetworks]
    intro a ha
    rcases List.mem_append.1 ha with hnew | hold
    · exact hassigned a hnew
    · exact h.assigned a hold
  · rw [hallocations, hnics, List.filterMap_append]
    exact hentries.append h.interfaces

/-- Rows of both kinds are deleted. -/
lemma Booked.shrink {p : IpAllocation → Bool} {q : NetworkInterface → Bool}
    (hpq : ∀ nic ∈ db.nics, ∀ a, nic.entry = some a → q nic = p a) (vms : List VmEntry) :
    Booked { db with vms, allocations := db.allocations.filter p, nics := db.nics.filter q } := by
  have hmem : ∀ {a}, a ∈ db.allocations.filter p → a ∈ db.allocations := List.mem_of_mem_filter
  refine ⟨h.networks, (List.filter_sublist.map _).nodup h.nics,
    (List.filter_sublist.map _).nodup h.keys,
    fun a ha b hb => h.clear a (hmem ha) b (hmem hb), fun a ha => h.assigned a (hmem ha), ?_⟩
  rw [Rows.filterMap_filter hpq]
  exact h.interfaces.filter p

/-- No other interface has the address of an interface. -/
lemma entry_unique {nic other : NetworkInterface} (hnic : nic ∈ db.nics)
    (hother : other ∈ db.nics) {a b : IpAllocation} (ha : nic.entry = some a)
    (hb : other.entry = some b) (hkey : a.key = b.key) : other.id = nic.id := by
  have hkeys : ((db.nics.filterMap NetworkInterface.entry).map (·.key)).Nodup :=
    ((h.interfaces.map _).nodup_iff).1 h.keys
  rw [List.Nodup, List.pairwise_map, List.pairwise_filterMap] at hkeys
  by_contra hne
  have hsymm : Std.Symm fun x y : NetworkInterface =>
      ∀ a, x.entry = some a → ∀ b, y.entry = some b →
      a.key ≠ b.key := ⟨fun x y hxy b hb a ha heq => hxy a ha b hb heq.symm⟩
  exact hkeys.forall hnic hother (fun heq => hne (congrArg _ heq.symm)) a ha b hb hkey

/-- **An interface is deleted with its address.** -/
lemma Booked.release (hnic : nic ∈ db.nics) :
    Booked (deleteNicAndReleaseIp db nic) := by
  have hid : ∀ other ∈ db.nics, other.id = nic.id → other = nic := fun other hother heq =>
    List.inj_on_of_nodup_map h.nics hother hnic heq
  unfold deleteNicAndReleaseIp
  split
  · rename_i networkId ip hnetwork hip
    have hentry : nic.entry = some ⟨networkId, nic.vmId, ip⟩ := by
      simp [NetworkInterface.entry, hnetwork, hip]
    refine h.shrink (fun other hother a ha => ?_) db.vms
    rw [Bool.eq_iff_iff, decide_eq_true_eq, Bool.not_eq_true', ← Bool.not_eq_true, not_iff_not,
      Bool.and_eq_true, decide_eq_true_eq, decide_eq_true_eq]
    constructor
    · intro heq
      rw [hid other hother heq, hentry] at ha
      cases ha
      exact ⟨rfl, rfl⟩
    · rintro ⟨rfl, rfl⟩
      exact entry_unique h hnic hother hentry ha rfl
  · rename_i hnone
    have hentry : nic.entry = none := by
      cases hnetwork : nic.networkId with
      | none => simp [NetworkInterface.entry, hnetwork]
      | some networkId =>
        cases hip : nic.ipAddress with
        | none => simp [NetworkInterface.entry, hnetwork, hip]
        | some ip => exact absurd hip (hnone networkId ip hnetwork)
    have hall : db.allocations.filter (fun _ => true) = db.allocations := by simp
    have hshrink := h.shrink (p := fun _ => true) (q := fun other => decide (other.id ≠ nic.id))
      (fun other hother a ha => ?_) db.vms
    · rw [hall] at hshrink
      exact hshrink
    · rw [decide_eq_true_eq]
      intro heq
      rw [hid other hother heq, hentry] at ha
      cases ha

omit h in
/-- What `proper` says of the new addresses. -/
lemma proper_iff : proper db news = true ↔
    (∀ a ∈ news, ∀ n ∈ db.networks, n.id = a.networkId → n.Assigns a.ipAddress) ∧
      ∀ a ∈ news, ∀ b ∈ news ++ db.allocations, Clear a b := by
  simp only [proper, List.all_eq_true, Bool.and_eq_true, Bool.or_eq_true, decide_eq_true_eq, Clear,
    or_assoc, ← forall_and, ne_eq]
  refine forall₂_congr fun a _ => and_congr (forall₂_congr fun n _ => ?_)
    (forall₂_congr fun b _ => ?_)
  · exact imp_iff_not_or.symm
  · rw [imp_iff_not_or, imp_iff_not_or]

/-- **The address that is found** is one for VMs, and no row has it with another mask. -/
lemma found_proper (hfindable : findable db news networkId = true) {addr : Ipv4}
    (hfound : nextAvailableIp db networkId = .ok (some addr)) (a : IpAllocation)
    (ha : a.key = (networkId, .ofIpv4 addr)) :
    (∀ n ∈ db.networks, n.id = a.networkId → n.Assigns a.ipAddress) ∧
      ∀ b ∈ news ++ db.allocations, Clear a b := by
  obtain ⟨hnetwork, hip⟩ := Prod.mk.inj ha
  obtain ⟨n, hn, rfl, hv4, hfind⟩ := nextAvailableIp_eq hfound
  have hcond := List.all_eq_true.1 hfindable n hn
  simp only [ne_eq, not_true_eq_false, decide_false, Bool.false_or, hv4, reduceCtorEq,
    Bool.and_eq_true,
    decide_eq_true_eq, List.all_eq_true, Bool.or_eq_true, List.any_eq_true,
    Bool.not_eq_true'] at hcond
  obtain ⟨hlast, hrows⟩ := hcond
  rw [hnetwork, hip]
  refine ⟨fun n' hn' hid => ?_, fun b hb hsame hhost => ?_⟩
  · obtain rfl : n' = n := List.inj_on_of_nodup_map h.networks hn' hn hid
    exact assigns_of_searched hv4 hlast (List.mem_of_find?_eq_some hfind)
  · rw [hnetwork] at hsame
    rw [hip] at hhost ⊢
    obtain ⟨hfamily, haddr⟩ := Prod.mk.inj hhost
    rcases hrows b hb with ((hother | hv6) | hlen) | ⟨x, hx, hlt, hfree⟩
    · exact absurd hsame.symm hother
    · rw [hv6] at hfamily
      cases hfamily
    · obtain ⟨network, vm, family, baddr, len, hbaddr, hblen⟩ := b
      cases hfamily
      cases haddr
      cases hlen
      rfl
    · rw [← haddr] at hlt
      have htaken := not_free_before (sorted_searched hv4) hfind hx hlt
      rw [hfree] at htaken
      cases htaken

omit h in
lemma Clear.symm {a b : IpAllocation} (h : Clear a b) : Clear b a :=
  fun hnetwork hhost => (h hnetwork.symm hhost.symm).symm

omit h in
/-- The interfaces of a request have the addresses it names. -/
lemma statics_eq : (statics vmId nets).reverse
    = ((nets.map (·.nic vmId)).reverse).filterMap NetworkInterface.entry := by
  rw [List.filterMap_reverse, List.filterMap_map]
  rfl

lemma booked_createVm {vm : NewVm} {others : Bool} (hs : sparing db (.create vm others) = true)
    (hc : createVm db vm others = .ok db') :
    Booked db' := by
  obtain ⟨hproper, hfindable⟩ := Bool.and_eq_true_iff.1 hs
  obtain ⟨hassigned, hclear⟩ := proper_iff.1 hproper
  obtain ⟨-, -, hc⟩ := except_bind_eq_ok.1 hc
  obtain ⟨-, -, hc⟩ := except_bind_eq_ok.1 hc
  obtain ⟨-, -, hc⟩ := except_bind_eq_ok.1 hc
  obtain ⟨tx₁, hregister, hc⟩ := except_bind_eq_ok.1 hc
  obtain ⟨rfl, hkeys⟩ := registerStaticIpsTx_eq hregister
  obtain ⟨tx₂, hnics, hc⟩ := except_bind_eq_ok.1 hc
  obtain ⟨rfl, hids⟩ := createNics_eq hnics
  have hstatics : ∀ a ∈ (statics vm.id vm.networks).reverse,
      ∀ b ∈ (statics vm.id vm.networks).reverse ++ db.allocations, Clear a b := fun a ha b hb =>
    hclear a (List.mem_reverse.1 ha) b (by simpa using hb)
  cases hn : vm.networkId with
  | none =>
    rw [hn] at hc
    cases hc
    exact h.extend _ _ rfl rfl rfl (hids h.nics) (hkeys h.keys) (.of_eq statics_eq)
      (fun a ha => hassigned a (List.mem_reverse.1 ha)) hstatics
  | some networkId =>
    rw [hn] at hc hfindable
    obtain ⟨⟨ip, tx₃⟩, hallocate, hc⟩ := except_bind_eq_ok.1 hc
    obtain ⟨addr, hfound, rfl, hfree, rfl⟩ := allocate_managed hallocate
    obtain ⟨hnew, rfl⟩ := createNic_eq hc
    obtain ⟨hassigns, hothers⟩ :=
      found_proper h hfindable hfound ⟨networkId, vm.id, .ofIpv4 addr⟩ rfl
    have hothers : ∀ b ∈ (statics vm.id vm.networks).reverse ++ db.allocations,
        Clear ⟨networkId, vm.id, .ofIpv4 addr⟩ b := fun b hb => hothers b (by simpa using hb)
    refine h.extend (⟨networkId, vm.id, .ofIpv4 addr⟩ :: (statics vm.id vm.networks).reverse)
      (⟨vm.nicId, vm.id, some networkId, "net0", some (.ofIpv4 addr)⟩ ::
        (vm.networks.map (·.nic vm.id)).reverse) rfl rfl rfl
      (List.nodup_cons.2 ⟨hnew, hids h.nics⟩)
      (List.nodup_cons.2 ⟨key_not_mem hfree, hkeys h.keys⟩) (.cons _ (.of_eq statics_eq))
      (List.forall_mem_cons.2 ⟨hassigns, fun a ha => hassigned a (List.mem_reverse.1 ha)⟩)
      (List.forall_mem_cons.2 ⟨List.forall_mem_cons.2 ⟨fun _ _ => rfl, hothers⟩, fun a ha => ?_⟩)
    exact List.forall_mem_cons.2
      ⟨(hothers a (List.mem_append_left _ ha)).symm, hstatics a ha⟩

/-- The transaction of `add_nic` adds an interface, with an address if there is a network. -/
lemma booked_insertNic {req : NewVmNetwork} {hotplug : Hotplug}
    (hs : sparing db (.addNic vmId req hotplug) = true)
    (hc : insertNic db vmId req = .ok (nic, db')) : Booked db' ∧ nic ∈ db'.nics := by
  unfold insertNic at hc
  cases hn : req.networkId with
  | none =>
    rw [hn] at hc
    obtain ⟨tx, hcreate, hc⟩ := except_bind_eq_ok.1 hc
    cases hc
    obtain ⟨hnew, rfl⟩ := createNic_eq hcreate
    have hentry : (req.nic vmId).entry = none := by
      simp [NetworkInterface.entry, NewVmNetwork.nic, hn]
    refine ⟨h.extend [] [req.nic vmId] rfl rfl rfl
      (List.nodup_cons.2 ⟨hnew, h.nics⟩) h.keys (.of_eq ?_) (by simp) (by simp), List.mem_cons_self⟩
    simp [hentry]
  | some networkId =>
    rw [hn] at hc
    obtain ⟨⟨ip, tx⟩, hallocate, hc⟩ := except_bind_eq_ok.1 hc
    obtain ⟨tx₁, hcreate, hc⟩ := except_bind_eq_ok.1 hc
    cases hc
    obtain ⟨hnew, rfl⟩ := createNic_eq hcreate
    -- the address is the one named or the one found
    have hrow : tx = { db with allocations := ⟨networkId, vmId, ip⟩ :: db.allocations } ∧
        db.allocated networkId ip = false ∧
        (∀ n ∈ db.networks, n.id = networkId → n.Assigns ip) ∧
        ∀ b ∈ db.allocations, Clear ⟨networkId, vmId, ip⟩ b := by
      cases hip : req.ip with
      | some static =>
        rw [hip] at hallocate
        obtain ⟨rfl, hfree, rfl⟩ := allocate_static hallocate
        simp only [sparing, hn, hip] at hs
        obtain ⟨hassigned, hclear⟩ := proper_iff.1 hs
        exact ⟨rfl, hfree, hassigned _ List.mem_cons_self, fun b hb =>
          hclear _ List.mem_cons_self b (List.mem_append_right _ hb)⟩
      | none =>
        rw [hip] at hallocate
        obtain ⟨addr, hfound, rfl, hfree, rfl⟩ := allocate_managed hallocate
        simp only [sparing, hn, hip] at hs
        obtain ⟨hassigns, hothers⟩ := found_proper h hs hfound ⟨networkId, vmId, .ofIpv4 addr⟩ rfl
        exact ⟨rfl, hfree, hassigns, hothers⟩
    obtain ⟨rfl, hfree, hassigns, hothers⟩ := hrow
    refine ⟨h.extend [⟨networkId, vmId, ip⟩]
      [{ req with networkId := some networkId, ip := some ip }.nic vmId] rfl rfl rfl
      (List.nodup_cons.2 ⟨hnew, h.nics⟩)
      (List.nodup_cons.2 ⟨key_not_mem hfree, h.keys⟩) (.of_eq ?_) (by simpa using hassigns)
      (by simpa [Clear] using hothers), List.mem_cons_self⟩
    simp [NetworkInterface.entry, NewVmNetwork.nic]

lemma booked_addNic {req : NewVmNetwork} {hotplug : Hotplug} {error : Option ApiError}
    (hs : sparing db (.addNic vmId req hotplug) = true)
    (hc : addNic db vmId req hotplug = .ok (db', error)) : Booked db' := by
  obtain ⟨vm, -, hc⟩ := except_bind_eq_ok.1 hc
  obtain ⟨-, -, hc⟩ := except_bind_eq_ok.1 hc
  obtain ⟨-, -, hc⟩ := except_bind_eq_ok.1 hc
  obtain ⟨⟨nic, tx⟩, hinsert, hc⟩ := except_bind_eq_ok.1 hc
  have hs' : sparing db (.addNic vmId
      (if req.id = "" then { req with id := nextNetId (db.listByVm vmId) } else req) hotplug)
        = true := by
    split_ifs
    · exact hs
    · exact hs
  obtain ⟨hbooked, hnic⟩ := booked_insertNic h hs' hinsert
  dsimp only at hc
  split at hc
  · split at hc
    · cases hc
      exact hbooked
    · cases hc
      exact hbooked
    · cases hc
      split_ifs
      · exact hbooked.release hnic
      · exact hbooked
  · cases hc
    exact hbooked

lemma booked_removeNic {deviceId : String} {unplugged : Bool}
    (hc : removeNic db vmId deviceId unplugged = .ok db') : Booked db' := by
  obtain ⟨vm, -, hc⟩ := except_bind_eq_ok.1 hc
  obtain ⟨-, -, hc⟩ := except_bind_eq_ok.1 hc
  obtain ⟨nic, hnic, hc⟩ := except_bind_eq_ok.1 hc
  obtain ⟨-, -, hc⟩ := except_bind_eq_ok.1 hc
  cases hc
  exact h.release (List.mem_of_mem_filter (List.mem_of_find?_eq_some (of_check_row hnic)))

lemma booked_deleteVm (hc : deleteVm db vmId = .ok db') : Booked db' := by
  obtain ⟨-, -, hc⟩ := except_bind_eq_ok.1 hc
  cases hc
  refine h.shrink (fun nic _ a ha => ?_) _
  obtain ⟨networkId, -, ha⟩ := Option.bind_eq_some_iff.1 ha
  obtain ⟨ip, -, ha⟩ := Option.bind_eq_some_iff.1 ha
  cases ha
  rfl

/-- **What a request keeps.** -/
lemma booked_step {request : Request} (hs : sparing db request = true)
    (hstep : step db request = some db') : Booked db' := by
  unfold step at hstep
  split at hstep
  · rename_i db₁ hhandle
    cases hstep
    cases request with
    | create vm others => exact booked_createVm h hs hhandle
    | addNic vmId req hotplug =>
      simp only [handle] at hhandle
      cases hadd : addNic db vmId req hotplug with
      | error halt => simp [hadd, Except.map] at hhandle
      | ok result =>
        simp only [hadd, Except.map, Except.ok.injEq] at hhandle
        exact hhandle ▸ booked_addNic h hs hadd
    | removeNic vmId deviceId unplugged => exact booked_removeNic h hhandle
    | delete vmId => exact booked_deleteVm h hhandle
    | setStatus vmId status =>
      cases hhandle
      exact ⟨h.networks, h.nics, h.keys, h.clear, h.assigned, h.interfaces⟩
  · cases hstep
    exact h
  · cases hstep

/-- Network by network. -/
lemma ledger_of_booked {n : Network} (hn : n ∈ db.networks) : Ledger db n := by
  refine ⟨?_, fun a ha hid => h.assigned a ha n hn hid.symm, (h.interfaces.filter _).map _⟩
  have hnodup := (h.keys.of_map).filter fun a => decide (a.networkId = n.id)
  refine hnodup.map_on fun a ha b hb hhost => ?_
  obtain ⟨ha, hida⟩ := List.mem_filter.1 ha
  obtain ⟨hb, hidb⟩ := List.mem_filter.1 hb
  have hnetwork : a.networkId = b.networkId :=
    (of_decide_eq_true hida).trans (of_decide_eq_true hidb).symm
  exact List.inj_on_of_nodup_map h.keys ha hb
    (Prod.ext hnetwork (h.clear a ha b hb hnetwork hhost))

end Writes

/-! ## Every run -/

/-- There are networks, and no VM yet. -/
def Fresh (db : LedgerDb) : Prop :=
  (db.networks.map (·.id)).Nodup ∧ db.vms = [] ∧ db.allocations = [] ∧ db.nics = []

/-- **The ledger of addresses.**  In every state reached by requests that give away no address that
is taken or is none, the rows of each network have distinct host addresses for VMs and are those of
the interfaces. -/
theorem addresses_accounted {db : LedgerDb}
    (h : Reach step (fun db request => sparing db request = true) Fresh db) :
    ∀ n ∈ db.networks, Ledger db n := by
  have hbooked : Booked db := by
    refine h.invariant (fun db hdb => ?_) fun db request db' hbooked hs hstep =>
      booked_step hbooked hs hstep
    obtain ⟨hnetworks, -, hallocations, hnics⟩ := hdb
    refine ⟨hnetworks, ?_, ?_, ?_, ?_, ?_⟩ <;> simp [hallocations, hnics]
  exact fun n hn => ledger_of_booked hbooked hn

/-- `10.0.0.0/29` with its gateway. -/
def lab : LedgerDb where
  networks := [⟨⟨"lab"⟩, ⟨.v4, 167772160, 29, by decide, by decide⟩,
    some ⟨.v4, 167772161, 32, by decide, by decide⟩, by decide⟩]
  vms := []
  allocations := []
  nics := []

/-- An address of IPv4 with a mask. -/
def lab4 (last : Fin 256) (len : ℕ) : Inet :=
  ⟨.v4, 167772160 + last, min len 32, by have := last.isLt; simp only [Family.bits]; omega,
    min_le_right len 32⟩

/-- Addresses that are found, named and named with a mask; an interface that the node refuses, one
that is removed, and a VM that is deleted. -/
def labRun : List Request :=
  [.create ⟨⟨"vm1"⟩, .created, [⟨⟨"nic1"⟩, "net1", some ⟨"lab"⟩, some (lab4 5 29)⟩],
      some ⟨"lab"⟩, ⟨"nic0"⟩⟩
      true,
    .create ⟨⟨"vm2"⟩, .created, [], some ⟨"lab"⟩, ⟨"nic2"⟩⟩ true,
    .setStatus ⟨"vm1"⟩ .running,
    .addNic ⟨"vm1"⟩ ⟨⟨"nic3"⟩, "", some ⟨"lab"⟩, none⟩ (.refused true),
    .addNic ⟨"vm1"⟩ ⟨⟨"nic4"⟩, "", some ⟨"lab"⟩, some (lab4 6 32)⟩ .ok,
    .removeNic ⟨"vm1"⟩ "net1" true,
    .addNic ⟨"vm1"⟩ ⟨⟨"nic5"⟩, "", some ⟨"lab"⟩, some (lab4 5 32)⟩ .ok,
    .delete ⟨"vm2"⟩]

theorem labRun_accounted :
    ∃ db, run step lab labRun = some db ∧
      db.allocations.map (·.ipAddress) = [lab4 5 32, lab4 6 32, lab4 2 32] ∧
      ∀ n ∈ db.networks, Ledger db n := by
  have hfresh : Fresh lab := ⟨by decide, rfl, rfl, rfl⟩
  refine (exists_reach hfresh ?_).imp fun db h =>
    ⟨h.1, h.2.1, addresses_accounted h.2.2⟩
  decide +kernel

/-- **One address for two VMs.**  The first is created with `10.0.0.2/29`.  The search for the
second looks for `10.0.0.2` and `10.0.0.2/32`, and the unique constraint lets `10.0.0.2/32` be
inserted. -/
theorem address_allocated_twice :
    ∃ db, Reach step (fun _ _ => True) Fresh db ∧ ∃ n ∈ db.networks, ¬Ledger db n := by
  let requests : List Request :=
    [.create ⟨⟨"vm1"⟩, .created, [⟨⟨"nic1"⟩, "net0", some ⟨"lab"⟩, some (lab4 2 29)⟩], none,
      ⟨""⟩⟩ true,
      .create ⟨⟨"vm2"⟩, .created, [], some ⟨"lab"⟩, ⟨"nic2"⟩⟩ true]
  have hrun : (∃ db ∈ run step lab requests, ∃ n ∈ db.networks,
      ¬((db.allocations.filter (·.networkId = n.id)).map (·.ipAddress.host)).Nodup) ∧
      Along step (fun _ _ => True) lab requests := by decide +kernel
  obtain ⟨⟨db, hdb, n, hn, htwice⟩, halong⟩ := hrun
  have hfresh : Fresh lab := ⟨by decide, rfl, rfl, rfl⟩
  exact ⟨db, reach_of_run (.start hfresh) halong hdb, n, hn, fun hledger => htwice hledger.distinct⟩

end Ipam

end Qarax
