import Qarax.Control.Ipam

/-!
# The addresses of a network

Three functions work out addresses from the subnet and the gateway of a network, each from the texts
that the database gives: `default_gateway` and `compute_dhcp_range` of `network/handler.rs`, for the
node, and `next_available_ip` of `model/networks.rs`, for the ledger.  They are written here as they
compute, in 32-bit arithmetic that ends in `none` where Rust's overflows.

* `configuredGateway`, `computeDhcpRange`, `searchAvailableIp` — the three.
* `Agree` — the gateway is given to nobody, and the range is where the search starts.
* `wellPlanned` — the networks for which they agree.
* `searchAvailableIp_eq` — the search is the one of `Ipam`.
-/

namespace Qarax

namespace AddressPlan

open Ipam

/-! ## Arithmetic -/

def addU32 (a b : Nat) : Option Nat := if a + b < 2 ^ 32 then some (a + b) else none

def subU32 (a b : Nat) : Option Nat := if b ≤ a then some (a - b) else none

/-- A shift overflows when it is by all the bits or more. -/
def shlU32 (a bits : Nat) : Option Nat := if bits < 32 then some (a <<< bits % 2 ^ 32) else none

def addU8 (a b : Nat) : Option Nat := if a + b < 2 ^ 8 then some (a + b) else none

/-! ## The texts -/

/-- `split('.')`, and those parts that are octets. -/
def octets (text : List Char) : List Nat := (text.splitOn '.').filterMap parseU8

/-- Four octets as a number. -/
def toU32 : List Nat → Option Nat
  | [a, b, c, d] => some (a <<< 24 ||| b <<< 16 ||| c <<< 8 ||| d)
  | _ => none

/-- `parse::<u32>().unwrap_or(24)` -/
def parsePrefixLen (text : List Char) : Nat :=
  ((parseDigits (match text with | '+' :: ds => ds | ds => ds)).filter (· < 2 ^ 32)).getD 24

/-- The address and the prefix length of a subnet. -/
def readSubnet (subnet : String) : Option (Nat × Nat) := do
  let (base, prefixLen) ← Tokens.splitOnce '/' subnet.toList
  let baseU32 ← toU32 (octets base)
  some (baseU32, parsePrefixLen prefixLen)

def readGateway (gateway : Option String) : Option Nat :=
  gateway.bind fun gw => toU32 (octets gw.toList)

/-- The octets of an address with dots between them. -/
def fmt (addr : Nat) : String := renderIpv4 (Fin.ofNat (2 ^ 32) addr)

/-! ## The three functions -/

/-- The addresses of the network and of the broadcast, as both functions work them out. -/
def networkAndBroadcast (baseU32 prefixLen : Nat) : Option (Nat × Nat) := do
  let hostBits ← subU32 32 prefixLen
  let mask ← shlU32 (2 ^ 32 - 1) hostBits
  let size ← shlU32 1 hostBits
  let rest ← subU32 size 1
  some (baseU32 &&& mask, (baseU32 &&& mask) ||| rest)

def defaultGateway (subnet : String) : Option String :=
  match (Tokens.splitOnce '/' subnet.toList).map fun (base, _) => octets base with
  | some [a, b, c, d] => (addU8 d 1).map fun d =>
    renderNat a ++ "." ++ renderNat b ++ "." ++ renderNat c ++ "." ++ renderNat d
  | _ => some "10.0.0.1"

def computeDhcpRange (subnet : String) (gateway : Option String) : Option (String × String) :=
  match readSubnet subnet with
  | none => some ("10.0.0.10", "10.0.0.254")
  | some (baseU32, prefixLen) => do
      let (networkAddr, broadcastAddr) ← networkAndBroadcast baseU32 prefixLen
      let first ← addU32 networkAddr 1
      let start ← if readGateway gateway = some first then addU32 first 1 else some first
      let last ← subU32 broadcastAddr 1
      some (fmt start, fmt last)

/-- `next_available_ip` on the texts of a network and of the allocated addresses. -/
def searchAvailableIp (subnet : String) (gateway : Option String) (allocated : List String) :
    Option (Option String) :=
  match readSubnet subnet with
  | none => some none
  | some (baseU32, prefixLen) => do
      let (networkAddr, broadcastAddr) ← networkAndBroadcast baseU32 prefixLen
      let first ← addU32 networkAddr 1
      some (((addresses first broadcastAddr).find? fun addr =>
        readGateway gateway ≠ some addr.val && !allocated.contains (renderIpv4 addr) &&
          !allocated.contains (renderIpv4 addr ++ "/32")).map renderIpv4)

/-- `normalize_inet`: a mask is left out. -/
def normalizeInet (text : String) : String := String.ofList (text.toList.takeWhile (· ≠ '/'))

def gatewayText (n : Network) : Option String := n.gateway.map fun gw => normalizeInet gw.text

/-- The gateway that `attach_host` sends to a node. -/
def configuredGateway (n : Network) : Option String :=
  match gatewayText n with
  | some gateway => some gateway
  | none => defaultGateway n.subnet.text

/-! ## What they are for -/

/-- The last address of a network. -/
def broadcast (n : Network) : Nat := n.subnet.addr + (2 ^ n.hostBits - 1)

/-- **The addresses agree**: all are worked out without overflow, the gateway is neither found for a
VM nor in the range, and the range starts where the search does and has only addresses for VMs. -/
structure Agree (n : Network) (gateway start last : Ipv4) : Prop where
  configured : configuredGateway n = some (renderIpv4 gateway)
  range : computeDhcpRange n.subnet.text (gatewayText n) = some (renderIpv4 start, renderIpv4 last)
  notFound : ∀ allocated, ∃ found,
    searchAvailableIp n.subnet.text (gatewayText n) allocated = some found ∧
      found ≠ some (renderIpv4 gateway)
  notServed : ¬ (start ≤ gateway ∧ gateway ≤ last)
  aligned : ∀ ip, searchAvailableIp n.subnet.text (gatewayText n) [] = some (some ip) →
    ip = renderIpv4 start
  interior : ∀ ip, start ≤ ip → ip ≤ last → n.subnet.addr < ip.val ∧ ip.val < broadcast n

/-- **Networks whose addresses agree.**  The gateway has to be given, and at either end of the
addresses for VMs, unless there are none of them; and there must be a next address and one before
it. -/
def wellPlanned (n : Network) : Bool :=
  if n.subnet.len = 0 then false
  else if n.subnet.len ≤ 30 then
    n.gateway.any fun gw =>
      gw.addr = n.subnet.addr || gw.addr = n.subnet.addr + 1 || gw.addr = broadcast n
  else if n.subnet.len = 31 then n.gateway.all fun gw => gw.addr ≠ 2 ^ 32 - 1
  else 0 < n.subnet.addr && n.subnet.addr < 2 ^ 32 - 1 &&
    (n.gateway.isSome || n.subnet.addr % 256 ≠ 255)

/-! ## Reading the texts back -/

section Texts

variable {n : Network} (hv4 : n.subnet.family = .v4)

lemma or_of_dvd {x y k : Nat} (hx : 2 ^ k ∣ x) (hy : y < 2 ^ k) : x ||| y = x + y := by
  obtain ⟨q, rfl⟩ := hx
  exact (Nat.two_pow_add_eq_or_of_lt hy q).symm

lemma octets_renderIpv4 (ip : Ipv4) :
    octets (renderIpv4 ip).toList = [octet ip 0, octet ip 1, octet ip 2, octet ip 3] := by
  simp [octets, splitOn_renderIpv4, List.range_succ, parseU8_octet]

/-- **The four octets** make up the address. -/
lemma toU32_renderIpv4 (ip : Ipv4) : toU32 (octets (renderIpv4 ip).toList) = some ip.val := by
  have hlt : ∀ i, octet ip i < 256 := fun i => Nat.mod_lt _ (by decide)
  have h0 := hlt 0
  have h1 := hlt 1
  have h2 := hlt 2
  have h3 := hlt 3
  rw [octets_renderIpv4, toU32]
  simp only [Nat.shiftLeft_eq]
  rw [or_of_dvd (y := octet ip 1 * 2 ^ 16) (k := 24) (by omega) (by omega),
    or_of_dvd (y := octet ip 2 * 2 ^ 8) (k := 16) (by omega) (by omega),
    or_of_dvd (k := 8) (by omega) (by omega)]
  have hip := ip.isLt
  simp only [octet]
  exact congrArg some (by omega)

lemma parsePrefixLen_digits : ∀ len ≤ 32, parsePrefixLen (Nat.toDigits 10 len) = len := by
  decide +kernel

lemma val_ofNat {a : Nat} (h : a < 2 ^ 32) : (Fin.ofNat (2 ^ 32) a).val = a := Nat.mod_eq_of_lt h

/-- A gateway of IPv4 is read back without its mask. -/
lemma gatewayText_eq {gw : Inet} (hgw : n.gateway = some gw) (hv4 : gw.family = .v4) :
    gatewayText n = some (fmt gw.addr) := by
  have hne : ∀ c ∈ (fmt gw.addr).toList, decide (c ≠ '/') = true := by
    intro c hc
    have hslash : '/' ∉ (fmt gw.addr).toList := not_mem_renderIpv4 (by decide) (by decide) _
    simpa using fun heq : c = '/' => hslash (heq ▸ hc)
  have htext : gw.text.toList = (fmt gw.addr).toList ++ '/' :: Nat.toDigits 10 gw.len := by
    simp [Inet.text, hv4, fmt, renderNat]
  rw [gatewayText, hgw, Option.map_some, normalizeInet, htext, List.takeWhile_append_of_pos hne]
  simp

include hv4

/-- The text of a subnet, without its mask and after it. -/
lemma splitOnce_text : Tokens.splitOnce '/' n.subnet.text.toList
    = some ((fmt n.subnet.addr).toList, Nat.toDigits 10 n.subnet.len) := by
  have htext : n.subnet.text.toList
      = (fmt n.subnet.addr).toList ++ '/' :: Nat.toDigits 10 n.subnet.len := by
    simp [Inet.text, hv4, fmt, renderNat]
  rw [htext]
  exact Tokens.splitOnce_append (not_mem_renderIpv4 (by decide) (by decide) _)

lemma addr_lt : n.subnet.addr < 2 ^ 32 := by
  have hlt := n.subnet.addr_lt
  rwa [hv4] at hlt

lemma readSubnet_text :
    readSubnet n.subnet.text = some (n.subnet.addr, n.subnet.len) := by
  have hle := n.subnet.len_le
  rw [hv4] at hle
  simp only [readSubnet, splitOnce_text hv4, fmt, Option.bind_eq_bind, Option.bind_some,
    toU32_renderIpv4, parsePrefixLen_digits _ hle, val_ofNat (addr_lt hv4)]

end Texts

/-! ## What the functions compute -/

section Compute

variable {n : Network} (hv4 : n.subnet.family = .v4) (hgw : ∀ gw ∈ n.gateway, gw.family = .v4)

/-- The mask leaves an address alone that has no bits behind it. -/
lemma and_mask {a k : Nat} (ha : a < 2 ^ 32) (hk : 2 ^ k ∣ a) :
    a &&& (2 ^ 32 - 1) <<< k % 2 ^ 32 = a := by
  refine Nat.eq_of_testBit_eq fun i => ?_
  rw [Nat.testBit_and, Nat.testBit_mod_two_pow, Nat.testBit_shiftLeft, Nat.testBit_two_pow_sub_one]
  cases hbit : a.testBit i with
  | false => rfl
  | true =>
    have hi : i < 32 := by
      by_contra hge
      have hlt : a < 2 ^ i := ha.trans_le (Nat.pow_le_pow_right (by decide) (by omega))
      rw [Nat.testBit_lt_two_pow hlt] at hbit
      cases hbit
    have hki : k ≤ i := by
      by_contra hlt
      obtain ⟨q, rfl⟩ := hk
      rw [Nat.testBit_two_pow_mul] at hbit
      simp [hlt] at hbit
    simp [hi, hki, Nat.lt_of_le_of_lt (Nat.sub_le i k) hi]

/-- The gateway that the functions compare with is that of the ledger. -/
lemma readGateway_eq (hgw : ∀ gw ∈ n.gateway, gw.family = .v4) :
    readGateway (gatewayText n) = n.gatewayU32 := by
  cases hg : n.gateway with
  | none => simp [gatewayText, readGateway, Network.gatewayU32, hg]
  | some gw =>
    have hv4 := hgw gw hg
    have hlt := gw.addr_lt
    rw [hv4] at hlt
    rw [gatewayText_eq hg hv4, readGateway, Option.bind_some, fmt, toU32_renderIpv4,
      val_ofNat hlt, Network.gatewayU32, hg, Option.bind_some, if_pos hv4]

lemma addU32_eq_some {a b c : Nat} : addU32 a b = some c ↔ a + b < 2 ^ 32 ∧ c = a + b := by
  simp [addU32, eq_comm]

lemma subU32_eq_some {a b c : Nat} : subU32 a b = some c ↔ b ≤ a ∧ c = a - b := by
  simp [subU32, eq_comm]

/-- The first address of the range. -/
def rangeStart (n : Network) : Nat :=
  if n.gatewayU32 = some (n.subnet.addr + 1) then n.subnet.addr + 2 else n.subnet.addr + 1

include hv4

/-- A subnet has no bits behind its mask, and its addresses are addresses. -/
lemma subnet_facts : n.hostBits = 32 - n.subnet.len ∧
    n.subnet.len ≤ 32 ∧ 2 ^ n.hostBits ∣ n.subnet.addr ∧
      n.subnet.addr + 2 ^ n.hostBits ≤ 2 ^ 32 := by
  have hbits : n.hostBits = 32 - n.subnet.len := by rw [Network.hostBits, hv4, Family.bits]
  have hle := n.subnet.len_le
  rw [hv4, Family.bits] at hle
  have hdvd : 2 ^ n.hostBits ∣ n.subnet.addr := Nat.dvd_of_mod_eq_zero n.aligned
  refine ⟨hbits, hle, hdvd, ?_⟩
  obtain ⟨q, hq⟩ := hdvd
  have hpow : (2 : Nat) ^ 32 = 2 ^ n.hostBits * 2 ^ n.subnet.len := by
    rw [← pow_add, hbits, Nat.sub_add_cancel hle]
  have hlt := addr_lt hv4
  rw [hq, hpow] at hlt
  rw [hq, ← Nat.mul_succ, hpow]
  exact Nat.mul_le_mul_left _ (Nat.lt_of_mul_lt_mul_left hlt)

/-- **The bounds.**  Without a mask the shift is by all the bits. -/
lemma networkAndBroadcast_eq :
    networkAndBroadcast n.subnet.addr n.subnet.len =
      if n.subnet.len = 0 then none else some (n.subnet.addr, broadcast n) := by
  obtain ⟨hbits, hle, hdvd, hsize⟩ := subnet_facts hv4
  have hpos : 1 ≤ 2 ^ n.hostBits := Nat.two_pow_pos n.hostBits
  have hsub : subU32 32 n.subnet.len = some n.hostBits := by rw [subU32, if_pos hle, hbits]
  simp only [networkAndBroadcast, hsub, Option.bind_eq_bind, Option.bind_some]
  split_ifs with hlen
  · have hshift : shlU32 (2 ^ 32 - 1) n.hostBits = none := if_neg (by omega)
    rw [hshift, Option.bind_none]
  · have hlt : n.hostBits < 32 := by omega
    have hone : 1 <<< n.hostBits % 2 ^ 32 = 2 ^ n.hostBits := by
      rw [Nat.one_shiftLeft]
      exact Nat.mod_eq_of_lt (Nat.pow_lt_pow_right (by decide) hlt)
    simp only [shlU32, if_pos hlt, Option.bind_some, hone, subU32, if_pos hpos,
      and_mask (addr_lt hv4) hdvd]
    rw [or_of_dvd hdvd (by omega), broadcast]

/-- **The default gateway** is the address after the one of the network. -/
lemma defaultGateway_eq : defaultGateway n.subnet.text =
    if n.subnet.addr % 256 ≠ 255 then some (fmt (n.subnet.addr + 1)) else none := by
  have hlt := addr_lt hv4
  have hval := val_ofNat hlt
  have hd : octet (Fin.ofNat (2 ^ 32) n.subnet.addr) 3 = n.subnet.addr % 256 := by
    rw [octet, hval]
    simp
  simp only [defaultGateway, splitOnce_text hv4, Option.map_some, fmt, octets_renderIpv4]
  rw [hd, addU8]
  split_ifs with h h' h'
  · have hnext := val_ofNat (a := n.subnet.addr + 1) (by omega)
    simp only [Option.map_some, renderIpv4, octet, hnext, hval]
    have h0 : (n.subnet.addr + 1) / 256 ^ 3 = n.subnet.addr / 256 ^ 3 := by omega
    have h1 : (n.subnet.addr + 1) / 256 ^ 2 = n.subnet.addr / 256 ^ 2 := by omega
    have h2 : (n.subnet.addr + 1) / 256 ^ 1 = n.subnet.addr / 256 ^ 1 := by omega
    have h3 : (n.subnet.addr + 1) / 256 ^ 0 % 256 = n.subnet.addr % 256 + 1 := by omega
    simp only [Nat.sub_zero, Nat.reduceSub, h0, h1, h2, h3]
  · omega
  · omega
  · rfl

include hgw

/-- **The range**, where nothing overflows. -/
lemma computeDhcpRange_eq_some {range : String × String} :
    computeDhcpRange n.subnet.text (gatewayText n) = some range ↔
      n.subnet.len ≠ 0 ∧ rangeStart n < 2 ^ 32 ∧ 1 ≤ broadcast n ∧
        range = (fmt (rangeStart n), fmt (broadcast n - 1)) := by
  simp only [computeDhcpRange, readSubnet_text hv4, networkAndBroadcast_eq hv4, readGateway_eq hgw,
    Option.bind_eq_bind, Option.bind_eq_some_iff, Option.ite_none_left_eq_some, Option.some.injEq,
    addU32_eq_some, rangeStart]
  constructor
  · rintro ⟨_, ⟨hlen, rfl⟩, _, ⟨hfirst, rfl⟩, h⟩
    split_ifs at h ⊢
    · simp only [Option.bind_eq_some_iff, addU32_eq_some, subU32_eq_some, Option.some.injEq] at h
      obtain ⟨_, ⟨hnext, rfl⟩, _, ⟨hlast, rfl⟩, rfl⟩ := h
      exact ⟨hlen, hnext, hlast, rfl⟩
    · simp only [Option.bind_some, Option.bind_eq_some_iff, subU32_eq_some, Option.some.injEq] at h
      obtain ⟨_, ⟨hlast, rfl⟩, rfl⟩ := h
      exact ⟨hlen, hfirst, hlast, rfl⟩
  · rintro ⟨hlen, hstart, hlast, rfl⟩
    refine ⟨_, ⟨hlen, rfl⟩, _, ⟨?_, rfl⟩, ?_⟩
    · dsimp only
      split_ifs at hstart <;> omega
    · split_ifs at hstart ⊢
      · simp only [Option.bind_eq_some_iff, addU32_eq_some, subU32_eq_some]
        exact ⟨_, ⟨hstart, rfl⟩, _, ⟨hlast, rfl⟩, rfl⟩
      · simp only [Option.bind_some, Option.bind_eq_some_iff, subU32_eq_some]
        exact ⟨_, ⟨hlast, rfl⟩, rfl⟩

/-- **The search**, where nothing overflows. -/
lemma searchAvailableIp_eq_some {allocated : List String} {found : Option String} :
    searchAvailableIp n.subnet.text (gatewayText n) allocated = some found ↔
      n.subnet.len ≠ 0 ∧ n.subnet.addr + 1 < 2 ^ 32 ∧ found =
        ((addresses (n.subnet.addr + 1) (broadcast n)).find? fun addr =>
          n.gatewayU32 ≠ some addr.val && !allocated.contains (renderIpv4 addr) &&
            !allocated.contains (renderIpv4 addr ++ "/32")).map renderIpv4 := by
  simp only [searchAvailableIp, readSubnet_text hv4, networkAndBroadcast_eq hv4, readGateway_eq hgw,
    Option.bind_eq_bind, Option.bind_eq_some_iff, Option.ite_none_left_eq_some, Option.some.injEq,
    addU32_eq_some]
  constructor
  · rintro ⟨_, ⟨hlen, rfl⟩, _, ⟨hfirst, rfl⟩, rfl⟩
    exact ⟨hlen, hfirst, rfl⟩
  · rintro ⟨hlen, hfirst, rfl⟩
    exact ⟨_, ⟨hlen, rfl⟩, _, ⟨hfirst, rfl⟩, rfl⟩

/-- **The search is the one of the ledger**, where nothing overflows. -/
lemma searchAvailableIp_eq {db : LedgerDb} {networkId : Uuid}
    (hn : db.network? networkId = some n) (hlen : n.subnet.len ≠ 0)
    (hfirst : n.subnet.addr + 1 < 2 ^ 32) : ∃ found, nextAvailableIp db networkId = .ok found ∧
      searchAvailableIp n.subnet.text (gatewayText n)
        ((db.allocations.filter (·.networkId = networkId)).map (·.ipAddress.text)) =
        some (found.map renderIpv4) := by
  have hbounds : n.bounds = (n.subnet.addr, broadcast n) :=
    (bounds_v4 hv4).elim (fun h => absurd h.1 hlen) (·.1)
  have hfamily : n.subnet.family ≠ .v6 := by simp [hv4]
  refine ⟨_, except_bind_eq_ok.2 ⟨n, by rw [hn]; rfl, ?_⟩,
    (searchAvailableIp_eq_some hv4 hgw).2 ⟨hlen, hfirst, rfl⟩⟩
  rw [if_neg hfamily, Network.searched, hbounds, Nat.mod_eq_of_lt hfirst]
  dsimp only
  rw [List.find?_filter]
  refine congrArg _ (congrArg (List.find? · _) (funext fun addr => ?_))
  rw [Bool.eq_iff_iff]
  simp only [List.contains_eq_mem, decide_not, Bool.and_eq_true, decide_eq_true_eq, and_assoc]

end Compute

/-! ## When they agree -/

section Agree

variable {n : Network} {gateway start last : Ipv4}

section

variable (hv4 : n.subnet.family = .v4) (hgw : ∀ gw ∈ n.gateway, gw.family = .v4)

lemma fmt_eq_iff {a : Nat} {ip : Ipv4} (ha : a < 2 ^ 32) : renderIpv4 ip = fmt a ↔ ip.val = a := by
  rw [fmt, renderIpv4_injective.eq_iff, Fin.ext_iff, val_ofNat ha]

lemma first_lt (h : rangeStart n < 2 ^ 32) : n.subnet.addr + 1 < 2 ^ 32 := by
  rw [rangeStart] at h
  split_ifs at h <;> omega

include hv4

lemma broadcast_lt : broadcast n < 2 ^ 32 := by
  have hpos := Nat.two_pow_pos n.hostBits
  have hsize := (subnet_facts hv4).2.2.2
  rw [broadcast]
  omega

/-- The first address that is no gateway is the first of the range. -/
lemma find_first (hstart : rangeStart n < 2 ^ 32) {addr : Ipv4}
    (h : (addresses (n.subnet.addr + 1) (broadcast n)).find?
      (fun addr => decide (n.gatewayU32 ≠ some addr.val)) = some addr) :
    addr.val = rangeStart n := by
  have hb := broadcast_lt hv4
  have hmem := (mem_addresses hb.le).1 (List.mem_of_find?_eq_some h)
  have hne : n.gatewayU32 ≠ some addr.val := by simpa using List.find?_some h
  have hge : rangeStart n ≤ addr.val := by
    rw [rangeStart]
    split_ifs with hgateway
    · have : addr.val ≠ n.subnet.addr + 1 := fun heq => hne (by rw [heq, hgateway])
      omega
    · exact hmem.1
  by_contra hlt
  -- an address before it in the list would have been found
  have hearlier :
      Fin.ofNat (2 ^ 32) (rangeStart n) ∈ addresses (n.subnet.addr + 1) (broadcast n) := by
    rw [mem_addresses hb.le, val_ofNat hstart]
    rw [rangeStart] at hge hlt ⊢
    split_ifs at hge hlt ⊢ <;> omega
  have hp := not_free_before (sorted_addresses hb.le) h hearlier (by rw [val_ofNat hstart]; omega)
  rw [val_ofNat hstart, decide_eq_false_iff_not, not_not, rangeStart] at hp
  split_ifs at hp with hgateway
  · rw [hgateway, Option.some.injEq] at hp
    omega
  · exact hgateway hp

/-- How many addresses a mask leaves. -/
lemma size_cases :
    (n.subnet.len ≤ 30 ∧ n.subnet.addr % 4 = 0 ∧ n.subnet.addr + 3 ≤ broadcast n) ∨
      (n.subnet.len = 31 ∧ n.subnet.addr % 2 = 0 ∧ broadcast n = n.subnet.addr + 1) ∨
      (n.subnet.len = 32 ∧ broadcast n = n.subnet.addr) := by
  obtain ⟨hbits, hle, hdvd, -⟩ := subnet_facts hv4
  rw [broadcast]
  rcases Nat.lt_trichotomy n.subnet.len 31 with h | h | h
  · have hfour : 2 ^ 2 ∣ 2 ^ n.hostBits := pow_dvd_pow 2 (by omega)
    have hpow : 4 ≤ 2 ^ n.hostBits := Nat.le_of_dvd (Nat.two_pow_pos _) hfour
    have haddr := hfour.trans hdvd
    exact .inl ⟨by omega, by omega, by omega⟩
  · have hone : n.hostBits = 1 := by omega
    rw [hone] at hdvd ⊢
    exact .inr (.inl ⟨h, by omega, by omega⟩)
  · have hzero : n.hostBits = 0 := by omega
    rw [hzero]
    exact .inr (.inr ⟨by omega, by omega⟩)

include hgw

/-- What the range of a network is. -/
lemma Agree.range_eq
    (h : Agree n gateway start last) : n.subnet.len ≠ 0 ∧ rangeStart n < 2 ^ 32 ∧
      1 ≤ broadcast n ∧ start.val = rangeStart n ∧ last.val = broadcast n - 1 := by
  obtain ⟨hlen, hstart, hlast, hrange⟩ := (computeDhcpRange_eq_some hv4 hgw).1 h.range
  obtain ⟨hs, he⟩ := Prod.mk.inj hrange
  have hb := broadcast_lt hv4
  exact ⟨hlen, hstart, hlast, (fmt_eq_iff hstart).1 hs, (fmt_eq_iff (by omega)).1 he⟩

/-- **Enough for agreement**: the gateway is the one that the search leaves out, or there is nothing
to search. -/
lemma agree_of
    (hlen : n.subnet.len ≠ 0) (hstart : rangeStart n < 2 ^ 32) (hlast : 1 ≤ broadcast n)
    (hconfigured : configuredGateway n = some (renderIpv4 gateway))
    (hskipped : n.gatewayU32 = some gateway.val ∨ broadcast n ≤ n.subnet.addr + 1)
    (hserved : gateway.val < rangeStart n ∨ broadcast n ≤ gateway.val) :
    Agree n gateway (Fin.ofNat (2 ^ 32) (rangeStart n)) (Fin.ofNat (2 ^ 32) (broadcast n - 1)) := by
  have hb := broadcast_lt hv4
  have hs := val_ofNat hstart
  have he := val_ofNat (a := broadcast n - 1) (by omega)
  have hfirst := first_lt hstart
  refine ⟨hconfigured, (computeDhcpRange_eq_some hv4 hgw).2 ⟨hlen, hstart, hlast, rfl⟩,
    ?_, ?_, ?_, ?_⟩
  · intro allocated
    refine ⟨_, (searchAvailableIp_eq_some hv4 hgw).2 ⟨hlen, hfirst, rfl⟩, fun hfound => ?_⟩
    obtain ⟨addr, haddr, heq⟩ := Option.map_eq_some_iff.1 hfound
    cases renderIpv4_injective heq
    have hmem := (mem_addresses hb.le).1 (List.mem_of_find?_eq_some haddr)
    have hp := List.find?_some haddr
    simp only [Bool.and_eq_true, decide_eq_true_eq] at hp
    rcases hskipped with hskipped | hempty
    · exact hp.1.1 hskipped
    · omega
  · rw [Fin.le_def, Fin.le_def, hs, he]
    omega
  · intro ip hip
    obtain ⟨-, -, hfound⟩ := (searchAvailableIp_eq_some hv4 hgw).1 hip
    obtain ⟨addr, haddr, rfl⟩ := Option.map_eq_some_iff.1 hfound.symm
    simp only [List.contains_nil, Bool.not_false, Bool.and_true] at haddr
    rw [← fmt]
    exact (fmt_eq_iff hstart).2 (find_first hv4 hstart haddr)
  · intro ip hle hge
    rw [Fin.le_def, hs] at hle
    rw [Fin.le_def, he] at hge
    have hafter : n.subnet.addr < rangeStart n := by
      rw [rangeStart]
      split_ifs <;> omega
    omega

/-- The search of an empty ledger starts with the range. -/
lemma search_nil
    (hlen : n.subnet.len ≠ 0) (hstart : rangeStart n < broadcast n)
    (hskip : n.gatewayU32 ≠ some (rangeStart n)) :
    searchAvailableIp n.subnet.text (gatewayText n) [] = some (some (fmt (rangeStart n))) := by
  have hb := broadcast_lt hv4
  have hlt : rangeStart n < 2 ^ 32 := by omega
  have hmem : Fin.ofNat (2 ^ 32) (rangeStart n) ∈ addresses (n.subnet.addr + 1) (broadcast n) := by
    rw [mem_addresses hb.le, val_ofNat hlt]
    rw [rangeStart] at hstart ⊢
    split_ifs at hstart ⊢ <;> omega
  have hsome : ((addresses (n.subnet.addr + 1) (broadcast n)).find?
      fun addr => decide (n.gatewayU32 ≠ some addr.val)).isSome = true :=
    List.find?_isSome.2 ⟨_, hmem, by rw [val_ofNat hlt]; exact decide_eq_true hskip⟩
  obtain ⟨addr, haddr⟩ := Option.isSome_iff_exists.1 hsome
  refine (searchAvailableIp_eq_some hv4 hgw).2 ⟨hlen, first_lt hlt, ?_⟩
  simp only [List.contains_nil, Bool.not_false, Bool.and_true]
  rw [haddr, Option.map_some, Option.some.injEq, eq_comm]
  exact (fmt_eq_iff hlt).2 (find_first hv4 hlt haddr)

omit hgw

/-- Without a gateway, the default one is the first address of the range: there must be no range. -/
lemma agree_none_iff (hgw : n.gateway = none) :
    (∃ gateway start last, Agree n gateway start last) ↔ wellPlanned n = true := by
  have hall : ∀ gw ∈ n.gateway, gw.family = .v4 := by simp [hgw]
  have hskip : n.gatewayU32 = none := by simp [Network.gatewayU32, hgw]
  have hstart : rangeStart n = n.subnet.addr + 1 := by simp [rangeStart, hskip]
  have hconf : configuredGateway n =
      if n.subnet.addr % 256 ≠ 255 then some (fmt (n.subnet.addr + 1)) else none := by
    simp [configuredGateway, gatewayText, hgw, defaultGateway_eq hv4]
  have hb := broadcast_lt hv4
  simp only [wellPlanned, hgw, Option.any_none, Option.all_none, Option.isSome_none, Bool.false_or]
  constructor
  · rintro ⟨gateway, start, last, h⟩
    obtain ⟨hlen, hlt, hlast, -, -⟩ := h.range_eq hv4 hall
    have hconfigured := hconf.symm.trans h.configured
    split_ifs at hconfigured with hoctet
    rw [if_neg hlen]
    rcases size_cases hv4 with ⟨-, -, hsize⟩ | ⟨hlen', -, -⟩ | ⟨hlen', hsize⟩
    · -- the first address is free in an empty ledger, and it is the gateway
      obtain ⟨found, hfound, hne⟩ := h.notFound []
      rw [search_nil hv4 hall hlen (by omega) (by simp [hskip]), hstart] at hfound
      cases hfound
      exact absurd hconfigured hne
    · simp [hlen']
    · simp [hlen', hoctet]
      omega
  · intro h
    have hlen : n.subnet.len ≠ 0 := fun hzero => by simp [hzero] at h
    rw [if_neg hlen] at h
    rcases size_cases hv4 with ⟨hlen', -, -⟩ | ⟨-, heven, hsize⟩ | ⟨hlen', hsize⟩
    · rw [if_pos hlen'] at h
      cases h
    · have hgateway := val_ofNat (a := n.subnet.addr + 1) (by omega)
      exact ⟨_, _, _, agree_of hv4 hall hlen (by omega) (by omega) (hconf.trans (if_pos (by omega)))
        (.inr (by omega)) (.inr (by omega))⟩
    · simp [hlen'] at h
      have hgateway := val_ofNat (a := n.subnet.addr + 1) (by omega)
      exact ⟨_, _, _, agree_of hv4 hall hlen (by omega) (by omega) (hconf.trans (if_pos h.2))
        (.inr (by omega)) (.inr (by omega))⟩

/-- A gateway inside the range is served, if it is not its first address. -/
lemma agree_some_iff {gw : Inet} (hgw : n.gateway = some gw)
    (hfamily : gw.family = .v4) (hge : n.subnet.addr ≤ gw.addr) (hle : gw.addr ≤ broadcast n) :
    (∃ gateway start last, Agree n gateway start last) ↔ wellPlanned n = true := by
  have hall : ∀ gw ∈ n.gateway, gw.family = .v4 := by
    intro gw' h
    cases hgw.symm.trans h
    exact hfamily
  have hskip : n.gatewayU32 = some gw.addr := by simp [Network.gatewayU32, hgw, hfamily]
  have hstart : rangeStart n =
      if gw.addr = n.subnet.addr + 1 then n.subnet.addr + 2 else n.subnet.addr + 1 := by
    simp [rangeStart, hskip]
  have hconf : configuredGateway n = some (fmt gw.addr) := by
    simp only [configuredGateway, gatewayText_eq hgw hfamily]
  have hb := broadcast_lt hv4
  have hval := val_ofNat (a := gw.addr) (by omega)
  simp only [wellPlanned, hgw, Option.any_some, Option.all_some, Option.isSome_some, Bool.true_or,
    Bool.and_true]
  constructor
  · rintro ⟨gateway, start, last, h⟩
    obtain ⟨hlen, hlt, hlast, hs, he⟩ := h.range_eq hv4 hall
    have hgateway : gateway.val = gw.addr :=
      (fmt_eq_iff (by omega)).1 (Option.some.inj (h.configured.symm.trans hconf))
    have hserved := h.notServed
    rw [Fin.le_def, Fin.le_def, hs, he, hgateway, hstart] at hserved
    rw [hstart] at hlt
    rw [if_neg hlen]
    rcases size_cases hv4 with ⟨hlen', -, hsize⟩ | ⟨hlen', -, hsize⟩ | ⟨hlen', hsize⟩
    · rw [if_pos hlen']
      simp only [Bool.or_eq_true, decide_eq_true_eq]
      split_ifs at hserved <;> omega
    · rw [if_neg (by omega), if_pos hlen', decide_eq_true_eq]
      split_ifs at hlt <;> omega
    · rw [if_neg (by omega), if_neg (by omega)]
      simp only [Bool.and_eq_true, decide_eq_true_eq]
      split_ifs at hlt <;> omega
  · intro h
    have hlen : n.subnet.len ≠ 0 := fun hzero => by simp [hzero] at h
    rw [if_neg hlen] at h
    have hnumbers : rangeStart n < 2 ^ 32 ∧ 1 ≤ broadcast n ∧
        (gw.addr < rangeStart n ∨ broadcast n ≤ gw.addr) := by
      rw [hstart]
      rcases size_cases hv4 with ⟨hlen', -, hsize⟩ | ⟨hlen', -, hsize⟩ | ⟨hlen', hsize⟩
      · rw [if_pos hlen'] at h
        simp only [Bool.or_eq_true, decide_eq_true_eq] at h
        split_ifs <;> omega
      · rw [if_neg (by omega), if_pos hlen', decide_eq_true_eq] at h
        split_ifs <;> omega
      · rw [if_neg (by omega), if_neg (by omega)] at h
        simp only [Bool.and_eq_true, decide_eq_true_eq] at h
        split_ifs <;> omega
    obtain ⟨hlt, hlast, hserved⟩ := hnumbers
    exact ⟨_, _, _, agree_of hv4 hall hlen hlt hlast hconf (.inl (by rw [hskip, hval]))
      (by rwa [hval])⟩

end

/-- **Gateway, range and search agree** for the networks that are well planned, and no others. -/
theorem addresses_agree_iff (hv4 : n.subnet.family = .v4)
    (hgw : ∀ gw ∈ n.gateway, gw.family = .v4 ∧ n.subnet.addr ≤ gw.addr ∧ gw.addr ≤ broadcast n) :
    (∃ gateway start last, Agree n gateway start last) ↔ wellPlanned n = true := by
  cases hgateway : n.gateway with
  | none => exact agree_none_iff hv4 hgateway
  | some gw =>
    obtain ⟨hfamily, hge, hle⟩ := hgw gw hgateway
    exact agree_some_iff hv4 hgateway hfamily hge hle

lemma hostLen_le : 32 ≤ Family.v4.bits := le_rfl

/-- A network of private addresses whose gateway has this last octet. -/
def labNetwork (gateway : Option Nat) : Network where
  id := ⟨"lan"⟩
  subnet := ⟨.v4, 10 * 2 ^ 24, 24, by decide, by decide⟩
  gateway := gateway.map fun last =>
    ⟨.v4, 10 * 2 ^ 24 + last % 256, 32, by simp only [Family.bits]; omega, hostLen_le⟩
  aligned := by decide

theorem first_gateway_agrees :
    ∃ gateway start last, Agree (labNetwork (some 1)) gateway start last :=
  (addresses_agree_iff rfl (by decide +kernel)).2 (by decide +kernel)

/-- **The default gateway is given away**: without a gateway, `10.0.0.1` is configured on the
bridge, starts the range, and is the first address that is found for a VM.  And a gateway in the
middle of the range is served. -/
theorem default_gateway_found :
    configuredGateway (labNetwork none) = some "10.0.0.1" ∧
      computeDhcpRange "10.0.0.0/24" none = some ("10.0.0.1", "10.0.0.254") ∧
      searchAvailableIp (labNetwork none).subnet.text none [] = some (some "10.0.0.1") ∧
      (¬ ∃ gateway start last, Agree (labNetwork none) gateway start last) ∧
      ¬ ∃ gateway start last, Agree (labNetwork (some 7)) gateway start last := by
  refine ⟨by decide +kernel, by decide +kernel, by decide +kernel, ?_, ?_⟩
  · rw [agree_none_iff rfl rfl]
    decide +kernel
  · rw [agree_some_iff rfl rfl rfl (by decide +kernel) (by decide +kernel)]
    decide +kernel

end Agree

end AddressPlan

end Qarax
