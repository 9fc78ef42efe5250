import Mathlib

/-!
# Interface names and IPv4 texts

`networking/mod.rs` checks every text that reaches an `iptables` argument: the interface name, the
IPv4 address and the CIDR block.  The texts stay texts in this model, as they do in the node; what
they denote (`parseIpv4`, `parseCidr`) is what the standard library's parsers read and what
`iptables` reads in turn.

* `validateIfaceName`, `validateIpv4Cidr`, `validateIpv4Address` — the three checks, with the
  order of their errors.
* `Cidr.network` — the block as the kernel keeps it: host bits cleared.
-/

namespace Qarax

/-! ## Errors -/

/-- What `iptables` prints when it refuses a command, for the refusals that occur here.
`unavailable` stands for every failure that does not depend on the ruleset: the process cannot be
started, the lock is held. -/
inductive Stderr where
  | chainExists
  | noChain
  | badRule
  | notEmpty
  | tooManyLinks
  | indexTooBig
  | badArgument
  | unavailable
  deriving DecidableEq

/-- The text of the refusal. -/
def Stderr.text : Stderr → String
  | .chainExists => "iptables: Chain already exists."
  | .noChain => "iptables: No chain/target/match by that name."
  | .badRule => "iptables: Bad rule (does a matching rule exist in that chain?)."
  | .notEmpty => "iptables: Directory not empty."
  | .tooManyLinks => "iptables: Too many links."
  | .indexTooBig => "iptables: Index of deletion too big."
  | .badArgument => "iptables: Invalid argument."
  | .unavailable => "Another app is currently holding the xtables lock."

/-- Errors of the node's networking code. -/
inductive NetError where
  | ifaceLength (name : String)
  | ifaceDash (name : String)
  | ifaceChars (name : String)
  | cidrSlash (cidr : String)
  | cidrAddress (cidr : String)
  | cidrPrefix (cidr : String)
  | cidrRange (cidr : String)
  | address (ip : String)
  | ipForward
  | command (stderr : Stderr)
  deriving DecidableEq

/-- The message of an error.  A quoted argument is shown without the escapes `?` formatting adds,
and a refused command without the command line in front of what `iptables` printed. -/
def NetError.message : NetError → String
  | .ifaceLength name =>
    "Interface name \"" ++ name ++ "\" has invalid length (must be 1–15 chars)"
  | .ifaceDash name => "Interface name \"" ++ name ++ "\" must not start with '-'"
  | .ifaceChars name => "Interface name \"" ++ name ++ "\" contains illegal characters"
  | .cidrSlash cidr => "Invalid CIDR \"" ++ cidr ++ "\": missing '/'"
  | .cidrAddress cidr => "Invalid CIDR \"" ++ cidr ++ "\": bad IPv4 address"
  | .cidrPrefix cidr => "Invalid CIDR \"" ++ cidr ++ "\": bad prefix length"
  | .cidrRange cidr => "Invalid CIDR \"" ++ cidr ++ "\": prefix length must be 0–32"
  | .address ip => "Invalid IPv4 address \"" ++ ip ++ "\""
  | .ipForward => "Failed to enable ip_forward"
  | .command stderr => stderr.text

/-! ## Addresses and blocks -/

/-- An IPv4 address. -/
abbrev Ipv4 := Fin (2 ^ 32)

instance neZero_ipv4 : NeZero (2 ^ 32 : ℕ) := ⟨by decide⟩

/-- A CIDR block; `len` is the prefix length. -/
structure Cidr where
  addr : Ipv4
  len : Fin 33
  deriving DecidableEq

/-- The number of host bits. -/
def Cidr.hostBits (c : Cidr) : ℕ := 32 - c.len

/-- An address is in a block when they agree above the host bits. -/
def Cidr.contains (c : Cidr) (ip : Ipv4) : Bool :=
  ip.val / 2 ^ c.hostBits == c.addr.val / 2 ^ c.hostBits

/-- The block with its host bits cleared, as the kernel stores and lists it. -/
def Cidr.network (c : Cidr) : Cidr where
  addr := ⟨c.addr.val / 2 ^ c.hostBits * 2 ^ c.hostBits,
    Nat.lt_of_le_of_lt (Nat.div_mul_le_self _ _) c.addr.isLt⟩
  len := c.len

/-- The block of one address. -/
def Cidr.host (ip : Ipv4) : Cidr := ⟨ip, 32⟩

@[simp] lemma Cidr.network_contains (c : Cidr) (ip : Ipv4) :
    c.network.contains ip = c.contains ip := by
  have h : c.network.hostBits = c.hostBits := rfl
  simp only [contains, h]
  simp [network, Nat.mul_div_cancel _ (Nat.two_pow_pos c.hostBits)]

@[simp] lemma Cidr.host_hostBits (ip : Ipv4) : (Cidr.host ip).hostBits = 0 := rfl

@[simp] lemma Cidr.host_contains (ip ip' : Ipv4) :
    (Cidr.host ip).contains ip' = decide (ip' = ip) := by
  rw [Bool.eq_iff_iff]
  simp only [contains, host_hostBits, Nat.pow_zero, Nat.div_one, beq_iff_eq, decide_eq_true_eq]
  exact Fin.ext_iff.symm

@[simp] lemma Cidr.host_network (ip : Ipv4) : (Cidr.host ip).network = Cidr.host ip := by
  simp only [network, host_hostBits, Nat.pow_zero, Nat.div_one, Nat.mul_one]

/-! ## Texts -/

/-- The digits of an octet, most significant first. -/
def renderNat (n : ℕ) : String := String.ofList (Nat.toDigits 10 n)

/-- Octet `i` of an address, counted from the most significant one. -/
def octet (ip : Ipv4) (i : ℕ) : ℕ := ip.val / 256 ^ (3 - i) % 256

/-- The dotted text of an address. -/
def renderIpv4 (ip : Ipv4) : String :=
  renderNat (octet ip 0) ++ "." ++ renderNat (octet ip 1) ++ "." ++
    renderNat (octet ip 2) ++ "." ++ renderNat (octet ip 3)

/-- The text of a block. -/
def renderCidr (c : Cidr) : String := renderIpv4 c.addr ++ "/" ++ renderNat c.len

/-- A non-empty run of decimal digits. -/
def parseDigits : List Char → Option ℕ
  | [] => none
  | cs => cs.foldl (fun acc c => do
      let n ← acc
      if c.isDigit then some (n * 10 + (c.toNat - '0'.toNat)) else none) (some 0)

/-- `str::parse::<u8>`: digits, possibly after one plus sign, of a value below 256. -/
def parseU8 (cs : List Char) : Option ℕ := do
  let n ← parseDigits (match cs with | '+' :: ds => ds | ds => ds)
  if n < 256 then some n else none

/-- `str::parse::<Ipv4Addr>`: four octets without leading zeros.  Such a text is the one the
address is printed with, which is how leading zeros and signs are refused here. -/
def parseIpv4 (text : String) : Option Ipv4 :=
  match (text.toList.splitOn '.').map parseU8 with
  | [some a, some b, some c, some d] =>
    let ip : Ipv4 := Fin.ofNat (2 ^ 32) (((a * 256 + b) * 256 + c) * 256 + d)
    if renderIpv4 ip = text then some ip else none
  | _ => none

/-- Digits and nothing else are read. -/
lemma parseDigits_eq (cs : List Char) : parseDigits cs =
    if cs ≠ [] ∧ cs.all Char.isDigit then some (Nat.ofDigitChars 10 cs 0) else none := by
  have hfold : ∀ (cs : List Char) (acc : Option ℕ), cs.foldl (fun acc c => do
      let n ← acc
      if c.isDigit then some (n * 10 + (c.toNat - '0'.toNat)) else none) acc
      = if cs.all Char.isDigit then acc.map (Nat.ofDigitChars 10 cs) else none := by
    intro cs
    induction cs with
    | nil => rintro (_ | n) <;> rfl
    | cons c cs ih =>
      intro acc
      rw [List.foldl_cons, ih, List.all_cons]
      cases acc <;> cases hc : c.isDigit <;> simp [Nat.ofDigitChars_cons, Nat.mul_comm]
  cases cs with
  | nil => rfl
  | cons c cs => exact (hfold (c :: cs) (some 0)).trans (by simp)

variable {text : String} {ip : Ipv4}

/-- An accepted address is written the way it is printed. -/
lemma renderIpv4_of_parseIpv4 (h : parseIpv4 text = some ip) : renderIpv4 ip = text := by
  unfold parseIpv4 at h
  split at h
  · simp only [Option.ite_none_right_eq_some, Option.some.injEq] at h
    rw [← h.2]
    exact h.1
  · cases h

/-- `validate_ipv4_cidr`, returning the block it checked: `split_once('/')`, then the address,
then the prefix length. -/
def readCidr (cidr : String) : Except NetError Cidr :=
  let cs := cidr.toList
  if '/' ∉ cs then .error (.cidrSlash cidr)
  else
    match parseIpv4 (String.ofList (cs.takeWhile (· ≠ '/'))) with
    | none => .error (.cidrAddress cidr)
    | some addr =>
      match parseU8 ((cs.dropWhile (· ≠ '/')).drop 1) with
      | none => .error (.cidrPrefix cidr)
      | some n => if h : n < 33 then .ok ⟨addr, ⟨n, h⟩⟩ else .error (.cidrRange cidr)

/-- The block a text denotes, if it denotes one. -/
def parseCidr (cidr : String) : Option Cidr := (readCidr cidr).toOption

lemma not_mem_renderNat {c : Char} (hc : c.isDigit = false) (n : ℕ) :
    c ∉ (renderNat n).toList := by
  intro h
  rw [renderNat, String.toList_ofList] at h
  have hd := Nat.isDigit_of_mem_toDigits (by decide) (by decide) h
  rw [hc] at hd
  cases hd

/-- The text of an address is digits and dots. -/
lemma not_mem_renderIpv4 {c : Char} (hc : c.isDigit = false) (hdot : c ≠ '.') (ip : Ipv4) :
    c ∉ (renderIpv4 ip).toList := by
  simp [renderIpv4, not_mem_renderNat hc, hdot]

lemma renderNat_injective : Function.Injective renderNat := by
  intro m n h
  have hdigits := congrArg String.toList h
  simp only [renderNat, String.toList_ofList] at hdigits
  calc m = Nat.ofDigitChars 10 (Nat.toDigits 10 m) 0 := Nat.ofDigitChars_ten_toDigits.symm
    _ = Nat.ofDigitChars 10 (Nat.toDigits 10 n) 0 := by rw [hdigits]
    _ = n := Nat.ofDigitChars_ten_toDigits

/-- An octet is read back from its digits. -/
lemma parseU8_digits : ∀ n < 256, parseU8 (Nat.toDigits 10 n) = some n := by decide +kernel

lemma parseU8_octet (ip : Ipv4) (i : ℕ) :
    parseU8 (Nat.toDigits 10 (octet ip i)) = some (octet ip i) :=
  parseU8_digits _ (Nat.mod_lt _ (by decide))

lemma splitOn_renderIpv4 (ip : Ipv4) : (renderIpv4 ip).toList.splitOn '.'
    = (List.range 4).map fun i => Nat.toDigits 10 (octet ip i) := by
  have hdot : ∀ n, '.' ∉ Nat.toDigits 10 n := fun n => by
    simpa [renderNat] using not_mem_renderNat (c := '.') (by decide) n
  have hlist : (renderIpv4 ip).toList = ['.'].intercalate ((List.range 4).map fun i =>
      Nat.toDigits 10 (octet ip i)) := by
    simp [renderIpv4, renderNat, List.range_succ, List.intercalate]
  rw [hlist]
  exact List.splitOn_intercalate _ (by simp [hdot]) (by simp)

/-- **Addresses are read back** from the texts they are printed with. -/
lemma parseIpv4_renderIpv4 (ip : Ipv4) : parseIpv4 (renderIpv4 ip) = some ip := by
  have hval : Fin.ofNat (2 ^ 32)
      (((octet ip 0 * 256 + octet ip 1) * 256 + octet ip 2) * 256 + octet ip 3) = ip := by
    have hlt := ip.isLt
    simp only [octet]
    exact Fin.ext (by simp only [Fin.ofNat]; omega)
  simp only [parseIpv4, splitOn_renderIpv4, List.range_succ, List.range_zero, List.nil_append,
    List.map_cons, List.map_nil, List.cons_append, parseU8_octet, hval, if_true]

lemma renderIpv4_injective : Function.Injective renderIpv4 := by
  intro ip ip' h
  exact Option.some.inj (by rw [← parseIpv4_renderIpv4 ip, h, parseIpv4_renderIpv4])

/-- An address and a prefix length, as a block is written. -/
lemma parseCidr_text (h : parseIpv4 text = some ip) (len : Fin 33) :
    parseCidr (text ++ "/" ++ renderNat len) = some ⟨ip, len⟩ := by
  have hslash : '/' ∉ text.toList := by
    rw [← renderIpv4_of_parseIpv4 h]
    exact not_mem_renderIpv4 (by decide) (by decide) ip
  have hne : ∀ c ∈ text.toList, decide (c ≠ '/') = true := by
    intro c hc
    simpa using fun heq : c = '/' => hslash (heq ▸ hc)
  have hlist : (text ++ "/" ++ renderNat len).toList
      = text.toList ++ '/' :: Nat.toDigits 10 len := by
    simp [renderNat]
  have htake : (text ++ "/" ++ renderNat len).toList.takeWhile (· ≠ '/') = text.toList := by
    rw [hlist, List.takeWhile_append_of_pos hne]
    simp
  have hdrop : ((text ++ "/" ++ renderNat len).toList.dropWhile (· ≠ '/')).drop 1
      = Nat.toDigits 10 len := by
    rw [hlist, List.dropWhile_append_of_pos hne]
    simp
  have hin : '/' ∈ (text ++ "/" ++ renderNat len).toList := by simp
  simp only [parseCidr, readCidr, htake, hdrop, hin, not_true_eq_false, if_false,
    String.ofList_toList, h, parseU8_digits _ (len.isLt.trans (by decide)), len.isLt, dif_pos]
  rfl

/-- The block of one address, as the node writes it. -/
lemma parseCidr_host (h : parseIpv4 text = some ip) :
    parseCidr (text ++ "/32") = some (Cidr.host ip) := by
  have h32 : text ++ "/32" = text ++ "/" ++ renderNat (32 : Fin 33) := by
    rw [String.append_assoc]
    exact congrArg _ (by decide +kernel)
  rw [h32]
  exact parseCidr_text h 32

/-- The kernel lists that block the way the node writes it. -/
lemma renderCidr_host (h : parseIpv4 text = some ip) :
    renderCidr (Cidr.host ip) = text ++ "/32" := by
  have h32 : "/" ++ renderNat 32 = "/32" := by decide +kernel
  rw [renderCidr, ← renderIpv4_of_parseIpv4 h, String.append_assoc]
  exact congrArg _ h32

/-! ## Validators -/

/-- `char::is_whitespace`: the Unicode `White_Space` property. -/
def isWhitespace (c : Char) : Bool :=
  let n := c.toNat
  (9 ≤ n && n ≤ 13) || n == 0x20 || n == 0x85 || n == 0xA0 || n == 0x1680 ||
    (0x2000 ≤ n && n ≤ 0x200A) || n == 0x2028 || n == 0x2029 || n == 0x202F || n == 0x205F ||
    n == 0x3000

/-- `validate_iface_name`. -/
def validateIfaceName (name : String) : Except NetError Unit :=
  if name.toList = [] ∨ 15 < name.utf8ByteSize then .error (.ifaceLength name)
  else if name.toList.head? = some '-' then .error (.ifaceDash name)
  else if name.toList.any (fun c => c == '/' || c == '\x00' || isWhitespace c) then
    .error (.ifaceChars name)
  else .ok ()

/-- `validate_ipv4_cidr`. -/
def validateIpv4Cidr (cidr : String) : Except NetError Unit := (readCidr cidr).map fun _ => ()

/-- `validate_ipv4_address`. -/
def validateIpv4Address (ip : String) : Except NetError Unit :=
  match parseIpv4 ip with
  | none => .error (.address ip)
  | some _ => .ok ()

/-- What an accepted interface name is guaranteed to be. -/
structure IfaceName (name : String) : Prop where
  ne_nil : name.toList ≠ []
  size_le : name.utf8ByteSize ≤ 15
  head_ne : name.toList.head? ≠ some '-'
  no_space : ' ' ∉ name.toList
  no_slash : '/' ∉ name.toList

variable {u : Unit}

lemma ifaceName_of_validate {name : String} (h : validateIfaceName name = .ok u) :
    IfaceName name := by
  unfold validateIfaceName at h
  split_ifs at h with h₁ h₂ h₃
  rw [not_or, Nat.not_lt] at h₁
  refine ⟨h₁.1, h₁.2, h₂, fun hs => h₃ ?_, fun hs => h₃ ?_⟩
  · exact List.any_eq_true.2 ⟨' ', hs, by decide⟩
  · exact List.any_eq_true.2 ⟨'/', hs, by decide⟩

lemma parseCidr_of_validate {cidr : String} (h : validateIpv4Cidr cidr = .ok u) :
    ∃ c, parseCidr cidr = some c := by
  unfold validateIpv4Cidr at h
  cases hr : readCidr cidr with
  | error e => simp [hr, Except.map] at h
  | ok c => exact ⟨c, by simp [parseCidr, hr, Except.toOption]⟩

lemma parseIpv4_of_validate {ip : String} (h : validateIpv4Address ip = .ok u) :
    ∃ a, parseIpv4 ip = some a := by
  unfold validateIpv4Address at h
  cases hp : parseIpv4 ip with
  | none => simp [hp] at h
  | some a => exact ⟨a, rfl⟩

example : parseCidr "10.0.1.7/24" = some ⟨10 * 2 ^ 24 + 256 + 7, 24⟩ := by decide +kernel

example : validateIpv4Cidr "10.0.01.7/24" = .error (.cidrAddress "10.0.01.7/24") := by
  decide +kernel

end Qarax
