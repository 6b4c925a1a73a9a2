import Mathlib.Algebra.Group.Nat.Defs
import Mathlib.Data.List.TakeWhile
import RebooterHub.Support.Hex

/-!
# Outbound — Addresses

IP addresses as the `ipaddress` module of Python 3.12 has them: their classification by the IANA
registries, the texts `ip_address` reads and the text `str` writes.

* An address carries that it fits into its 32 or 128 bits.
* `ipAddress_dotted`: `ip_address` reads back the dotted text of an IPv4 address.
* `ipAddress_mapped`, `ipAddress_compatible`, `ipAddress_nat64`: what it reads when that text ends
  an IPv6 address.
-/

namespace RebooterHub.Outbound

/-- `IPv4Address`. -/
@[ext]
structure IPv4Address where
  ip : Nat
  lt : ip < 2 ^ 32
deriving DecidableEq

/-- `IPv6Address`. -/
structure IPv6Address where
  ip : Nat
  scopeId : Option String
  lt : ip < 2 ^ 128
deriving DecidableEq

/-- What `ip_address` returns. -/
inductive IPAddress where
  | v4 (a : IPv4Address)
  | v6 (a : IPv6Address)
deriving DecidableEq

/-! ### Networks -/

/-- A network of addresses with `width` bits. -/
structure Network where
  address : Nat
  prefixLen : Nat
  width : Nat

/-- `ip in network`, for an address of the network's version. -/
def Network.contains (n : Network) (ip : Nat) : Bool :=
  ip / 2 ^ (n.width - n.prefixLen) = n.address / 2 ^ (n.width - n.prefixLen)

/-- The value of four octets. -/
def octets (a b c d : Nat) : Nat := ((a * 256 + b) * 256 + c) * 256 + d

/-- `IPv4Network('a.b.c.d/p')`. -/
def ipv4Network (a b c d p : Nat) : Network := ⟨octets a b c d, p, 32⟩

/-- `IPv6Network` of the first hextets, the others being zero. -/
def ipv6Network (hextets : List Nat) (p : Nat) : Network :=
  ⟨hextets.foldl (· * 65536 + ·) 0 * 65536 ^ (8 - hextets.length), p, 128⟩

/-! ### IPv4 -/

namespace IPv4Address

/-- `_private_networks`. -/
def privateNetworks : List Network :=
  [ipv4Network 0 0 0 0 8, ipv4Network 10 0 0 0 8, ipv4Network 127 0 0 0 8,
    ipv4Network 169 254 0 0 16, ipv4Network 172 16 0 0 12, ipv4Network 192 0 0 0 24,
    ipv4Network 192 0 0 170 31, ipv4Network 192 0 2 0 24, ipv4Network 192 168 0 0 16,
    ipv4Network 198 18 0 0 15, ipv4Network 198 51 100 0 24, ipv4Network 203 0 113 0 24,
    ipv4Network 240 0 0 0 4, ipv4Network 255 255 255 255 32]

/-- `_private_networks_exceptions`. -/
def privateNetworksExceptions : List Network :=
  [ipv4Network 192 0 0 9 32, ipv4Network 192 0 0 10 32]

/-- `is_unspecified`. -/
def isUnspecified (a : IPv4Address) : Bool := a.ip = 0

/-- `is_loopback`. -/
def isLoopback (a : IPv4Address) : Bool := (ipv4Network 127 0 0 0 8).contains a.ip

/-- `is_link_local`. -/
def isLinkLocal (a : IPv4Address) : Bool := (ipv4Network 169 254 0 0 16).contains a.ip

/-- `is_multicast`. -/
def isMulticast (a : IPv4Address) : Bool := (ipv4Network 224 0 0 0 4).contains a.ip

/-- `is_reserved`. -/
def isReserved (a : IPv4Address) : Bool := (ipv4Network 240 0 0 0 4).contains a.ip

/-- `is_private`. -/
def isPrivate (a : IPv4Address) : Bool :=
  privateNetworks.any (·.contains a.ip) && privateNetworksExceptions.all (!·.contains a.ip)

/-- `str`. -/
def str (a : IPv4Address) : List Char :=
  [a.ip / 2 ^ 24, a.ip / 2 ^ 16 % 256, a.ip / 2 ^ 8 % 256, a.ip % 256].map (Nat.toDigits 10)
    |> List.intercalate ['.']

end IPv4Address

/-! ### IPv6 -/

namespace IPv6Address

/-- `_private_networks`. -/
def privateNetworks : List Network :=
  [ipv6Network [0, 0, 0, 0, 0, 0, 0, 1] 128, ipv6Network [] 128,
    ipv6Network [0, 0, 0, 0, 0, 0xffff] 96, ipv6Network [0x64, 0xff9b, 1] 48,
    ipv6Network [0x100] 64, ipv6Network [0x2001] 23, ipv6Network [0x2001, 0xdb8] 32,
    ipv6Network [0x2002] 16, ipv6Network [0xfc00] 7, ipv6Network [0xfe80] 10]

/-- `_private_networks_exceptions`. -/
def privateNetworksExceptions : List Network :=
  [ipv6Network [0x2001, 1, 0, 0, 0, 0, 0, 1] 128, ipv6Network [0x2001, 1, 0, 0, 0, 0, 0, 2] 128,
    ipv6Network [0x2001, 3] 32, ipv6Network [0x2001, 4, 0x112] 48, ipv6Network [0x2001, 0x20] 28,
    ipv6Network [0x2001, 0x30] 28]

/-- `_reserved_networks`. -/
def reservedNetworks : List Network :=
  [ipv6Network [] 8, ipv6Network [0x100] 8, ipv6Network [0x200] 7, ipv6Network [0x400] 6,
    ipv6Network [0x800] 5, ipv6Network [0x1000] 4, ipv6Network [0x4000] 3, ipv6Network [0x6000] 3,
    ipv6Network [0x8000] 3, ipv6Network [0xa000] 3, ipv6Network [0xc000] 3, ipv6Network [0xe000] 4,
    ipv6Network [0xf000] 5, ipv6Network [0xf800] 6, ipv6Network [0xfe00] 9]

/-- `ipv4_mapped`. -/
def ipv4Mapped (a : IPv6Address) : Option IPv4Address :=
  if a.ip / 2 ^ 32 ≠ 0xffff then none else some ⟨a.ip % 2 ^ 32, Nat.mod_lt _ (by decide)⟩

/-- `sixtofour`. -/
def sixtofour (a : IPv6Address) : Option IPv4Address :=
  if a.ip / 2 ^ 112 ≠ 0x2002 then none
  else some ⟨a.ip / 2 ^ 80 % 2 ^ 32, Nat.mod_lt _ (by decide)⟩

/-- `is_unspecified`. -/
def isUnspecified (a : IPv6Address) : Bool := a.ip = 0

/-- `is_loopback`. -/
def isLoopback (a : IPv6Address) : Bool := a.ip = 1

/-- `is_link_local`. -/
def isLinkLocal (a : IPv6Address) : Bool := (ipv6Network [0xfe80] 10).contains a.ip

/-- `is_multicast`. -/
def isMulticast (a : IPv6Address) : Bool := (ipv6Network [0xff00] 8).contains a.ip

/-- `is_reserved`. -/
def isReserved (a : IPv6Address) : Bool := reservedNetworks.any (·.contains a.ip)

/-- `is_private`. -/
def isPrivate (a : IPv6Address) : Bool :=
  match a.ipv4Mapped with
  | some m => m.isPrivate
  | none =>
    privateNetworks.any (·.contains a.ip) && privateNetworksExceptions.all (!·.contains a.ip)

/-- The eight hextets. -/
def hextets (a : IPv6Address) : List Nat :=
  (List.range 8).map fun i => a.ip / 2 ^ (16 * (7 - i)) % 65536

end IPv6Address

/-- The best run of zeros that `_compress_hextets` has found, and the run it is in. -/
structure ZeroRuns where
  bestStart : Nat
  bestLen : Nat
  start : Nat
  len : Nat

/-- The runs after a hextet. -/
def ZeroRuns.next (z : ZeroRuns) (index : Nat) (hextet : List Char) : ZeroRuns :=
  if hextet = ['0'] then
    let start := if z.len = 0 then index else z.start
    let len := z.len + 1
    if z.bestLen < len then ⟨start, len, start, len⟩ else { z with start := start, len := len }
  else { z with start := 0, len := 0 }

/-- `_compress_hextets`. -/
def compressHextets (hextets : List (List Char)) : List (List Char) :=
  let z := hextets.zipIdx.foldl (fun (z : ZeroRuns) h => z.next h.2 h.1) ⟨0, 0, 0, 0⟩
  if z.bestLen ≤ 1 then hextets
  else
    let stop := z.bestStart + z.bestLen
    let tail := if stop = hextets.length then [[]] else hextets.drop stop
    let parts := hextets.take z.bestStart ++ [[]] ++ tail
    if z.bestStart = 0 then [] :: parts else parts

/-- `str`. -/
def IPv6Address.str (a : IPv6Address) : List Char :=
  let text := List.intercalate [':'] (compressHextets (a.hextets.map (Nat.toDigits 16)))
  match a.scopeId with
  | none => text
  | some scope => if scope = "" then text else text ++ '%' :: scope.toList

/-! ### Reading texts -/

/-- A decimal digit of ASCII. -/
def isDecimal (c : Char) : Bool := '0' ≤ c && c ≤ '9'

/-- `_parse_octet`. -/
def parseOctet (cs : List Char) : Option (Fin 256) :=
  if cs = [] then none
  else if !cs.all isDecimal then none
  else if 3 < cs.length then none
  else if cs ≠ ['0'] ∧ cs.head? = some '0' then none
  else
    let n := cs.foldl (fun n c => n * 10 + (c.toNat - '0'.toNat)) 0
    if h : n < 256 then some ⟨n, h⟩ else none

/-- `IPv4Address(text)`; `none` is its `AddressValueError`. -/
def ipv4FromText (cs : List Char) : Option IPv4Address :=
  if '/' ∈ cs then none
  else if cs = [] then none
  else match (cs.splitOn '.').map parseOctet with
    | [some a, some b, some c, some d] => some ⟨octets a b c d, by
        simp only [octets]
        omega⟩
    | _ => none

/-- `_parse_hextet`. -/
def parseHextet (cs : List Char) : Option (Fin 65536) :=
  if 4 < cs.length ∨ cs = [] then none
  else match cs.mapM Hex.value with
    | none => none
    | some ds => some (Fin.ofNat 65536 (ds.foldl (fun n d => n * 16 + d) 0))

/-- The parts of an IPv6 text, those of a dotted suffix turned into hextets. -/
def ipv6Parts (cs : List Char) : Option (List (List Char)) :=
  let parts := cs.splitOn ':'
  if parts.length < 3 then none
  else
    let last := parts.getLastD []
    if '.' ∈ last then do
      let v4 ← ipv4FromText last
      return parts.dropLast ++ [Nat.toDigits 16 (v4.ip / 65536), Nat.toDigits 16 (v4.ip % 65536)]
    else some parts

/-- The places of the empty parts between the first and the last. -/
def skips (parts : List (List Char)) : List Nat :=
  (List.range parts.length).filter fun i =>
    0 < i ∧ i < parts.length - 1 ∧ parts.getD i [] = []

/-- How many parts stand before the `::` and after it, and how many it stands for. -/
def partCounts (parts : List (List Char)) : Option (Nat × Nat × Nat) :=
  match skips parts with
  | [] =>
    if parts.length ≠ 8 ∨ parts.head? = some [] ∨ parts.getLast? = some [] then none
    else some (parts.length, 0, 0)
  | [skip] =>
    let after := parts.length - skip - 1
    let high := if parts.head? = some [] then skip - 1 else skip
    let low := if parts.getLast? = some [] then after - 1 else after
    if parts.head? = some [] ∧ high ≠ 0 then none
    else if parts.getLast? = some [] ∧ low ≠ 0 then none
    else if 8 ≤ high + low then none
    else some (high, low, 8 - (high + low))
  | _ => none

/-- The value of some hextets after others of value `n`. -/
def joinHextets (n : Nat) (hextets : List (Fin 65536)) : Nat :=
  hextets.foldl (fun (n : Nat) h => n * 65536 + h.val) n

/-- `_ip_int_from_string`. -/
def ipv6IntFromText (cs : List Char) : Option Nat := do
  if cs = [] then none
  let parts ← ipv6Parts cs
  if 9 < parts.length then none
  let (high, low, skipped) ← partCounts parts
  let highParts ← (parts.take high).mapM parseHextet
  let lowParts ← (parts.drop (parts.length - low)).mapM parseHextet
  return joinHextets 0 (highParts ++ List.replicate skipped 0 ++ lowParts)

/-- `_split_scope_id`. -/
def splitScopeId (cs : List Char) : Option (List Char × Option String) :=
  let addr := cs.takeWhile (· ≠ '%')
  match cs.dropWhile (· ≠ '%') with
  | [] => some (addr, none)
  | _ :: scope => if scope = [] ∨ '%' ∈ scope then none else some (addr, some (String.ofList scope))

/-- `IPv6Address(text)`; `none` is its `AddressValueError`. -/
def ipv6FromText (cs : List Char) : Option IPv6Address := do
  if '/' ∈ cs then none
  let (addr, scopeId) ← splitScopeId cs
  let ip ← ipv6IntFromText addr
  -- eight hextets fit
  if h : ip < 2 ^ 128 then some ⟨ip, scopeId, h⟩ else none

/-- `ip_address(text)`; `none` is its `ValueError`. -/
def ipAddress (text : String) : Option IPAddress :=
  match ipv4FromText text.toList with
  | some a => some (.v4 a)
  | none => (ipv6FromText text.toList).map .v6

/-! ### Embedded addresses -/

section
variable {a : IPv4Address} {b : IPv6Address}

theorem ipv4Mapped_eq_some (h : b.ip / 2 ^ 32 = 0xffff) (hip : b.ip % 2 ^ 32 = a.ip) :
    b.ipv4Mapped = some a := by
  rw [IPv6Address.ipv4Mapped, if_neg (not_not.mpr h)]
  exact congrArg some (IPv4Address.ext hip)

theorem ipv4Mapped_eq_none (h : b.ip / 2 ^ 32 ≠ 0xffff) : b.ipv4Mapped = none := if_pos h

theorem sixtofour_eq_some (h : b.ip / 2 ^ 112 = 0x2002) (hip : b.ip / 2 ^ 80 % 2 ^ 32 = a.ip) :
    b.sixtofour = some a := by
  rw [IPv6Address.sixtofour, if_neg (not_not.mpr h)]
  exact congrArg some (IPv4Address.ext hip)

theorem sixtofour_eq_none (h : b.ip / 2 ^ 112 ≠ 0x2002) : b.sixtofour = none := if_pos h

/-- The addresses of `::/8` are reserved. -/
theorem isReserved_of_lt (h : b.ip < 2 ^ 120) : b.isReserved = true := by
  refine List.any_eq_true.mpr ⟨ipv6Network [] 8, List.mem_cons_self, decide_eq_true ?_⟩
  exact (Nat.div_eq_of_lt h).trans (by decide)

end

/-! ### Dotted texts -/

theorem not_mem_decimal {n : Nat} {c : Char} (hc : c.isDigit = false) : c ∉ Nat.toDigits 10 n :=
  fun hmem => by
    rw [Nat.isDigit_of_mem_toDigits (by decide) (by decide) hmem] at hc
    cases hc

theorem parseOctet_toDigits {n : Nat} (h : n < 256) :
    parseOctet (Nat.toDigits 10 n) = some ⟨n, h⟩ := by
  have hall : ∀ n : Fin 256, parseOctet (Nat.toDigits 10 n) = some n := by decide +kernel
  exact hall ⟨n, h⟩

theorem parseOctet_eq_none {cs : List Char} {c : Char} (hc : c ∈ cs) (h : isDecimal c = false) :
    parseOctet cs = none := by
  have hne : cs ≠ [] := List.ne_nil_of_mem hc
  have hall : cs.all isDecimal = false := List.all_eq_false.mpr ⟨c, hc, by simp [h]⟩
  rw [parseOctet, if_neg hne, if_pos (by rw [hall]; rfl)]

/-- `_parse_hextet` reads what `%x` writes. -/
theorem mapM_value_toDigits (n : Nat) : ∃ ds, (Nat.toDigits 16 n).mapM Hex.value = some ds ∧
    ds.foldl (fun n d => n * 16 + d) 0 = n := by
  have hdigit : ∀ d : Fin 16, Hex.value (Nat.digitChar d) = some d := by decide
  induction n using Nat.strongRecOn with
  | _ n ih =>
      by_cases hlt : n < 16
      · refine ⟨[n], ?_, by simp⟩
        rw [Nat.toDigits_of_lt_base hlt, List.mapM_cons, hdigit ⟨n, hlt⟩]
        rfl
      · obtain ⟨ds, hds, hvalue⟩ := ih (n / 16) (by omega)
        refine ⟨ds ++ [n % 16], ?_, ?_⟩
        · rw [Nat.toDigits_of_base_le (by decide) (by omega), List.mapM_append, hds,
            List.mapM_cons, hdigit ⟨n % 16, by omega⟩]
          rfl
        · rw [List.foldl_append, hvalue, List.foldl_cons, List.foldl_nil]
          omega

theorem parseHextet_toDigits {n : Nat} (h : n < 65536) :
    parseHextet (Nat.toDigits 16 n) = some ⟨n, h⟩ := by
  obtain ⟨ds, hds, hvalue⟩ := mapM_value_toDigits n
  have hlength : (Nat.toDigits 16 n).length ≤ 4 :=
    (Nat.length_toDigits_le_iff (by decide) (by decide)).mpr h
  have hshort : ¬ (4 < (Nat.toDigits 16 n).length ∨ Nat.toDigits 16 n = []) := by
    rintro (hlong | hnil)
    · omega
    · exact Nat.toDigits_ne_nil hnil
  rw [parseHextet, if_neg hshort, hds]
  simp only [hvalue]
  exact congrArg some (Fin.ext (Nat.mod_eq_of_lt h))

namespace IPv4Address
variable (a : IPv4Address)

theorem not_mem_str {c : Char} (hc : c.isDigit = false) (hdot : c ≠ '.') : c ∉ a.str := by
  simp [str, List.intercalate, List.intersperse, not_mem_decimal hc, hdot]

theorem dot_mem_str : '.' ∈ a.str := by
  simp [str, List.intercalate, List.intersperse]

theorem splitOn_str : a.str.splitOn '.' =
    [a.ip / 2 ^ 24, a.ip / 2 ^ 16 % 256, a.ip / 2 ^ 8 % 256, a.ip % 256].map (Nat.toDigits 10) := by
  refine List.splitOn_intercalate '.' (fun cs hcs => ?_) (by simp)
  obtain ⟨n, -, rfl⟩ := List.mem_map.mp hcs
  exact not_mem_decimal (by decide)

/-- A dotted text is read as the address it was written for. -/
theorem ipv4FromText_str : ipv4FromText a.str = some a := by
  have hlt := a.lt
  have hslash : '/' ∉ a.str := a.not_mem_str (by decide) (by decide)
  have hne : a.str ≠ [] := List.ne_nil_of_mem a.dot_mem_str
  have hparts : (a.str.splitOn '.').map parseOctet =
      [some ⟨a.ip / 2 ^ 24, by omega⟩, some ⟨a.ip / 2 ^ 16 % 256, by omega⟩,
        some ⟨a.ip / 2 ^ 8 % 256, by omega⟩, some ⟨a.ip % 256, by omega⟩] := by
    rw [splitOn_str]
    simp only [List.map_cons, List.map_nil]
    rw [parseOctet_toDigits, parseOctet_toDigits, parseOctet_toDigits, parseOctet_toDigits]
  have hvalue : octets (a.ip / 2 ^ 24) (a.ip / 2 ^ 16 % 256) (a.ip / 2 ^ 8 % 256) (a.ip % 256) =
      a.ip := by
    rw [octets]
    omega
  rw [ipv4FromText, if_neg hslash, if_neg hne, hparts]
  simp only [hvalue]

end IPv4Address

theorem ipAddress_dotted (a : IPv4Address) : ipAddress (String.ofList a.str) = some (.v4 a) := by
  rw [ipAddress, String.toList_ofList, a.ipv4FromText_str]

/-- The text of an IPv6 address with these parts before a dotted suffix. -/
def dottedSuffix (front : List (List Char)) (a : IPv4Address) : List Char :=
  List.intercalate [':'] (front ++ [a.str])

section
variable {front : List (List Char)} {a : IPv4Address}

@[simp] theorem dottedSuffix_nil : dottedSuffix [] a = a.str := List.intercalate_singleton

@[simp] theorem dottedSuffix_cons {p : List Char} :
    dottedSuffix (p :: front) a = p ++ ':' :: dottedSuffix front a := by
  rw [dottedSuffix, List.cons_append, List.intercalate_cons_of_ne_nil (by simp), dottedSuffix,
    List.append_assoc]
  rfl

theorem splitOn_dottedSuffix (hfront : ∀ p ∈ front, ':' ∉ p) :
    (dottedSuffix front a).splitOn ':' = front ++ [a.str] := by
  refine List.splitOn_intercalate ':' (fun p hp => ?_) (by simp)
  rcases List.mem_append.mp hp with hp | hp
  · exact hfront p hp
  · rw [List.mem_singleton.mp hp]
    exact a.not_mem_str (by decide) (by decide)

theorem ipv6Parts_dottedSuffix (hfront : ∀ p ∈ front, ':' ∉ p) (htwo : 2 ≤ front.length) :
    ipv6Parts (dottedSuffix front a) =
      some (front ++ [Nat.toDigits 16 (a.ip / 65536), Nat.toDigits 16 (a.ip % 65536)]) := by
  rw [ipv6Parts, splitOn_dottedSuffix hfront]
  simp [htwo, a.dot_mem_str, a.ipv4FromText_str]

theorem not_mem_dottedSuffix {c : Char} (hfront : ∀ p ∈ front, c ∉ p) (hcolon : c ≠ ':')
    (hstr : c ∉ a.str) : c ∉ dottedSuffix front a := by
  induction front with
  | nil => simpa using hstr
  | cons p front ih =>
      obtain ⟨hp, hrest⟩ := List.forall_mem_cons.mp hfront
      simp [hp, hcolon, ih hrest]

/-- What stands before the first dot. -/
theorem exists_before_dot (hdot : ∀ p ∈ front, '.' ∉ p) : ∃ before after,
    dottedSuffix front a = before ++ '.' :: after ∧ '.' ∉ before ∧ (front ≠ [] → ':' ∈ before) := by
  induction front with
  | nil =>
      have htext : a.str = Nat.toDigits 10 (a.ip / 2 ^ 24) ++ '.' :: List.intercalate ['.']
          ([a.ip / 2 ^ 16 % 256, a.ip / 2 ^ 8 % 256, a.ip % 256].map (Nat.toDigits 10)) := by
        rw [IPv4Address.str, List.map_cons, List.intercalate_cons_of_ne_nil (by simp),
          List.append_assoc]
        rfl
      refine ⟨_, _, dottedSuffix_nil.trans htext, not_mem_decimal (by decide), by simp⟩
  | cons p front ih =>
      obtain ⟨hp, hrest⟩ := List.forall_mem_cons.mp hdot
      obtain ⟨before, after, htext, hbefore, -⟩ := ih hrest
      exact ⟨p ++ ':' :: before, after, by simp [htext], by simp [hp, hbefore], by simp⟩

/-- An IPv6 text with a dotted suffix is no IPv4 text: its first octet has a colon. -/
theorem ipv4FromText_dottedSuffix (hdot : ∀ p ∈ front, '.' ∉ p) (hne : front ≠ []) :
    ipv4FromText (dottedSuffix front a) = none := by
  obtain ⟨before, after, htext, hbefore, hcolon⟩ := exists_before_dot (a := a) hdot
  have hsplit : (dottedSuffix front a).splitOn '.' = before :: after.splitOn '.' := by
    rw [htext]
    refine List.splitOnP_append_cons_of_forall_mem (fun c hc => ?_) _ (by simp) _
    exact beq_false_of_ne fun heq => hbefore (heq ▸ hc)
  rw [ipv4FromText]
  split
  · rfl
  · split
    · rfl
    · rw [hsplit, List.map_cons, parseOctet_eq_none (hcolon hne) (by decide)]

theorem ipv6IntFromText_eq {cs : List Char} {parts : List (List Char)} {high low skipped : Nat}
    {highParts lowParts : List (Fin 65536)} (hne : cs ≠ []) (hparts : ipv6Parts cs = some parts)
    (hlength : parts.length ≤ 9) (hcounts : partCounts parts = some (high, low, skipped))
    (hhigh : (parts.take high).mapM parseHextet = some highParts)
    (hlow : (parts.drop (parts.length - low)).mapM parseHextet = some lowParts) :
    ipv6IntFromText cs =
      some (joinHextets 0 (highParts ++ List.replicate skipped 0 ++ lowParts)) := by
  have hlong : ¬ 9 < parts.length := by omega
  simp [ipv6IntFromText, hne, hparts, hlong, hcounts, hhigh, hlow]

/-- An IPv6 text with a dotted suffix, once its hextets are read. -/
theorem ipAddress_dottedSuffix {n : Nat} (hne : front ≠ [])
    (hfront : front.all (·.all fun c => (Hex.value c).isSome) = true)
    (h : ipv6IntFromText (dottedSuffix front a) = some n) (hlt : n < 2 ^ 128) :
    ipAddress (String.ofList (dottedSuffix front a)) = some (.v6 ⟨n, none, hlt⟩) := by
  have hplain {c : Char} (hc : Hex.value c = none) : ∀ p ∈ front, c ∉ p := fun p hp hmem => by
    have hsome := List.all_eq_true.mp (List.all_eq_true.mp hfront p hp) c hmem
    rw [hc] at hsome
    cases hsome
  have hslash : '/' ∉ dottedSuffix front a :=
    not_mem_dottedSuffix (hplain (by decide)) (by decide) (a.not_mem_str (by decide) (by decide))
  have hpercent : '%' ∉ dottedSuffix front a :=
    not_mem_dottedSuffix (hplain (by decide)) (by decide) (a.not_mem_str (by decide) (by decide))
  have hscope : splitScopeId (dottedSuffix front a) = some (dottedSuffix front a, none) := by
    have hall : ∀ c ∈ dottedSuffix front a, decide (c ≠ '%') = true := fun c hc =>
      decide_eq_true fun heq => hpercent (heq ▸ hc)
    have hdrop : (dottedSuffix front a).dropWhile (· ≠ '%') = [] :=
      List.dropWhile_eq_nil_iff.mpr hall
    have htake : (dottedSuffix front a).takeWhile (· ≠ '%') = dottedSuffix front a :=
      List.takeWhile_eq_self_iff.mpr hall
    rw [splitScopeId, hdrop, htake]
  have hv6 : ipv6FromText (dottedSuffix front a) = some ⟨n, none, hlt⟩ := by
    have hread : ipv6FromText (dottedSuffix front a) =
        if h : n < 2 ^ 128 then some ⟨n, none, h⟩ else none := by
      simp [ipv6FromText, hslash, hscope, h]
    exact hread.trans (dif_pos hlt)
  rw [ipAddress, String.toList_ofList, ipv4FromText_dottedSuffix (hplain (by decide)) hne, hv6]
  rfl

end

section
variable (a : IPv4Address)

/-- The last two hextets of an address with a dotted suffix, as texts. -/
def suffixTexts : List (List Char) :=
  [Nat.toDigits 16 (a.ip / 65536), Nat.toDigits 16 (a.ip % 65536)]

/-- The last two hextets of an address with a dotted suffix. -/
def suffixHextets : List (Fin 65536) :=
  [⟨a.ip / 65536, by have := a.lt; omega⟩, ⟨a.ip % 65536, by omega⟩]

theorem mapM_suffixTexts : (suffixTexts a).mapM parseHextet = some (suffixHextets a) := by
  have hlt := a.lt
  have hhigh := parseHextet_toDigits (n := a.ip / 65536) (by omega)
  have hlow := parseHextet_toDigits (n := a.ip % 65536) (by omega)
  rw [suffixTexts, List.mapM_cons, List.mapM_cons, hhigh, hlow]
  rfl

theorem joinHextets_suffix (n : Nat) (front : List (Fin 65536)) :
    joinHextets n (front ++ suffixHextets a) = joinHextets n front * 2 ^ 32 + a.ip := by
  simp only [joinHextets, List.foldl_append, suffixHextets, List.foldl_cons, List.foldl_nil]
  omega

/-- The text `::ffff:a`. -/
theorem ipAddress_mapped : ipAddress (String.ofList (dottedSuffix [[], [], "ffff".toList] a)) =
    some (.v6 ⟨0xffff * 2 ^ 32 + a.ip, none, by have := a.lt; omega⟩) := by
  refine ipAddress_dottedSuffix (by simp) (by decide) ?_ _
  have hparts : ipv6Parts (dottedSuffix [[], [], "ffff".toList] a) =
      some ([[], [], "ffff".toList] ++ suffixTexts a) :=
    ipv6Parts_dottedSuffix (by decide) (by decide)
  have hcounts : partCounts ([[], [], "ffff".toList] ++ suffixTexts a) = some (0, 3, 5) := by
    simp [partCounts, skips, suffixTexts, List.range_succ]
  have hlow : (["ffff".toList] ++ suffixTexts a).mapM parseHextet =
      some ([0xffff] ++ suffixHextets a) := by
    rw [List.mapM_append, mapM_suffixTexts]
    rfl
  rw [ipv6IntFromText_eq (by simp) hparts (by simp [suffixTexts]) hcounts rfl hlow,
    ← List.append_assoc, joinHextets_suffix]
  rfl

/-- The text `::a`. -/
theorem ipAddress_compatible : ipAddress (String.ofList (dottedSuffix [[], []] a)) =
    some (.v6 ⟨a.ip, none, by have := a.lt; omega⟩) := by
  refine ipAddress_dottedSuffix (by simp) (by decide) ?_ _
  have hparts : ipv6Parts (dottedSuffix [[], []] a) = some ([[], []] ++ suffixTexts a) :=
    ipv6Parts_dottedSuffix (by decide) (by decide)
  have hcounts : partCounts ([[], []] ++ suffixTexts a) = some (0, 2, 6) := by
    simp [partCounts, skips, suffixTexts, List.range_succ]
  have hvalue := joinHextets_suffix a 0 (List.replicate 6 0)
  rw [ipv6IntFromText_eq (by simp) hparts (by simp [suffixTexts]) hcounts rfl (mapM_suffixTexts a)]
  simpa [joinHextets] using hvalue

/-- The text `64:ff9b::a`. -/
theorem ipAddress_nat64 :
    ipAddress (String.ofList (dottedSuffix ["64".toList, "ff9b".toList, []] a)) =
      some (.v6 ⟨0x64ff9b * 2 ^ 96 + a.ip, none, by have := a.lt; omega⟩) := by
  refine ipAddress_dottedSuffix (by simp) (by decide) ?_ _
  have hparts : ipv6Parts (dottedSuffix ["64".toList, "ff9b".toList, []] a) =
      some (["64".toList, "ff9b".toList, []] ++ suffixTexts a) :=
    ipv6Parts_dottedSuffix (by decide) (by decide)
  have hcounts : partCounts (["64".toList, "ff9b".toList, []] ++ suffixTexts a) =
      some (2, 2, 4) := by
    simp [partCounts, skips, suffixTexts, List.range_succ]
  have hhigh : (["64".toList, "ff9b".toList].mapM parseHextet) = some [0x64, 0xff9b] := by decide
  have hlow := mapM_suffixTexts a
  rw [ipv6IntFromText_eq (by simp) hparts (by simp [suffixTexts]) hcounts hhigh hlow,
    joinHextets_suffix]
  rfl

end

end RebooterHub.Outbound
