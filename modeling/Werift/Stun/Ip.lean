import Werift.Js.Buffer
import Mathlib

/-!
# Texts of IP addresses (`ice-server/src/stun/ip.ts`)

`isIPv4` and `isIPv6` are the tests of `node:net`.  An address has several texts, of which
`bufferToIpAddress` writes one: `Canonical` says that a text is the one that is written for the bytes
that are read from it.
-/

namespace Werift.Stun

abbrev Bytes := List UInt8

/-- The value of a digit of a hexadecimal number. -/
def hexDigit (c : Char) : Option ℕ :=
  if c.isDigit then some (c.toNat - '0'.toNat)
  else if 'a' ≤ c ∧ c ≤ 'f' then some (c.toNat - 'a'.toNat + 10)
  else if 'A' ≤ c ∧ c ≤ 'F' then some (c.toNat - 'A'.toNat + 10)
  else none

/-! ## The tests of `node:net` -/

/-- `25[0-5]|2[0-4]\d|1\d\d|[1-9]\d|\d`: a number up to `255` without a leading zero. -/
def isV4Seg (s : List Char) : Bool :=
  s.all Char.isDigit && (s.length == 1 || (2 ≤ s.length && s.length ≤ 3 && s.head? != some '0')) &&
    Nat.ofDigitChars 10 s 0 ≤ 255

/-- `isIPv4(address)` for a list of characters. -/
def isV4Text (s : List Char) : Bool := (s.splitOn '.').length == 4 && (s.splitOn '.').all isV4Seg

/-- `isIPv4(address)`. -/
def isIPv4 (address : String) : Bool := isV4Text address.toList

/-- `[0-9a-fA-F]{1,4}`. -/
def isV6Seg (s : List Char) : Bool :=
  1 ≤ s.length && s.length ≤ 4 && s.all fun c => (hexDigit c).isSome

/-- The number of 16-bit groups of a list of segments, of which the last may be an IPv4 address. -/
def v6Groups : List (List Char) → Option ℕ
  | [] => some 0
  | [s] => if isV6Seg s then some 1 else if isV4Text s then some 2 else none
  | s :: rest => if isV6Seg s then (v6Groups rest).map (· + 1) else none

/-- An IPv6 address without a zone: eight groups, or a `::` and at most seven.  Before the `::` stand
segments of digits only. -/
def isV6Body (s : List Char) : Bool :=
  let segments := s.splitOn ':'
  match segments.dropLast.tail.findIdx? (· == []) with
  | none => v6Groups segments == some 8
  | some i =>
    let before := segments.take (i + 1)
    let after := segments.drop (i + 2)
    let before := if before == [[]] then [] else before
    let after := if after == [[]] then [] else after
    before.all isV6Seg && ((v6Groups after).any fun n => before.length + n ≤ 7)

/-- `isIPv6(address)`: a zone may follow behind a `%`. -/
def isIPv6 (address : String) : Bool :=
  match address.toList.splitOn '%' with
  | [body] => isV6Body body
  | [body, zone] => isV6Body body && zone != [] &&
      zone.all fun c => c.isAlphanum || c == '-' || c == '.' || c == ':'
  | _ => false

/-! ## From a text to bytes -/

/-- The bytes of the four numbers of an IPv4 address. -/
def v4Bytes (s : List Char) : Bytes :=
  (s.splitOn '.').map fun part => UInt8.ofNat (Nat.ofDigitChars 10 part 0)

/-- `buf.toString("hex")`. -/
def hexText (buf : Bytes) : List Char :=
  buf.flatMap fun b => [Nat.digitChar (b.toNat / 16), Nat.digitChar (b.toNat % 16)]

/-- The first loop of `ipAddressToBuffer`: an IPv4 section becomes two hexadecimal ones, of which the
second is left out at the position `8`. -/
def expandV4 : ℕ → List (List Char) → List (List Char)
  | _, [] => []
  | i, s :: rest =>
    if isV4Text s then
      let bytes := v4Bytes s
      hexText (bytes.take 2) ::
        ((if i + 1 < 8 then [hexText (bytes.drop 2)] else []) ++ expandV4 (i + 2) rest)
    else s :: expandV4 (i + 1) rest

/-- The zeros that stand for `::`. -/
def fillZeros (sections : List (List Char)) : List (List Char) :=
  let zeros (n : ℕ) := List.replicate n ['0']
  if sections.head? = some [] then zeros (8 - sections.length) ++ sections
  else if sections.getLast? = some [] then sections ++ zeros (8 - sections.length)
  else if sections.length < 8 then
    let emptyIndex := sections.findIdx (· == [])
    sections.take emptyIndex ++ zeros (9 - sections.length) ++ sections.drop (emptyIndex + 1)
  else sections

/-- `Number.parseInt(section, 16) || 0`. -/
def parseInt16 (s : List Char) : ℤ :=
  let (sign, s) : ℤ × List Char := match s with
    | '-' :: rest => (-1, rest)
    | '+' :: rest => (1, rest)
    | s => (1, s)
  let s := match s with
    | '0' :: 'x' :: rest | '0' :: 'X' :: rest => rest
    | s => s
  let digits := (s.map hexDigit).takeWhile Option.isSome
  sign * digits.foldl (fun acc d => acc * 16 + (d.getD 0 : ℕ)) 0

/-- `ipAddressToBuffer(address)`, which throws if the text is no address.  An IPv6 address has at
least eight sections here, and what is written beyond the sixteen bytes is lost. -/
def ipAddressToBuffer (address : String) : Option Bytes :=
  if isIPv4 address then some (v4Bytes address.toList)
  else if !isIPv6 address then none
  else
    let sections := fillZeros (expandV4 0 ((address.toList.splitOn ':').take 8))
    let bytes := sections.flatMap fun s =>
      [UInt8.ofInt (parseInt16 s / 256), UInt8.ofInt (parseInt16 s)]
    some (bytes.take 16 ++ List.replicate (16 - bytes.length) 0)

/-! ## From bytes to a text -/

/-- `n.toString(16)`. -/
def hextetText (n : ℕ) : List Char := Nat.toDigits 16 n

/-- The first run of at least two zero groups, as the groups before it and behind it. -/
def splitZeros : List ℕ → Option (List ℕ × List ℕ)
  | 0 :: 0 :: rest => some ([], rest.dropWhile (· == 0))
  | n :: rest => (splitZeros rest).map fun p => (n :: p.1, p.2)
  | [] => none

/-- The groups joined by colons. -/
def joinHextets (l : List ℕ) : List Char := [':'].intercalate (l.map hextetText)

/-- `bufferToIpAddress(buf)`.  The two replacements of the source put `::` in the place of the first
run of at least two zero groups. -/
def bufferToIpAddress (buf : Bytes) : Option String :=
  if buf.length = 4 then
    some (String.ofList (['.'].intercalate (buf.map fun b => Nat.toDigits 10 b.toNat)))
  else if buf.length ≠ 16 then none
  else
    let hextets := (List.range 8).map fun i => BigEndian.decode ((buf.drop (2 * i)).take 2)
    match splitZeros hextets with
    | none => some (String.ofList (joinHextets hextets))
    | some (before, after) =>
      some (String.ofList (joinHextets before ++ [':', ':'] ++ joinHextets after))

/-- The text that `bufferToIpAddress` writes for the bytes that are read from it. -/
def Canonical (address : String) : Prop :=
  (ipAddressToBuffer address).bind bufferToIpAddress = some address

instance (address : String) : Decidable (Canonical address) :=
  inferInstanceAs (Decidable (_ = _))

/-- The bytes of an address, by its kind. -/
lemma length_ipAddressToBuffer {address : String} {buf : Bytes}
    (h : ipAddressToBuffer address = some buf) :
    buf.length = if isIPv4 address then 4 else 16 := by
  unfold ipAddressToBuffer at h
  by_cases h4 : isIPv4 address
  · rw [if_pos h4] at h
    obtain rfl := Option.some.inj h
    have hparts : (address.toList.splitOn '.').length = 4 := by
      simp only [isIPv4, isV4Text, Bool.and_eq_true, beq_iff_eq] at h4
      exact h4.1
    rw [if_pos h4, v4Bytes, List.length_map, hparts]
  · rw [if_neg h4] at h
    split_ifs at h
    obtain rfl := Option.some.inj h
    rw [if_neg h4]
    simp only [List.length_append, List.length_take, List.length_replicate]
    omega

/-- The usual text of an IPv6 address is the one that is written. -/
example : Canonical "2001:db8::8:800:200c:417a" := by decide +kernel

/-- The last section of this address is cut off, because the text has nine of them. -/
example : ipAddressToBuffer "::2:3:4:5:6:7:8" =
    some [0, 0, 0, 0, 0, 2, 0, 3, 0, 4, 0, 5, 0, 6, 0, 7] := by decide +kernel

end Werift.Stun
