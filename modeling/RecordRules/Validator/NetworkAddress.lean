/-
Internet addresses in their numeric forms.

* `Ipv4`, `Ipv6`: the addresses, and the ranges with a purpose of their own;
* `Ipv4.parse?`, `Ipv6.parse?`: an address from its text.
-/
import RecordRules.Decimal.Digits
import RecordRules.Text.CodeTable

namespace RecordRules

/-- An address of four bytes. -/
structure Ipv4 where
  octets : List Nat
  deriving DecidableEq, Repr

/-- An address of eight groups of 16 bits. -/
structure Ipv6 where
  groups : List Nat
  deriving DecidableEq, Repr

/-! ### Numbers -/

/-- A decimal number of at most three digits, without leading zeros and below
256, and what follows it. -/
def takeOctet? (s : List Char) : Option (Nat × List Char) :=
  let digits := s.takeWhile Char.isDigit
  let n := numberOf digits
  if digits = [] ∨ 3 < digits.length ∨ 255 < n ∨ (digits.head? = some '0' ∧ 1 < digits.length) then none
  else some (n, s.dropWhile Char.isDigit)

/-- A hexadecimal number of one to four digits, and what follows it. -/
def takeGroup? (s : List Char) : Option (Nat × List Char) :=
  let isHex := fun c => (hexValue? c).isSome
  let digits := s.takeWhile isHex
  if digits = [] ∨ 4 < digits.length then none else some (hexNumber digits, s.dropWhile isHex)

namespace Ipv4

/-- Octets that each follow a point. -/
def takeOctets? : Nat → List Char → Option (List Nat × List Char)
  | 0, s => some ([], s)
  | n + 1, s =>
    match s with
    | '.' :: rest => do
      let (octet, after) ← takeOctet? rest
      let (octets, after) ← takeOctets? n after
      some (octet :: octets, after)
    | _ => none

/-- An address at the start of a text, and what follows it. -/
def take? (s : List Char) : Option (Ipv4 × List Char) := do
  let (first, s) ← takeOctet? s
  let (others, s) ← takeOctets? 3 s
  some (⟨first :: others⟩, s)

/-- The address that a text writes. -/
def parse? (s : List Char) : Option Ipv4 :=
  match take? s with
  | some (address, []) => some address
  | _ => none

/-- An address of a private network. -/
def isPrivate (address : Ipv4) : Bool :=
  match address.octets with
  | [10, _, _, _] => true
  | [172, b, _, _] => 16 ≤ b && b ≤ 31
  | [192, 168, _, _] => true
  | _ => false

/-- An address that is reserved: unspecified, loopback, link-local or
broadcast. -/
def isReserved (address : Ipv4) : Bool :=
  match address.octets with
  | [0, 0, 0, 0] => true
  | [127, _, _, _] => true
  | [169, 254, _, _] => true
  | [255, 255, 255, 255] => true
  | _ => false

end Ipv4

namespace Ipv6

/-- Groups at the start of a text, at most `limit` of them, and what follows
them. Groups after the first one follow a colon. An address of four bytes may
stand for the last two groups, and is reported. -/
def takeGroups : Nat → Bool → List Char → List Nat × Bool × List Char
  | 0, _, s => ([], false, s)
  | limit + 1, isFirst, s =>
    let inner := if isFirst then some s else
      match s with
      | ':' :: rest => some rest
      | _ => none
    match inner with
    | none => ([], false, s)
    | some rest =>
      match (if 0 < limit then Ipv4.take? rest else none) with
      | some (⟨octets⟩, after) =>
        let pair := fun i => octets.getD i 0 * 256 + octets.getD (i + 1) 0
        ([pair 0, pair 2], true, after)
      | none =>
        match takeGroup? rest with
        | none => ([], false, s)
        | some (group, after) =>
          let (groups, mixed, after) := takeGroups limit false after
          (group :: groups, mixed, after)

/-- An address at the start of a text, and what follows it. Two colons stand for
at least one group of zeros, and no address of four bytes may stand before
them. -/
def take? (s : List Char) : Option (Ipv6 × List Char) :=
  let (front, mixed, rest) := takeGroups 8 true s
  if front.length = 8 then some (⟨front⟩, rest)
  else if mixed then none
  else
    match rest with
    | ':' :: ':' :: rest =>
      let (back, _, rest) := takeGroups (7 - front.length) true rest
      some (⟨front ++ List.replicate (8 - front.length - back.length) 0 ++ back⟩, rest)
    | _ => none

/-- The address that a text writes. -/
def parse? (s : List Char) : Option Ipv6 :=
  match take? s with
  | some (address, []) => some address
  | _ => none

/-- An address that is unique to a local network. -/
def isPrivate (address : Ipv6) : Bool := (address.groups.headD 0) / 0x200 == 0xfc00 / 0x200

/-- The unspecified address or the loopback address. -/
def isReserved (address : Ipv6) : Bool :=
  address.groups.take 7 == List.replicate 7 0 && address.groups.getLastD 0 ≤ 1

end Ipv6

end RecordRules
