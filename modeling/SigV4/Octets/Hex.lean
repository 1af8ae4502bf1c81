import SigV4.Octets

/-!
# Hexadecimal text

Digests, signatures and coordinates travel as hexadecimal text, two digits an
octet. The writer uses lower case only; the reader takes either case, and it
refuses an odd number of digits and every other character. So a reader that is
given what the writer wrote gives the octets back
(`SigV4.Hex.decode?_encode`), and the texts it accepts are the writer's texts up
to the case of the letters.
-/

namespace SigV4

namespace Hex

/-! ### Digits -/

/-- The lower-case digit of a number below sixteen. -/
def digit (n : Nat) : Char := n.digitChar

/-- The upper-case digit of a number below sixteen. -/
def upperDigit (n : Nat) : Char := n.digitChar.toUpper

/-- The value of a hexadecimal digit of either case. -/
def digitValue? (c : Char) : Option Nat :=
  if '0' ≤ c ∧ c ≤ '9' then some (c.toNat - '0'.toNat)
  else if 'a' ≤ c ∧ c ≤ 'f' then some (c.toNat - 'a'.toNat + 10)
  else if 'A' ≤ c ∧ c ≤ 'F' then some (c.toNat - 'A'.toNat + 10)
  else none

/-- The octet that two digits write, the higher one first. -/
def octet? (high low : Char) : Option UInt8 :=
  match digitValue? high, digitValue? low with
  | some h, some l => some (UInt8.ofNat (h * 16 + l))
  | _, _ => none

/-! ### Octets -/

/-- The two lower-case digits of an octet. -/
def pair (b : UInt8) : List Char :=
  [digit (b.toNat / 16), digit (b.toNat % 16)]

/-- The digits of a list of octets. -/
def digits (bs : Octets) : List Char :=
  bs.flatMap pair

/-- **Hexadecimal text** of octets, in lower case. -/
def encode (bs : Octets) : String :=
  String.ofList (digits bs)

/-- The octets that a list of digits writes. -/
def octets? : List Char → Option Octets
  | [] => some []
  | [_] => none
  | high :: low :: rest =>
    match octet? high low, octets? rest with
    | some b, some bs => some (b :: bs)
    | _, _ => none

/-- Reads hexadecimal text of either case. An odd number of digits and any other
character are refused. -/
def decode? (s : String) : Option Octets :=
  octets? s.toList

/-- A number in lower-case hexadecimal, without leading zeros. -/
def ofNat (n : Nat) : String :=
  String.ofList (Nat.toDigits 16 n)

/-! ### Reading what was written -/

theorem digitValue?_digit {n : Nat} (h : n < 16) : digitValue? (digit n) = some n := by
  revert n
  decide

theorem digitValue?_upperDigit {n : Nat} (h : n < 16) : digitValue? (upperDigit n) = some n := by
  revert n
  decide

theorem octet?_digit (b : UInt8) :
    octet? (digit (b.toNat / 16)) (digit (b.toNat % 16)) = some b := by
  have hb : b.toNat < 256 := b.toNat_lt
  rw [octet?, digitValue?_digit (by omega), digitValue?_digit (by omega)]
  simp [show b.toNat / 16 * 16 + b.toNat % 16 = b.toNat by omega]

theorem octet?_upperDigit (b : UInt8) :
    octet? (upperDigit (b.toNat / 16)) (upperDigit (b.toNat % 16)) = some b := by
  have hb : b.toNat < 256 := b.toNat_lt
  rw [octet?, digitValue?_upperDigit (by omega), digitValue?_upperDigit (by omega)]
  simp [show b.toNat / 16 * 16 + b.toNat % 16 = b.toNat by omega]

theorem octets?_digits (bs : Octets) : octets? (digits bs) = some bs := by
  induction bs with
  | nil => rfl
  | cons b bs ih =>
    have ih' : octets? (bs.flatMap pair) = some bs := ih
    simp [digits, pair, octets?, octet?_digit, ih']

/-- **Reading written octets** gives the octets back. -/
@[simp] theorem decode?_encode (bs : Octets) : decode? (encode bs) = some bs := by
  simp [decode?, encode, octets?_digits]

/-- Each octet is written with two digits. -/
@[simp] theorem length_encode (bs : Octets) : (encode bs).length = 2 * bs.length := by
  simp only [encode, digits, String.length_ofList, List.length_flatMap, pair, List.length_cons,
    List.length_nil, List.map_const', List.sum_replicate_nat]
  omega

end Hex

end SigV4
