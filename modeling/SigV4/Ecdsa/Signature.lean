import SigV4.Curve.P256
import SigV4.Octets

/-!
# Asymmetric signatures and their two encodings

A signature is a pair of nonzero scalars. It is written in one of two ways:

* **fixed width**, the two scalars of 32 octets each one after the other
  (`SigV4.Ecdsa.Signature.octets`), which is what signing emits;
* **DER**, a sequence of two integers in as few octets as they need
  (`SigV4.Ecdsa.Signature.der`), which other signers emit.

Both readers are strict: scalars in range, for DER also the shortest form of every
length and integer, and nothing behind the sequence.
-/

namespace SigV4

namespace Ecdsa

open P256

/-- **A signature**: two nonzero scalars. -/
structure Signature where
  /-- The abscissa of the nonce's point, reduced. -/
  r : Scalar
  /-- The proof that the signer knew the private key. -/
  s : Scalar
  /-- The first scalar is not zero. -/
  r_nonzero : r ≠ 0
  /-- The second scalar is not zero. -/
  s_nonzero : s ≠ 0

namespace Signature

/-- Two scalars as a signature, unless one is zero. -/
def ofScalars? (r s : Scalar) : Option Signature :=
  if h : r ≠ 0 ∧ s ≠ 0 then some ⟨r, s, h.1, h.2⟩ else none

/-- Two numbers as a signature, if both are in range. -/
def ofNats? (r s : Nat) : Option Signature :=
  match Scalar.ofNat? r, Scalar.ofNat? s with
  | some r, some s => ofScalars? r s
  | _, _ => none

/-! ### Fixed width -/

/-- The 64 octets of a signature. -/
def octets (sig : Signature) : Octets :=
  Octets.ofNat 32 sig.r.val ++ Octets.ofNat 32 sig.s.val

@[simp] theorem length_octets (sig : Signature) : sig.octets.length = 64 := by
  simp [octets]

/-- Reads a signature of 64 octets. -/
def ofOctets? (bs : Octets) : Option Signature :=
  if bs.length = 64 then ofNats? (Octets.toNat (bs.take 32)) (Octets.toNat (bs.drop 32)) else none

/-! ### DER -/

/-- The octets of a positive number in base 256, without leading zeros. -/
def magnitude (n : Nat) : Octets :=
  (Octets.ofNat 32 n).dropWhile (· = 0)

/-- The content of a DER integer: the magnitude, with a zero in front where its
first octet would read as a sign. -/
def integerContent (n : Nat) : Octets :=
  match magnitude n with
  | [] => [0]
  | b :: bs => if b < 0x80 then b :: bs else 0 :: b :: bs

/-- A DER element of a short length. -/
def element (tag : UInt8) (content : Octets) : Octets :=
  tag :: UInt8.ofNat content.length :: content

/-- **The DER form** of a signature. -/
def der (sig : Signature) : Octets :=
  element 0x30
    (element 0x02 (integerContent sig.r.val) ++ element 0x02 (integerContent sig.s.val))

/-- Reads an element of the given tag with a length of the short form. The answer
is the content and what follows it. -/
def element? (tag : UInt8) : Octets → Option (Octets × Octets)
  | t :: n :: rest =>
    if t = tag ∧ n < 0x80 ∧ n.toNat ≤ rest.length then
      some (rest.take n.toNat, rest.drop n.toNat)
    else none
  | _ => none

/-- Whether the content of an integer is positive and as short as it can be. -/
def IsIntegerContent : Octets → Prop
  | [] => False
  | [b] => b < 0x80
  | b :: c :: _ => b < 0x80 ∧ (b = 0 → 0x80 ≤ c)

instance : DecidablePred IsIntegerContent
  | [] => inferInstanceAs (Decidable False)
  | [_] => inferInstanceAs (Decidable (_ < _))
  | _ :: _ :: _ => inferInstanceAs (Decidable (_ ∧ _))

/-- Reads an integer in its shortest form. -/
def integer? (bs : Octets) : Option (Nat × Octets) := do
  let (content, rest) ← element? 0x02 bs
  if IsIntegerContent content then some (content.toNat, rest) else none

/-- Reads a signature in DER form, with nothing behind it. -/
def ofDer? (bs : Octets) : Option Signature := do
  let (content, []) ← element? 0x30 bs | none
  let (r, rest) ← integer? content
  let (s, []) ← integer? rest | none
  ofNats? r s

end Signature

end Ecdsa

end SigV4
