import SigV4.Curve.P256
import SigV4.Octets

/-!
# Private keys

A private key is a nonzero scalar, by its type. It arrives as octets, most
significant first: 32 of them, or as few as 24, which stand for a number with
leading zeros. The number must be reduced and nonzero; nothing is reduced
silently, since two callers who disagree on a key must not end up with one.
-/

namespace SigV4

namespace Ecdsa

open P256

/-- **A private key**: a nonzero scalar. -/
structure PrivateKey where
  /-- The scalar. -/
  scalar : Scalar
  /-- The scalar is not zero. -/
  nonzero : scalar ≠ 0

namespace PrivateKey

/-- A scalar as a private key, unless it is zero. -/
def ofScalar? (k : Scalar) : Option PrivateKey :=
  if h : k ≠ 0 then some ⟨k, h⟩ else none

/-- The private key that 24 to 32 octets write. -/
def ofOctets? (bs : Octets) : Option PrivateKey :=
  if 24 ≤ bs.length ∧ bs.length ≤ 32 then (Scalar.ofNat? bs.toNat).bind ofScalar? else none

/-- The 32 octets of the private key. -/
def octets (key : PrivateKey) : Octets :=
  Octets.ofNat 32 key.scalar.val

/-- The public key: the multiple of the base point by the private scalar. -/
def publicKey (key : PrivateKey) : Point :=
  Point.multiple key.scalar Point.base

end PrivateKey

end Ecdsa

end SigV4
