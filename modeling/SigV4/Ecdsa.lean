import SigV4.Ecdsa.Nonce
import SigV4.Ecdsa.Signature

/-!
# Asymmetric signing

A signature over a message proves knowledge of the private key to anyone who has
the public one. The message is hashed first, and the digest is read as a scalar; only
the nonce is drawn from the digest itself. Of the two values of `s` that verify, the
one that comes out is kept, and verification accepts either.
-/

namespace SigV4

namespace Ecdsa

open P256

/-- A digest, reduced to a scalar. -/
def digestScalar (digest : Octets) : Scalar :=
  Scalar.reduce digest.toNat

/-- **Signs a message.** There is no signature when no nonce is found or one of
the two scalars is zero. -/
def sign? (key : PrivateKey) (message : Octets) : Option Signature := do
  let digest := Sha256.digest message
  let k ← Nonce.nonce? key digest
  let .affine x _ := k.publicKey | none
  let r := Scalar.reduce x.val
  Signature.ofScalars? r (Scalar.inverse k.scalar * (digestScalar digest + r * key.scalar))

/-- **Verifies a signature** over a message under a public key. -/
def verify (publicKey : Point) (message : Octets) (sig : Signature) : Bool :=
  let w := Scalar.inverse sig.s
  let u := Point.multiple (digestScalar (Sha256.digest message) * w) Point.base
  let v := Point.multiple (sig.r * w) publicKey
  match u.add v with
  | .infinity => false
  | .affine x _ => Scalar.reduce x.val == sig.r

end Ecdsa

end SigV4
