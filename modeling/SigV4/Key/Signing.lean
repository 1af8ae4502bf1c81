import SigV4.Ecdsa
import SigV4.Identity

/-!
# Keys that sign

What an identity signs with depends on the scope: a key derived for the scope, or a
private key. Finding it is where an identity is checked
(`SigV4.SigningKey.resolve`), and signing with it turns a text into the hexadecimal
text of a signature (`SigV4.SigningKey.sign`), 64 digits for keyed hashing and 128
for the curve.
-/

namespace SigV4

/-- **A key that signs.** -/
inductive SigningKey where
  /-- A key for keyed hashing. -/
  | hmac (key : Octets)
  /-- A private key of the curve. -/
  | ecdsa (key : Ecdsa.PrivateKey)

namespace SigningKey

/-- **The key** with which an identity signs in a scope. -/
def resolve (identity : Identity) (scope : Scope) : Except Error SigningKey :=
  match identity, scope.region with
  | .symmetric c, .single _ => do
    c.check
    return .hmac (Key.forScope c.secretAccessKey scope)
  | .symmetric c, .set _ => do
    c.check
    match Key.asymmetric? c.accessKeyId c.secretAccessKey with
    | some key => return .ecdsa key
    | none => throw .keyDerivation
  | .asymmetric c, .set _ => do
    c.check
    return .ecdsa c.key
  | .asymmetric _, .single _ => .error .asymmetricRegion

/-- **Signs a text.** -/
def sign (key : SigningKey) (text : String) : Except Error String :=
  match key with
  | .hmac key => .ok (Hex.encode (Hmac.mac key (Octets.ofText text)))
  | .ecdsa key =>
    match Ecdsa.sign? key (Octets.ofText text) with
    | some sig => .ok (Hex.encode sig.octets)
    | none => .error .ecdsa

end SigningKey

end SigV4
