import SigV4.Ecdsa
import SigV4.Key.Derivation

/-!
# Verifying signatures

Whoever holds the secret, or the public key, can check a signature: the text to be
signed is built again from the canonical request and the scope.

A symmetric signature is a digest, and any text that is not the hexadecimal form of
the right one is simply wrong. An asymmetric signature has an inner structure, so it
can also be malformed, and that is an error of its own; of its two encodings the one
of fixed width is recognized by its length.
-/

namespace SigV4

/-- Whether a text is the hexadecimal form, in either case, of the keyed hash of a
message. -/
def Hmac.verifyHex (key message : Octets) (expected : String) : Bool :=
  match Hex.decode? expected with
  | some bs => bs == Hmac.mac key message
  | none => false

namespace Verification

/-! ### Symmetric signatures -/

/-- **Verifies a symmetric signature** of a canonical request. -/
def symmetric (canonicalRequest : String) (scope : Scope) (secret signature : String) :
    Except Error Bool :=
  if secret = "" then .error .emptySecret
  else
    .ok (Hmac.verifyHex (Key.forScope secret scope)
      (Octets.ofText (scope.stringToSign canonicalRequest)) signature)

/-! ### Asymmetric signatures -/

/-- The signature that octets encode, by width if there are 64 of them and else as
DER. -/
def decode? (bs : Octets) : Option Ecdsa.Signature :=
  if bs.length = 64 then Ecdsa.Signature.ofOctets? bs else Ecdsa.Signature.ofDer? bs

/-- **Verifies an asymmetric signature** of a canonical request. -/
def asymmetric (canonicalRequest : String) (scope : Scope) (publicKey : P256.Point)
    (signature : String) : Except Error Bool :=
  match Hex.decode? signature with
  | none => .error .signatureNotHex
  | some bs =>
    match decode? bs with
    | none => .error .malformedSignature
    | some sig =>
      .ok (Ecdsa.verify publicKey (Octets.ofText (scope.stringToSign canonicalRequest)) sig)

/-! ### Public keys -/

/-- The number that the 32 octets of a coordinate write in hexadecimal. -/
def coordinate (s : String) : Except Error Nat :=
  match Hex.decode? s with
  | none => .error .coordinateNotHex
  | some bs => if bs.length = 32 then .ok bs.toNat else .error (.coordinateLength bs.length)

/-- **The public key** with the given coordinates. -/
def publicKey (x y : String) : Except Error P256.Point := do
  let x ← coordinate x
  let y ← coordinate y
  match P256.Coordinate.ofNat? x, P256.Coordinate.ofNat? y with
  | some x, some y =>
    match P256.Point.ofCoordinates? x y with
    | some point => return point
    | none => throw .offCurve
  | _, _ => throw .offCurve

end Verification

end SigV4
