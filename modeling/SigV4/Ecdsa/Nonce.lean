import SigV4.Ecdsa.PrivateKey
import SigV4.Hash.Hmac

/-!
# Deterministic nonces

A signature needs a scalar that no one can guess and that never serves two
messages. It is drawn from the private key and the digest of the message by a
generator made of keyed hashing, so equal messages get equal signatures and no
source of randomness is needed.

The digest goes into the seed octet by octet, as it is. It is not reduced first, so
two digests that are one scalar still have different nonces.

A draw that is zero or not reduced is thrown away and the generator is stirred;
each draw is thrown away with a probability below `2⁻³²`. The number of draws is
bounded by `SigV4.Ecdsa.Nonce.attempts` all the same, so that the search ends by
its form.
-/

namespace SigV4

namespace Ecdsa

open P256

namespace Nonce

/-- **The generator**: a key for the keyed hash and the value last drawn. -/
structure Generator where
  /-- The key of the keyed hash. -/
  key : Octets
  /-- The value last drawn. -/
  value : Octets

namespace Generator

/-- Renews the value under the key. -/
def draw (g : Generator) : Generator :=
  { g with value := Hmac.mac g.key g.value }

/-- Mixes a separator and a seed into the key, and renews the value. -/
def stir (g : Generator) (separator : UInt8) (seed : Octets) : Generator :=
  { g with key := Hmac.mac g.key (g.value ++ separator :: seed) }.draw

/-- The generator of a seed. -/
def ofSeed (seed : Octets) : Generator :=
  let start : Generator := ⟨List.replicate 32 0x00, List.replicate 32 0x01⟩
  (start.stir 0x00 seed).stir 0x01 seed

end Generator

/-- The number of draws after which the search gives up. -/
def attempts : Nat := 128

/-- The first usable draw among the next ones, at most as many as `fuel` says. -/
def search (g : Generator) : (fuel : Nat) → Option PrivateKey
  | 0 => none
  | fuel + 1 =>
    let g := g.draw
    match (Scalar.ofNat? g.value.toNat).bind PrivateKey.ofScalar? with
    | some k => some k
    | none => search (g.stir 0x00 []) fuel

/-- **The nonce** of a private key and a digest. -/
def nonce? (key : PrivateKey) (digest : Octets) : Option PrivateKey :=
  search (Generator.ofSeed (key.octets ++ digest)) attempts

end Nonce

end Ecdsa

end SigV4
