import SigV4.Hash.Sha256

/-!
# Keyed hashing

HMAC over SHA-256, in which every step of a key derivation and every symmetric
signature is one application. A key of any length is accepted: a key longer than
a block is hashed first, and a shorter one is filled up with zeros.
-/

namespace SigV4

namespace Hmac

/-- A key as exactly one block of 64 octets. -/
def blockKey (key : Octets) : Octets :=
  let key := if key.length > 64 then Sha256.digest key else key
  key ++ List.replicate (64 - key.length) 0

/-- **The HMAC-SHA256** of a message under a key. -/
def mac (key message : Octets) : Octets :=
  let block := blockKey key
  Sha256.digest (block.map (· ^^^ 0x5c) ++ Sha256.digest (block.map (· ^^^ 0x36) ++ message))

@[simp] theorem length_mac (key message : Octets) : (mac key message).length = 32 := rfl

end Hmac

end SigV4
