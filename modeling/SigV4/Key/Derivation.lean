import SigV4.Ecdsa.PrivateKey
import SigV4.Hash.Hmac
import SigV4.Scope

/-!
# Deriving keys from a secret

No signature is made with a secret access key itself. For a single region the secret
is narrowed down to the scope, by keyed hashing over day, region, service and a
closing word, so that what leaks with a derived key is good for one scope only
(`SigV4.Key.forScope`). For a region set it is stretched into a private key of the
curve, the same for every scope (`SigV4.Key.asymmetric?`): candidates are drawn by
keyed hashing over a counter, and the first one that is in range is the key.
-/

namespace SigV4

namespace Key

/-! ### For a single region -/

/-- **The key for a scope**, by keyed hashing over the parts of the scope. -/
def forScope (secret : String) (scope : Scope) : Octets :=
  [scope.time.dateStamp, scope.region.text, scope.service, terminator].foldl
    (fun key part => Hmac.mac key (Octets.ofText part)) (Octets.ofText ("AWS4" ++ secret))

/-! ### For a region set -/

/-- The message from which the candidate of a counter is drawn: the number of the
block, the algorithm, the key id, the counter, and the length in bits. -/
def candidateMessage (accessKeyId : String) (counter : Nat) : Octets :=
  Octets.ofNat 4 1 ++ Octets.ofText Algorithm.ecdsa.text ++ [0] ++ Octets.ofText accessKeyId ++
    [UInt8.ofNat counter] ++ Octets.ofNat 4 256

/-- The candidate of a counter. Its number must be in range, and one is added to it,
which must not lead to zero. -/
def candidate? (accessKeyId secret : String) (counter : Nat) : Option Ecdsa.PrivateKey :=
  let drawn :=
    Hmac.mac (Octets.ofText ("AWS4A" ++ secret)) (candidateMessage accessKeyId counter)
  (P256.Scalar.ofNat? drawn.toNat).bind fun k => Ecdsa.PrivateKey.ofScalar? (k + 1)

/-- **The private key** of a key id and a secret: the first candidate that is one.
There are 255 counters, and each fails with a probability below `2⁻³²`. -/
def asymmetric? (accessKeyId secret : String) : Option Ecdsa.PrivateKey :=
  (List.range' 1 255).findSome? (candidate? accessKeyId secret)

end Key

end SigV4
