import SigV4.Hash.Sha256
import SigV4.Time.Timestamp

/-!
# Credential scopes

A signature is good for one day, one service, and one region or a set of regions,
and this is its scope. The kind of region decides everything about the algorithm: a
single region is signed for with a secret that both sides have, a set of regions with
an asymmetric key, since no region of the set may hold what could sign for another.

* `SigV4.Scope.text` – the scope as it enters every text to be signed. A region set
  is not part of it and travels beside it.
* `SigV4.Scope.stringToSign` – what is signed for a request.
* `SigV4.Scope.chunkStringToSign` – what is signed for a chunk of a body. It contains
  the signature before it, which makes the signatures a chain.

A scope with an empty service or region cannot be built.
-/

namespace SigV4

/-! ### Regions and algorithms -/

/-- **Where a signature is good**: in one region, or in a set of regions. -/
inductive Region where
  /-- A single region. -/
  | single (name : String)
  /-- A set of regions, written as one text. -/
  | set (names : String)
deriving DecidableEq

namespace Region

/-- The text of a region or of a region set. -/
def text : Region → String
  | .single name => name
  | .set names => names

/-- Whether this is a set of regions. -/
def isSet : Region → Bool
  | .single _ => false
  | .set _ => true

end Region

/-- **The algorithms**: keyed hashing with a shared secret, or asymmetric signing. -/
inductive Algorithm where
  /-- Keyed hashing. -/
  | hmac
  /-- Asymmetric signing. -/
  | ecdsa
deriving DecidableEq

namespace Algorithm

/-- The name of an algorithm for requests. -/
def text : Algorithm → String
  | .hmac => "AWS4-HMAC-SHA256"
  | .ecdsa => "AWS4-ECDSA-P256-SHA256"

/-- The name of an algorithm for chunks. -/
def chunkText (a : Algorithm) : String := a.text ++ "-PAYLOAD"

/-- What a request says about its body when the body is signed in chunks. -/
def streamingText (a : Algorithm) : String := "STREAMING-" ++ a.chunkText

/-- The number of characters of a signature. -/
def signatureLength : Algorithm → Nat
  | .hmac => 64
  | .ecdsa => 128

end Algorithm

/-- The algorithm for a region. -/
def Region.algorithm : Region → Algorithm
  | .single _ => .hmac
  | .set _ => .ecdsa

/-! ### Scopes -/

/-- The last word of every scope. -/
def terminator : String := "aws4_request"

/-- **A credential scope.** -/
structure Scope where
  /-- The time of the signature. -/
  time : Instant
  /-- Where the signature is good. -/
  region : Region
  /-- The service. -/
  service : String
  /-- The service is named. -/
  service_ne_empty : service ≠ ""
  /-- The region is named. -/
  region_ne_empty : region.text ≠ ""
deriving DecidableEq

namespace Scope

/-- **The scope** of a time, a region and a service. An empty service is noticed
before an empty region. -/
def make (time : Instant) (region : Region) (service : String) : Except Error Scope :=
  if hs : service ≠ "" then
    if hr : region.text ≠ "" then .ok ⟨time, region, service, hs, hr⟩
    else .error (if region.isSet then .emptyRegionSet else .emptyRegion)
  else .error .emptyService

/-- The timestamp of a scope. -/
def timestamp (scope : Scope) : String := scope.time.timestamp

/-- The algorithm of a scope. -/
def algorithm (scope : Scope) : Algorithm := scope.region.algorithm

/-- **The text of a scope.** -/
def text (scope : Scope) : String :=
  match scope.region with
  | .single name =>
    scope.time.dateStamp ++ "/" ++ name ++ "/" ++ scope.service ++ "/" ++ terminator
  | .set _ => scope.time.dateStamp ++ "/" ++ scope.service ++ "/" ++ terminator

/-! ### Texts to be signed -/

/-- **What is signed for a request**, given the text of its canonical form. -/
def stringToSign (scope : Scope) (canonicalRequest : String) : String :=
  scope.algorithm.text ++ "\n" ++ scope.timestamp ++ "\n" ++ scope.text ++ "\n" ++
    Sha256.hexDigest (Octets.ofText canonicalRequest)

/-- **What is signed for a chunk**, given the signature before it. -/
def chunkStringToSign (scope : Scope) (previous : String) (chunk : Octets) : String :=
  scope.algorithm.chunkText ++ "\n" ++ scope.timestamp ++ "\n" ++ scope.text ++ "\n" ++
    previous ++ "\n" ++ Sha256.hexDigest [] ++ "\n" ++ Sha256.hexDigest chunk

end Scope

end SigV4
