import SigV4.Canonical.Request
import SigV4.Key.Signing
import SigV4.Signer.Announcement
import SigV4.Upload.ChunkSigner

/-!
# Signing requests

A signer knows a service, a region or a region set, and a configuration. To sign a
request is to go through these steps, and the first one that fails is the error:

1. the scope of the signature (`SigV4.Scope.make`);
2. its lifetime, for a link (`SigV4.Mode.lifetime`);
3. what is signed of the body (`SigV4.Payload.resolve`);
4. the key (`SigV4.SigningKey.resolve`);
5. the host, and everything that the request says about the signature
   (`SigV4.Announcement`);
6. the canonical request and its signature;
7. the signature in its place.

Steps 1 to 4 look at the request only, and are gathered in
`SigV4.RequestSigner.plan`; nothing has been changed when one of them fails. The
signature itself is left out of what is signed, since its field is not signed and its
parameter is added last.
-/

namespace SigV4

/-- **A signer of requests.** -/
structure RequestSigner where
  /-- The service that the requests go to. -/
  service : String
  /-- Where the signatures are good. -/
  region : Region
  /-- The configuration. -/
  config : Config

/-- **A signed request.** -/
structure Signed where
  /-- The request with its signature. -/
  request : Request
  /-- The signature. -/
  signature : String
  /-- The canonical form that was signed. -/
  canonical : CanonicalRequest
  /-- The signer of the chunks of the body, if it is signed in chunks. -/
  chunkSigner : Option ChunkSigner

namespace RequestSigner

/-- The signer for a service and a region, with the defaults of the service. -/
def make (service : String) (region : Region) : RequestSigner :=
  { service, region, config := Config.forService service }

/-! ### Before the request is touched -/

/-- **What is decided** before a request is touched. -/
structure Plan where
  /-- The scope of the signature. -/
  scope : Scope
  /-- The lifetime of a link in seconds, or nothing where there is no link. -/
  lifetime : Option Nat
  /-- What is signed of the body. -/
  payload : Payload
  /-- The key. -/
  key : SigningKey

/-- Decides what can be decided before a request is touched. -/
def plan (signer : RequestSigner) (now : Instant) (request : Request) (identity : Identity)
    (mode : Mode) : Except Error Plan := do
  let scope ← Scope.make now signer.region signer.service
  let lifetime ← mode.lifetime now
  let payload ← Payload.resolve signer.config request mode
  let key ← SigningKey.resolve identity scope
  return { scope, lifetime, payload, key }

/-! ### The request -/

/-- The request with everything it says about its signature. -/
def announce (signer : RequestSigner) (plan : Plan) (request : Request)
    (identity : Identity) : Except Error Request := do
  let request ← Announcement.withHost request
  match plan.lifetime with
  | none => Announcement.inFields request signer.config plan.scope identity plan.payload
  | some lifetime => return Announcement.inQuery request plan.scope identity lifetime

/-- The value of the field that holds a signature. -/
def authorization (scope : Scope) (identity : Identity) (canonical : CanonicalRequest)
    (signature : String) : String :=
  scope.algorithm.text ++ " Credential=" ++ Announcement.credential scope identity ++
    ", SignedHeaders=" ++ canonical.signedFields ++ ", Signature=" ++ signature

/-- The request with its signature in its place. -/
def attach (plan : Plan) (request : Request) (identity : Identity)
    (canonical : CanonicalRequest) (signature : String) : Except Error Request :=
  match plan.lifetime with
  | none =>
    Announcement.setField request Vocabulary.authorization
      (authorization plan.scope identity canonical signature) true
  | some _ => .ok (request.push Vocabulary.signatureParam signature)

/-- The signer of the chunks of a body, if it is signed in chunks. -/
def chunkSigner? (plan : Plan) (signature : String) : Option ChunkSigner :=
  match plan.payload with
  | .chunked _ chunkSize => some (ChunkSigner.start plan.scope plan.key signature chunkSize)
  | _ => none

/-! ### Signing -/

/-- **Signs a request.** -/
def sign (signer : RequestSigner) (now : Instant) (request : Request) (identity : Identity)
    (mode : Mode) : Except Error Signed := do
  let plan ← signer.plan now request identity mode
  let announced ← signer.announce plan request identity
  let canonical ←
    CanonicalRequest.ofRequest announced signer.config (plan.payload.text plan.scope)
  let signature ← plan.key.sign (plan.scope.stringToSign canonical.text)
  let request ← attach plan announced identity canonical signature
  return { request, signature, canonical, chunkSigner := chunkSigner? plan signature }

/-- Signs a request with an identity that may be missing. Without one the request is left
as it is. -/
def signWith (signer : RequestSigner) (now : Instant) (request : Request)
    (identity : Option Identity) (mode : Mode) : Except Error Request :=
  match identity with
  | none => .ok request
  | some identity => (signer.sign now request identity mode).map (·.request)

end RequestSigner

end SigV4
