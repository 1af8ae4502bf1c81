import SigV4.Canonical.Fields
import SigV4.Identity
import SigV4.Signer.Payload
import SigV4.Upload.Frame

/-!
# What a request says about its signature

Before a request is signed it is told everything about the signature but the signature
itself, so that all of it is signed: who signs, when, for where, for how long, and what of
the body. A request that is sent at once says it in fields
(`SigV4.Announcement.inFields`), a link in parameters (`SigV4.Announcement.inQuery`).

A field that is set replaces what the request had under its name. A parameter is put
behind the others.
-/

namespace SigV4

namespace Announcement

/-- Sets a field to a text. -/
def setField (request : Request) (name : Http.FieldName) (text : String)
    (sensitive : Bool) : Except Error Request :=
  match Http.FieldValue.ofText text with
  | .ok value =>
    let value := if sensitive then value.asSensitive else value
    .ok { request with fields := request.fields.insert name value }
  | .error fault => .error (.http fault)

/-- Sets a field to a text, if there is one. -/
def setOptional (request : Request) (name : Http.FieldName) (text : Option String)
    (sensitive : Bool) : Except Error Request :=
  match text with
  | some text => setField request name text sensitive
  | none => .ok request

/-- The names of a region set, if there is one. -/
def regionSet (scope : Scope) : Option String :=
  match scope.region with
  | .single _ => none
  | .set names => some names

/-- Names the host, unless the request does. -/
def withHost (request : Request) : Except Error Request :=
  if request.fields.contains Vocabulary.host then .ok request
  else setField request Vocabulary.host request.authority.text false

/-! ### In fields -/

/-- The codings of a body that is signed in chunks, given the first value of the field
that names codings. -/
def codings (first : Option Http.FieldValue) : Except Error String :=
  match first with
  | none => .ok Vocabulary.chunkedCoding
  | some value =>
    match value.text with
    | .error fault => .error (.http fault)
    | .ok text =>
      if (text.splitOn ',').any fun coding =>
          Blank.trim coding == Vocabulary.chunkedCoding.toList then
        .ok (String.ofList text)
      else .ok (Vocabulary.chunkedCoding ++ "," ++ String.ofList text)

/-- Announces the lengths of a body that is signed in chunks: its own, and that of its
frames. -/
def withLengths (request : Request) (scope : Scope) (chunkSize : Nat) :
    (length : Option Nat) → Except Error Request
  | none => .ok request
  | some length => do
    let request ← setField request Vocabulary.decodedContentLength (toString length) false
    setField request Vocabulary.contentLength
      (toString (Frame.encodedLength length chunkSize scope.algorithm.signatureLength)) false

/-- Announces that a body is signed in chunks, if it is. -/
def withChunks (request : Request) (scope : Scope) : Payload → Except Error Request
  | .chunked length chunkSize => do
    let codings ← codings (request.fields.get? Vocabulary.contentEncoding)
    let request ← setField request Vocabulary.contentEncoding codings false
    withLengths request scope chunkSize length
  | _ => .ok request

/-- Whether the digest of the body has a field of its own. -/
def showsDigest (config : Config) (payload : Payload) : Bool :=
  payload.isChunked || config.bodyHeader == .addIfSigned

/-- **Announces a signature in fields.** -/
def inFields (request : Request) (config : Config) (scope : Scope) (identity : Identity)
    (payload : Payload) : Except Error Request := do
  let request ← setField request Vocabulary.date scope.timestamp false
  let request ← setOptional request Vocabulary.regionSet (regionSet scope) false
  let request ← setOptional request Vocabulary.securityToken identity.sessionToken true
  let request ← withChunks request scope payload
  setOptional request Vocabulary.contentSha256
    (if showsDigest config payload then some (payload.text scope) else none) false

/-! ### In the query -/

/-- The key id and the scope, as one text. -/
def credential (scope : Scope) (identity : Identity) : String :=
  identity.accessKeyId ++ "/" ++ scope.text

/-- The parameters that announce a signature. -/
def params (request : Request) (scope : Scope) (identity : Identity) (lifetime : Nat) :
    List Param :=
  [⟨Vocabulary.algorithmParam, scope.algorithm.text⟩,
   ⟨Vocabulary.credentialParam, credential scope identity⟩,
   ⟨Vocabulary.dateParam, scope.timestamp⟩,
   ⟨Vocabulary.expiresParam, toString lifetime⟩,
   ⟨Vocabulary.signedHeadersParam, CanonicalFields.signedNamesText request.fields⟩] ++
  (regionSet scope).toList.map (⟨Vocabulary.regionSetParam, ·⟩) ++
  identity.sessionToken.toList.map (⟨Vocabulary.securityTokenParam, ·⟩)

/-- **Announces a signature in the query.** -/
def inQuery (request : Request) (scope : Scope) (identity : Identity) (lifetime : Nat) :
    Request :=
  { request with query := request.query ++ params request scope identity lifetime }

end Announcement

end SigV4
