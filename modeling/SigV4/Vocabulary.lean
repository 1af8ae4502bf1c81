import SigV4.Http.Token

/-!
# Names that signing uses

The fields and parameters that a signature puts into a request, and the fields that
it leaves alone. Fields that a proxy may change on the way are not signed, and neither
is the field that is to hold the signature.
-/

namespace SigV4

namespace Vocabulary

open Http

/-! ### Fields -/

/-- The field that holds a signature. -/
def authorization : FieldName := ⟨"authorization", by decide⟩

/-- The field that names the host. -/
def host : FieldName := ⟨"host", by decide⟩

/-- The field that names the codings of the body. -/
def contentEncoding : FieldName := ⟨"content-encoding", by decide⟩

/-- The field that holds the length of the body as sent. -/
def contentLength : FieldName := ⟨"content-length", by decide⟩

/-- The field that holds the digest of the body. -/
def contentSha256 : FieldName := ⟨"x-amz-content-sha256", by decide⟩

/-- The field that holds the time of the signature. -/
def date : FieldName := ⟨"x-amz-date", by decide⟩

/-- The field that holds the session token. -/
def securityToken : FieldName := ⟨"x-amz-security-token", by decide⟩

/-- The field that holds the region set. -/
def regionSet : FieldName := ⟨"x-amz-region-set", by decide⟩

/-- The field that holds the length of the body before it was cut into chunks. -/
def decodedContentLength : FieldName := ⟨"x-amz-decoded-content-length", by decide⟩

/-- The fields that are never signed. -/
def unsignedFields : List String :=
  ["authorization", "connection", "expect", "transfer-encoding", "user-agent",
   "x-amzn-trace-id"]

/-- Whether a field is signed. -/
def isSigned (name : FieldName) : Bool := !unsignedFields.contains name.text

/-! ### Parameters -/

/-- The parameter that names the algorithm. -/
def algorithmParam : String := "X-Amz-Algorithm"

/-- The parameter that holds the key id and the scope. -/
def credentialParam : String := "X-Amz-Credential"

/-- The parameter that holds the time of the signature. -/
def dateParam : String := "X-Amz-Date"

/-- The parameter that holds the lifetime in seconds. -/
def expiresParam : String := "X-Amz-Expires"

/-- The parameter that names the signed fields. -/
def signedHeadersParam : String := "X-Amz-SignedHeaders"

/-- The parameter that holds the region set. -/
def regionSetParam : String := "X-Amz-Region-Set"

/-- The parameter that holds the session token. -/
def securityTokenParam : String := "X-Amz-Security-Token"

/-- The parameter that holds the signature. -/
def signatureParam : String := "X-Amz-Signature"

/-! ### Words -/

/-- What a request says about its body when the body is not signed. -/
def unsignedPayload : String := "UNSIGNED-PAYLOAD"

/-- The coding of a body that is signed in chunks. -/
def chunkedCoding : String := "aws-chunked"

end Vocabulary

end SigV4
