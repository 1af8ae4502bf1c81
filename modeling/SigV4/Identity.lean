import SigV4.Key.Derivation
import SigV4.Text.Outline
import SigV4.Text.Redacted

/-!
# Who signs

An identity is either a key id with a secret access key, which can sign for a single
region and, by way of a derived key, for a region set; or a key id with a private
key, which can sign for region sets only. Either may come with a session token, and
either may expire.

* `SigV4.AsymmetricCredential.ofSymmetric` turns the first kind into the second once
  and for all;
* `SigV4.Identity.isValid` says whether an identity is worth trying: it is complete,
  and it does not expire within the next two minutes;
* `SigV4.Identity.outline` describes an identity without giving it away.
-/

namespace SigV4

/-! ### Credentials -/

/-- **A key id and a secret.** -/
structure Credential where
  /-- The key id. -/
  accessKeyId : String
  /-- The secret access key. -/
  secretAccessKey : String
  /-- The session token, for temporary credentials. -/
  sessionToken : Option String := none
  /-- The end of the credential's life. -/
  expires : Option Instant := none
deriving DecidableEq

/-- **A key id and a private key.** -/
structure AsymmetricCredential where
  /-- The key id. -/
  accessKeyId : String
  /-- The private key. -/
  key : Ecdsa.PrivateKey
  /-- The session token, for temporary credentials. -/
  sessionToken : Option String := none
  /-- The end of the credential's life. -/
  expires : Option Instant := none

namespace Credential

/-- Checks that key id and secret are there, the key id first. -/
def check (c : Credential) : Except Error Unit :=
  if c.accessKeyId = "" then .error .emptyAccessKeyId
  else if c.secretAccessKey = "" then .error .emptySecret
  else .ok ()

/-- The outline of a credential. -/
def outline (c : Credential) : Outline :=
  { name := "Credential"
    fields :=
      [("access_key_id", .plain (Redacted.secret c.accessKeyId)),
       ("secret_access_key", .plain (Redacted.secret c.secretAccessKey)),
       ("session_token", .plain (Redacted.optional c.sessionToken)),
       ("expires_in", .optional (c.expires.map Instant.extended))] }

end Credential

namespace AsymmetricCredential

/-- Checks that the key id is there. -/
def check (c : AsymmetricCredential) : Except Error Unit :=
  if c.accessKeyId = "" then .error .emptyAccessKeyId else .ok ()

/-- The credential of a private key given by its octets. -/
def ofOctets (accessKeyId : String) (privateKey : Octets) :
    Except Error AsymmetricCredential :=
  match Ecdsa.PrivateKey.ofOctets? privateKey with
  | some key => .ok { accessKeyId, key }
  | none => .error .malformedPrivateKey

/-- **The asymmetric credential of a symmetric one**, with the same token and the same
end of life. -/
def ofSymmetric (c : Credential) : Except Error AsymmetricCredential := do
  c.check
  match Key.asymmetric? c.accessKeyId c.secretAccessKey with
  | some key =>
    return { accessKeyId := c.accessKeyId, key, sessionToken := c.sessionToken,
             expires := c.expires }
  | none => throw .keyDerivation

/-- The outline of an asymmetric credential. -/
def outline (c : AsymmetricCredential) : Outline :=
  { name := "EcdsaCredential"
    fields :=
      [("access_key_id", .plain (Redacted.secret c.accessKeyId)),
       ("signing_key", .plain (Redacted.privateKey "P-256")),
       ("session_token", .plain (Redacted.optional c.sessionToken)),
       ("expires_in", .optional (c.expires.map Instant.extended))] }

end AsymmetricCredential

/-! ### Identities -/

/-- **An identity**: who signs, and with what. -/
inductive Identity where
  /-- With a secret. -/
  | symmetric (credential : Credential)
  /-- With a private key. -/
  | asymmetric (credential : AsymmetricCredential)

namespace Identity

/-- The key id of an identity. -/
def accessKeyId : Identity → String
  | .symmetric c => c.accessKeyId
  | .asymmetric c => c.accessKeyId

/-- The session token of an identity. -/
def sessionToken : Identity → Option String
  | .symmetric c => c.sessionToken
  | .asymmetric c => c.sessionToken

/-- The end of an identity's life. -/
def expires : Identity → Option Instant
  | .symmetric c => c.expires
  | .asymmetric c => c.expires

/-- Whether nothing is missing from an identity. -/
def isComplete : Identity → Bool
  | .symmetric c => c.accessKeyId != "" && c.secretAccessKey != ""
  | .asymmetric c => c.accessKeyId != ""

/-- The identity with a session token. -/
def withSessionToken (identity : Identity) (token : String) : Identity :=
  match identity with
  | .symmetric c => .symmetric { c with sessionToken := some token }
  | .asymmetric c => .asymmetric { c with sessionToken := some token }

/-- The seconds before the end of its life in which an identity no longer counts as
valid. -/
def expiryMargin : Int := 120

/-- **Whether an identity is worth trying** at the time on the wall. -/
def isValid (identity : Identity) (wall : Instant) : Bool :=
  identity.isComplete &&
    match identity.expires with
    | none => true
    | some expires => expires.isAfter wall.truncate expiryMargin

/-- The outline of an identity. -/
def outline : Identity → Outline
  | .symmetric c => c.outline
  | .asymmetric c => c.outline

end Identity

end SigV4
