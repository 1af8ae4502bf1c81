import SigV4.Http.Fault

/-!
# Errors

Everything that can go wrong has one cause, a constructor of `SigV4.Error`, and
the causes fall into seven kinds, which is what a caller acts on: ask for other
credentials, mend the request, change the configuration. The wording of a cause
is decided in `SigV4.Error.message` and nowhere else, and the text that is shown
is the wording of the kind, a colon, and the wording of the cause
(`SigV4.Error.text`).

Two causes come from outside. A failure of another component
(`SigV4.Error.outside`) keeps that component's own words, and a caller that
implements a part of the library – a credential provider, say – may report an
error of its own (`SigV4.Error.reported`).
-/

namespace SigV4

/-! ### Kinds -/

/-- **The kinds of error.** -/
inductive ErrorKind where
  /-- Credentials that cannot sign. -/
  | invalidCredentials
  /-- A key or a signature that is malformed. -/
  | invalidKey
  /-- An empty region or service. -/
  | invalidRegionOrService
  /-- A configuration that does not go with the request. -/
  | unsupportedConfiguration
  /-- A signature that could not be computed. -/
  | signatureComputation
  /-- A request that cannot be signed. -/
  | invalidRequest
  /-- Anything else. -/
  | unexpected
deriving DecidableEq

/-- The wording of a kind. -/
def ErrorKind.text : ErrorKind → String
  | .invalidCredentials => "invalid credentials"
  | .invalidKey => "invalid key"
  | .invalidRegionOrService => "invalid region or service"
  | .unsupportedConfiguration => "unsupported signing configuration"
  | .signatureComputation => "signature computation failed"
  | .invalidRequest => "invalid request"
  | .unexpected => "unexpected error"

/-! ### Causes -/

/-- **The causes of error.** -/
inductive Error where
  /-- An access key id is empty. -/
  | emptyAccessKeyId
  /-- A secret access key is empty. -/
  | emptySecret
  /-- Octets are no private key. -/
  | malformedPrivateKey
  /-- A signature is no hexadecimal text. -/
  | signatureNotHex
  /-- The octets of a signature are none of its encodings. -/
  | malformedSignature
  /-- A coordinate is no hexadecimal text. -/
  | coordinateNotHex
  /-- A coordinate has the wrong number of octets. -/
  | coordinateLength (octets : Nat)
  /-- Two coordinates are no point of the curve. -/
  | offCurve
  /-- A service is empty. -/
  | emptyService
  /-- A region is empty. -/
  | emptyRegion
  /-- A region set is empty. -/
  | emptyRegionSet
  /-- A presigned request would live too short or too long. -/
  | lifetime (seconds : Int)
  /-- A streaming body is to be signed without chunks. -/
  | streamingUnchunked
  /-- A streaming body is to be signed in the query. -/
  | streamingPresigned
  /-- Chunks are to be smaller than the least size. -/
  | chunkSize (octets : Nat)
  /-- An asymmetric key is to sign for a single region. -/
  | asymmetricRegion
  /-- No asymmetric key comes out of a secret. -/
  | keyDerivation
  /-- No asymmetric signature comes out of a key. -/
  | ecdsa
  /-- A request names no authority. -/
  | noAuthority
  /-- A number of seconds is outside the calendar. -/
  | timeOutOfRange (seconds : Int)
  /-- A text is no time in basic format. -/
  | unreadableTime (text : String)
  /-- A chain of chunk signatures has ended already. -/
  | chainFinished
  /-- A piece of a request is malformed. -/
  | http (fault : Http.Fault)
  /-- Another component failed, in its own words. -/
  | outside (text : String)
  /-- A caller's own error, perhaps with the failure it stands for. -/
  | reported (kind : ErrorKind) (message : String) (cause : Option String)
deriving DecidableEq

namespace Error

/-- The longest lifetime of a presigned request in seconds: a week. -/
def longestLifetime : Nat := 604800

/-- The least size of a signed chunk in octets. -/
def leastChunkSize : Nat := 8192

/-- The kind of a cause. -/
def kind : Error → ErrorKind
  | .emptyAccessKeyId | .emptySecret => .invalidCredentials
  | .malformedPrivateKey | .signatureNotHex | .malformedSignature | .coordinateNotHex
  | .coordinateLength _ | .offCurve => .invalidKey
  | .emptyService | .emptyRegion | .emptyRegionSet => .invalidRegionOrService
  | .lifetime _ | .streamingUnchunked | .streamingPresigned | .chunkSize _
  | .asymmetricRegion => .unsupportedConfiguration
  | .keyDerivation | .ecdsa => .signatureComputation
  | .noAuthority | .http _ => .invalidRequest
  | .timeOutOfRange _ | .unreadableTime _ | .chainFinished | .outside _ => .unexpected
  | .reported kind _ _ => kind

/-- **The wording of a cause.** -/
def message : Error → String
  | .emptyAccessKeyId => "access key id is empty"
  | .emptySecret => "secret access key is empty"
  | .malformedPrivateKey => "private key is not a valid P-256 scalar"
  | .signatureNotHex => "signature is not valid hex"
  | .malformedSignature => "malformed ECDSA signature"
  | .coordinateNotHex => "coordinate is not valid hex"
  | .coordinateLength n => "coordinate must be 32 bytes, got " ++ toString n
  | .offCurve => "point is not on curve P-256"
  | .emptyService => "service is empty"
  | .emptyRegion => "region is empty"
  | .emptyRegionSet => "region set is empty"
  | .lifetime n =>
    "expiration must be between 1 and " ++ toString longestLifetime ++ " seconds, got " ++
      toString n
  | .streamingUnchunked => "payload signing requires chunked encoding for streaming bodies"
  | .streamingPresigned => "chunked signing is not supported for presigned requests"
  | .chunkSize n =>
    "chunk size must be at least " ++ toString leastChunkSize ++ " bytes, got " ++ toString n
  | .asymmetricRegion => "an asymmetric key can only sign SigV4A requests"
  | .keyDerivation => "failed to derive a P-256 key from the secret access key"
  | .ecdsa => "failed to compute ECDSA signature"
  | .noAuthority => "request without authority is invalid for signing"
  | .timeOutOfRange n => "timestamp " ++ toString n ++ " is out of range"
  | .unreadableTime s => "failed to parse " ++ s ++ " as iso8601 basic time"
  | .chainFinished => "chunk signature chain is already terminated"
  | .http fault => fault.text
  | .outside s => s
  | .reported _ message _ => message

/-- **The text of an error** as it is shown: its kind and its cause. -/
def text (e : Error) : String := e.kind.text ++ ": " ++ e.message

/-- The failure of another component that an error stands for, in that component's
words. -/
def cause? : Error → Option String
  | .http fault => some fault.text
  | .outside s => some s
  | .reported _ _ cause => cause
  | _ => none

/-- The same error, standing for the failure with the given words. -/
def withCause (e : Error) (cause : String) : Error :=
  .reported e.kind e.message (some cause)

end Error

end SigV4
