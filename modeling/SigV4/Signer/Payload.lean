import SigV4.Config
import SigV4.Hash.Sha256
import SigV4.Request
import SigV4.Scope
import SigV4.Signer.Mode
import SigV4.Vocabulary

/-!
# What is signed of a body

A body is signed by its digest, or not at all, or in chunks as it is sent. Which of the
three it is depends on the body, on the configuration, and on where the signature goes.
The rules are tried in a fixed order (`SigV4.Payload.resolve`), and only bodies that
arrive piece by piece can be refused.

The storage service has two rules of its own. Unless it is asked to, it does not sign a
body that TLS protects anyway, and a link never covers a body.
-/

namespace SigV4

/-- **What is signed of a body.** -/
inductive Payload where
  /-- The body, by its digest. -/
  | hashed (digest : String)
  /-- Nothing. -/
  | unsigned
  /-- The body, in chunks of a size, perhaps with the length of the whole known. -/
  | chunked (length : Option Nat) (chunkSize : Nat)
deriving DecidableEq

namespace Payload

/-- Whether bodies are signed for requests of a scheme. -/
def isSigned (config : Config) (scheme : Http.Scheme) : Bool :=
  match config.signPayload with
  | some decided => decided
  | none => !config.s3 || scheme.text != "https"

/-- What is signed of a body that arrives piece by piece. -/
def ofStream (config : Config) (scheme : Http.Scheme) (mode : Mode) (length : Option Nat) :
    Except Error Payload :=
  if !config.chunked then
    if config.signPayload = some true then .error .streamingUnchunked else .ok .unsigned
  else if mode.isQuery then .error .streamingPresigned
  else if !isSigned config scheme then .ok .unsigned
  else if config.chunkSize < Error.leastChunkSize then .error (.chunkSize config.chunkSize)
  else .ok (.chunked length config.chunkSize)

/-- **What is signed** of the body of a request. -/
def resolve (config : Config) (request : Request) (mode : Mode) : Except Error Payload :=
  match request.body with
  | .unsigned => .ok .unsigned
  | body =>
    if config.s3 && mode.isQuery then .ok .unsigned
    else
      match body with
      | .streaming length => ofStream config request.scheme mode length
      | body =>
        if !isSigned config request.scheme then .ok .unsigned
        else
          match body with
          | .empty => .ok (.hashed (Sha256.hexDigest []))
          | .octets content => .ok (.hashed (Sha256.hexDigest content))
          | .precomputed digest => .ok (.hashed digest)
          | .streaming _ | .unsigned => .ok .unsigned

/-- What a request says about its body. -/
def text (payload : Payload) (scope : Scope) : String :=
  match payload with
  | .hashed digest => digest
  | .unsigned => Vocabulary.unsignedPayload
  | .chunked _ _ => scope.algorithm.streamingText

/-- Whether the body is signed in chunks. -/
def isChunked : Payload → Bool
  | .chunked _ _ => true
  | _ => false

end Payload

end SigV4
