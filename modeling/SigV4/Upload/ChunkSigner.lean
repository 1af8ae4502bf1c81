import SigV4.InPlace
import SigV4.Key.Signing
import SigV4.Text.Quoted
import SigV4.Upload.Frame

/-!
# The chain of chunk signatures

The signature of a chunk covers the signature before it, and the signature of the
request is the first link. So the chunks of a body can neither be exchanged nor
reordered, and the empty chunk, which closes the chain, shows that none is missing at
the end.

A signer is a value. Signing a chunk gives a signature and the next signer
(`SigV4.ChunkSigner.sign`), and whoever keeps a signer can go on from it again, without
a trace on the others. After the empty chunk there is no next signer.

Whoever has one place for the signer of now and the next one signs in place
(`SigV4.ChunkSigner.InPlace.sign`). The place is written to when there is a signature, and
not before.
-/

namespace SigV4

/-- **A link of the chain**, from which the next chunk is signed. -/
structure ChunkSigner where
  /-- The scope of the request. -/
  scope : Scope
  /-- The key of the request. -/
  key : SigningKey
  /-- The signature before the next chunk. -/
  previous : String
  /-- The size of the chunks that a body is cut into. -/
  chunkSize : Nat
  /-- Whether the empty chunk has been signed. -/
  finished : Bool

namespace ChunkSigner

/-- The beginning of a chain. -/
def start (scope : Scope) (key : SigningKey) (signature : String) (chunkSize : Nat) :
    ChunkSigner :=
  { scope, key, previous := signature, chunkSize, finished := false }

/-- **Signs a chunk**: its signature, and the next link of the chain. -/
def sign (signer : ChunkSigner) (chunk : Octets) : Except Error (String × ChunkSigner) :=
  if signer.finished then .error .chainFinished
  else do
    let signature ← signer.key.sign (signer.scope.chunkStringToSign signer.previous chunk)
    return (signature, { signer with previous := signature, finished := chunk.isEmpty })

/-- Signs a chunk and puts it into its frame. -/
def frame (signer : ChunkSigner) (chunk : Octets) : Except Error (Octets × ChunkSigner) := do
  let (signature, signer) ← signer.sign chunk
  return (Frame.octets { signature, chunk }, signer)

/-! ### In place -/

namespace InPlace

/-- Makes the signer the next link, behind a chunk and its signature. -/
def advance (chunk : Octets) (signature : String) : InPlace ChunkSigner Unit := do
  modify fun signer => { signer with previous := signature }
  if chunk.isEmpty then modify fun signer => { signer with finished := true }

/-- **Signs a chunk** with the signer that stands in a place, and puts the next link there. -/
def sign (chunk : Octets) : InPlace ChunkSigner String := do
  let signer ← get
  if signer.finished then throw .chainFinished
  else
    let signature ←
      InPlace.lift (signer.key.sign (signer.scope.chunkStringToSign signer.previous chunk))
    advance chunk signature
    return signature

/-- Signs a chunk and puts it into its frame. -/
def frame (chunk : Octets) : InPlace ChunkSigner Octets := do
  let signature ← sign chunk
  return Frame.octets { signature, chunk }

end InPlace

/-! ### Outline -/

/-- The outline of a link, without its key. -/
def outline (signer : ChunkSigner) : Outline :=
  { name := "ChunkSigner"
    fields :=
      [("scope", .plain (Quoted.quote signer.scope.text)),
       ("previous_signature", .plain (Quoted.quote signer.previous)),
       ("chunk_size", .plain (toString signer.chunkSize)),
       ("finished", .plain (if signer.finished then "true" else "false"))] }

end ChunkSigner

end SigV4
