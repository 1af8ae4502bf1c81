import SigV4.Error

/-!
# Configuration of signing

Services agree on the scheme and differ in details: whether a path is escaped twice
and cleaned up, whether a body is signed and announced, whether it is signed in
chunks. The details are the fields of a configuration, and there are two sets of
defaults, the general one and the one of the storage service `s3`, which takes paths
literally and bodies piece by piece.

A chunk size is raised to the least one when it is set by
`SigV4.Config.withChunkSize`. The field itself may hold anything, and signing in
chunks refuses what is too small.

What is too large is not refused. The size is a number without bound here and a word
on a machine, and a configuration only compares it and hands it on. So every size that
is a word is treated as on a machine, and a larger one as if there were a word for it.
The first to feel the difference is the length of all frames
(`SigV4.Frame.encodedLength`), and a body that has no buffer of that size.
-/

namespace SigV4

/-- Whether a request announces the digest of its body in a field of its own. -/
inductive BodyHeader where
  /-- It does not, unless the body is signed in chunks. -/
  | none
  /-- It does, for requests that are signed in their fields. -/
  | addIfSigned
deriving DecidableEq

/-- The size of chunks unless another one is asked for. -/
def defaultChunkSize : Nat := 131072

/-- **A configuration.** -/
structure Config where
  /-- Whether the path is escaped once more on top of its wire form. -/
  doubleEncode : Bool := true
  /-- Whether dot segments and empty segments are removed from the path. -/
  normalizePath : Bool := true
  /-- Whether the body is signed, if that was decided. -/
  signPayload : Option Bool := Option.none
  /-- Whether a streaming body is signed in chunks. -/
  chunked : Bool := false
  /-- The size of chunks. -/
  chunkSize : Nat := defaultChunkSize
  /-- Whether the digest of the body is announced. -/
  bodyHeader : BodyHeader := .none
  /-- Whether the rules of the storage service apply. -/
  s3 : Bool := false
deriving DecidableEq

namespace Config

/-- The general defaults. -/
def standard : Config := {}

/-- The defaults of the storage service. -/
def storage : Config :=
  { doubleEncode := false
    normalizePath := false
    chunked := true
    bodyHeader := .addIfSigned
    s3 := true }

/-- The defaults for a service. -/
def forService (service : String) : Config :=
  if service = "s3" then storage else standard

/-- The configuration with chunks of the given size, or of the least one. -/
def withChunkSize (config : Config) (size : Nat) : Config :=
  { config with chunkSize := max size Error.leastChunkSize }

end Config

end SigV4
