import SigV4.InPlace
import SigV4.Session

/-!
# Signing in place

A session takes a head and gives another one (`SigV4.Session.sign`). Whoever uses it has a
head that is to be written over, and a cache that others use as well. This file is signing in
that form, as steps in one memory (`SigV4.Session.Memory`).

* `SigV4.Session.InPlace.identity` finds the identity to sign with. What was loaded is
  written into the cache before anything is done with it.
* `SigV4.Session.InPlace.apply` writes a request over the head, piece by piece. The URI is
  made first, since it is the one piece of which the making can fail.

Nothing of this shows from outside: the answer, the head and the cache are those of
`SigV4.Session.sign`, and in particular no head is written by halves.
-/

namespace SigV4

namespace Session

/-- **What a call can change.** -/
structure Memory (K : Type) where
  /-- The head that is to be signed. -/
  head : Http.Head
  /-- What the session remembers. -/
  cache : Cache K

namespace InPlace

variable {K : Type}

/-! ### The identity -/

/-- Asks the provider, for the first time, the second, and so on. -/
def load (provider : Provider K) : InPlace (Memory K) (Option K) := do
  let loads := (← get).cache.loads
  modify fun memory => { memory with cache := { memory.cache with loads := loads + 1 } }
  InPlace.lift (provider.load loads)

/-- **The identity to sign with**, remembered or loaded. -/
def identity [Perishable K] (session : Session K) (wall : Instant) :
    InPlace (Memory K) (Option K) := do
  let cached := (← get).cache
  if cached.isValid wall then return cached.identity
  else
    let loaded ← load session.provider
    modify fun memory => { memory with cache := { memory.cache with identity := loaded } }
    return loaded

/-! ### The head -/

/-- **Writes a request over the head.** -/
def apply (request : Request) : InPlace (Memory K) Unit := do
  let uri ← InPlace.lift request.uri
  modify fun memory => { memory with head := { memory.head with fields := request.fields } }
  modify fun memory => { memory with head := { memory.head with method := request.method } }
  modify fun memory => { memory with head := { memory.head with uri } }

/-- Signs the head with an identity that may be missing. -/
def signHead (session : Session K) (wall : Instant) (body : Body) (mode : Mode)
    (identity : Option K) : InPlace (Memory K) Unit := do
  let request ← InPlace.lift (Request.ofHead (← get).head body)
  let signed ←
    InPlace.lift (session.procedure.sign session.clock wall request identity mode)
  apply signed

/-- **Signs the head** where it stands. -/
def sign [Perishable K] (session : Session K) (wall : Instant) (body : Body) (mode : Mode) :
    InPlace (Memory K) Unit := do
  let identity ← identity session wall
  signHead session wall body mode identity

end InPlace

end Session

end SigV4
