import SigV4.Clock
import SigV4.Signer

/-!
# Signing sessions

Identities come from a provider – a file, a service, an environment – and loading one may
be slow or may fail. So a session keeps the identity that it loaded last and asks the
provider again only when that one is no longer worth trying
(`SigV4.Session.identity`). What was loaded is kept whatever it is, and a load that failed
changes nothing.

A session signs the head of a request (`SigV4.Session.sign`): either all of it is
replaced, or, on any error, none of it is.

Who signs, and how, is left open. An identity is anything that is worth trying or not
(`SigV4.Perishable`), and a procedure makes of a request whatever it likes, or fails
(`SigV4.Procedure`). A signer of requests is one (`SigV4.RequestSigner.procedure`), with
sessions of its own (`SigV4.RequestSigner.session`).

The cache is a value that goes in and comes out (`SigV4.Session.Cache`). Two users of one
session share it by passing it on.
-/

namespace SigV4

/-! ### What a session is made of -/

/-- **Identities that perish**: of each it can be told whether it is worth trying. -/
class Perishable (K : Type) where
  /-- Whether an identity is worth trying at the time on the wall. -/
  isValid : (identity : K) → (wall : Instant) → Bool

instance : Perishable Identity := ⟨Identity.isValid⟩

/-- **A source of identities**: what it answers to each load, counted from 0. It may fail,
and it may have no identity to give. -/
structure Provider (K : Type) where
  /-- The answer to a load. -/
  load : Nat → Except Error (Option K)

namespace Provider

variable {K : Type}

/-- A provider that always gives the same identity. -/
def constant (identity : K) : Provider K :=
  ⟨fun _ => .ok (some identity)⟩

/-- A provider that gives one answer after another, and the last one over and over. It has
no identity to give if there are no answers. -/
def script (answers : List (Except Error (Option K))) : Provider K :=
  ⟨fun n => answers.getD (min n (answers.length - 1)) (.ok none)⟩

end Provider

/-- **A way to sign requests** with identities of one kind, which keeps nothing between two
calls. What it gives may differ from the request in every part. -/
structure Procedure (K : Type) where
  /-- Signs a request with an identity that may be missing, by a clock and the time on the
  wall. -/
  sign : (clock : Clock) → (wall : Instant) → (request : Request) → (identity : Option K) →
    (mode : Mode) → Except Error Request

/-- **A session**: a clock, a provider and a procedure. -/
structure Session (K : Type) where
  /-- The clock. -/
  clock : Clock
  /-- The source of identities. -/
  provider : Provider K
  /-- How requests are signed. -/
  procedure : Procedure K

namespace Session

variable {K : Type}

/-- **What a session remembers.** -/
structure Cache (K : Type) where
  /-- The identity that was loaded last, if one was. -/
  identity : Option K
  /-- The number of loads so far. -/
  loads : Nat

/-- The memory of a new session. -/
def Cache.empty : Cache K := { identity := none, loads := 0 }

/-- Whether what is remembered is worth trying. -/
def Cache.isValid [Perishable K] (cache : Cache K) (wall : Instant) : Bool :=
  match cache.identity with
  | none => false
  | some identity => Perishable.isValid identity wall

/-- **The identity to sign with**, remembered or loaded. -/
def identity [Perishable K] (session : Session K) (wall : Instant) (cache : Cache K) :
    Except Error (Option K) × Cache K :=
  if cache.isValid wall then (.ok cache.identity, cache)
  else
    match session.provider.load cache.loads with
    | .error e => (.error e, { cache with loads := cache.loads + 1 })
    | .ok identity => (.ok identity, { identity, loads := cache.loads + 1 })

/-- The head of a request, signed with an identity that may be missing. -/
def signHead (session : Session K) (wall : Instant) (head : Http.Head) (body : Body) (mode : Mode)
    (identity : Option K) : Except Error Http.Head := do
  let request ← Request.ofHead head body
  let signed ← session.procedure.sign session.clock wall request identity mode
  signed.head

/-- **Signs the head of a request.** The answer is the head that is to replace it, or an
error, and what the session remembers afterwards. -/
def sign [Perishable K] (session : Session K) (wall : Instant) (head : Http.Head) (body : Body)
    (mode : Mode) (cache : Cache K) : Except Error Http.Head × Cache K :=
  match session.identity wall cache with
  | (.error e, cache) => (.error e, cache)
  | (.ok identity, cache) => (session.signHead wall head body mode identity, cache)

end Session

/-! ### Sessions of a signer -/

namespace RequestSigner

/-- How a signer of requests signs: at the time that the clock shows. -/
def procedure (signer : RequestSigner) : Procedure Identity :=
  ⟨fun clock wall => signer.signWith (clock.now wall)⟩

/-- **A session of a signer.** -/
def session (signer : RequestSigner) (clock : Clock) (provider : Provider Identity) :
    Session Identity :=
  { clock, provider, procedure := signer.procedure }

end RequestSigner

end SigV4
