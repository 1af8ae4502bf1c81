import SigV4.Session.InPlace

/-!
# What signing in place does to the memory

Once there is an identity to sign with, there are four ways to end
(`SigV4.Session.Completes`): the head cannot be taken apart, the request cannot be signed, what
was signed makes no URI, or the head is written. Only the last one writes anything, and then
all of it; the cache has no part in it (`SigV4.Session.InPlace.exists_run_signHead`).

Where the identity comes from is told apart from that: it is the one in the cache, or the one that
was loaded, or there is none since the provider failed. So a whole call is one of three cases
(`SigV4.Session.InPlace.run_sign_of_isValid`, `SigV4.Session.InPlace.run_sign_of_load`,
`SigV4.Session.InPlace.run_sign_of_not_load`), and in each of them it comes to what a session
answers that has no memory to write to (`SigV4.Session.InPlace.run_sign`).
-/

namespace SigV4

namespace Session

/-- **How a call ends** once there is an identity to sign with: its answer, and the head that
it leaves. -/
inductive Completes {K : Type} (session : Session K) (wall : Instant) (head : Http.Head)
    (body : Body) (mode : Mode) (identity : Option K) : Except Error Unit → Http.Head → Prop where
  /-- The head is no request. -/
  | unbuilt {e : Error} (h : Request.ofHead head body = .error e) :
    Completes session wall head body mode identity (.error e) head
  /-- The request is not signed. -/
  | unsigned {request : Request} {e : Error} (hrequest : Request.ofHead head body = .ok request)
    (h : session.procedure.sign session.clock wall request identity mode = .error e) :
    Completes session wall head body mode identity (.error e) head
  /-- What was signed has no URI. -/
  | unwritten {request signed : Request} {e : Error}
    (hrequest : Request.ofHead head body = .ok request)
    (hsigned : session.procedure.sign session.clock wall request identity mode = .ok signed)
    (h : signed.uri = .error e) :
    Completes session wall head body mode identity (.error e) head
  /-- What was signed is written over the head. -/
  | written {request signed : Request} {uri : Http.Uri}
    (hrequest : Request.ofHead head body = .ok request)
    (hsigned : session.procedure.sign session.clock wall request identity mode = .ok signed)
    (h : signed.uri = .ok uri) :
    Completes session wall head body mode identity (.ok ())
      { method := signed.method, uri, fields := signed.fields }

namespace Completes

variable {K : Type} {session : Session K} {wall : Instant} {head head' : Http.Head} {body : Body}
  {mode : Mode} {identity : Option K} {answer : Except Error Unit} {e : Error}

/-- **A call that fails leaves the head as it is.** -/
theorem head_eq_of_error (h : Completes session wall head body mode identity (.error e) head') :
    head' = head := by
  cases h <;> rfl

/-- The head that is left by a call that succeeds is the one that a session answers with. -/
theorem signHead_eq (h : Completes session wall head body mode identity answer head') :
    session.signHead wall head body mode identity = answer.map fun _ => head' := by
  rw [signHead]
  cases h with
  | unbuilt hrequest =>
    rw [hrequest]
    rfl
  | unsigned hrequest hsigned =>
    rw [hrequest]
    exact congrArg (· >>= Request.head) hsigned
  | unwritten hrequest hsigned huri =>
    rw [hrequest]
    refine (congrArg (· >>= Request.head) hsigned).trans ?_
    exact congrArg (Except.map _) huri
  | written hrequest hsigned huri =>
    rw [hrequest]
    refine (congrArg (· >>= Request.head) hsigned).trans ?_
    exact congrArg (Except.map _) huri

end Completes

namespace InPlace

open SigV4.InPlace (run run_get run_lift_of_eq run_bind_of_ok run_bind_of_error)

variable {K : Type} {session : Session K} {wall : Instant} {memory : Memory K}
  {loaded : Option K} {e : Error}

/-! ### The head -/

theorem run_apply_of_uri {request : Request} {uri : Http.Uri} (h : request.uri = .ok uri) :
    run (apply request) memory =
      (.ok (), { memory with head := ⟨request.method, uri, request.fields⟩ }) := by
  rw [apply, run_bind_of_ok (run_lift_of_eq h)]
  rfl

/-- **Nothing is written** before there is a URI. -/
theorem run_apply_of_not_uri {request : Request} (h : request.uri = .error e) :
    run (apply request) memory = (.error e, memory) :=
  run_bind_of_error (run_lift_of_eq h)

/-- **With an identity, signing ends** in one of its ways, and leaves the cache alone. -/
theorem exists_run_signHead (session : Session K) (wall : Instant) (body : Body) (mode : Mode)
    (identity : Option K) (memory : Memory K) :
    ∃ answer head, Completes session wall memory.head body mode identity answer head ∧
      run (signHead session wall body mode identity) memory = (answer, { memory with head }) := by
  rw [signHead, run_bind_of_ok (run_get memory)]
  cases hrequest : Request.ofHead memory.head body with
  | error e => exact ⟨_, _, .unbuilt hrequest, run_bind_of_error (run_lift_of_eq rfl)⟩
  | ok request =>
    rw [run_bind_of_ok (run_lift_of_eq rfl)]
    cases hsigned : session.procedure.sign session.clock wall request identity mode with
    | error e =>
      exact ⟨_, _, .unsigned hrequest hsigned, run_bind_of_error (run_lift_of_eq rfl)⟩
    | ok signed =>
      rw [run_bind_of_ok (run_lift_of_eq rfl)]
      cases huri : signed.uri with
      | error e =>
        exact ⟨_, _, .unwritten hrequest hsigned huri, run_apply_of_not_uri huri⟩
      | ok uri => exact ⟨_, _, .written hrequest hsigned huri, run_apply_of_uri huri⟩

/-! ### The identity -/

theorem run_load (provider : Provider K) (memory : Memory K) :
    run (load provider) memory =
      (provider.load memory.cache.loads,
        { memory with cache := { memory.cache with loads := memory.cache.loads + 1 } }) := rfl

variable [Perishable K]

/-- **What is remembered** is signed with if it is worth trying, and nothing is loaded. -/
theorem run_identity_of_isValid (h : memory.cache.isValid wall = true) :
    run (identity session wall) memory = (.ok memory.cache.identity, memory) := by
  rw [identity, run_bind_of_ok (run_get memory), if_pos h]
  rfl

/-- **What was loaded** is signed with and remembered, whatever it is. -/
theorem run_identity_of_load (h : memory.cache.isValid wall = false)
    (hload : session.provider.load memory.cache.loads = .ok loaded) :
    run (identity session wall) memory =
      (.ok loaded, { memory with cache := ⟨loaded, memory.cache.loads + 1⟩ }) := by
  have hrun := run_load session.provider memory
  rw [hload] at hrun
  rw [identity, run_bind_of_ok (run_get memory), if_neg (ne_true_of_eq_false h),
    run_bind_of_ok hrun]
  rfl

/-- **A load that fails** is counted, and changes nothing else. -/
theorem run_identity_of_not_load (h : memory.cache.isValid wall = false)
    (hload : session.provider.load memory.cache.loads = .error e) :
    run (identity session wall) memory = (.error e,
      { memory with cache := { memory.cache with loads := memory.cache.loads + 1 } }) := by
  have hrun := run_load session.provider memory
  rw [hload] at hrun
  rw [identity, run_bind_of_ok (run_get memory), if_neg (ne_true_of_eq_false h)]
  exact run_bind_of_error hrun

/-! ### The whole call -/

variable {cache : Cache K}

section

variable (session : Session K) (head : Http.Head) (body : Body) (mode : Mode)

/-- **With a valid identity in the cache** nothing is loaded, and the cache stays as it is. -/
theorem run_sign_of_isValid (h : cache.isValid wall = true) :
    ∃ answer head', Completes session wall head body mode cache.identity answer head' ∧
      run (sign session wall body mode) ⟨head, cache⟩ = (answer, ⟨head', cache⟩) := by
  have hidentity : run (identity session wall) ⟨head, cache⟩ =
      (.ok cache.identity, ⟨head, cache⟩) := run_identity_of_isValid h
  obtain ⟨answer, head', hcompletes, hrun⟩ :=
    exists_run_signHead session wall body mode cache.identity ⟨head, cache⟩
  exact ⟨answer, head', hcompletes, (run_bind_of_ok hidentity).trans hrun⟩

/-- **With what was loaded** the call goes on, and the cache has it, however the call ends. -/
theorem run_sign_of_load (h : cache.isValid wall = false)
    (hload : session.provider.load cache.loads = .ok loaded) :
    ∃ answer head', Completes session wall head body mode loaded answer head' ∧
      run (sign session wall body mode) ⟨head, cache⟩ =
        (answer, ⟨head', ⟨loaded, cache.loads + 1⟩⟩) := by
  have hidentity : run (identity session wall) ⟨head, cache⟩ =
      (.ok loaded, ⟨head, ⟨loaded, cache.loads + 1⟩⟩) := run_identity_of_load h hload
  obtain ⟨answer, head', hcompletes, hrun⟩ :=
    exists_run_signHead session wall body mode loaded ⟨head, ⟨loaded, cache.loads + 1⟩⟩
  exact ⟨answer, head', hcompletes, (run_bind_of_ok hidentity).trans hrun⟩

/-- **A load that fails** ends the call. The cache keeps its identity. -/
theorem run_sign_of_not_load (h : cache.isValid wall = false)
    (hload : session.provider.load cache.loads = .error e) :
    run (sign session wall body mode) ⟨head, cache⟩ =
      (.error e, ⟨head, ⟨cache.identity, cache.loads + 1⟩⟩) := by
  have hidentity : run (identity session wall) ⟨head, cache⟩ =
      (.error e, ⟨head, ⟨cache.identity, cache.loads + 1⟩⟩) := run_identity_of_not_load h hload
  exact run_bind_of_error hidentity

/-- **Signing in place is signing**: the answer, the head that is left, and the cache are those
of the session. -/
theorem run_sign (wall : Instant) (cache : Cache K) :
    ∃ answer head' cache',
      run (sign session wall body mode) ⟨head, cache⟩ = (answer, ⟨head', cache'⟩) ∧
        session.sign wall head body mode cache = (answer.map fun _ => head', cache') ∧
        ∀ e, answer = .error e → head' = head := by
  rw [Session.sign, Session.identity]
  cases hvalid : cache.isValid wall with
  | true =>
    obtain ⟨answer, head', hcompletes, hrun⟩ := run_sign_of_isValid session head body mode hvalid
    refine ⟨answer, head', cache, hrun, ?_, ?_⟩
    · exact congrArg (·, cache) hcompletes.signHead_eq
    · rintro e rfl
      exact hcompletes.head_eq_of_error
  | false =>
    cases hload : session.provider.load cache.loads with
    | error e =>
      have hrun := run_sign_of_not_load session head body mode hvalid hload
      exact ⟨_, _, _, hrun, rfl, fun _ _ => rfl⟩
    | ok loaded =>
      obtain ⟨answer, head', hcompletes, hrun⟩ :=
        run_sign_of_load session head body mode hvalid hload
      refine ⟨answer, head', _, hrun, ?_, ?_⟩
      · exact congrArg (·, _) hcompletes.signHead_eq
      · rintro e rfl
        exact hcompletes.head_eq_of_error

end

end InPlace

end Session

end SigV4
