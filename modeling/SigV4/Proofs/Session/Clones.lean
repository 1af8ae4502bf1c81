import Mathlib.Logic.Function.Basic
import SigV4.Proofs.Session.InPlace

/-!
# Sessions and their clones

A session may be cloned, and its clones go on side by side. Other than signers of chunks they
do notice each other: a clone is a handle on the same session, with the same cell for the
cache (`SigV4.Session.Handle`), so what one of them has loaded is there for all
(`SigV4.Session.Clones.Consistent`). What a call answers is decided by that cell, the time on
the wall and what is to be signed, and not by the handle that it is made on. What the identities
are has no part in it, nor what the procedure makes of a request: it may fail, or change the
method, or leave a request of which no URI can be made.

The cell holds what the provider gave last, in whatever way the calls went that followed
(`SigV4.Session.lastLoaded`). One call keeps this
(`SigV4.Session.Clones.Shared.call`), since it either leaves the cell alone, or counts a load
that failed, or replaces the identity by the one that was loaded. So every sequence of calls
keeps it (`SigV4.Session.Clones.Shared.calls`).
-/

namespace SigV4

namespace Session

/-- **What a provider gave last** in a number of loads: the answer to the last load that did
not fail. -/
def lastLoaded {K : Type} (provider : Provider K) : (loads : Nat) → Option K
  | 0 => none
  | loads + 1 =>
    match provider.load loads with
    | .ok identity => identity
    | .error _ => lastLoaded provider loads

/-! ### Handles and cells -/

/-- **A handle on a session**: what the session is made of, and the number of the cell with
its cache. -/
structure Handle (K : Type) where
  /-- What the session is made of. -/
  session : Session K
  /-- The number of the cell. -/
  cell : Nat

/-- **A call**, on one of several handles, which go by numbers. -/
inductive Call where
  /-- Clones a handle. The clone is the next handle. -/
  | clone (i : Nat)
  /-- Signs a head. -/
  | sign (i : Nat) (wall : Instant) (head : Http.Head) (body : Body) (mode : Mode)

/-- **What a call answers.** -/
inductive Answer where
  /-- There is a clone. -/
  | cloned
  /-- This is the answer, and this is left of the head. -/
  | signed (answer : Except Error Unit) (head : Http.Head)
  /-- There is no such handle. -/
  | absent

/-- **Handles that stem from one**, and the cells with their caches. -/
structure Clones (K : Type) where
  /-- The handles. -/
  handles : List (Handle K)
  /-- The cells. -/
  cache : Nat → Cache K

namespace Clones

variable {K : Type}

/-- Before the first call there is one handle, and its cell is empty. -/
def start (session : Session K) : Clones K :=
  { handles := [⟨session, 0⟩], cache := fun _ => .empty }

/-- Puts a cache into a cell. -/
def store (clones : Clones K) (cell : Nat) (cache : Cache K) : Clones K :=
  { clones with cache := Function.update clones.cache cell cache }

variable {session : Session K} {clones : Clones K} {i : Nat} {wall : Instant} {head : Http.Head}
  {body : Body} {mode : Mode} {loaded : Option K} {e : Error} {cache : Cache K}

theorem cache_store_self : (clones.store i cache).cache i = cache :=
  Function.update_self _ _ _

theorem store_cache_self : clones.store i (clones.cache i) = clones := by
  rw [store, Function.update_eq_self]

/-! ### Handles on one session -/

/-- **Whether all handles share a session**: each of them has the same cell, and in the cell
is what the provider gave last. -/
structure Shared (session : Session K) (clones : Clones K) : Prop where
  /-- There is a handle. -/
  nonempty : clones.handles ≠ []
  /-- Every handle is the same. -/
  handles : ∀ handle ∈ clones.handles, handle = ⟨session, 0⟩
  /-- What was loaded last is remembered. -/
  cached : (clones.cache 0).identity = lastLoaded session.provider (clones.cache 0).loads

theorem shared_start (session : Session K) : Shared session (start session) :=
  ⟨List.cons_ne_nil _ _, fun _ => List.eq_of_mem_singleton, rfl⟩

theorem Shared.getElem?_handles (h : Shared session clones) (hi : i < clones.handles.length) :
    clones.handles[i]? = some ⟨session, 0⟩ := by
  rw [List.getElem?_eq_getElem hi, h.handles _ (List.getElem_mem hi)]

/-- What is in the cell after a call is what the provider gave last, again. -/
theorem Shared.store (h : Shared session clones)
    (hcache : cache.identity = lastLoaded session.provider cache.loads) :
    Shared session (clones.store 0 cache) := by
  refine ⟨h.nonempty, h.handles, ?_⟩
  rw [cache_store_self]
  exact hcache

/-! ### Calls -/

variable [Perishable K]

/-- **One call**: what it answers, and the handles and cells behind it. -/
def call (clones : Clones K) : Call → Answer × Clones K
  | .clone i =>
    match clones.handles[i]? with
    | none => (.absent, clones)
    | some handle => (.cloned, { clones with handles := clones.handles ++ [handle] })
  | .sign i wall head body mode =>
    match clones.handles[i]? with
    | none => (.absent, clones)
    | some handle =>
      let (answer, memory) := InPlace.run (InPlace.sign handle.session wall body mode)
        { head, cache := clones.cache handle.cell }
      (.signed answer memory.head, clones.store handle.cell memory.cache)

/-- The handles and cells behind a sequence of calls. -/
def calls (clones : Clones K) (calls : List Call) : Clones K :=
  calls.foldl (fun clones call => (clones.call call).2) clones

/-! ### One call -/

namespace Shared

/-- A clone is one more handle on the same session, with the same cell. -/
theorem call_clone (h : Shared session clones) (hi : i < clones.handles.length) :
    clones.call (.clone i) =
      (.cloned, { clones with handles := clones.handles ++ [⟨session, 0⟩] }) := by
  rw [Clones.call, h.getElem?_handles hi]

/-- **A call signs in place**, with the one cell that there is. -/
theorem call_sign (h : Shared session clones) (hi : i < clones.handles.length)
    {answer : Except Error Unit} {head' : Http.Head}
    (hrun : InPlace.run (InPlace.sign session wall body mode) ⟨head, clones.cache 0⟩ =
      (answer, ⟨head', cache⟩)) :
    clones.call (.sign i wall head body mode) =
      (.signed answer head', clones.store 0 cache) := by
  rw [Clones.call, h.getElem?_handles hi]
  dsimp only
  rw [hrun]

theorem call_of_isValid (h : Shared session clones) (hi : i < clones.handles.length)
    (hvalid : (clones.cache 0).isValid wall = true) :
    ∃ answer head',
      Completes session wall head body mode (clones.cache 0).identity answer head' ∧
        clones.call (.sign i wall head body mode) = (.signed answer head', clones) := by
  obtain ⟨answer, head', hcompletes, hrun⟩ :=
    InPlace.run_sign_of_isValid session head body mode hvalid
  have hcall := h.call_sign hi hrun
  rw [store_cache_self] at hcall
  exact ⟨answer, head', hcompletes, hcall⟩

theorem call_of_load (h : Shared session clones) (hi : i < clones.handles.length)
    (hvalid : (clones.cache 0).isValid wall = false)
    (hload : session.provider.load (clones.cache 0).loads = .ok loaded) :
    ∃ answer head', Completes session wall head body mode loaded answer head' ∧
      clones.call (.sign i wall head body mode) =
        (.signed answer head', clones.store 0 ⟨loaded, (clones.cache 0).loads + 1⟩) := by
  obtain ⟨answer, head', hcompletes, hrun⟩ :=
    InPlace.run_sign_of_load session head body mode hvalid hload
  exact ⟨answer, head', hcompletes, h.call_sign hi hrun⟩

theorem call_of_not_load (h : Shared session clones) (hi : i < clones.handles.length)
    (hvalid : (clones.cache 0).isValid wall = false)
    (hload : session.provider.load (clones.cache 0).loads = .error e) :
    clones.call (.sign i wall head body mode) = (.signed (.error e) head,
      clones.store 0 ⟨(clones.cache 0).identity, (clones.cache 0).loads + 1⟩) :=
  h.call_sign hi (InPlace.run_sign_of_not_load session head body mode hvalid hload)

/-- **One call keeps it so.** -/
theorem call (h : Shared session clones) (call : Call) :
    Shared session (clones.call call).2 := by
  cases call with
  | clone i =>
    by_cases hi : i < clones.handles.length
    · rw [h.call_clone hi]
      refine ⟨List.append_ne_nil_of_left_ne_nil h.nonempty _, fun handle hmem => ?_, h.cached⟩
      rcases List.mem_append.mp hmem with hmem | hmem
      · exact h.handles handle hmem
      · exact List.eq_of_mem_singleton hmem
    · rw [Clones.call, List.getElem?_eq_none (Nat.le_of_not_lt hi)]
      exact h
  | sign i wall head body mode =>
    by_cases hi : i < clones.handles.length
    · cases hvalid : (clones.cache 0).isValid wall with
      | true =>
        obtain ⟨answer, head', -, hcall⟩ := h.call_of_isValid hi hvalid
        rw [hcall]
        exact h
      | false =>
        cases hload : session.provider.load (clones.cache 0).loads with
        | error e =>
          rw [h.call_of_not_load hi hvalid hload]
          refine h.store ?_
          rw [lastLoaded, hload]
          exact h.cached
        | ok loaded =>
          obtain ⟨answer, head', -, hcall⟩ := h.call_of_load hi hvalid hload
          rw [hcall]
          refine h.store ?_
          rw [lastLoaded, hload]
    · rw [Clones.call, List.getElem?_eq_none (Nat.le_of_not_lt hi)]
      exact h

/-- **Every sequence of calls** keeps it so. -/
theorem calls (h : Shared session clones) (calls : List Call) :
    Shared session (clones.calls calls) := by
  induction calls generalizing clones with
  | nil => exact h
  | cons call calls ih => exact ih (h.call call)

end Shared

/-! ### What a call answers -/

/-- **What is always true** of handles that stem from one, with whatever is called next. -/
structure Consistent (session : Session K) (clones : Clones K) : Prop where
  /-- There is a handle. -/
  nonempty : clones.handles ≠ []
  /-- All handles are on the same session and have the same cell. -/
  shared : ∀ handle ∈ clones.handles, handle = ⟨session, 0⟩
  /-- In the cell is what the provider gave last, if it ever gave anything. -/
  cached : (clones.cache 0).identity = lastLoaded session.provider (clones.cache 0).loads
  /-- A clone is one more handle, and the cells stay as they are. -/
  cloned : ∀ i < clones.handles.length, clones.call (.clone i) =
    (.cloned, { clones with handles := clones.handles ++ [⟨session, 0⟩] })
  /-- If the identity in the cell is valid, it is signed with, and nothing is loaded. -/
  remembered : ∀ i wall head body mode, i < clones.handles.length →
    (clones.cache 0).isValid wall = true →
    ∃ answer head',
      Completes session wall head body mode (clones.cache 0).identity answer head' ∧
        clones.call (.sign i wall head body mode) = (.signed answer head', clones)
  /-- Otherwise the provider is asked. What it gives is signed with, and is in the cell
  afterwards, however the call ends. -/
  loaded : ∀ i wall head body mode loaded, i < clones.handles.length →
    (clones.cache 0).isValid wall = false →
    session.provider.load (clones.cache 0).loads = .ok loaded →
    ∃ answer head', Completes session wall head body mode loaded answer head' ∧
      clones.call (.sign i wall head body mode) =
        (.signed answer head', clones.store 0 ⟨loaded, (clones.cache 0).loads + 1⟩)
  /-- If the provider fails, its error is the answer, and the cell keeps its identity. -/
  failed : ∀ i wall head body mode e, i < clones.handles.length →
    (clones.cache 0).isValid wall = false →
    session.provider.load (clones.cache 0).loads = .error e →
    clones.call (.sign i wall head body mode) = (.signed (.error e) head,
      clones.store 0 ⟨(clones.cache 0).identity, (clones.cache 0).loads + 1⟩)
  /-- A call signs as the session does, and leaves the head as it is if it fails. -/
  agrees : ∀ i wall head body mode, i < clones.handles.length →
    ∃ answer head' cache, clones.call (.sign i wall head body mode) =
        (.signed answer head', clones.store 0 cache) ∧
      session.sign wall head body mode (clones.cache 0) = (answer.map fun _ => head', cache) ∧
      ∀ e, answer = .error e → head' = head

theorem Shared.consistent (h : Shared session clones) : Consistent session clones := by
  refine ⟨h.nonempty, h.handles, h.cached, fun i hi => h.call_clone hi, ?_, ?_, ?_, ?_⟩
  · intro i wall head body mode hi hvalid
    exact h.call_of_isValid hi hvalid
  · intro i wall head body mode loaded hi hvalid hload
    exact h.call_of_load hi hvalid hload
  · intro i wall head body mode e hi hvalid hload
    exact h.call_of_not_load hi hvalid hload
  · intro i wall head body mode hi
    obtain ⟨answer, head', cache, hrun, hsign, hkept⟩ :=
      InPlace.run_sign session head body mode wall (clones.cache 0)
    exact ⟨answer, head', cache, h.call_sign hi hrun, hsign, hkept⟩

end Clones

/-- **All clones of a session share its cache**, in every sequence of calls, and no call writes
a head by halves, whatever its identities are and whatever its procedure does. -/
theorem consistent_clones {K : Type} [Perishable K] (session : Session K) (calls : List Call) :
    Clones.Consistent session ((Clones.start session).calls calls) :=
  ((Clones.shared_start session).calls calls).consistent

end Session

end SigV4
