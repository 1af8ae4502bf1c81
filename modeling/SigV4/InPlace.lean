import SigV4.Error

/-!
# Computations that write in place

Where a value goes in and another one comes out, a caller may have one place for both, and
others may look at it. A computation in place (`SigV4.InPlace`) goes through steps that read
and write a memory. Each of them can fail. Then the computation ends, and nothing is taken
back of what was written before.

So a step that fails has to be followed with the memory that it leaves, as one that succeeds
(`SigV4.InPlace.run_bind_of_error`, `SigV4.InPlace.run_bind_of_ok`). That a failure leaves
the memory as it was is a matter of the order of the steps, and has to be proved.
-/

namespace SigV4

/-- **A computation in a memory.** What it has written stays when it fails. -/
abbrev InPlace (σ : Type) := ExceptT Error (StateM σ)

namespace InPlace

variable {σ α β : Type} {memory memory' : σ} {e : Error}

/-- Runs a computation: its answer, and the memory behind it. -/
def run (x : InPlace σ α) (memory : σ) : Except Error α × σ :=
  StateT.run (ExceptT.run x) memory

/-- A step that leaves the memory alone. -/
def lift (x : Except Error α) : InPlace σ α := ExceptT.mk (pure x)

theorem run_get (memory : σ) : run (get : InPlace σ σ) memory = (.ok memory, memory) := rfl

theorem run_lift_of_eq {x outcome : Except Error α} (h : x = outcome) :
    run (lift x) memory = (outcome, memory) := by
  rw [h]
  rfl

/-- A step that succeeds hands on its answer and its memory. -/
theorem run_bind_of_ok {x : InPlace σ α} {f : α → InPlace σ β} {a : α}
    (h : run x memory = (.ok a, memory')) : run (x >>= f) memory = run (f a) memory' := by
  rw [run] at h
  rw [run, ExceptT.run_bind, StateT.run_bind, h]
  rfl

/-- A step that fails ends the computation, and what was written stays. -/
theorem run_bind_of_error {x : InPlace σ α} {f : α → InPlace σ β}
    (h : run x memory = (.error e, memory')) : run (x >>= f) memory = (.error e, memory') := by
  rw [run] at h
  rw [run, ExceptT.run_bind, StateT.run_bind, h]
  rfl

end InPlace

end SigV4
