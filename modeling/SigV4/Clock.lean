import SigV4.Text.Outline
import SigV4.Time.Timestamp

/-!
# Clocks

The time of a signature comes from a clock, either the one on the wall or one that
stands still, for signing ahead of time and for examples. The wall clock is read to
the second, since a signature names no fraction. Reading the wall is not the business
of this library: whoever does it passes the time in.
-/

namespace SigV4

/-- **A clock.** -/
inductive Clock where
  /-- The clock on the wall. -/
  | system
  /-- A clock that stands still. -/
  | fixed (time : Instant)

namespace Clock

/-- **The time that a clock shows**, given the time on the wall. -/
def now (clock : Clock) (wall : Instant) : Instant :=
  match clock with
  | .system => wall.truncate
  | .fixed time => time

/-- The outline of what a signer knows about its surroundings: its clock. -/
def outline (clock : Clock) : Outline :=
  { name := "Context"
    fields := [("clock",
      match clock with
      | .system => .plain "SystemClock"
      | .fixed time => .within "FixedClock" time.extended)] }

end Clock

end SigV4
