import SigV4.Error
import SigV4.Time.Instant

/-!
# Where a signature goes

A signature is either put into the fields of a request, which is then to be sent at
once, or into its query, which makes a link that anyone may follow for a while. The
lifetime of a link is given as a duration, or as the instant at which it ends, and it is
written into the link in whole seconds: at least one, at most a week.

A duration is counted in words of 64 bits, and the check reads them as signed, so that
absurdly long durations are refused with a negative number.
-/

namespace SigV4

/-- **A duration**: whole seconds, and nanoseconds below one second. -/
structure Duration where
  /-- The whole seconds. -/
  seconds : UInt64
  /-- The nanoseconds. -/
  nanos : Nat
  /-- The nanoseconds make no second. -/
  nanos_lt : nanos < nanosPerSecond

/-- The duration of seconds and any number of nanoseconds, unless there are too many
seconds. -/
def Duration.ofParts? (seconds nanos : Nat) : Option Duration :=
  if seconds + nanos / nanosPerSecond < UInt64.size then
    some ⟨UInt64.ofNat (seconds + nanos / nanosPerSecond), nanos % nanosPerSecond,
      Nat.mod_lt _ (by decide)⟩
  else none

/-- **Where a signature goes.** -/
inductive Mode where
  /-- Into the fields. -/
  | fields
  /-- Into the query, for a duration. -/
  | query (lifetime : Duration)
  /-- Into the query, until an instant. -/
  | queryUntil (stop : Instant)

namespace Mode

/-- Whether the signature goes into the query. -/
def isQuery : Mode → Bool
  | .fields => false
  | .query _ | .queryUntil _ => true

/-- Checks a lifetime in seconds. -/
def checkLifetime (seconds : Int) : Except Error Nat :=
  if 1 ≤ seconds ∧ seconds ≤ Error.longestLifetime then .ok seconds.toNat
  else .error (.lifetime seconds)

/-- **The lifetime** of a link in seconds, or nothing where there is no link. -/
def lifetime (mode : Mode) (now : Instant) : Except Error (Option Nat) :=
  match mode with
  | .fields => .ok none
  | .query d => (checkLifetime d.seconds.toInt64.toInt).map some
  | .queryUntil stop => (checkLifetime (stop.secondsSince now)).map some

end Mode

end SigV4
