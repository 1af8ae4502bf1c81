import SigV4.Octets

/-!
# Sources of a body

A body comes from a source that delivers what it likes: fewer octets than were asked
for, none at all, an interruption, a failure. What it will do is a list of events, read
after read, and after the last event it delivers all that is asked for. Failures and
interruptions take nothing away from the data.

To fill a buffer is to go on reading until it is full
(`SigV4.Source.fill`). An interruption is not worth mentioning, an empty read means that
there is nothing left, and a failure ends it. Whatever the events are, what has been
filled in and what is left are the data as they were (`SigV4.Source.fill_append`).
-/

namespace SigV4

/-- **What a source does** when it is read once. -/
inductive ReadEvent where
  /-- It delivers no more than the given number of octets. -/
  | upTo (count : Nat)
  /-- It is interrupted. -/
  | interrupted
  /-- It fails, for a reason. -/
  | failed (reason : String)

/-- **A source**: what it will do, and the octets that it has not delivered yet. -/
structure Source where
  /-- What the source does on the next reads. -/
  events : List ReadEvent
  /-- The octets that are left. -/
  data : Octets

namespace Source

/-- Fills a buffer of the given capacity from the events and the data of a source. -/
def fillFrom : (events : List ReadEvent) → (capacity : Nat) → (data : Octets) →
    Except String Octets × Source
  | [], capacity, data => (.ok (data.take capacity), ⟨[], data.drop capacity⟩)
  | event :: events, capacity, data =>
    if capacity = 0 then (.ok [], ⟨event :: events, data⟩)
    else
      match event with
      | .interrupted => fillFrom events capacity data
      | .failed reason => (.error reason, ⟨events, data⟩)
      | .upTo count =>
        let part := data.take (min count capacity)
        if part = [] then (.ok [], ⟨events, data⟩)
        else
          let (filled, source) :=
            fillFrom events (capacity - part.length) (data.drop (min count capacity))
          (filled.map (part ++ ·), source)

/-- **Fills a buffer** of the given capacity. The answer is what was filled in, or the
reason of a failure, and the source afterwards. -/
def fill (source : Source) (capacity : Nat) : Except String Octets × Source :=
  fillFrom source.events capacity source.data

theorem fillFrom_append {events : List ReadEvent} {capacity : Nat} {data filled : Octets}
    (h : (fillFrom events capacity data).1 = .ok filled) :
    filled ++ (fillFrom events capacity data).2.data = data := by
  induction events generalizing capacity data filled with
  | nil =>
    obtain rfl : data.take capacity = filled := by simpa [fillFrom] using h
    simp [fillFrom]
  | cons event events ih =>
    unfold fillFrom at h ⊢
    split at h
    · next hc => simp_all
    · next hc =>
      rw [if_neg hc]
      cases event with
      | interrupted => exact ih h
      | failed reason => simp at h
      | upTo count =>
        dsimp only at h ⊢
        split at h
        · next hs => simp_all
        · next hs =>
          rw [if_neg hs]
          dsimp only at h ⊢
          cases hr : (fillFrom events (capacity - (data.take (min count capacity)).length)
              (data.drop (min count capacity))).1 with
          | error reason =>
            rw [hr] at h
            cases h
          | ok more =>
            rw [hr] at h
            obtain rfl := Except.ok.inj h
            rw [List.append_assoc, ih hr, List.take_append_drop]

/-- **Nothing is lost and nothing is added**: what was filled in and what is left are the
data as they were. -/
theorem fill_append {source : Source} {capacity : Nat} {filled : Octets}
    (h : (source.fill capacity).1 = .ok filled) :
    filled ++ (source.fill capacity).2.data = source.data :=
  fillFrom_append h

end Source

end SigV4
