import SigV4.Octets

/-!
# Reading UTF-8 with replacement

The octets of a query are whatever the other side escaped, and they need not be
UTF-8. A query parameter is a text all the same, so what cannot be read is
replaced: every maximal run of octets that begins a character and does not
complete it becomes one replacement character U+FFFD, and so does every octet
that begins no character. Reading goes on at the first octet that did not fit.

The bounds on the second octet of a character (`SigV4.Unicode.Lead`) are what
rules out overlong forms, surrogates and values above U+10FFFF, so the value
collected by `SigV4.Unicode.continuation` is always that of a character.
-/

namespace SigV4

namespace Unicode

/-- **What the first octet of a character promises**: the bits of the value that
it carries itself, how many octets follow, and the bounds on the first of
those. -/
structure Lead where
  /-- The bits carried by the first octet. -/
  bits : Nat
  /-- The number of octets that follow. -/
  count : Nat
  /-- The least value of the second octet. -/
  low : UInt8 := 0x80
  /-- The greatest value of the second octet. -/
  high : UInt8 := 0xBF

/-- The character that an octet begins, if it begins one. -/
def lead? (b : UInt8) : Option Lead :=
  if b ≤ 0x7F then some { bits := b.toNat, count := 0 }
  else if b < 0xC2 then none
  else if b ≤ 0xDF then some { bits := b.toNat - 0xC0, count := 1 }
  else if b = 0xE0 then some { bits := 0, count := 2, low := 0xA0 }
  else if b = 0xED then some { bits := 0xD, count := 2, high := 0x9F }
  else if b ≤ 0xEF then some { bits := b.toNat - 0xE0, count := 2 }
  else if b = 0xF0 then some { bits := 0, count := 3, low := 0x90 }
  else if b ≤ 0xF3 then some { bits := b.toNat - 0xF0, count := 3 }
  else if b = 0xF4 then some { bits := 4, count := 3, high := 0x8F }
  else none

/-- Collects `count` further octets, the first of them between `low` and `high`,
into the value begun by `bits`. The answer is the value, or nothing where an octet
does not fit, and the octets that are left. -/
def continuation (bits : Nat) (low high : UInt8) : (count : Nat) → Octets → Option Nat × Octets
  | 0, bs => (some bits, bs)
  | _ + 1, [] => (none, [])
  | count + 1, b :: bs =>
    if low ≤ b ∧ b ≤ high then continuation (bits * 64 + b.toNat % 64) 0x80 0xBF count bs
    else (none, b :: bs)

theorem length_continuation_le (bits : Nat) (low high : UInt8) (count : Nat) (bs : Octets) :
    (continuation bits low high count bs).2.length ≤ bs.length := by
  induction count generalizing bits low high bs with
  | zero => simp [continuation]
  | succ count ih =>
    cases bs with
    | nil => simp [continuation]
    | cons b bs =>
      rw [continuation]
      split
      · exact Nat.le_succ_of_le (ih ..)
      · exact Nat.le_refl _

/-- The character that stands for octets that are no UTF-8. -/
def replacement : Char := '\uFFFD'

/-- **The characters of a list of octets**, with one replacement character for
each run that is no UTF-8. -/
def decode : Octets → List Char
  | [] => []
  | b :: bs =>
    match lead? b with
    | none => replacement :: decode bs
    | some lead =>
      let next := continuation lead.bits lead.low lead.high lead.count bs
      (next.1.map Char.ofNat).getD replacement :: decode next.2
termination_by bs => bs.length
decreasing_by
  · simp
  · have := length_continuation_le lead.bits lead.low lead.high lead.count bs
    simp only [List.length_cons]
    omega

/-- The text of a list of octets, with replacement. -/
def decodeText (bs : Octets) : String :=
  String.ofList (decode bs)

end Unicode

end SigV4
