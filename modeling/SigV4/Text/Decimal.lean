/-!
# Decimal numbers of a given width

Dates and times are written with a fixed number of digits, a year with at least
four. Reading takes the digits that are there, as many as it is allowed, and the
rest of the text is handed on.
-/

namespace SigV4

namespace Decimal

/-- The digits of a number, filled up with zeros to at least `width` digits. -/
def padded (width n : Nat) : List Char :=
  let digits := Nat.toDigits 10 n
  List.replicate (width - digits.length) '0' ++ digits

/-- The number that decimal digits write. -/
def value (digits : List Char) : Nat := Nat.ofDigitChars 10 digits 0

/-- **Reads a number**: as many digits as there are at the front of the text, at
most `limit` of them and at least one. The answer is the number and what follows
it. -/
def read? (limit : Nat) (cs : List Char) : Option (Nat × List Char) :=
  match (cs.take limit).takeWhile Char.isDigit with
  | [] => none
  | d :: ds => some (value (d :: ds), cs.drop (d :: ds).length)

/-- Nothing but digits is in a number. -/
theorem isDigit_of_mem_padded {width n : Nat} {c : Char} (h : c ∈ padded width n) :
    c.isDigit = true := by
  rw [padded, List.mem_append] at h
  rcases h with hzero | hdigit
  · rw [List.eq_of_mem_replicate hzero]
    decide
  · exact Nat.isDigit_of_mem_toDigits (by decide) (by decide) hdigit

/-- Filling up with zeros does not change the number. -/
theorem value_padded (width n : Nat) : value (padded width n) = n := by
  simp [value, padded, Nat.ofDigitChars_append, Nat.ofDigitChars_ten_toDigits]

end Decimal

end SigV4
