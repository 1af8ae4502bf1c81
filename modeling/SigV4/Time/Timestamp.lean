import SigV4.Error
import SigV4.Text.Blank
import SigV4.Text.Decimal
import SigV4.Time.Instant

/-!
# Times as text

A signature names its time twice, as a date and as a timestamp, and both in the
basic format of ISO 8601, without separators: `20200803` and `20200803T174823Z`.
The date is the timestamp up to its `T`, by the way both are written
(`SigV4.Instant.timestamp`). Years from 0 to 9999 have four digits; the others
have a sign and at least four.

Reading is more liberal than writing. Blanks may stand in front of any number, a
number but the year may have one digit, a year may have fewer than four and, behind
a sign, any number of them. What comes out must be a date of the calendar and a
time of day, and 60 seconds are a leap second in any minute.

A time that is shown to a reader, and to no program, is written in the extended
format, with the fraction of the second if there is one
(`SigV4.Instant.extended`).
-/

namespace SigV4

/-! ### Writing -/

/-- The digits of a year. -/
def Date.yearDigits (year : Int) : List Char :=
  if 0 ≤ year ∧ year ≤ 9999 then Decimal.padded 4 year.toNat
  else (if year < 0 then '-' else '+') :: Decimal.padded 4 year.natAbs

/-- A date in basic format. -/
def Date.basic (d : Date) : List Char :=
  Date.yearDigits d.year ++ Decimal.padded 2 d.month ++ Decimal.padded 2 d.day

namespace Instant

/-- The time of day in basic format. -/
def timeOfDay (t : Instant) : List Char :=
  Decimal.padded 2 t.hour ++ Decimal.padded 2 t.minute ++ Decimal.padded 2 t.second

/-- The date of an instant in basic format. -/
def dateStamp (t : Instant) : String :=
  String.ofList t.date.basic

/-- **The timestamp** of an instant: its date and its time of day in basic
format. -/
def timestamp (t : Instant) : String :=
  String.ofList (t.date.basic ++ 'T' :: t.timeOfDay ++ ['Z'])

/-- The fraction of a second, with three, six or nine digits, or none at all if it
is zero. -/
def fraction (nanos : Nat) : List Char :=
  if nanos = 0 then []
  else if nanos % 1000000 = 0 then '.' :: Decimal.padded 3 (nanos / 1000000)
  else if nanos % 1000 = 0 then '.' :: Decimal.padded 6 (nanos / 1000)
  else '.' :: Decimal.padded 9 nanos

/-- An instant in extended format. -/
def extended (t : Instant) : String :=
  String.ofList
    (Date.yearDigits t.date.year ++ '-' :: Decimal.padded 2 t.date.month ++
      '-' :: Decimal.padded 2 t.date.day ++ 'T' :: Decimal.padded 2 t.hour ++
      ':' :: Decimal.padded 2 t.minute ++ ':' :: Decimal.padded 2 t.second ++
      fraction t.subsecond ++ ['Z'])

/-! ### Reading -/

/-- Reads a number of one or two digits behind blanks. -/
def readPair? (cs : List Char) : Option (Nat × List Char) :=
  Decimal.read? 2 (Blank.skip cs)

/-- Reads a year behind blanks: up to four digits, or a sign and any number of
digits. -/
def readYear? (cs : List Char) : Option (Int × List Char) :=
  match Blank.skip cs with
  | '-' :: cs => (Decimal.read? cs.length cs).map fun (n, rest) => (-n, rest)
  | '+' :: cs => (Decimal.read? cs.length cs).map fun (n, rest) => (n, rest)
  | cs => (Decimal.read? 4 cs).map fun (n, rest) => (n, rest)

/-- The instant of a date and a time of day, if both exist. The second 60 is a leap
second. -/
def ofCivil? (date : Date) (hour minute second : Nat) : Option Instant :=
  if date.IsValid ∧ hour < 24 ∧ minute < 60 ∧ second ≤ 60 then
    let start := date.dayNumber * 86400 + hour * 3600 + minute * 60
    if second = 60 then ofParts? (start + 59) nanosPerSecond else ofParts? (start + second) 0
  else none

/-- **The instant of a timestamp**, if the text is one. -/
def ofTimestamp? (s : String) : Option Instant := do
  let (year, cs) ← readYear? s.toList
  let (month, cs) ← readPair? cs
  let (day, cs) ← readPair? cs
  let 'T' :: cs := cs | none
  let (hour, cs) ← readPair? cs
  let (minute, cs) ← readPair? cs
  let (second, cs) ← readPair? cs
  let ['Z'] := cs | none
  ofCivil? { year, month, day } hour minute second

/-- The instant of a timestamp. -/
def ofTimestamp (s : String) : Except Error Instant :=
  match ofTimestamp? s with
  | some t => .ok t
  | none => .error (.unreadableTime s)

/-- The beginning of a second. -/
def ofSeconds (seconds : Int) : Except Error Instant :=
  match ofParts? seconds 0 with
  | some t => .ok t
  | none => .error (.timeOutOfRange seconds)

end Instant

end SigV4
