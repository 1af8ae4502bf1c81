/-!
# Blank characters

The characters with the Unicode property *White_Space*. A reader of numbers skips
them, whatever the script they come from; the ASCII ones alone would not do.
-/

namespace SigV4

namespace Blank

/-- The blank characters, in order. -/
def table : List Char :=
  ['\u0009', '\u000A', '\u000B', '\u000C', '\u000D', '\u0020', '\u0085', '\u00A0', '\u1680',
   '\u2000', '\u2001', '\u2002', '\u2003', '\u2004', '\u2005', '\u2006', '\u2007', '\u2008',
   '\u2009', '\u200A', '\u2028', '\u2029', '\u202F', '\u205F', '\u3000']

/-- Whether a character is blank. -/
def isBlank (c : Char) : Bool := table.contains c

/-- What stands after the leading blanks of a text. -/
def skip (cs : List Char) : List Char := cs.dropWhile isBlank

/-- A text without its leading and trailing blanks. -/
def trim (cs : List Char) : List Char := (skip (skip cs).reverse).reverse

end Blank

end SigV4
