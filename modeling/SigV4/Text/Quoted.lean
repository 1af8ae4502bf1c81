import SigV4.Text.Unprintable

/-!
# Quoted texts

A text inside an outline is quoted, so that a reader sees where it ends and what is
in it. Quotes, backslashes and the common controls have escapes of two characters,
and every other character that does not show is written by its code point in
hexadecimal.
-/

namespace SigV4

namespace Quoted

/-- The written form of one character. -/
def escape (c : Char) : List Char :=
  if c = '\x00' then ['\\', '0']
  else if c = '\t' then ['\\', 't']
  else if c = '\r' then ['\\', 'r']
  else if c = '\n' then ['\\', 'n']
  else if c = '"' then ['\\', '"']
  else if c = '\\' then ['\\', '\\']
  else if Unprintable.isUnprintable c then
    ['\\', 'u', '\x7b'] ++ Nat.toDigits 16 c.toNat ++ ['\x7d']
  else [c]

/-- **The quoted form** of a text. -/
def quote (s : String) : String :=
  String.ofList ('"' :: s.toList.flatMap escape ++ ['"'])

end Quoted

end SigV4
