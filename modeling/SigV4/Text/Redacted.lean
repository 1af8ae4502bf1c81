/-!
# Redacted secrets

A description of a credential may end up in a log, so a secret is shown by its two
ends at most, three octets each, and only where enough is left unsaid between them.
An end that would cut a character in two is not shown either, and neither is any
part of a short secret. That a secret is missing is no secret.
-/

namespace SigV4

namespace Redacted

/-- The least number of octets of a secret that is shown by its ends. -/
def leastShown : Nat := 12

/-- The characters at the front of a text that make up exactly the given number of
octets, unless a character straddles their end. -/
def front? : List Char → (octets : Nat) → Option (List Char)
  | _, 0 => some []
  | [], _ + 1 => none
  | c :: cs, n + 1 =>
    if c.utf8Size ≤ n + 1 then (front? cs (n + 1 - c.utf8Size)).map (c :: ·) else none

/-- **The redacted form** of a secret. -/
def secret (s : String) : String :=
  if s.utf8ByteSize = 0 then "EMPTY"
  else if s.utf8ByteSize < leastShown then "***"
  else
    match front? s.toList 3, front? s.toList.reverse 3 with
    | some first, some last => String.ofList (first ++ "***".toList ++ last.reverse)
    | _, _ => "***"

/-- The redacted form of a secret that need not be there. -/
def optional (s : Option String) : String := secret (s.getD "")

/-- The redacted form of a private key, of which only the kind is shown. -/
def privateKey (kind : String) : String := "<" ++ kind ++ " private key>"

end Redacted

end SigV4
