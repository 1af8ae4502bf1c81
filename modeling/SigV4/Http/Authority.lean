import SigV4.Http.Fault

/-!
# Schemes and authorities

The two pieces of a URI in front of its path. A scheme is a short word; `http` and
`https` are recognized in any case and kept in lower case, and every other scheme is
kept as it was given.

An authority is a host, perhaps with user information in front of an `@` and a number
behind a `:`. It is read from left to right with a little memory
(`SigV4.Http.Authority.Scan`): colons are counted, since a host may have one number
only, and so are the brackets of a literal address, inside which colons are free. A
percent sign is good in user information and in a literal address only. At an `@`,
and at the closing bracket, what came before turns out to have been harmless and is
forgotten.
-/

namespace SigV4

namespace Http

/-! ### Schemes -/

/-- Whether a character may stand in a scheme. -/
def isSchemeChar (c : Char) : Bool :=
  c.isAlphanum || c == '+' || c == '-' || c == '.' || c == '~'

/-- The most characters of a scheme. -/
def longestScheme : Nat := 64

/-- **A scheme.** -/
structure Scheme where
  /-- The name of the scheme. -/
  text : String
  /-- The name is made of scheme characters. -/
  isSchemeChar_text : text.toList.all isSchemeChar = true
deriving DecidableEq

namespace Scheme

/-- The scheme of unprotected requests, and the one that is assumed. -/
def http : Scheme := ⟨"http", by decide⟩

/-- The scheme of requests over TLS. -/
def https : Scheme := ⟨"https", by decide⟩

/-- The scheme of a list of characters. -/
def ofChars (cs : List Char) : Except Fault Scheme :=
  if longestScheme < cs.length then .error .longScheme
  else if h : (String.ofList cs).toList.all isSchemeChar = true then .ok ⟨String.ofList cs, h⟩
  else .error .scheme

end Scheme

/-! ### Authorities -/

/-- Whether a character ends an authority. -/
def endsAuthority (c : Char) : Bool :=
  c == '/' || c == '?' || c == '#'

/-- Whether a character may stand in an authority. -/
def isAuthorityChar (c : Char) : Bool :=
  c.isAlphanum || "!$&'()*+,-.:;=@[]_~%".toList.contains c

namespace Authority

/-- **What is remembered** while an authority is read. -/
structure Scan where
  /-- The colons since the beginning, an `@` or a `]`. -/
  colons : Nat := 0
  /-- Whether a `[` has been read. -/
  opened : Bool := false
  /-- Whether a `]` has been read. -/
  closed : Bool := false
  /-- Whether a `%` has been read since the beginning, an `@` or a `]`. -/
  percent : Bool := false
  /-- Whether the last character was an `@`. -/
  afterAt : Bool := false

namespace Scan

/-- The most colons that may be counted: those of a literal address. -/
def mostColons : Nat := 8

/-- Reads one character. -/
def step (s : Scan) (c : Char) : Except Fault Scan :=
  let s := { s with afterAt := c == '@' }
  if !isAuthorityChar c then .error .uriCharacter
  else if c = ':' then
    if mostColons ≤ s.colons then .error .authority else .ok { s with colons := s.colons + 1 }
  else if c = '[' then
    if s.percent || s.opened then .error .authority else .ok { s with opened := true }
  else if c = ']' then
    if !s.opened || s.closed then .error .authority
    else .ok { s with closed := true, colons := 0, percent := false }
  else if c = '@' then .ok { s with colons := 0, percent := false }
  else if c = '%' then .ok { s with percent := true }
  else .ok s

/-- Checks what is remembered at the end: brackets that match, one colon at most, a
host behind the user information, and no percent sign in the host. -/
def finish (s : Scan) : Except Fault Unit :=
  if s.opened != s.closed || 1 < s.colons || s.afterAt || s.percent then .error .authority
  else .ok ()

end Scan

/-- Whether a list of characters can be read as an authority, and if not, why. -/
def check (cs : List Char) : Except Fault Unit := do
  (← cs.foldlM Scan.step {}).finish

end Authority

/-- **An authority.** -/
structure Authority where
  /-- The text of the authority. -/
  text : String
  /-- The text can be read as an authority. -/
  check_text : Authority.check text.toList = .ok ()
  /-- The text is not empty. -/
  text_ne_nil : text.toList ≠ []
deriving DecidableEq

namespace Authority

/-- The authority of a list of characters that none of them ends. -/
def ofChars (cs : List Char) : Except Fault Authority :=
  match h : check (String.ofList cs).toList with
  | .error fault => .error fault
  | .ok () =>
    if hne : (String.ofList cs).toList ≠ [] then .ok ⟨String.ofList cs, h, hne⟩
    else .error .emptyUri

/-- The authority of a text. -/
def ofText (s : String) : Except Fault Authority :=
  ofChars s.toList

end Authority

end Http

end SigV4
