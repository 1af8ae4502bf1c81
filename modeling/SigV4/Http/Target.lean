import SigV4.Http.Fault

/-!
# Paths and queries

The piece of a URI behind its authority: a path, and a query behind the first `?`.
What stands behind a `#` is cut off and not looked at. A path starts with a slash,
or is a lone `*`, or is missing altogether; which characters it may hold is more
liberal than the standard, since there are clients that send quotes and braces
unescaped, and everything above the ASCII range.

Both pieces are valid by their type, so a URI that was put together is one that can
be read again.
-/

namespace SigV4

namespace Http

/-- The most octets of a URI, and of its path and query. -/
def longestUri : Nat := 65534

/-- Whether a character is visible ASCII, or beyond ASCII. -/
def isVisible (c : Char) : Bool :=
  ('\x20' < c && c < '\x7F') || '\x80' ≤ c

/-- Whether a character may stand in a path. -/
def isPathChar (c : Char) : Bool :=
  isVisible c && !"#<>?\x60".toList.contains c

/-- Whether a character may stand in a query. -/
def isQueryChar (c : Char) : Bool :=
  isVisible c && !"\"#<>".toList.contains c

/-- Whether a list of characters is a path: nothing, a lone asterisk, or something
that starts with a slash. -/
def isPath : List Char → Bool
  | [] => true
  | ['*'] => true
  | '/' :: cs => cs.all isPathChar
  | _ => false

/-- **A path and a query.** -/
structure Target where
  /-- The path. -/
  path : String
  /-- The query, without its question mark. -/
  query : Option String
  /-- The path is one. -/
  isPath_path : isPath path.toList = true
  /-- The query is made of query characters. -/
  isQueryChar_query : (query.getD "").toList.all isQueryChar = true
deriving DecidableEq

namespace Target

/-- No path and no query. -/
def empty : Target := ⟨"", none, by decide, by decide⟩

/-- A path and a query from their characters. -/
def ofPieces (path : List Char) (query : Option (List Char)) : Except Fault Target :=
  if hp : isPath (String.ofList path).toList = true then
    if hq : ((query.map String.ofList).getD "").toList.all isQueryChar = true then
      .ok ⟨String.ofList path, query.map String.ofList, hp, hq⟩
    else .error .uriCharacter
  else .error .uriCharacter

/-- Whether the first character may begin a path and query. -/
def startsWell : List Char → Bool
  | c :: _ => c == '/' || c == '?' || c == '#'
  | [] => false

/-- **The path and query** of a list of characters. -/
def ofChars (cs : List Char) : Except Fault Target :=
  if cs = [] then .error .emptyUri
  else if longestUri < (String.ofList cs).utf8ByteSize then .error .longUri
  else if cs = ['*'] then ofPieces cs none
  else if !startsWell cs then .error .pathStart
  else
    let path := cs.takeWhile fun c => c != '?' && c != '#'
    match cs.drop path.length with
    | '?' :: rest => ofPieces path (some (rest.takeWhile (· != '#')))
    | _ => ofPieces path none

/-- The path and query of a text. -/
def ofText (s : String) : Except Fault Target :=
  ofChars s.toList

end Target

end Http

end SigV4
