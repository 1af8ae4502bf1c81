import SigV4.Octets.Percent

/-!
# Canonical paths

Sender and receiver of a request may have escaped its path differently, and they must
sign the same text. The canonical path is built segment by segment, so that an escaped
slash stays inside its segment. There are two ways to treat a segment, and a service
uses one of them:

* resolve its escapes and escape it again, which makes two spellings of a segment
  equal;
* escape its wire form once more, which keeps the spelling and turns every percent
  sign into `%25`.

Before that the path may be resolved relative to the root
(`SigV4.CanonicalPath.normalize`): empty segments and `.` vanish, and `..` takes the
segment in front of it along. The segments that are left are a stack, and nothing is
below its bottom, so a path cannot climb above the root. A trailing slash is kept.
-/

namespace SigV4

namespace CanonicalPath

/-! ### Dot segments -/

/-- What a segment does to the stack of the segments in front of it, the last one on
top. -/
def visit (stack : List (List Char)) (segment : List Char) : List (List Char) :=
  if segment = [] ∨ segment = ['.'] then stack
  else if segment = ['.', '.'] then stack.tail
  else segment :: stack

/-- **The segments that are left** of a list of segments. -/
def resolve (segments : List (List Char)) : List (List Char) :=
  (segments.foldl visit []).reverse

/-- **A path resolved relative to the root.** -/
def normalize (path : List Char) : List Char :=
  let segments := resolve (path.splitOn '/')
  segments.flatMap ('/' :: ·) ++
    if segments = [] ∨ path.getLast? = some '/' then ['/'] else []

/-! ### Escapes -/

/-- The canonical form of a segment. -/
def encodeSegment (doubleEncode : Bool) (segment : List Char) : List Char :=
  Percent.encode
    (if doubleEncode then segment.flatMap String.utf8EncodeChar else Percent.decode segment)

/-- A path with a slash in front of it, unless it has one. -/
def rooted (path : List Char) : List Char :=
  if path.head? = some '/' then path else '/' :: path

/-- The canonical form of a path, segment by segment. -/
def encode (doubleEncode : Bool) (path : List Char) : List Char :=
  rooted (['/'].intercalate ((path.splitOn '/').map (encodeSegment doubleEncode)))

/-- **The canonical form** of a path as it is on the wire. -/
def ofPath (doubleEncode normalizePath : Bool) (path : String) : String :=
  if path = "" ∨ path = "/" then "/"
  else
    String.ofList
      (encode doubleEncode (if normalizePath then normalize path.toList else path.toList))

end CanonicalPath

end SigV4
