import SigV4.Http.Authority
import SigV4.Http.Target

/-!
# URIs

The target of a request in one of three forms: a path alone, an authority alone, or
all of scheme, authority and path. A scheme is one only if `://` follows it; what
looks like a scheme and has a single colon is a host with a number.

A missing path is shown, and read, as `/` wherever there is something that it could
be the path of (`SigV4.Http.Uri.path`).
-/

namespace SigV4

namespace Http

/-- **A URI.** -/
structure Uri where
  /-- The scheme. -/
  scheme : Option Scheme
  /-- The authority. -/
  authority : Option Authority
  /-- The path and the query. -/
  target : Target
deriving DecidableEq

namespace Uri

/-! ### Putting together -/

/-- **A URI from its pieces.** A scheme needs an authority and a path, and an
authority with a path needs a scheme. -/
def ofPieces : Option Scheme → Option Authority → Option Target → Except Fault Uri
  | some _, none, _ => .error .authorityMissing
  | some _, some _, none => .error .pathMissing
  | none, some _, some _ => .error .schemeMissing
  | scheme, authority, target => .ok ⟨scheme, authority, target.getD .empty⟩

/-- The path of a URI. -/
def path (uri : Uri) : String :=
  if uri.target.path = "" then
    if uri.scheme.isNone && uri.target.query.isNone then "" else "/"
  else uri.target.path

/-- **The text of a URI.** -/
def text (uri : Uri) : String :=
  (match uri.scheme with
    | some scheme => scheme.text ++ "://"
    | none => "") ++
  (match uri.authority with
    | some authority => authority.text
    | none => "") ++
  uri.path ++
  (match uri.target.query with
    | some query => "?" ++ query
    | none => "")

/-! ### Taking apart -/

/-- Removes a front that is given in lower case from a list of characters of any
case. -/
def dropFront? (front : List Char) (cs : List Char) : Option (List Char) :=
  if (cs.take front.length).map Char.toLower = front then some (cs.drop front.length) else none

/-- **The scheme at the front** of a URI, if there is one, and what follows it. A bare
`://` is none. -/
def splitScheme (cs : List Char) : Except Fault (Option Scheme × List Char) :=
  if cs.length ≤ 3 then .ok (none, cs) else
  match dropFront? "http://".toList cs, dropFront? "https://".toList cs with
  | some rest, _ => .ok (some .http, rest)
  | none, some rest => .ok (some .https, rest)
  | none, none =>
    let word := cs.takeWhile isSchemeChar
    match cs.drop word.length with
    | ':' :: '/' :: '/' :: rest => (Scheme.ofChars word).map fun scheme => (some scheme, rest)
    | _ => .ok (none, cs)

/-- The URI of a list of characters that starts with no slash. -/
def ofSchemeOrAuthority (cs : List Char) : Except Fault Uri := do
  let (scheme, cs) ← splitScheme cs
  if cs = [] then throw .emptyUri
  let front := cs.takeWhile (!endsAuthority ·)
  let rest := cs.drop front.length
  Authority.check front
  match scheme with
  | none =>
    if rest = [] then .ok ⟨none, some (← Authority.ofChars front), .empty⟩ else .error .uriFormat
  | some scheme =>
    if front = [] then throw .uriFormat
    let authority ← Authority.ofChars front
    let target ← Target.ofChars (if rest = [] then ['/'] else rest)
    .ok ⟨some scheme, some authority, target⟩

/-- **The URI of a text.** -/
def ofText (s : String) : Except Fault Uri :=
  if longestUri < s.utf8ByteSize then .error .longUri
  else
    match s.toList with
    | [] => .error .emptyUri
    | ['*'] => (Target.ofChars ['*']).map (⟨none, none, ·⟩)
    | '/' :: cs => (Target.ofChars ('/' :: cs)).map (⟨none, none, ·⟩)
    | [c] =>
      if endsAuthority c then .error .uriCharacter
      else (Authority.ofChars [c]).map (⟨none, some ·, .empty⟩)
    | cs => ofSchemeOrAuthority cs

end Uri

end Http

end SigV4
