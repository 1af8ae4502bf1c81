import SigV4.Http.Fault

/-!
# Tokens

Methods and field names are tokens: one or more visible ASCII characters that are
no separators. That a method or a field name holds no blank, no colon and no line
break is what keeps a canonical request readable line by line, so it is part of
their types.

A method keeps its case as it was given. A field name is kept in lower case, since
two names that differ in case name the same field.
-/

namespace SigV4

namespace Http

/-! ### Tokens -/

/-- Whether a character may stand in a token. -/
def isTokenChar (c : Char) : Bool :=
  c.isAlphanum || "!#$%&'*+-.^_\x60|~".toList.contains c

/-- Whether a list of characters is a token. -/
def isToken (cs : List Char) : Bool :=
  !cs.isEmpty && cs.all isTokenChar

/-! ### Methods -/

/-- **A request method.** -/
structure Method where
  /-- The name of the method. -/
  text : String
  /-- The name is a token. -/
  isToken_text : isToken text.toList = true
deriving DecidableEq

namespace Method

/-- The method `GET`. -/
def get : Method := ⟨"GET", by decide⟩

/-- The method of a text. -/
def ofText (s : String) : Except Fault Method :=
  if h : isToken s.toList = true then .ok ⟨s, h⟩ else .error .method

end Method

/-! ### Field names -/

/-- The most characters of a field name. -/
def longestFieldName : Nat := 65535

/-- Whether a list of characters is a field name: a token in lower case, and not too
long. -/
def isFieldName (cs : List Char) : Bool :=
  isToken cs && cs.all (fun c => !c.isUpper) && cs.length ≤ longestFieldName

/-- **A field name**, in lower case. -/
structure FieldName where
  /-- The name. -/
  text : String
  /-- The text is a field name. -/
  isFieldName_text : isFieldName text.toList = true
deriving DecidableEq

namespace FieldName

/-- The field name of a text of any case. -/
def ofText (s : String) : Except Fault FieldName :=
  if h : isFieldName (s.toLower).toList = true then .ok ⟨s.toLower, h⟩ else .error .fieldName

end FieldName

end Http

end SigV4
