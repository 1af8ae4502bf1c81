/-!
# What can be wrong with a piece of an HTTP request

A method, a field name, a field value and a URI are each read from octets or text
that may not fit. Each way not to fit has one cause here and one wording; nothing
else about a rejected piece is ever reported.
-/

namespace SigV4

namespace Http

/-- **A fault** in a piece of an HTTP request. -/
inductive Fault where
  /-- A method is no token. -/
  | method
  /-- A field name is no token. -/
  | fieldName
  /-- A field value holds a control character. -/
  | fieldValue
  /-- A field value is to be read as text and holds more than visible ASCII. -/
  | fieldText
  /-- A URI holds a character that cannot stand where it stands. -/
  | uriCharacter
  /-- A scheme holds a character that cannot stand in one. -/
  | scheme
  /-- An authority is malformed. -/
  | authority
  /-- The pieces of a URI do not make a URI. -/
  | uriFormat
  /-- A URI, or a piece of one, is empty. -/
  | emptyUri
  /-- A URI is longer than can be indexed. -/
  | longUri
  /-- A scheme is too long. -/
  | longScheme
  /-- A path does not start with a slash. -/
  | pathStart
  /-- A URI has an authority and a path, but no scheme. -/
  | schemeMissing
  /-- A URI has a scheme, but no authority. -/
  | authorityMissing
  /-- A URI has a scheme, but no path. -/
  | pathMissing
deriving DecidableEq

/-- The wording of a fault. -/
def Fault.text : Fault → String
  | .method => "invalid HTTP method"
  | .fieldName => "invalid HTTP header name"
  | .fieldValue => "failed to parse header value"
  | .fieldText => "failed to convert header to a str"
  | .uriCharacter => "invalid uri character"
  | .scheme => "invalid scheme"
  | .authority => "invalid authority"
  | .uriFormat => "invalid format"
  | .emptyUri => "empty string"
  | .longUri => "uri too long"
  | .longScheme => "scheme too long"
  | .pathStart => "path does not start with slash"
  | .schemeMissing => "scheme missing"
  | .authorityMissing => "authority missing"
  | .pathMissing => "path missing"

end Http

end SigV4
