import SigV4.Canonical.Fields
import SigV4.Canonical.Path
import SigV4.Canonical.Query
import SigV4.Config
import SigV4.Request

/-!
# Canonical requests

The one text that a request has for its signature, whoever looks at it: method, path,
query, a line for each signed field, an empty line, the names of the signed fields, and
what is said about the body. Nothing in the text is quoted. It can be read all the same,
because no piece but the last can hold a line break, and no field line is empty.
-/

namespace SigV4

/-- **A canonical request**, piece by piece. -/
structure CanonicalRequest where
  /-- The method in upper case. -/
  method : String
  /-- The canonical path. -/
  path : String
  /-- The canonical query. -/
  query : String
  /-- The signed fields, by name. -/
  fields : List (String × String)
  /-- The names of the signed fields. -/
  signedFields : String
  /-- What is said about the body. -/
  payloadHash : String
deriving DecidableEq

namespace CanonicalRequest

/-- **The canonical form** of a request, given what is said about its body. -/
def ofRequest (request : Request) (config : Config) (payloadHash : String) :
    Except Error CanonicalRequest := do
  let fields ← CanonicalFields.lines request.fields
  return {
    method := request.method.text.toUpper
    path := CanonicalPath.ofPath config.doubleEncode config.normalizePath request.path
    query := CanonicalQuery.ofParams request.query
    fields
    signedFields := ";".intercalate (fields.map (·.1))
    payloadHash }

/-- **The text** of a canonical request. -/
def text (c : CanonicalRequest) : String :=
  c.method ++ "\n" ++ c.path ++ "\n" ++ c.query ++ "\n" ++
    "".intercalate (c.fields.map fun (name, value) => name ++ ":" ++ value ++ "\n") ++ "\n" ++
    c.signedFields ++ "\n" ++ c.payloadHash

end CanonicalRequest

end SigV4
