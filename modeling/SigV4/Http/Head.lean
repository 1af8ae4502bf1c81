import SigV4.Http.Fields
import SigV4.Http.Uri

/-!
# The head of a request

What of a request is known before its body: a method, a URI and fields. It is put
together from loose pieces, and the first piece that does not fit decides what is
wrong with it, in the order in which the pieces are sent: the method, the URI, and
then name and value of one field after another.
-/

namespace SigV4

namespace Http

/-- **The head of a request.** -/
structure Head where
  /-- The method. -/
  method : Method
  /-- The URI. -/
  uri : Uri
  /-- The fields. -/
  fields : Fields
deriving DecidableEq

/-- Appends a field given by its texts. -/
def Fields.appendText (fields : Fields) (field : String × Octets) : Except Fault Fields := do
  let name ← FieldName.ofText field.1
  let value ← FieldValue.ofOctets field.2
  return fields.append name value

/-- **A head from its pieces.** -/
def Head.ofPieces (method uri : String) (fields : List (String × Octets)) : Except Fault Head := do
  let method ← Method.ofText method
  let uri ← Uri.ofText uri
  let fields ← fields.foldlM Fields.appendText .empty
  return { method, uri, fields }

end Http

end SigV4
