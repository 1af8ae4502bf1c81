import SigV4.Error
import SigV4.Http.Fields
import SigV4.Text.Blank
import SigV4.Vocabulary

/-!
# Canonical fields

The fields that are signed, one line each, sorted by name. The values of one name are
gathered in their order, with a comma between them, and each of them is trimmed and has
its inner blanks squeezed, since a proxy is free to change those.

The names of the signed fields are listed twice, once by walking the names alone
(`SigV4.CanonicalFields.signedNames`), which is what a presigned request announces
before anything is read, and once as the first halves of the lines
(`SigV4.CanonicalFields.lines`). Only the second can fail: a value has to be visible
ASCII to be signed.
-/

namespace SigV4

namespace CanonicalFields

open Http

/-! ### Names -/

/-- The names of the fields that are signed, sorted. -/
def signedNames (fields : Fields) : List String :=
  ((fields.names.filter Vocabulary.isSigned).map (·.text)).mergeSort (· ≤ ·)

/-- The list of names as it is announced. -/
def signedNamesText (fields : Fields) : String :=
  ";".intercalate (signedNames fields)

/-! ### Lines -/

/-- The words of a text between its blanks. -/
def words (cs : List Char) : List (List Char) :=
  (cs.splitOnP Blank.isBlank).filter (!·.isEmpty)

/-- A value trimmed, with single blanks between its words. -/
def squeeze (cs : List Char) : List Char :=
  [' '].intercalate (words cs)

/-- The names with their values, sorted by name. -/
abbrev Groups := List (String × List (List Char))

/-- Puts a value behind those of its name, in groups that are sorted by name. -/
def place (name : String) (value : List Char) : Groups → Groups
  | [] => [(name, [value])]
  | (other, values) :: rest =>
    if name = other then (other, values ++ [value]) :: rest
    else if name < other then (name, [value]) :: (other, values) :: rest
    else (other, values) :: place name value rest

/-- Puts a field into the groups, if it is signed. -/
def gather (groups : Groups) (field : FieldName × FieldValue) : Except Error Groups :=
  if Vocabulary.isSigned field.1 then
    match field.2.text with
    | .ok text => .ok (place field.1.text (squeeze text) groups)
    | .error fault => .error (.http fault)
  else .ok groups

/-- **The canonical lines** of the fields: names, and values joined by commas. -/
def lines (fields : Fields) : Except Error (List (String × String)) :=
  (fields.toList.foldlM gather []).map fun groups =>
    groups.map fun (name, values) => (name, String.ofList ([','].intercalate values))

end CanonicalFields

end SigV4
