import SigV4.Form

/-!
# Canonical queries

The order of the parameters of a query must not matter to its signature, so they are
sorted – after they have been escaped, by name and then by value. Comparing pairs is
not the same as comparing the joined texts, where the `=` would take part. A value that
is empty is written with its `=` all the same.

Escaped texts are ASCII, so the order of texts is the order of octets.
-/

namespace SigV4

namespace CanonicalQuery

/-- A parameter with name and value escaped. -/
def escape (param : Param) : Param :=
  { name := Percent.encodeText param.name, value := Percent.encodeText param.value }

/-- The order of parameters: by name, and then by value. -/
def le (p q : Param) : Bool :=
  p.name < q.name || (p.name == q.name && p.value ≤ q.value)

/-- The parameters of a canonical query, escaped and in order. -/
def sorted (query : List Param) : List Param :=
  (query.map escape).mergeSort le

/-- **The canonical form** of a list of parameters. -/
def ofParams (query : List Param) : String :=
  "&".intercalate ((sorted query).map fun param => param.name ++ "=" ++ param.value)

end CanonicalQuery

end SigV4
