import SigV4.Octets.Percent
import SigV4.Octets.Unicode

/-!
# Parameters in a query

A query is a list of parameters, and signing works on the list: it signs the
parameters, adds its own, and writes a query again. Both passages are here.

* `SigV4.Form.decode` reads a query. Parameters are separated by `&`, empty ones
  are no parameters, the first `=` separates name and value, and inside both a `+` is
  a blank and escapes are resolved.
* `SigV4.Form.encode` writes a query. A parameter without a value is written without
  `=`.

The writer escapes every octet that the reader could take for something else, so the
two are inverse on lists without a parameter that is empty altogether: that one would
be written as nothing and read as no parameter.
-/

namespace SigV4

/-- **A parameter** of a query. -/
structure Param where
  /-- The name. -/
  name : String
  /-- The value, empty if there is none. -/
  value : String
deriving DecidableEq

namespace Form

/-! ### Reading -/

/-- The octets of a name or a value. -/
def octets (cs : List Char) : Octets :=
  Percent.decode (cs.map fun c => if c = '+' then ' ' else c)

/-- The octets of the name and of the value of a parameter. -/
def splitParam (cs : List Char) : Octets × Octets :=
  let name := cs.takeWhile (· != '=')
  (octets name, octets (cs.drop (name.length + 1)))

/-- The names and values of a query as octets. -/
def decodeOctets (query : List Char) : List (Octets × Octets) :=
  ((query.splitOn '&').filter (!·.isEmpty)).map splitParam

/-- **The parameters of a query.** -/
def decode (query : String) : List Param :=
  (decodeOctets query.toList).map fun (name, value) =>
    { name := Unicode.decodeText name, value := Unicode.decodeText value }

/-! ### Writing -/

/-- The written form of a parameter. -/
def encodeParam (param : Param) : String :=
  if param.value = "" then Percent.encodeText param.name
  else Percent.encodeText param.name ++ "=" ++ Percent.encodeText param.value

/-- **The query of a list of parameters.** -/
def encode (params : List Param) : String :=
  "&".intercalate (params.map encodeParam)

end Form

end SigV4
