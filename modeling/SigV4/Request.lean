import SigV4.Error
import SigV4.Form
import SigV4.Http.Head

/-!
# Requests as they are signed

A request is taken apart before it is signed: scheme and authority must be there,
the path stays as it is on the wire, and the query becomes a list of parameters.
Signing changes fields and parameters, and what comes out is put together again as
the head of a request.

* `SigV4.Request.ofHead` takes a head apart;
* `SigV4.Request.uri` is the URI of a request, if its pieces make one;
* `SigV4.Request.head` puts a head together.

What is sent as the body is not part of a request: signing needs to know what it is
allowed to know about it (`SigV4.Body`), a digest or a length perhaps, and never
sends it. The length is a number without bound here and a word of 64 bits on a machine.
A body that is longer than any word can be asked for here only. It is announced as any
other body is, with its length in decimal.
-/

namespace SigV4

/-- **What is known about the body** of a request. -/
inductive Body where
  /-- There is no body. -/
  | empty
  /-- The whole body. -/
  | octets (content : Octets)
  /-- The digest of the body, computed elsewhere. -/
  | precomputed (digest : String)
  /-- The body arrives piece by piece, perhaps with its length known. -/
  | streaming (length : Option Nat)
  /-- The body is not to be signed. -/
  | unsigned
deriving DecidableEq

/-- **A request** taken apart for signing. -/
structure Request where
  /-- The method. -/
  method : Http.Method
  /-- The scheme. -/
  scheme : Http.Scheme
  /-- The authority. -/
  authority : Http.Authority
  /-- The path as it is on the wire. -/
  path : String
  /-- The parameters of the query, in order. -/
  query : List Param
  /-- The fields. -/
  fields : Http.Fields
  /-- What is known about the body. -/
  body : Body
deriving DecidableEq

namespace Request

/-! ### From and to the head of a request -/

/-- **Takes a head apart.** Without an authority there is nothing to sign for; the
scheme is assumed to be `http` where it is missing. -/
def ofHead (head : Http.Head) (body : Body) : Except Error Request :=
  match head.uri.authority with
  | none => .error .noAuthority
  | some authority => .ok
    { method := head.method
      scheme := head.uri.scheme.getD .http
      authority
      path := head.uri.path
      query := (head.uri.target.query.map Form.decode).getD []
      fields := head.fields
      body }

/-- The text of path and query, as they are to be sent. -/
def targetText (r : Request) : String :=
  let path := if r.path = "" then "/" else r.path
  if r.query = [] then path else path ++ "?" ++ Form.encode r.query

/-- **The URI** of a request. -/
def uri (r : Request) : Except Error Http.Uri :=
  match Http.Target.ofText r.targetText with
  | .error fault => .error (.http fault)
  | .ok target => .ok ⟨some r.scheme, some r.authority, target⟩

/-- **The head** of a request, ready to be sent. -/
def head (r : Request) : Except Error Http.Head :=
  r.uri.map fun uri => { method := r.method, uri, fields := r.fields }

/-! ### Parameters -/

/-- Adds a parameter behind the others. -/
def push (r : Request) (name value : String) : Request :=
  { r with query := r.query ++ [{ name, value }] }

/-- The value of the first parameter of a name. -/
def param? (r : Request) (name : String) : Option String :=
  (r.query.find? (·.name = name)).map (·.value)

/-- The number of octets in the names and values of the parameters. -/
def querySize (r : Request) : Nat :=
  (r.query.map fun param => param.name.utf8ByteSize + param.value.utf8ByteSize).foldr (· + ·) 0

end Request

end SigV4
