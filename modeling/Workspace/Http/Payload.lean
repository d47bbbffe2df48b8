/-
# The fields of a request on the wire

A request carries named fields.  A GET request carries them as the pairs of its query, where a
null and an empty text are left out and every other value is written as text.  Any other request
carries them as a JSON object, where only the fields that are null are left out.
-/
import Workspace.Failure
namespace Workspace.Http

/-- The text of a field in a query: truth values in lower case, all else as in messages. -/
def fieldText : Json → String
  | .bool b => if b then "true" else "false"
  | v => v.plain

/-- Is a field left out of a query? -/
def isLeftOut : Json → Bool
  | .null => true
  | .string s => s.isEmpty
  | _ => false

/-- The pairs of a query for the fields of a request. -/
def queryPairs (fields : Json.Members) : List (String × String) :=
  (fields.filter fun (_, v) => !isLeftOut v).map fun (k, v) => (k, fieldText v)

/-- The fields without those that are null. -/
def presentFields (fields : Json.Members) : Json.Members :=
  fields.filter fun (_, v) => !v matches .null

/-- What the fields of a request become: a query, or the text of a body. -/
inductive Payload
  | query (pairs : List (String × String))
  | body (text : String)
  deriving DecidableEq, Repr

namespace Payload

/-- The payload of a request with the method `method`, given in upper case. -/
def ofFields (method : String) (fields : Json.Members) : Except Failure Payload :=
  if method = "GET" then .ok (query (queryPairs fields))
  else
    match (Json.object (presentFields fields)).compact? with
    | some text => .ok (body text)
    | none => .error .nonFiniteNumber

/-- The pairs of the query. -/
def pairs : Payload → List (String × String)
  | query pairs => pairs
  | body _ => []

/-- The text of the body. -/
def text : Payload → String
  | query _ => ""
  | body text => text

/-- The type of the body, if there is one. -/
def contentType? : Payload → Option String
  | query _ => none
  | body _ => some "application/json"

end Payload

end Workspace.Http
