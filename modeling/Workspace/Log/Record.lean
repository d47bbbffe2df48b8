/-
# Log records

Every exchange with the service leaves records: the call that an operation makes, the request it
sends, and how each ended.  A record is a severity and a text of one line.

A call is shown with its arguments by name, the absent ones left out.  Texts among them stand
between quotation marks, so nothing in a path can end the line or start another.
-/
import Workspace.Json.Display
namespace Workspace.Log

/-- The severities of a record. -/
inductive Level
  | debug
  | info
  | warning
  | error
  | critical
  deriving DecidableEq, Repr

namespace Level

/-- The name of a level. -/
def name : Level → String
  | debug => "DEBUG"
  | info => "INFO"
  | warning => "WARNING"
  | error => "ERROR"
  | critical => "CRITICAL"

/-- The levels as numbers: the more severe, the higher. -/
def severity : Level → Nat
  | debug => 10
  | info => 20
  | warning => 30
  | error => 40
  | critical => 50

end Level

/-- A record of the log. -/
structure Record where
  level : Level
  text : String
  deriving DecidableEq, Repr

/-- The arguments of a call, those that are null left out, as `name=value`. -/
def arguments (params : Json.Members) : String :=
  ", ".intercalate ((params.filter fun (_, v) => !v matches .null).map fun (k, v) =>
    k ++ "=" ++ v.shown)

/-- The record of a call. -/
def apiCall (service method : String) (params : Json.Members) : Record :=
  ⟨.debug, "API: " ++ service ++ "." ++ method ++ "(" ++ arguments params ++ ")"⟩

/-- The record of a call that returned, with the count of objects for a listing. -/
def apiResult (service method : String) (count : Option Int) : Record :=
  ⟨.debug, "API: " ++ service ++ "." ++ method ++
    (match count with
    | some n => s!" -> {n} objects"
    | none => " ok")⟩

/-- The record of a request that is about to be sent. -/
def request (method url : String) : Record := ⟨.debug, method ++ " " ++ url⟩

/-- The record of an exchange that failed, with the status if there was a response. -/
def httpFailure (method url : String) (status : Option Int) (reason : String) : Record :=
  ⟨.warning, method ++ " " ++ url ++ " failed (" ++
    (match status with
    | some n => s!"HTTP {n}"
    | none => "transport") ++ "): " ++ reason⟩

end Workspace.Log
