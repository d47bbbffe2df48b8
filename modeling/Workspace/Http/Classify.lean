/-
# The error of a response

A response without success becomes an error once, here.

* Its status is that of the response.
* Its code is the text under `error_code`, if the body is a JSON object that has one.
* Its kind is that of a code which is known, else that of the status.
* Its message is the text under `message` if there is one that is not empty, else the body without
  the blanks around it, else the reason phrase, else the status.

The body is read twice: as JSON by its bytes, and as text by the headers.  A body that cannot be
read as text has no error, even if its message would not be that text.
-/
import Workspace.Error
import Workspace.Http.Message
import Workspace.Json.Text
namespace Workspace

namespace ErrorKind

/-- The kind of a status. -/
def ofStatus (status : Int) : ErrorKind :=
  if status = 401 then unauthenticated
  else if status = 403 then permissionDenied
  else if status = 404 then notFound
  else if status = 409 then alreadyExists
  else if status = 429 then rateLimited
  else if 500 ≤ status then serverError
  else if 400 ≤ status then invalidInput
  else unknown

/-- The error codes that tell the kind better than the status. -/
def codes : List (String × ErrorKind) :=
  [("RESOURCE_DOES_NOT_EXIST", notFound), ("RESOURCE_ALREADY_EXISTS", alreadyExists),
    ("INVALID_PARAMETER_VALUE", invalidInput), ("PERMISSION_DENIED", permissionDenied),
    ("REQUEST_LIMIT_EXCEEDED", rateLimited)]

end ErrorKind

namespace Http.Response

/-- The members of the body, if it is a JSON object. -/
def bodyMembers (r : Response) : Json.Members :=
  match Json.ofBytes r.body with
  | .ok (.object members) => members
  | _ => []

/-- The error code in the body. -/
def errorCode? (r : Response) : Option String :=
  match r.bodyMembers.get? "error_code" with
  | some (.string code) => some code
  | _ => none

/-- The message in the body. -/
def bodyMessage? (r : Response) : Option String :=
  match r.bodyMembers.get? "message" with
  | some (.string message) => if message.isEmpty then none else some message
  | _ => none

/-- The message of a response without one in its body, which reads as `text`. -/
def fallbackMessage (r : Response) (text : String) : String :=
  let text := Text.trim text
  if !text.isEmpty then text
  else if !r.reasonPhrase.isEmpty then r.reasonPhrase
  else s!"HTTP {r.status}"

/-- The error of a response whose body reads as `text`. -/
def errorWith (r : Response) (text : String) : Error where
  kind := (ErrorKind.codes.lookup (r.errorCode?.getD "")).getD (.ofStatus r.status)
  message := r.bodyMessage?.getD (r.fallbackMessage text)
  details := []
  status := some r.status
  code := r.errorCode?

/-- The error of a response. -/
def toError (r : Response) : Except ReadFault Error := r.text.map r.errorWith

end Http.Response

end Workspace
