/-
# Structured errors

Every failure that a caller can act on is an `Error`: a kind, a message, and what is known about
its origin.  `ErrorKind` has one name per kind.

`toMembers` is the JSON object of an error.  The status and the error code appear only if they are
known, and the details come last: a detail under a key that is already there replaces its value.
-/
import Workspace.Json.Basic
namespace Workspace

/-! ## 1. Kinds -/

/-- The kinds of errors. -/
inductive ErrorKind
  /-- The token is missing or was rejected. -/
  | unauthenticated
  /-- The path may not be accessed. -/
  | permissionDenied
  /-- The path does not exist. -/
  | notFound
  /-- The path exists and may not be overwritten. -/
  | alreadyExists
  /-- A parameter or a setting is bad. -/
  | invalidInput
  /-- The service refuses more requests for now. -/
  | rateLimited
  /-- The service failed. -/
  | serverError
  /-- The connection failed. -/
  | networkError
  /-- The request took too long. -/
  | timeout
  /-- A body is not what the service promises. -/
  | malformedResponse
  /-- None of the others. -/
  | unknown
  deriving DecidableEq, Repr

namespace ErrorKind

/-- Every kind. -/
def all : List ErrorKind :=
  [unauthenticated, permissionDenied, notFound, alreadyExists, invalidInput, rateLimited,
    serverError, networkError, timeout, malformedResponse, unknown]

/-- The name of a kind. -/
def name : ErrorKind → String
  | unauthenticated => "unauthenticated"
  | permissionDenied => "permission_denied"
  | notFound => "not_found"
  | alreadyExists => "already_exists"
  | invalidInput => "invalid_input"
  | rateLimited => "rate_limited"
  | serverError => "server_error"
  | networkError => "network_error"
  | timeout => "timeout"
  | malformedResponse => "malformed_response"
  | unknown => "unknown"

/-- The kind of a name. -/
def ofName? (s : String) : Option ErrorKind := all.find? fun kind => kind.name == s

end ErrorKind

/-! ## 2. Errors -/

/-- An error: its kind and message, details for whoever looks into it, and the status and error
code of the response that brought it. -/
structure Error where
  kind : ErrorKind
  message : String
  details : Json.Members
  status : Option Int
  code : Option String
  deriving Repr

namespace Error

/-- An error without details that no response brought. -/
def plain (kind : ErrorKind) (message : String) : Error := ⟨kind, message, [], none, none⟩

/-- A body, or a part of one, that is not what the service promises; it goes into the details. -/
def malformed (message : String) (body : Json) : Error :=
  ⟨.malformedResponse, message, [("body", body)], none, none⟩

/-- What an error says before its details. -/
def headMembers (e : Error) : Json.Members :=
  [("error", .bool true), ("kind", .string e.kind.name), ("message", .string e.message)] ++
    (match e.status with
    | some status => [("status_code", .int status)]
    | none => []) ++
    (match e.code with
    | some code => if code.isEmpty then [] else [("error_code", .string code)]
    | none => [])

/-- The members of the JSON object of an error. -/
def toMembers (e : Error) : Json.Members := e.headMembers.putAll e.details

/-- The JSON object of an error. -/
def toJson (e : Error) : Json := .object e.toMembers

end Error

end Workspace
