/-
# The operations on a workspace

A connection joins a client to a service.  Each operation writes the record of its call, sends its
request, and writes the record of its result; what fails on the way is passed on unchanged, and
then the record of the result is missing.

Creating directories holds the lock, so that only one such request is on its way at a time; the
lock is free afterwards however the request ended.
-/
import Workspace.Client
import Workspace.Listing
import Workspace.Object.Change
import Workspace.Object.Content
namespace Workspace

/-- A client and the service that it talks to. -/
structure Connection (σ : Type) where
  remote : Http.Remote σ
  client : Client
  /-- How deep directories may be nested in a walk. -/
  maxDepth : Nat

namespace Connection

variable {σ : Type}

/-- The name of the service in records. -/
def service : String := "workspace"

/-- The JSON value of a name that may be absent. -/
def optionalName (name : Option String) : Json := (name.map Json.string).getD .null

/-- Send the fields of a request to a path of the service. -/
def query (c : Connection σ) (method path : String) (fields : Json.Members) :
    Action (Wire σ) Json.Members :=
  c.client.query c.remote method path apiVersion fields

/-- Run an action with the lock on the creation of directories. -/
def withLock {α : Type} (x : Action (Wire σ) α) : Action (Wire σ) α := do
  Action.modify fun w => { w with lockHeld := true }
  x.afterwards fun w => { w with lockHeld := false }

/-- Import a notebook. -/
def create (c : Connection σ) (r : ImportRequest) : Action (Wire σ) Unit := do
  Action.log (Log.apiCall service "import"
    [("path", .string r.path), ("language", optionalName (r.language.map Language.name)),
      ("format", optionalName (r.format.map ExportFormat.name)), ("overwrite", .bool r.overwrite)])
  let _ ← c.query "POST" "/workspace/import" r.toMembers
  Action.log (Log.apiResult service "import" none)

/-- The status of an object. -/
def read (c : Connection σ) (path : String) : Action (Wire σ) ObjectStatus := do
  Action.log (Log.apiCall service "get-status" [("path", .string path)])
  let body ← c.query "GET" "/workspace/get-status" [("path", .string path)]
  let status ← Action.ofResult (ObjectStatus.ofJson (.object body))
  Action.log (Log.apiResult service "get-status" none)
  return status

/-- The content of a notebook, in base64. -/
def exportContent (c : Connection σ) (path : String) (format : Option ExportFormat) :
    Action (Wire σ) String := do
  let fields := [("path", .string path), ("format", optionalName (format.map ExportFormat.name))]
  Action.log (Log.apiCall service "export" fields)
  let body ← c.query "GET" "/workspace/export" fields
  let content ← Action.ofResult (Content.ofJson (.object body))
  Action.log (Log.apiResult service "export" none)
  return content.base64

/-- Create a directory and the parents that are missing. -/
def makeDirectories (c : Connection σ) (path : String) : Action (Wire σ) Unit := do
  Action.log (Log.apiCall service "mkdirs" [("path", .string path)])
  let _ ← withLock (c.query "POST" "/workspace/mkdirs" [("path", .string path)])
  Action.log (Log.apiResult service "mkdirs" none)

/-- Delete an object; a directory that is not empty only if `recursive`. -/
def delete (c : Connection σ) (r : DeleteRequest) : Action (Wire σ) Unit := do
  Action.log (Log.apiCall service "delete"
    [("path", .string r.path), ("recursive", .bool r.recursive)])
  let _ ← c.query "POST" "/workspace/delete" r.toMembers
  Action.log (Log.apiResult service "delete" none)

/-- The entries of one directory. -/
def listDirectory (c : Connection σ) (path : String) : Action (Wire σ) (List ObjectStatus) := do
  Action.log (Log.apiCall service "list" [("path", .string path)])
  let body ← c.query "GET" "/workspace/list" [("path", .string path)]
  let objects ← Action.ofResult (listingOf path body)
  Action.log (Log.apiResult service "list" (some objects.length))
  return objects

/-- The notebooks below a directory. -/
def listRecursively (c : Connection σ) (path : String) : Action (Wire σ) (List ObjectStatus) := do
  let notebooks ← walk c.listDirectory c.maxDepth path
  Action.log (Log.apiResult service "list(recursive)" (some notebooks.length))
  return notebooks

/-- The entries of a directory, or the notebooks below it. -/
def list (c : Connection σ) (path : String) (recursive : Bool) :
    Action (Wire σ) (List ObjectStatus) :=
  if recursive then c.listRecursively path else c.listDirectory path

end Connection

end Workspace
