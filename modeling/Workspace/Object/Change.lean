/-
# Requests that change a workspace

The bodies of the two requests that carry more than a path: importing a notebook and deleting an
object.
-/
import Workspace.Object.Kind
namespace Workspace

/-- What an import asks for.  The service needs the language for sources only. -/
structure ImportRequest where
  path : String
  content : String
  language : Option Language
  format : Option ExportFormat
  overwrite : Bool
  deriving DecidableEq, Repr

/-- What a deletion asks for. -/
structure DeleteRequest where
  path : String
  recursive : Bool
  deriving DecidableEq, Repr

/-- The body of an import. -/
def ImportRequest.toMembers (r : ImportRequest) : Json.Members :=
  [("path", .string r.path), ("content", .string r.content), ("overwrite", .bool r.overwrite)] ++
    (match r.language with
    | some l => [("language", .string l.name)]
    | none => []) ++
    (match r.format with
    | some f => [("format", .string f.name)]
    | none => [])

/-- The body of a deletion. -/
def DeleteRequest.toMembers (r : DeleteRequest) : Json.Members :=
  [("path", .string r.path), ("recursive", .bool r.recursive)]

end Workspace
