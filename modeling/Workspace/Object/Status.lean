/-
# The status of an object

What the service tells about an object: its path, type, id and language.  The names of type and
language are kept as they came, so that a name which is not listed is written back unchanged.

`ofJson` accepts an object with a path and a type, both texts that are not empty; language and id
may be missing or null.  A truth value is accepted as an id and counts as the integer it stands
for.  The first field that is wrong decides the error, in the order path, type, language, id.
-/
import Workspace.Object.Kind
namespace Workspace

/-- The id of an object: an integer, or a truth value in place of one. -/
inductive ObjectId
  | number (n : Int)
  | flag (b : Bool)
  deriving DecidableEq, Repr

namespace ObjectId

/-- The integer that an id stands for. -/
def value : ObjectId → Int
  | number n => n
  | flag b => if b then 1 else 0

/-- The id as it was received. -/
def toJson : ObjectId → Json
  | number n => .int n
  | flag b => .bool b

/-- The id that a JSON value is. -/
def ofJson? : Json → Option ObjectId
  | .int n => some (number n)
  | .bool b => some (flag b)
  | _ => none

end ObjectId

/-- What the service tells about an object. -/
structure ObjectStatus where
  path : String
  objectType : ObjectType
  objectId : Option ObjectId
  language : Option Language
  /-- The name of the type as it was received. -/
  rawType : Option String
  /-- The name of the language as it was received. -/
  rawLanguage : Option String
  deriving DecidableEq, Repr

namespace ObjectStatus

/-- Is the object a notebook? -/
def isNotebook (s : ObjectStatus) : Bool := s.objectType = .notebook

/-- Is the object a directory? -/
def isDirectory (s : ObjectStatus) : Bool := s.objectType = .directory

/-- Do two statuses describe the same object?  The names as received do not count, and ids are
compared by the integers they stand for. -/
def same (a b : ObjectStatus) : Bool :=
  a.path == b.path && a.objectType == b.objectType &&
    a.objectId.map ObjectId.value == b.objectId.map ObjectId.value && a.language == b.language

/-- The text under a key, if it is there and not empty. -/
def nonEmptyText? (members : Json.Members) (key : String) : Option String :=
  match members.get? key with
  | some (.string s) => if s.isEmpty then none else some s
  | _ => none

/-- The language name of an entry, if it has one; an error if it is no text. -/
def languageName? (members : Json.Members) : Except Unit (Option String) :=
  match members.get? "language" with
  | none | some .null => .ok none
  | some (.string s) => .ok (if s.isEmpty then none else some s)
  | some _ => .error ()

/-- The id of an entry, if it has one; an error if it is no integer. -/
def idOf? (members : Json.Members) : Except Unit (Option ObjectId) :=
  match members.get? "object_id" with
  | none | some .null => .ok none
  | some v => (ObjectId.ofJson? v).elim (.error ()) fun id => .ok (some id)

/-- The status that an entry of the service describes. -/
def ofJson (v : Json) : Except Error ObjectStatus :=
  match v with
  | .object members =>
    match nonEmptyText? members "path" with
    | none => .error (.malformed "Workspace object has no path" v)
    | some path =>
      match nonEmptyText? members "object_type" with
      | none => .error (.malformed s!"Workspace object {path} has no object_type" v)
      | some rawType =>
        match languageName? members with
        | .error () => .error (.malformed s!"Workspace object {path}: language is not a string" v)
        | .ok rawLanguage =>
          match idOf? members with
          | .error () =>
            .error (.malformed s!"Workspace object {path}: object_id is not an integer" v)
          | .ok objectId =>
            .ok {
              path
              objectType := (ObjectType.ofName? rawType).getD .unknown
              objectId
              language := rawLanguage.bind Language.ofName?
              rawType := some rawType
              rawLanguage }
  | _ => .error (.malformed "Workspace object is not a JSON object" v)

/-- The name as received if there is one that is not empty, else the listed name. -/
def nameOr (raw : Option String) (listed : String) : String :=
  match raw with
  | some s => if s.isEmpty then listed else s
  | none => listed

/-- The members of the JSON object of a status. -/
def toMembers (s : ObjectStatus) : Json.Members :=
  [("path", .string s.path), ("object_type", .string (nameOr s.rawType s.objectType.name))] ++
    (match s.objectId with
    | some id => [("object_id", id.toJson)]
    | none => []) ++
    (match s.language with
    | some l => [("language", .string (nameOr s.rawLanguage l.name))]
    | none => [])

/-- The JSON object of a status. -/
def toJson (s : ObjectStatus) : Json := .object s.toMembers

end ObjectStatus

end Workspace
