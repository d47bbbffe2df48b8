/-
# Object types, languages and formats

The three enumerations of the service.  New object types and languages appear over time, so a
name that is not listed stands for `unknown`, and only the empty name for nothing; a format must
be one of the four.

The names read back: `ObjectType.ofName?_name`, `Language.ofName?_name` and
`ExportFormat.ofName?_name`.
-/
import Workspace.Failure
namespace Workspace

/-- The kinds of objects in a workspace. -/
inductive ObjectType
  | notebook
  | directory
  | library
  | file
  | repo
  | unknown
  deriving DecidableEq, Repr

/-- The languages of a notebook. -/
inductive Language
  | scala
  | python
  | sql
  | r
  | unknown
  deriving DecidableEq, Repr

/-- The forms in which a notebook can be exported and imported. -/
inductive ExportFormat
  | source
  | html
  | jupyter
  | dbc
  deriving DecidableEq, Repr

/-! ## 1. Object types -/

namespace ObjectType

/-- The name of a type. -/
def name : ObjectType → String
  | notebook => "NOTEBOOK"
  | directory => "DIRECTORY"
  | library => "LIBRARY"
  | file => "FILE"
  | repo => "REPO"
  | unknown => "UNKNOWN"

/-- The type of a name: `unknown` for a name that is not listed, nothing for the empty one. -/
def ofName? (s : String) : Option ObjectType :=
  if s.isEmpty then none
  else some (([notebook, directory, library, file, repo].find? fun t => t.name == s).getD unknown)

/-- The type that a JSON value names. -/
def ofJson (v : Json) : Except Failure ObjectType :=
  match v with
  | .string s => (ofName? s).elim (.error (.notAMember v "ObjectType")) .ok
  | _ => .error (.notAMember v "ObjectType")

theorem ofName?_name (t : ObjectType) : ofName? t.name = some t := by
  cases t <;> decide +kernel

end ObjectType

/-! ## 2. Languages -/

namespace Language

/-- The name of a language. -/
def name : Language → String
  | scala => "SCALA"
  | python => "PYTHON"
  | sql => "SQL"
  | r => "R"
  | unknown => "UNKNOWN"

/-- The languages that have a name of their own. -/
def listed : List Language := [scala, python, sql, r]

/-- The language of a name: `unknown` for a name that is not listed, nothing for the empty one. -/
def ofName? (s : String) : Option Language :=
  if s.isEmpty then none else some ((listed.find? fun l => l.name == s).getD unknown)

/-- The language that a JSON value names. -/
def ofJson (v : Json) : Except Failure Language :=
  match v with
  | .string s => (ofName? s).elim (.error (.notAMember v "Language")) .ok
  | _ => .error (.notAMember v "Language")

theorem ofName?_name (l : Language) : ofName? l.name = some l := by
  cases l <;> decide +kernel

end Language

/-! ## 3. Formats -/

namespace ExportFormat

/-- The name of a format. -/
def name : ExportFormat → String
  | source => "SOURCE"
  | html => "HTML"
  | jupyter => "JUPYTER"
  | dbc => "DBC"

/-- Every format. -/
def all : List ExportFormat := [source, html, jupyter, dbc]

/-- The format of a name. -/
def ofName? (s : String) : Option ExportFormat := all.find? fun f => f.name == s

/-- The format that a JSON value names. -/
def ofJson (v : Json) : Except Failure ExportFormat :=
  match v with
  | .string s => (ofName? s).elim (.error (.notAMember v "ExportFormat")) .ok
  | _ => .error (.notAMember v "ExportFormat")

theorem ofName?_name (f : ExportFormat) : ofName? f.name = some f := by
  cases f <;> decide +kernel

end ExportFormat

end Workspace
