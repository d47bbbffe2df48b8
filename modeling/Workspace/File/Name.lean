/-
# File names

A file name is a path from the working directory or from the root.  Its spelling is simplified
before use: empty and `.` parts are dropped, and with them double and trailing slashes; `..`
stays, because what it means depends on the directories it follows.  The empty name is `.`.

Exactly two slashes at the start are kept as they are; any other number of them is one.
-/
namespace Workspace.File

/-- A file name: the slashes it starts with, and its parts. -/
structure Name where
  root : String
  parts : List String
  deriving DecidableEq, Repr

namespace Name

/-- The slashes that a name starts with, as they are kept. -/
def rootOf (cs : List Char) : String :=
  match cs.takeWhile (· == '/') with
  | [] => ""
  | ['/', '/'] => "//"
  | _ => "/"

/-- The name with the given spelling. -/
def ofString (s : String) : Name :=
  ⟨rootOf s.toList, (s.splitOn "/").filter fun part => part != "" && part != "."⟩

/-- The simplified spelling of a name. -/
def spelling (n : Name) : String :=
  if n.root.isEmpty && n.parts.isEmpty then "." else n.root ++ "/".intercalate n.parts

/-- Does the name start at the root? -/
def isAbsolute (n : Name) : Bool := !n.root.isEmpty

end Name

end Workspace.File
