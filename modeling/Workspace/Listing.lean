/-
# Listings and the walk through a tree

A listing is the answer for one directory: its entries, in the order of the service.  The walk
collects the notebooks below a directory: it lists the directory, keeps notebooks, descends into
directories where they stand, and skips everything else.

* Directories are told apart by their paths without trailing slashes (`directoryKey`).  One that
  was listed before ends the walk with an error, so no cycle can keep it going.
* The first failure ends the walk, and nothing gathered before it is returned.
* The walk is told how deep directories may be nested below the root, and fails with
  `Failure.tooDeep` beyond that.

The walk is stated for any action that lists one directory.
-/
import Workspace.Effect
import Workspace.Object.Status
namespace Workspace

/-! ## 1. The entries of a listing -/

/-- The statuses of the entries, or the error of the first entry that is none. -/
def entries : List Json → Except Error (List ObjectStatus)
  | [] => .ok []
  | v :: rest =>
    match ObjectStatus.ofJson v with
    | .error e => .error e
    | .ok s =>
      match entries rest with
      | .error e => .error e
      | .ok ss => .ok (s :: ss)

/-- The entries in the answer for the directory `path`.  An answer whose `objects` are missing or
count as absent has none. -/
def listingOf (path : String) (body : Json.Members) : Except Error (List ObjectStatus) :=
  match body.get? "objects" with
  | none => .ok []
  | some v =>
    if v.isEmptyValue then .ok []
    else
      match v with
      | .array items => entries items
      | _ => .error (.malformed s!"List of {path} returned non-list objects" (.object body))

/-! ## 2. The walk -/

/-- What tells directories apart: the path without trailing slashes, or `/` if nothing is left. -/
def directoryKey (path : String) : String :=
  let key := Text.trimEnd '/' path
  if key.isEmpty then "/" else key

/-- The error for a directory that was listed before. -/
def alreadyVisited (path directory : String) : Error where
  kind := .malformedResponse
  message := s!"List of {path} returned already visited directory {directory}"
  details := [("path", .string directory)]
  status := none
  code := none

/-- The notebooks found, and the keys of the directories that were visited. -/
abbrev Found := List ObjectStatus × List String

variable {ω : Type}

/-- Go through the entries of the directory `path`, with `descend` for the directories among
them; `seen` holds the keys of the directories visited so far. -/
def visit (descend : String → List String → Action ω Found) (path : String) :
    List ObjectStatus → List String → Action ω Found
  | [], seen => pure ([], seen)
  | entry :: rest, seen =>
    match entry.objectType with
    | .notebook => do
      let (found, seen) ← visit descend path rest seen
      return (entry :: found, seen)
    | .directory =>
      let key := directoryKey entry.path
      if key ∈ seen then Action.fail (.error (alreadyVisited path entry.path))
      else do
        let (below, seen) ← descend entry.path (key :: seen)
        let (found, seen) ← visit descend path rest seen
        return (below ++ found, seen)
    | _ => visit descend path rest seen

/-- Collect the notebooks below the directory `path`, with at most `depth` directories on the way
from it to a listing, itself included. -/
def collect (list : String → Action ω (List ObjectStatus)) :
    (depth : Nat) → (path : String) → (seen : List String) → Action ω Found
  | 0, _, _ => Action.fail .tooDeep
  | depth + 1, path, seen => do
    let entries ← list path
    visit (collect list depth) path entries seen

/-- The notebooks below the directory `path`. -/
def walk (list : String → Action ω (List ObjectStatus)) (depth : Nat) (path : String) :
    Action ω (List ObjectStatus) := do
  let (found, _) ← collect list depth path [directoryKey path]
  return found

end Workspace
