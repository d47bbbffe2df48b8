/-
# The logger

A logger has a level and handlers.  A record reaches the handlers if it is at least as severe as
the level; the level zero stands for the level of warnings.  With no handler at all a warning is
written bare, without stamp and level.

`Logger.configure` sets the level by its name, in any case, and then adds the handler for the error
output, but only if there is no handler yet, so that there is never more than one of them.  Two names
stand for something else than a level, the plain format of a record and the table of the styles that a
format may have; they are refused, and the refusal shows what they stand for.
-/
import Workspace.Effect
import Workspace.Text.Upper
namespace Workspace.Log

/-- Where records go. -/
inductive Handler
  /-- Lines on the error output. -/
  | errorOutput
  /-- A list of lines that a program keeps. -/
  | capture
  deriving DecidableEq, Repr

/-- A logger: its level as a number, and its handlers in the order they were added. -/
structure Logger where
  level : Nat
  handlers : List Handler
  deriving DecidableEq, Repr

/-- What one record makes the logger write. -/
structure Written where
  /-- The lines that the program keeps. -/
  captured : List String
  /-- The text on the error output. -/
  errors : String
  deriving DecidableEq, Repr

/-- The levels by their names. -/
def namedLevels : List (String × Nat) :=
  [("CRITICAL", 50), ("FATAL", 50), ("ERROR", 40), ("WARNING", 30), ("WARN", 30), ("INFO", 20),
    ("DEBUG", 10), ("NOTSET", 0)]

/-- The format of a record where none was chosen. -/
def basicFormat : String := "%(levelname)s:%(name)s:%(message)s"

/-- The table of the styles of a format, as it is shown: to the mark of each style its class and
the plain format in that style. -/
def styleTable : String :=
  "\x7b'%': (<class 'logging.PercentStyle'>, '%(levelname)s:%(name)s:%(message)s'), " ++
    "'\x7b': (<class 'logging.StrFormatStyle'>, " ++
    "'\x7blevelname\x7d:\x7bname\x7d:\x7bmessage\x7d'), " ++
    "'$': (<class 'logging.StringTemplateStyle'>, " ++
    "'$\x7blevelname\x7d:$\x7bname\x7d:$\x7bmessage\x7d')\x7d"

/-- The failure for a name that is no level. -/
def refusal (name : String) : Failure :=
  if name = "BASIC_FORMAT" then .levelIsText basicFormat
  else if name = "_STYLES" then .levelIsTable styleTable
  else .unknownLevel name

/-- The level that a value stands for: it must be the name of one, in any case. -/
def levelOf : Json → Except Failure Nat
  | .string name =>
    let upper := Text.upper name
    match namedLevels.lookup upper with
    | some level => .ok level
    | none => .error (refusal upper)
  | v => .error (.levelWithoutText v.typeName)

/-- The record without a handler to format it. -/
def Record.bare (r : Record) : String := r.text ++ "\n"

/-- The record as a line with the time `stamp` and its level. -/
def Record.line (stamp : String) (r : Record) : String :=
  stamp ++ " [" ++ r.level.name ++ "] dbws: " ++ r.text ++ "\n"

/-- The record as a program keeps it. -/
def Record.kept (r : Record) : String := r.level.name ++ " " ++ r.text

namespace Logger

/-- A logger without handlers, at level zero. -/
def fresh : Logger := ⟨0, []⟩

/-- The level below which records are dropped. -/
def threshold (l : Logger) : Nat := if l.level = 0 then Level.warning.severity else l.level

/-- Is the record severe enough? -/
def passes (l : Logger) (r : Record) : Bool := l.threshold ≤ r.level.severity

/-- Set the level that a value stands for, and make sure that there is a handler. -/
def configure (value : Json) : Action Logger Unit := do
  let level ← Action.ofExcept (levelOf value)
  Action.modify fun l => { l with level }
  let l ← Action.get
  if l.handlers.isEmpty then
    Action.modify fun l => { l with handlers := l.handlers ++ [.errorOutput] }

/-- Add a handler that keeps the records, if there is none. -/
def capture (l : Logger) : Logger :=
  { l with handlers := if .capture ∈ l.handlers then l.handlers else l.handlers ++ [.capture] }

/-- What the logger writes for a record at the time `stamp`. -/
def emit (l : Logger) (stamp : String) (r : Record) : Written :=
  if l.passes r then
    if l.handlers.isEmpty then
      ⟨[], if Level.warning.severity ≤ r.level.severity then r.bare else ""⟩
    else
      ⟨l.handlers.filterMap fun h => if h = .capture then some r.kept else none,
        String.join (l.handlers.map fun h => if h = .errorOutput then r.line stamp else "")⟩
  else ⟨[], ""⟩

/-- What the logger writes on the error output for a sequence of records. -/
def errorText (l : Logger) (stamp : String) (records : List Record) : String :=
  String.join (records.map fun r => (l.emit stamp r).errors)

end Logger

end Workspace.Log
