/-
# Running the program

A run of the program reads the command line, then the settings, and then performs the command.  It
ends with a `Report`: the exit code, the texts on the two outputs, the requests that were sent and
the files as they are afterwards.

* A command that succeeds prints one JSON document and exits with 0.
* A structured error, and a file that cannot be opened or written, is printed as a JSON document
  too, and the exit code is 1.
* The records of the log go to the error output, each with the time `stamp`.

Whatever else goes wrong is no business of the program: `Report.result` then holds the failure.
-/
import Workspace.Cli.Invocation
import Workspace.Connection
import Workspace.File.Tree
import Workspace.Log.Logger
namespace Workspace.Cli

/-- What a command works on: the wire to the service, the files, and the standard input. -/
structure Desk (σ : Type) where
  wire : Wire σ
  files : File.Tree
  input : Bytes
  deriving DecidableEq, Repr

variable {σ : Type}

/-- The JSON value of an argument. -/
def Argument.toJson : Argument → Json
  | text s => .string s
  | textless => .array []

/-- A count of bytes as JSON. -/
def byteCount (bytes : Bytes) : Json := .int bytes.length

namespace Desk

/-- Run an operation on the wire. -/
def onWire {α : Type} (x : Action (Wire σ) α) : Action (Desk σ) α :=
  x.onPart Desk.wire fun d wire => { d with wire }

/-- The file name in an argument. -/
def nameOf (argument : Argument) : Except Failure File.Name :=
  match argument with
  | .textless => .error .nameWithoutText
  | .text s => .ok (File.Name.ofString s)

/-- Does the name hold the character U+0000? -/
def hasNul (name : File.Name) : Bool := name.spelling.toList.contains '\x00'

/-- The failure for a file that cannot be opened or written, or what was made of it. -/
def ofFault {α : Type} (name : File.Name) (x : Except File.Fault α) : Except Failure α :=
  if hasNul name then .error .nulInName
  else x.mapError fun fault => .file fault name.spelling

/-- The bytes of the file that an argument names, or of the standard input. -/
def read (argument : Argument) : Action (Desk σ) Bytes := do
  let desk ← Action.get
  if argument = .text "-" then return desk.input
  else
    let name ← Action.ofExcept (nameOf argument)
    Action.ofExcept (ofFault name (desk.files.readFile name))

/-- Write bytes to the file with the given name.  What was written stays, even if the write breaks
off. -/
def write (name : File.Name) (bytes : Bytes) : Action (Desk σ) Unit := do
  let desk ← Action.get
  let (result, files) := desk.files.writeFile name bytes
  Action.modify fun d => if hasNul name then d else { d with files }
  Action.ofExcept (ofFault name result)

end Desk

namespace Command

open Desk

/-- The document of an export: the content itself, or how many bytes went to which file. -/
def exportDocument (path : String) (format : ExportFormat) (rest : Json.Members) : Json :=
  .object ([("path", .string path), ("format", .string format.name)] ++ rest)

/-- Perform a command, and return the document to print. -/
def perform (c : Connection σ) : Command → Action (Desk σ) Json
  | ls path recursive => do
    let objects ← onWire (c.list path recursive)
    return .array (objects.map ObjectStatus.toJson)
  | status path => do
    let object ← onWire (c.read path)
    return object.toJson
  | exportNotebook path format output => do
    let format ← Action.ofExcept (ExportFormat.ofJson format.toJson)
    let content ← onWire (c.exportContent path (some format))
    match output with
    | none => return exportDocument path format [("content", .string content)]
    | some output => do
      let bytes ← Action.ofResult (Content.decode ⟨content⟩)
      let name ← Action.ofExcept (nameOf output)
      write name bytes
      return exportDocument path format
        [("output", .string name.spelling), ("bytes", byteCount bytes)]
  | importNotebook path file language format overwrite => do
    -- the file is read before the other arguments are looked at
    let bytes ← read file
    let language ← Action.ofExcept (languageOf language)
    let format ← Action.ofExcept (ExportFormat.ofJson format.toJson)
    onWire (c.create ⟨path, (Content.encode bytes).base64, language, some format, overwrite⟩)
    return .object [("path", .string path), ("imported", .bool true), ("bytes", byteCount bytes)]
  | mkdirs path => do
    onWire (c.makeDirectories path)
    return .object [("path", .string path), ("created", .bool true)]
  | rm path recursive => do
    onWire (c.delete ⟨path, recursive⟩)
    return .object [("path", .string path), ("deleted", .bool true)]
where
  /-- The language in an argument; an argument without text names none. -/
  languageOf : Option Argument → Except Failure (Option Language)
    | some (.text s) => (Language.ofJson (.string s)).map some
    | _ => .ok none

end Command

/-- How a run of the program ended. -/
structure Report where
  /-- The exit code, or a failure that the program does not handle. -/
  result : Except Failure Nat
  /-- The text on the standard output. -/
  output : String
  /-- The text on the error output. -/
  errors : String
  requests : List Http.Request
  files : File.Tree

namespace Report

/-- The text that prints a document. -/
def printed (document : Json) : String := document.indented ++ "\n"

/-- The exit code and the output for the result of a command. -/
def settle : Except Failure Json → Except Failure Nat × String
  | .ok document => (.ok 0, printed document)
  | .error (.error e) => (.ok 1, printed e.toJson)
  | .error (.file fault name) =>
    (.ok 1, printed (Error.plain .invalidInput (Failure.file fault name).message).toJson)
  | .error failure => (.error failure, "")

/-- The logger with the level that an argument names. -/
def loggerOf (level : Argument) : Except Failure Log.Logger :=
  let r := Log.Logger.configure level.toJson Log.Logger.fresh
  r.result.map fun _ => r.world

/-- Read the settings and perform a command. -/
def perform (remote : Http.Remote σ) (maxDepth : Nat) (env : Environment) (command : Command) :
    Action (Desk σ) Json := do
  let settings ← Action.ofResult (Settings.load env)
  let client ← Action.ofExcept (Client.ofSettings settings)
  command.perform ⟨remote, client, maxDepth⟩

/-- Run what a command line asks for. -/
def ofInvocation (remote : Http.Remote σ) (maxDepth : Nat) (env : Environment) (stamp : String)
    (desk : Desk σ) (invocation : Invocation) : Report :=
  match loggerOf invocation.logLevel with
  | .error failure => ⟨.error failure, "", "", [], desk.files⟩
  | .ok logger =>
    let r := perform remote maxDepth env invocation.command desk
    let (result, output) := settle r.result
    ⟨result, output, logger.errorText stamp r.records, r.requests, r.world.files⟩

/-- Run the program with the given words. -/
def ofWords (remote : Http.Remote σ) (maxDepth : Nat) (env : Environment) (stamp : String)
    (desk : Desk σ) (words : List String) : Report :=
  match Invocation.ofWords words with
  | .error exit => ⟨.ok exit.code, exit.output, exit.errors, [], desk.files⟩
  | .ok invocation => ofInvocation remote maxDepth env stamp desk invocation

end Report

end Workspace.Cli
