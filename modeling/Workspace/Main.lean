/-
# The program

The thin layer between the process and `Cli.Report`.  It takes the words and the environment of
the process, brings in the file that the command reads, and afterwards puts out the texts and the
file that the command wrote.

Carrying requests over a network is left to whoever embeds the library.  The program itself takes
the replies of the service from the file that `DBWS_REPLIES` names: a JSON array with the body of
one successful response after the other.  Without such a file every exchange fails.
-/
import Std.Time.DateTime.Timestamp
import Workspace.Cli.Report
import Workspace.Script
namespace Workspace.Program

/-- The variable that names the file with the replies. -/
def repliesVariable : String := "DBWS_REPLIES"

/-- The successful response with a body. -/
def reply (body : Json) : Http.Outcome :=
  .response ⟨200, Utf8.ofString (body.compact?.getD ""), "", [], none⟩

/-- The replies in a JSON value. -/
def repliesOf : Json → List Http.Outcome
  | .array items => items.map reply
  | _ => []

/-- The service without a connection. -/
def offline : Http.Remote (List Http.Outcome) := fun _ queue =>
  (.disconnected "no connection", queue)

/-- The time of day as hours, minutes and seconds. -/
def clock (seconds : Nat) : String :=
  let two (n : Nat) : String := String.ofList (Nat.toDigits 10 (100 + n % 60)).tail
  two (seconds / 3600 % 24) ++ ":" ++ two (seconds / 60) ++ ":" ++ two seconds

/-- The bytes of a file, if it can be read. -/
def bytesOf? (name : String) : IO (Option Bytes) := do
  try
    return some (← IO.FS.readBinFile name).toList
  catch _ => return none

/-- The files that a command needs to find. -/
def filesFor : Cli.Command → IO File.Tree
  | .importNotebook _ (.text name) _ _ _ => do
    return .ofNames [] [] (((← bytesOf? name).map fun bytes => (name, bytes)).toList)
  | .exportNotebook _ _ (some (.text name)) =>
    return .ofNames [] ["/".intercalate (File.Name.ofString name).parts.dropLast] []
  | _ => return .ofNames [] [] []

/-- The environment of the process. -/
def environment : IO Environment := do
  return ⟨← IO.getEnv Settings.hostVariable, ← IO.getEnv Settings.tokenVariable,
    ← IO.getEnv Settings.timeoutVariable⟩

/-- The replies of the service, if there is a file with them. -/
def replies? : IO (Option (List Http.Outcome)) := do
  match ← IO.getEnv repliesVariable with
  | none => return none
  | some name =>
    let text ← IO.FS.readFile name
    return some (repliesOf ((Json.ofString text).toOption.getD .null))

/-- The bytes on the standard input, if the command reads it. -/
def inputFor : Cli.Command → IO Bytes
  | .importNotebook _ (.text "-") _ _ _ => do
    return (← (← IO.getStdin).readBinToEnd).toList
  | _ => return []

/-- Perform what a command line asks for. -/
def perform (invocation : Cli.Invocation) : IO Cli.Report := do
  let replies ← replies?
  let queue := replies.getD []
  let script : Script := ⟨[]⟩
  let remote := if replies.isSome then script.remote else offline
  let now ← Std.Time.Timestamp.now
  let desk : Cli.Desk (List Http.Outcome) :=
    ⟨⟨queue, false⟩, ← filesFor invocation.command, ← inputFor invocation.command⟩
  return .ofInvocation remote (script.depthBound queue) (← environment)
    (clock now.toSecondsSinceUnixEpoch.val.toNat) desk invocation

/-- Write the file that a command wrote. -/
def writeFileOf (report : Cli.Report) : Cli.Command → IO Unit
  | .exportNotebook _ _ (some (.text name)) =>
    match report.files.readFile (File.Name.ofString name) with
    | .ok bytes => IO.FS.writeBinFile name ⟨bytes.toArray⟩
    | .error _ => return
  | _ => return

end Workspace.Program

open Workspace in
/-- Run the program with the words of the process. -/
def main (words : List String) : IO UInt32 := do
  match Cli.Invocation.ofWords words with
  | .error exit =>
    IO.print exit.output
    IO.eprint exit.errors
    return exit.code.toUInt32
  | .ok invocation =>
    let report ← Program.perform invocation
    Program.writeFileOf report invocation.command
    IO.print report.output
    IO.eprint report.errors
    match report.result with
    | .ok code => return code.toUInt32
    | .error failure =>
      IO.eprintln failure.message
      return 1
