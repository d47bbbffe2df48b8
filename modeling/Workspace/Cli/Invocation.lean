/-
# Invocations

An invocation is what a command line asks for: a command with its values, and the log level.
`Invocation.ofWords` reads one, and refuses words that have no place: those before the name of the
command come first in the message.
-/
import Workspace.Cli.Manual
import Workspace.Cli.Reading
namespace Workspace.Cli

/-- A command with its values. -/
inductive Command
  | ls (path : String) (recursive : Bool)
  | status (path : String)
  /-- Export a notebook; the content is printed if there is no file to write. -/
  | exportNotebook (path : String) (format : Argument) (output : Option Argument)
  | importNotebook (path : String) (file : Argument) (language : Option Argument)
      (format : Argument) (overwrite : Bool)
  | mkdirs (path : String)
  | rm (path : String) (recursive : Bool)
  deriving DecidableEq, Repr

/-- The name of a command. -/
def Command.name : Command → CommandName
  | ls _ _ => .ls
  | status _ => .status
  | exportNotebook _ _ _ => .exportNotebook
  | importNotebook _ _ _ _ _ => .importNotebook
  | mkdirs _ => .mkdirs
  | rm _ _ => .rm

/-- What a command line asks for. -/
structure Invocation where
  logLevel : Argument
  command : Command
  deriving DecidableEq, Repr

namespace Reading

/-- The path, which is the first operand.  It always has a text, for a separator with nothing
before it belongs to it. -/
def path (r : Reading) : String := (r.operands.head?.bind Argument.text?).getD ""

/-- The second operand. -/
def file (r : Reading) : Argument := r.operands[1]?.getD .textless

/-- The format, by default the source of the notebook. -/
def format (r : Reading) : Argument :=
  (r.value? "--format").getD (.text ExportFormat.source.name)

/-- The values of the command with the given name. -/
def command (r : Reading) : CommandName → Command
  | .ls => .ls r.path (r.isGiven "--recursive")
  | .status => .status r.path
  | .exportNotebook => .exportNotebook r.path r.format (r.value? "--output")
  | .importNotebook =>
    .importNotebook r.path r.file (r.value? "--language") r.format (r.isGiven "--overwrite")
  | .mkdirs => .mkdirs r.path
  | .rm => .rm r.path (r.isGiven "--recursive")

end Reading

/-- The command that a word names. -/
def commandOf (word : String) : Except Exit CommandName :=
  match CommandName.ofWord? word with
  | some name => .ok name
  | none =>
    .error (.refused programGrammar
      (.invalidChoice "command" word (CommandName.all.map CommandName.word)))

namespace Invocation

/-- Read a command line. -/
def ofWords (words : List String) : Except Exit Invocation := do
  let (general, word, rest) ← programGrammar.readToOperand words
  let name ← commandOf word
  let special ← name.grammar.read rest
  match general.extras ++ special.extras with
  | [] => .ok ⟨(general.value? "--log-level").getD (.text defaultLogLevel), special.command name⟩
  | extras => .error (.refused programGrammar (.unrecognized extras))

end Invocation

end Workspace.Cli
