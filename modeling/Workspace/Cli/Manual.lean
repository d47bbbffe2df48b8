/-
# The grammars of the program

The program takes a command and its words.  Each command has a grammar of its own; the grammar of
the program itself ends at the name of the command.
-/
import Workspace.Cli.Grammar
import Workspace.Object.Kind
namespace Workspace.Cli

/-- The option that asks for help. -/
def helpOption : Opt := ⟨["-h", "--help"], .help⟩

/-- The name of the program. -/
def programName : String := "dbws"

/-- The names of the log levels that can be chosen. -/
def logLevels : List String := ["DEBUG", "INFO", "WARNING", "ERROR"]

/-- The log level that is used if none is chosen. -/
def defaultLogLevel : String := "WARNING"

/-- The option for the log level. -/
def logLevelOption : Opt := ⟨["--log-level"], .choice logLevels⟩

/-- The option to walk through subdirectories, or to delete them. -/
def recursiveOption : Opt := ⟨["-r", "--recursive"], .flag⟩

/-- The option for the format. -/
def formatOption : Opt := ⟨["--format"], .choice (ExportFormat.all.map ExportFormat.name)⟩

/-- The option for the file to write. -/
def outputOption : Opt := ⟨["-o", "--output"], .text⟩

/-- The option for the language of a notebook. -/
def languageOption : Opt := ⟨["--language"], .choice (Language.listed.map Language.name)⟩

/-- The option to replace a notebook. -/
def overwriteOption : Opt := ⟨["--overwrite"], .flag⟩

/-! ## 1. The commands -/

/-- The names of the commands, each with its purpose. -/
inductive CommandName
  /-- List a directory. -/
  | ls
  /-- Show what is known about an object. -/
  | status
  /-- Export a notebook. -/
  | exportNotebook
  /-- Import a notebook. -/
  | importNotebook
  /-- Create a directory. -/
  | mkdirs
  /-- Delete an object. -/
  | rm
  deriving DecidableEq, Repr

namespace CommandName

/-- Every command, in the order of the help text. -/
def all : List CommandName := [ls, status, exportNotebook, importNotebook, mkdirs, rm]

/-- The word for a command. -/
def word : CommandName → String
  | ls => "ls"
  | status => "status"
  | exportNotebook => "export"
  | importNotebook => "import"
  | mkdirs => "mkdirs"
  | rm => "rm"

/-- The command of a word. -/
def ofWord? (s : String) : Option CommandName := all.find? fun c => c.word == s

theorem ofWord?_word (c : CommandName) : ofWord? c.word = some c := by
  cases c <;> rfl

end CommandName

/-! ## 2. The grammars -/

/-- The grammar of the program. -/
def programGrammar : Grammar where
  program := programName
  operands := ["command"]
  options := [helpOption, logLevelOption]
  usage :=
    "usage: dbws [-h] [--log-level \x7bDEBUG,INFO,WARNING,ERROR\x7d]\n" ++
    "            \x7bls,status,export,import,mkdirs,rm\x7d ...\n"
  manual :=
    "Workspace notebook management CLI\n" ++
    "\n" ++
    "positional arguments:\n" ++
    "  \x7bls,status,export,import,mkdirs,rm\x7d\n" ++
    "    ls                  List a workspace directory\n" ++
    "    status              Show object metadata\n" ++
    "    export              Export notebook content\n" ++
    "    import              Import a file as a notebook\n" ++
    "    mkdirs              Create a directory and its parents\n" ++
    "    rm                  Delete a notebook or directory\n" ++
    "\n" ++
    "options:\n" ++
    "  -h, --help            show this help message and exit\n" ++
    "  --log-level \x7bDEBUG,INFO,WARNING,ERROR\x7d\n" ++
    "                        Log level for stderr output (default: WARNING)\n" ++
    "\n" ++
    "Examples:\n" ++
    "    dbws ls /Shared -r\n" ++
    "    dbws status /Shared/etl\n" ++
    "    dbws export /Shared/etl --format SOURCE -o etl.py\n" ++
    "    echo \"print(1)\" | dbws import /Shared/hello - --language PYTHON\n" ++
    "    dbws rm /Shared/old -r\n"

/-- The grammar of `ls`. -/
def lsGrammar : Grammar where
  program := "dbws ls"
  operands := ["path"]
  options := [helpOption, recursiveOption]
  usage := "usage: dbws ls [-h] [-r] path\n"
  manual :=
    "positional arguments:\n" ++
    "  path             Workspace path\n" ++
    "\n" ++
    "options:\n" ++
    "  -h, --help       show this help message and exit\n" ++
    "  -r, --recursive  Walk subdirectories and list notebooks only\n"

/-- The grammar of `status`. -/
def statusGrammar : Grammar where
  program := "dbws status"
  operands := ["path"]
  options := [helpOption]
  usage := "usage: dbws status [-h] path\n"
  manual :=
    "positional arguments:\n" ++
    "  path        Workspace path\n" ++
    "\n" ++
    "options:\n" ++
    "  -h, --help  show this help message and exit\n"

/-- The grammar of `export`. -/
def exportGrammar : Grammar where
  program := "dbws export"
  operands := ["path"]
  options := [helpOption, formatOption, outputOption]
  usage :=
    "usage: dbws export [-h] [--format \x7bSOURCE,HTML,JUPYTER,DBC\x7d] [-o OUTPUT] path\n"
  manual :=
    "positional arguments:\n" ++
    "  path                  Notebook path\n" ++
    "\n" ++
    "options:\n" ++
    "  -h, --help            show this help message and exit\n" ++
    "  --format \x7bSOURCE,HTML,JUPYTER,DBC\x7d\n" ++
    "                        Export format (default: SOURCE)\n" ++
    "  -o OUTPUT, --output OUTPUT\n" ++
    "                        Write decoded content to this file instead of printing\n" ++
    "                        base64\n"

/-- The grammar of `import`. -/
def importGrammar : Grammar where
  program := "dbws import"
  operands := ["path", "file"]
  options := [helpOption, languageOption, formatOption, overwriteOption]
  usage :=
    "usage: dbws import [-h] [--language \x7bSCALA,PYTHON,SQL,R\x7d]\n" ++
    "                   [--format \x7bSOURCE,HTML,JUPYTER,DBC\x7d] [--overwrite]\n" ++
    "                   path file\n"
  manual :=
    "positional arguments:\n" ++
    "  path                  Destination notebook path\n" ++
    "  file                  Local file to upload (- for stdin)\n" ++
    "\n" ++
    "options:\n" ++
    "  -h, --help            show this help message and exit\n" ++
    "  --language \x7bSCALA,PYTHON,SQL,R\x7d\n" ++
    "                        Notebook language (required for SOURCE imports)\n" ++
    "  --format \x7bSOURCE,HTML,JUPYTER,DBC\x7d\n" ++
    "                        Format of the uploaded file (default: SOURCE)\n" ++
    "  --overwrite           Replace an existing notebook\n"

/-- The grammar of `mkdirs`. -/
def mkdirsGrammar : Grammar where
  program := "dbws mkdirs"
  operands := ["path"]
  options := [helpOption]
  usage := "usage: dbws mkdirs [-h] path\n"
  manual :=
    "positional arguments:\n" ++
    "  path        Workspace path\n" ++
    "\n" ++
    "options:\n" ++
    "  -h, --help  show this help message and exit\n"

/-- The grammar of `rm`. -/
def rmGrammar : Grammar where
  program := "dbws rm"
  operands := ["path"]
  options := [helpOption, recursiveOption]
  usage := "usage: dbws rm [-h] [-r] path\n"
  manual :=
    "positional arguments:\n" ++
    "  path             Workspace path\n" ++
    "\n" ++
    "options:\n" ++
    "  -h, --help       show this help message and exit\n" ++
    "  -r, --recursive  Delete a non-empty directory\n"

/-- The grammar of a command. -/
def CommandName.grammar : CommandName → Grammar
  | ls => lsGrammar
  | status => statusGrammar
  | exportNotebook => exportGrammar
  | importNotebook => importGrammar
  | mkdirs => mkdirsGrammar
  | rm => rmGrammar

end Workspace.Cli
