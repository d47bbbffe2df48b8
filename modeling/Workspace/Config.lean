/-
# Settings of a connection

The host, the token and the timeout come from three environment variables.  `Settings.load` reads
them and tells what is missing or bad; nothing else of the library looks at the environment.

`normalizeHost` turns the spelling of a host into a base URL: blanks and then trailing slashes are
dropped, and `https://` is put before a host without scheme.
-/
import Workspace.Error
import Workspace.Number.Notation
import Workspace.Text.Quoted
namespace Workspace

/-- The version of the interface that every operation uses. -/
def apiVersion : String := "2.0"

/-- The values of the three environment variables that are set. -/
structure Environment where
  host : Option String
  token : Option String
  timeout : Option String
  deriving DecidableEq, Repr

/-- The settings of a connection. -/
structure Settings where
  host : String
  token : Option String
  timeout : Binary64
  deriving DecidableEq, Repr

/-- A base URL for the spelling of a host. -/
def normalizeHost (host : String) : String :=
  let host := Text.trimEnd '/' (Text.trim host)
  if host.startsWith "http://" || host.startsWith "https://" then host else "https://" ++ host

/-- The text, unless it is empty. -/
def nonEmpty? (s : Option String) : Option String :=
  match s with
  | some t => if t.isEmpty then none else some t
  | none => none

namespace Settings

/-- The variable for the host. -/
def hostVariable : String := "DATABRICKS_HOST"

/-- The variable for the token. -/
def tokenVariable : String := "DATABRICKS_TOKEN"

/-- The variable for the timeout. -/
def timeoutVariable : String := "DBWS_HTTP_TIMEOUT"

/-- The timeout in seconds without a setting. -/
def defaultTimeout : Binary64 := .ofDecimal false 60 0

/-- The timeout of a setting: a positive finite number of seconds. -/
def timeoutOf (setting : Option String) : Except Error Binary64 :=
  match nonEmpty? setting with
  | none => .ok defaultTimeout
  | some text =>
    match Binary64.ofText? text with
    | some x => if x.isPositive then .ok x else .error (badTimeout text)
    | none => .error (badTimeout text)
where
  /-- The error for a timeout that is no positive number. -/
  badTimeout (text : String) : Error :=
    .plain .invalidInput (timeoutVariable ++ " must be a positive number of seconds, got " ++
      Text.Quoted.text text)

/-- The settings that an environment holds. -/
def load (env : Environment) : Except Error Settings :=
  let host := Text.trim (env.host.getD "")
  if host.isEmpty then .error (.plain .invalidInput (hostVariable ++ " is not set"))
  else
    match timeoutOf env.timeout with
    | .error e => .error e
    | .ok timeout => .ok ⟨normalizeHost host, nonEmpty? env.token, timeout⟩

end Settings

end Workspace
