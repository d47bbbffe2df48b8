/-
# Failures

An operation that does not return fails with a `Failure`.  Most failures are structured errors,
which the command line prints; the others are told apart here because they pass through every
layer as they are, each with a text of its own (`Failure.message`).
-/
import Workspace.Error
import Workspace.File.Fault
import Workspace.Http.Message
import Workspace.Json.Display
namespace Workspace

/-- Why an operation did not return. -/
inductive Failure
  /-- An error with a kind. -/
  | error (e : Error)
  /-- A value is no member of the enumeration with the given name. -/
  | notAMember (value : Json) (enumeration : String)
  /-- The client was closed before the request. -/
  | closedClient
  /-- A request body holds a number that JSON has no form for. -/
  | nonFiniteNumber
  /-- The exchange was redirected too often. -/
  | tooManyRedirects (text : String)
  /-- The body of the response did not match its encoding. -/
  | undecodableBody (text : String)
  /-- The response sends on to a target that cannot be completed. -/
  | misdirected
  /-- The body of the response cannot be read as text. -/
  | unreadableBody (fault : Http.ReadFault)
  /-- The token holds characters outside ASCII: the first of them, and the places in the header
  value from the first up to but not including the end of their run. -/
  | tokenNotAscii (first : Char) (start stop : Nat)
  /-- A timeout was given by a text that is no number. -/
  | notANumber (text : String)
  /-- A timeout was given by a value of the named type, which is neither number nor text. -/
  | timeoutWithoutText (type : String)
  /-- No log level has the name. -/
  | unknownLevel (name : String)
  /-- The name stands for a text that is no log level. -/
  | levelIsText (text : String)
  /-- The name stands for a table, shown here, and for no log level. -/
  | levelIsTable (shown : String)
  /-- A file cannot be opened, or not be written as a whole. -/
  | file (fault : File.Fault) (name : String)
  /-- A file name holds the character U+0000. -/
  | nulInName
  /-- A file name was given without text. -/
  | nameWithoutText
  /-- A log level was given by a value of the named type, which is no text. -/
  | levelWithoutText (type : String)
  /-- Directories are nested deeper than the limit of the walk. -/
  | tooDeep
  /-- No client is current. -/
  | noClient
  deriving Repr

namespace Failure

/-- The text of a failure. -/
def message : Failure → String
  | error e => e.message
  | notAMember value enumeration => value.shown ++ " is not a valid " ++ enumeration
  | closedClient => "Cannot send a request, as the client has been closed."
  | nonFiniteNumber => "Out of range float values are not JSON compliant"
  | tooManyRedirects text => text
  | undecodableBody text => text
  | misdirected => "For absolute URLs, path must be empty or begin with '/'"
  | unreadableBody fault => fault.text
  | tokenNotAscii first start stop =>
    if stop = start + 1 then
      s!"'ascii' codec can't encode character '{String.ofList (Text.Quoted.byCode first)}' in " ++
        s!"position {start}: ordinal not in range(128)"
    else
      s!"'ascii' codec can't encode characters in position {start}-{stop - 1}: ordinal not in " ++
        "range(128)"
  | notANumber text => "could not convert string to float: " ++ Text.Quoted.text text
  | timeoutWithoutText type =>
    s!"float() argument must be a string or a real number, not '{type}'"
  | unknownLevel name => s!"module 'logging' has no attribute '{name}'"
  | levelIsText text => "Unknown level: " ++ Text.Quoted.text text
  | levelIsTable shown => "Level not an integer or a valid string: " ++ shown
  | file fault name => fault.message name
  | nulInName => "embedded null byte"
  | nameWithoutText => "expected str, bytes or os.PathLike object, not list"
  | levelWithoutText type => s!"'{type}' object has no attribute 'upper'"
  | tooDeep => "maximum recursion depth exceeded"
  | noClient => "no client is current"

end Failure

end Workspace
