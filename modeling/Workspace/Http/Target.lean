/-
# The target of a redirection

A response may send its caller on to a target, a URL or a part of one:

    scheme://userinfo@host:port/path?query#fragment

Every part may be missing.  `Target.ofString` reads a target, or tells why it is none:

* it is too long, or holds a control character;
* its host has the form of a network address and is none;
* its port is no number;
* it has neither scheme nor authority, and its path could be mistaken for one of them.

A target with a scheme and without a host is completed by the host of the request, which needs a
path that is empty or starts with a slash (`Target.isCompletable`).
-/
import Workspace.Http.Address
import Workspace.Number.Notation
import Workspace.Text.Quoted
namespace Workspace.Http

/-- The parts of a target that matter for its validity; all of them may be empty. -/
structure Target where
  scheme : List Char
  userinfo : List Char
  host : List Char
  port : List Char
  path : List Char
  deriving DecidableEq, Repr

namespace Target

/-! ## 1. Faults -/

/-- Why a text is no target. -/
inductive Fault
  | tooLong
  | control (c : Char) (position : Nat)
  | notVersion4 (host : String)
  | notVersion6 (host : String)
  | notAPort (port : String)
  | doubleSlash
  | leadingColon
  deriving DecidableEq, Repr

/-- The text of a fault. -/
def Fault.message : Fault → String
  | tooLong => "URL too long"
  | control c position =>
    "Invalid non-printable ASCII character in URL, " ++ Text.Quoted.text (String.singleton c) ++
      s!" at position {position}."
  | notVersion4 host => "Invalid IPv4 address: " ++ Text.Quoted.text host
  | notVersion6 host => "Invalid IPv6 address: " ++ Text.Quoted.text host
  | notAPort port => "Invalid port: " ++ Text.Quoted.text port
  | doubleSlash => "Relative URLs cannot have a path starting with '//'"
  | leadingColon => "Relative URLs cannot have a path starting with ':'"

/-! ## 2. Parts -/

/-- The length that a target may have at most. -/
def maxLength : Nat := 65536

/-- A control character of ASCII. -/
def isControl (c : Char) : Bool := c.toNat < 32 || c.toNat == 127

/-- A character of a scheme. -/
def isSchemeChar (c : Char) : Bool := c.isAlphanum || c == '+' || c == '.' || c == '-'

/-- The scheme, which starts with a letter or is empty, and what follows its colon. -/
def splitScheme (cs : List Char) : List Char × List Char :=
  let name := cs.takeWhile isSchemeChar
  match cs.dropWhile isSchemeChar with
  | ':' :: rest => if name.head?.all Char.isAlpha then (name, rest) else ([], cs)
  | _ => ([], cs)

/-- The authority, which stands behind two slashes, and what follows it. -/
def splitAuthority (cs : List Char) : List Char × List Char :=
  let inAuthority (c : Char) : Bool := !(c == '/' || c == '?' || c == '#')
  match cs with
  | '/' :: '/' :: rest => (rest.takeWhile inAuthority, rest.dropWhile inAuthority)
  | _ => ([], cs)

/-- The part in front of the last `c` and the part behind it; no `c`, no first part. -/
def splitLast (c : Char) (cs : List Char) : List Char × List Char :=
  let reversed := cs.reverse
  match reversed.dropWhile (· != c) with
  | [] => ([], cs)
  | _ :: before => (before.reverse, (reversed.takeWhile (· != c)).reverse)

/-- The host and the port.  A host may stand between brackets, with colons in it. -/
def splitPort (cs : List Char) : List Char × List Char :=
  let (host, rest) :=
    if cs.head? = some '[' ∧ ']' ∈ cs then
      let (inside, rest) := splitLast ']' cs
      (inside ++ [']'], rest)
    else
      let inHost (c : Char) : Bool := !(c == ':' || c == '@')
      (cs.takeWhile inHost, cs.dropWhile inHost)
  match rest with
  | ':' :: port => (host, port)
  | port => (host, port)

/-- The parts of a text. -/
def parts (cs : List Char) : Target :=
  let (scheme, rest) := splitScheme cs
  let (authority, rest) := splitAuthority rest
  let (userinfo, server) := splitLast '@' authority
  let (host, port) := splitPort server
  ⟨scheme, userinfo, host, port, rest.takeWhile fun c => !(c == '?' || c == '#')⟩

/-! ## 3. Validity -/

/-- The fault of a host in the form of an address that is no address. -/
def hostFault? (host : List Char) : Option Fault :=
  let text := String.ofList host
  if Address.looksLikeVersion4 text then
    if Address.isVersion4 text then none else some (.notVersion4 text)
  else
    match host with
    | '[' :: rest =>
      if rest.getLast? = some ']' then
        if Address.isVersion6 (String.ofList rest.dropLast) then none
        else some (.notVersion6 text)
      else none
    | _ => none

/-- The fault of a port that is no number. -/
def portFault? (port : List Char) : Option Fault :=
  if port.isEmpty || ((Binary64.plainChars? port).bind Binary64.signedInt?).isSome then none
  else some (.notAPort (String.ofList port))

/-- The fault of the path of a target without scheme and authority. -/
def pathFault? (t : Target) : Option Fault :=
  if t.scheme.isEmpty && t.userinfo.isEmpty && t.host.isEmpty && t.port.isEmpty then
    match t.path with
    | '/' :: '/' :: _ => some .doubleSlash
    | ':' :: _ => some .leadingColon
    | _ => none
  else none

/-- The fault of the parts of a target, that of the host first. -/
def fault? (t : Target) : Option Fault :=
  (hostFault? t.host).or ((portFault? t.port).or t.pathFault?)

/-- The target with the given spelling. -/
def ofString (s : String) : Except Fault Target :=
  let cs := s.toList
  if maxLength < cs.length then .error .tooLong
  else
    match cs.find? isControl with
    | some c => .error (.control c (cs.takeWhile fun d => !isControl d).length)
    | none =>
      let t := parts cs
      match t.fault? with
      | some fault => .error fault
      | none => .ok t

/-! ## 4. Completion -/

/-- The parts of a path without dots: `.` stands for the same place and `..` for the one above.
`seen` holds the parts so far, the last one first. -/
def withoutDots (seen : List String) : List String → List String
  | [] => seen.reverse
  | "." :: rest => withoutDots seen rest
  | ".." :: rest => withoutDots (if seen = [""] then seen else seen.tail) rest
  | part :: rest => withoutDots (part :: seen) rest

/-- The path without dots. -/
def plainPath (t : Target) : String :=
  "/".intercalate (withoutDots [] ((String.ofList t.path).splitOn "/"))

/-- Can the host of the request stand in for a host that is missing? -/
def isCompletable (t : Target) : Bool :=
  t.scheme.isEmpty || !t.host.isEmpty || t.plainPath.isEmpty || t.plainPath.startsWith "/"

end Target

end Workspace.Http
