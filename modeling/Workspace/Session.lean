/-
# Sessions

A session is the life of a program that uses the library: an environment that may change, the
clients built so far, the shared client if there is one, and the client in use.

* The shared client is built from the environment when it is first asked for, and kept until it is
  forgotten; a failed attempt keeps nothing.  Forgetting it closes it.
* A client is known by its number, in the order in which the clients were built.
* A line that is handed over is known by a number, too.  The first client that gets it finds it open
  and without a token.  A client that gets it later takes it as it is; if it has a token, it sets it
  there, for all who share the line.
* A scope closes the client that was in use when it was entered, however its step ends.

A failing step does not end the session: `Session.run` takes the steps in turn.
-/
import Workspace.Connection
namespace Workspace

/-- The state of a session. -/
structure Session (σ : Type) where
  environment : Environment
  /-- The clients, each under its number. -/
  clients : List Client
  /-- The number of the shared client. -/
  shared : Option Nat
  /-- The number of the client in use. -/
  current : Option Nat
  wire : Wire σ
  deriving DecidableEq, Repr

/-- A step of a session. -/
inductive Step
  | setEnvironment (env : Environment)
  /-- Build a client.  The timeout is given as a JSON value; a client that a line is handed to keeps
  the timeout of the line. -/
  | newClient (host : String) (token : Option String) (timeout : Option Json) (line : Option Nat)
  | useShared
  /-- Go back to a client that was built before. -/
  | useClient (number : Nat)
  | forgetShared
  | close
  | scoped (inner : Step)
  | urlFor (path version : String)
  | query (method path version : String) (fields : Json.Members)
  /-- Import a notebook; language and format are given as JSON values, null for none. -/
  | create (path content : String) (language format : Json) (overwrite : Bool)
  | read (path : String)
  /-- Export a notebook; the format is given as a JSON value, null for none. -/
  | exportContent (path : String) (format : Json)
  | makeDirectories (path : String)
  | delete (path : String) (recursive : Bool)
  | list (path : String) (recursive : Bool)
  deriving Repr, Inhabited

/-- What a step returns. -/
inductive Reply
  | nothing
  | client (number : Nat) (host : String) (timeout : Binary64)
  | text (s : String)
  | object (members : Json.Members)
  | status (s : ObjectStatus)
  | listing (objects : List ObjectStatus)
  deriving Repr

namespace Session

variable {σ : Type}

/-- A session at its start. -/
def start (environment : Environment) (service : σ) : Session σ :=
  ⟨environment, [], none, none, ⟨service, false⟩⟩

/-- The client in use. -/
def currentClient? (s : Session σ) : Option Client := s.current.bind fun n => s.clients[n]?

/-- Does the client with the number `n` use the line of the client with the number `m`? -/
def reaches (s : Session σ) (n m : Nat) : Bool :=
  m == n || s.clients[n]?.any fun c => s.clients[m]?.any c.joins

/-- Close the client with a number, and with it all who share its line. -/
def closeClient (n : Nat) (s : Session σ) : Session σ :=
  { s with clients := s.clients.mapIdx fun m c => if s.reaches n m then c.close else c }

/-- Close the client with a number, if there is one. -/
def closeClient? (n : Option Nat) (s : Session σ) : Session σ :=
  n.elim s fun n => s.closeClient n

/-- A client that was just built, as it is on its line. -/
def onLine (s : Session σ) (c : Client) : Client :=
  match s.clients.find? c.joins with
  | none => c
  | some d => { c with token := c.token.or d.token, timeout := d.timeout, closed := d.closed }

/-- Take up a client that was just built, and use it. -/
def addClient (c : Client) (s : Session σ) : Session σ :=
  { s with
    clients := (s.clients.map fun d => if c.joins d then d.takeToken c.token else d) ++ [s.onLine c]
    current := some s.clients.length }

/-- The timeout in seconds of a line that was made without a client. -/
def lineTimeout : Binary64 := .ofDecimal false 5 0

/-- The timeout that a JSON value gives: a number, the text of one, or a truth value as one or
zero. -/
def timeoutOf : Json → Except Failure Binary64
  | .number x => .ok x
  | .int n => .ok (.ofDecimal (n < 0) n.natAbs 0)
  | .bool b => .ok (.ofDecimal false b.toNat 0)
  | .string s =>
    match Binary64.ofText? s with
    | some x => .ok x
    | none => .error (.notANumber s)
  | v => .error (.timeoutWithoutText v.typeName)

/-- Build a client and use it. -/
def useNew (host : String) (token : Option String) (timeout : Binary64) (line : Option Nat) :
    Action (Session σ) Reply := do
  let c ← Action.ofExcept (Client.build host token timeout)
  let c := { c with line }
  let s ← Action.get
  Action.modify (addClient c)
  return .client s.clients.length c.host (s.onLine c).timeout

/-- Use the shared client, which is built if there is none. -/
def useShared : Action (Session σ) Reply := do
  let s ← Action.get
  match s.shared.bind fun n => s.clients[n]?.map fun c => (n, c) with
  | some (n, c) =>
    Action.modify fun s => { s with current := some n }
    return .client n c.host c.timeout
  | none =>
    let settings ← Action.ofResult (Settings.load s.environment)
    let c ← Action.ofExcept (Client.ofSettings settings)
    Action.modify fun s => { addClient c s with shared := some s.clients.length }
    return .client s.clients.length c.host c.timeout

/-- Use the client with a number. -/
def useClient (n : Nat) : Action (Session σ) Reply := do
  let s ← Action.get
  match s.clients[n]? with
  | some c =>
    Action.modify fun s => { s with current := some n }
    return .client n c.host c.timeout
  | none => Action.fail .noClient

/-- Close the shared client and forget it. -/
def forgetShared (s : Session σ) : Session σ := { s.closeClient? s.shared with shared := none }

/-- Run an operation of the client in use. -/
def withConnection (remote : Http.Remote σ) (maxDepth : Nat)
    (operation : Connection σ → Action (Wire σ) Reply) : Action (Session σ) Reply := do
  let s ← Action.get
  match s.currentClient? with
  | none => Action.fail .noClient
  | some client =>
    (operation ⟨remote, client, maxDepth⟩).onPart wire fun s w => { s with wire := w }

/-- The member of an enumeration that a JSON value names, or none for null. -/
def optional {α : Type} (ofJson : Json → Except Failure α) (v : Json) :
    Except Failure (Option α) :=
  match v with
  | .null => .ok none
  | v => (ofJson v).map some

/-- Take one step. -/
def step (remote : Http.Remote σ) (maxDepth : Nat) : Step → Action (Session σ) Reply
  | .setEnvironment env => do
    Action.modify fun s => { s with environment := env }
    return .nothing
  | .newClient host token timeout line => do
    let timeout ← Action.ofExcept (timeout.mapM timeoutOf)
    -- a line that is handed over keeps the timeout it was made with
    useNew host token (if line.isSome then lineTimeout else timeout.getD Settings.defaultTimeout)
      line
  | .useShared => useShared
  | .useClient n => useClient n
  | .forgetShared => do
    Action.modify forgetShared
    return .nothing
  | .close => do
    Action.modify fun s => s.closeClient? s.current
    return .nothing
  | .scoped inner => fun s =>
    -- the client to close is the one in use when the scope begins, whatever is used inside it
    (step remote maxDepth inner).afterwards (closeClient? s.current) s
  | .urlFor path version =>
    withConnection remote maxDepth fun c => pure (.text (c.client.urlFor path version))
  | .query method path version fields =>
    withConnection remote maxDepth fun c =>
      .object <$> c.client.query c.remote method path version fields
  | .create path content language format overwrite => do
    let format ← Action.ofExcept (optional ExportFormat.ofJson format)
    let language ← Action.ofExcept (optional Language.ofJson language)
    withConnection remote maxDepth fun c => do
      c.create ⟨path, content, language, format, overwrite⟩
      return .nothing
  | .read path => withConnection remote maxDepth fun c => .status <$> c.read path
  | .exportContent path format => do
    let format ← Action.ofExcept (optional ExportFormat.ofJson format)
    withConnection remote maxDepth fun c => .text <$> c.exportContent path format
  | .makeDirectories path =>
    withConnection remote maxDepth fun c => do
      c.makeDirectories path
      return .nothing
  | .delete path recursive =>
    withConnection remote maxDepth fun c => do
      c.delete ⟨path, recursive⟩
      return .nothing
  | .list path recursive =>
    withConnection remote maxDepth fun c => .listing <$> c.list path recursive

/-- Take steps in turn, and keep the run of each. -/
def run (remote : Http.Remote σ) (maxDepth : Nat) : List Step → Session σ →
    List (Run (Session σ) Reply)
  | [], _ => []
  | st :: rest, s =>
    let r := step remote maxDepth st s
    r :: run remote maxDepth rest r.world

end Session

end Workspace
