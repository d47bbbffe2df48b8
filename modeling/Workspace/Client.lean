/-
# The client

A client is bound to one host, fixed when it is built; it can be closed, and a closed client sends
nothing more.  `Client.query` is the only way in which the library talks to the service, and it makes
a single attempt.

The token is set on the line that the client sends through.  Most clients have a line of their own;
but one may be handed over, to several of them, and then they share its token and its timeout, and
closing one of them closes all (`Client.joins`).  A user in the URL takes the place of the token.

* A record shows the request before it is sent.
* A timeout, a failed connection and a status without success become errors, after a record.
  The target of a redirection that is no URL counts as a failed connection.
* A body that is blank is the empty object; any other body must be a JSON object.

The exchange runs on a `Wire`: the state of the service, and the lock on the creation of
directories, which the requests show.
-/
import Workspace.Config
import Workspace.Effect
import Workspace.Http.Classify
import Workspace.Http.Payload
import Workspace.Http.Redirect
import Workspace.Http.Userinfo
import Workspace.Text.Upper
namespace Workspace

/-- What is on the other side of a client: the state of the service, and whether the lock on the
creation of directories is held. -/
structure Wire (σ : Type) where
  service : σ
  lockHeld : Bool
  deriving DecidableEq, Repr

/-- A client of the service. -/
structure Client where
  host : String
  /-- The token on its line, which is not empty. -/
  token : Option String
  timeout : Binary64
  closed : Bool
  /-- The number of the line that was handed over; none for a line of its own. -/
  line : Option Nat
  deriving DecidableEq, Repr

namespace Client

/-! ## 1. Building -/

/-- The name under which the client introduces itself. -/
def userAgent : String := "dbws/0.1 (workspace notebooks client)"

/-- The value of the header that carries a token. -/
def bearer (token : String) : String := "Bearer " ++ token

/-- Is a character outside ASCII? -/
def isForeign (c : Char) : Bool := 128 ≤ c.toNat

/-- The failure for the first run of characters outside ASCII in a header value, if there is one. -/
def headerFault? (value : String) : Option Failure :=
  let cs := value.toList
  let start := (cs.takeWhile fun c => !isForeign c).length
  match cs.dropWhile fun c => !isForeign c with
  | [] => none
  | c :: rest => some (.tokenNotAscii c start (start + 1 + (rest.takeWhile isForeign).length))

/-- A client for a host and a token, with a line of its own.  An empty token is none. -/
def build (host : String) (token : Option String) (timeout : Binary64) : Except Failure Client :=
  let token := nonEmpty? token
  match token.bind fun t => headerFault? (bearer t) with
  | some failure => .error failure
  | none => .ok ⟨Text.trimEnd '/' host, token, timeout, false, none⟩

/-- A client for the settings of a connection. -/
def ofSettings (s : Settings) : Except Failure Client := build s.host s.token s.timeout

/-- The URL of a path of the interface, in the given version. -/
def urlFor (c : Client) (path version : String) : String :=
  c.host ++ "/api/" ++ version ++ "/" ++ Text.trimStart '/' path

/-- The value of the header that authorizes a request for a URL. -/
def authorization (c : Client) (url : String) : Option String :=
  (Http.Userinfo.ofUrl? url).or (c.token.map bearer)

/-- The client after it was closed. -/
def close (c : Client) : Client := { c with closed := true }

/-- Do two clients share a line? -/
def joins (c d : Client) : Bool := c.line.isSome && d.line == c.line

/-- The client after a token was set on its line, if there is one. -/
def takeToken (token : Option String) (c : Client) : Client := { c with token := token.or c.token }

/-! ## 2. Sending -/

/-- The request for a URL with a payload. -/
def request (c : Client) (method url : String) (payload : Http.Payload) (locked : Bool) :
    Http.Request where
  method
  base := url
  query := payload.pairs
  body := payload.text
  contentType := payload.contentType?
  authorization := c.authorization url
  userAgent
  accept := "application/json"
  locked

variable {σ : Type}

/-- Send one request. -/
def send (c : Client) (remote : Http.Remote σ) (method url : String) (payload : Http.Payload) :
    Action (Wire σ) Http.Outcome := fun w =>
  if c.closed then ⟨.error .closedClient, [], w⟩
  else
    let r := c.request method url payload w.lockHeld
    let (outcome, service) := remote r w.service
    ⟨.ok outcome.checked, [.request r], { w with service }⟩

/-! ## 3. Queries -/

/-- The object in the body of a successful response. -/
def answer (method path : String) (r : Http.Response) : Except Error Json.Members :=
  if r.isBlank then .ok []
  else
    match Json.ofBytes r.body with
    | .error e =>
      .error ⟨.malformedResponse, s!"{method} {path} returned invalid JSON: {e.message}", [],
        some r.status, none⟩
    | .ok (.object members) => .ok members
    | .ok v =>
      .error ⟨.malformedResponse, s!"{method} {path} returned {v.typeName}, expected an object", [],
        some r.status, none⟩

/-- Write the record of a failed exchange, then fail. -/
def failExchange {α : Type} (method url : String) (status : Option Int) (reason : String)
    (e : Error) : Action (Wire σ) α := do
  Action.log (Log.httpFailure method url status reason)
  Action.fail (.error e)

/-- What the outcome of an exchange means for its caller. -/
def settle (method path url : String) : Http.Outcome → Action (Wire σ) Json.Members
  | .timedOut text =>
    failExchange method url none text (.plain .timeout s!"{method} {path} timed out: {text}")
  | .disconnected text =>
    failExchange method url none text (.plain .networkError s!"{method} {path} failed: {text}")
  -- the next three are neither recorded nor turned into errors
  | .tooManyRedirects text => Action.fail (.tooManyRedirects text)
  | .undecodable text => Action.fail (.undecodableBody text)
  | .misdirected => Action.fail .misdirected
  | .response r =>
    if r.isSuccess then Action.ofResult (answer method path r)
    else do
      let e ← Action.ofExcept (r.toError.mapError .unreadableBody)
      failExchange method url (some r.status) e.message e

/-- Send the fields of a request with a method, in any case, to a path; return the object that
comes back. -/
def query (c : Client) (remote : Http.Remote σ) (method path version : String)
    (fields : Json.Members) : Action (Wire σ) Json.Members := do
  let method := Text.upper method
  let url := c.urlFor path version
  Action.log (Log.request method url)
  -- a payload that cannot be written fails behind the record, but in front of the request
  let payload ← Action.ofExcept (Http.Payload.ofFields method fields)
  let outcome ← c.send remote method url payload
  settle method path url outcome

end Client

end Workspace
