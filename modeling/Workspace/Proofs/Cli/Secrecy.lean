/-
# The token is not seen

The token is a secret: it goes to the service in one header of each request, and nowhere else.  This
is said about two runs of the program that differ in the token alone.  They print the same, write
the same records at every log level, end in the same way and leave the same files; and their
requests are the same once that header is taken away (`Report.token_unseen`).

The two runs are kept side by side.  `Action.Alike` says of two actions that nobody can tell their
runs apart who does not see the header; it passes through composition, so that only the queries have
to be looked at, and the services that do not look at the header (`Http.Remote.IgnoresToken`).
-/
import Workspace.Proofs.Cli.Run
import Workspace.Proofs.Lockstep
import Workspace.Script
namespace Workspace

variable {σ ω α β : Type}

/-! ## 1. Without the token -/

/-- The request without the header that carries the token. -/
def Http.Request.anonymous (r : Http.Request) : Http.Request := { r with authorization := none }

/-- The event without the header. -/
def Event.anonymous : Event → Event
  | .log r => .log r
  | .request r => .request r.anonymous

/-- The run without the header. -/
def Run.anonymous (r : Run ω α) : Run ω α := { r with events := r.events.map Event.anonymous }

/-- The service answers without a look at the header. -/
def Http.Remote.IgnoresToken (remote : Http.Remote σ) : Prop :=
  ∀ r service, remote r service = remote r.anonymous service

theorem Script.ignoresToken (s : Script) : s.remote.IgnoresToken := fun _ _ => rfl

namespace Run

variable {r r' : Run ω α}

theorem anonymous_eq_iff : r.anonymous = r'.anonymous ↔
    r.result = r'.result ∧ r.events.map Event.anonymous = r'.events.map Event.anonymous ∧
      r.world = r'.world := by
  simp only [anonymous, Run.mk.injEq]

theorem records_anonymous (r : Run ω α) : r.anonymous.records = r.records := by
  simp only [records, anonymous, List.filterMap_map]
  congr
  funext e
  cases e <;> rfl

theorem requests_anonymous (r : Run ω α) :
    r.anonymous.requests = r.requests.map Http.Request.anonymous := by
  simp only [requests, anonymous, List.filterMap_map, List.map_filterMap]
  congr
  funext e
  cases e <;> rfl

end Run

/-! ## 2. Actions that are alike -/

namespace Action

/-- The actions cannot be told apart without the header. -/
def Alike (x x' : Action ω α) : Prop := ∀ w, (x w).anonymous = (x' w).anonymous

namespace Alike

theorem refl (x : Action ω α) : Alike x x := fun _ => rfl

/-- Actions that go on alike are alike. -/
theorem bind {x x' : Action ω α} {f f' : α → Action ω β} (hx : Alike x x')
    (hf : ∀ a, Alike (f a) (f' a)) : Alike (x >>= f) (x' >>= f') := by
  intro w
  obtain ⟨hresult, hevents, hworld⟩ := Run.anonymous_eq_iff.mp (hx w)
  cases ha : (x w).result with
  | error failure =>
    rw [bind_run_error ha, bind_run_error (hresult.symm.trans ha)]
    exact Run.anonymous_eq_iff.mpr ⟨rfl, hevents, hworld⟩
  | ok a =>
    obtain ⟨hresult', hevents', hworld'⟩ := Run.anonymous_eq_iff.mp (hf a (x w).world)
    rw [bind_run_ok ha, bind_run_ok (hresult.symm.trans ha), ← hworld]
    refine Run.anonymous_eq_iff.mpr ⟨hresult', ?_, hworld'⟩
    rw [List.map_append, List.map_append, hevents, hevents']

theorem onPart {π : Type} {x x' : Action π α} (hx : Alike x x') (get : ω → π) (set : ω → π → ω) :
    Alike (x.onPart get set) (x'.onPart get set) := by
  intro w
  obtain ⟨hresult, hevents, hworld⟩ := Run.anonymous_eq_iff.mp (hx (get w))
  exact Run.anonymous_eq_iff.mpr ⟨hresult, hevents, congrArg (set w) hworld⟩

theorem afterwards {x x' : Action ω α} (hx : Alike x x') (f : ω → ω) :
    Alike (x.afterwards f) (x'.afterwards f) := by
  intro w
  obtain ⟨hresult, hevents, hworld⟩ := Run.anonymous_eq_iff.mp (hx w)
  exact Run.anonymous_eq_iff.mpr ⟨hresult, hevents, congrArg f hworld⟩

end Alike

end Action

/-! ## 3. Operations -/

/-- The client with another token, or none. -/
def Client.withToken (c : Client) (token : Option String) : Client := { c with token }

/-- Only the header shows the token of a client. -/
theorem Client.anonymous_request (c : Client) (token : Option String) (method url : String)
    (payload : Http.Payload) (locked : Bool) :
    ((c.withToken token).request method url payload locked).anonymous =
      (c.request method url payload locked).anonymous := by
  simp only [Http.Request.anonymous, request]

namespace Connection

/-- The connection with another token, or none. -/
def withToken (c : Connection σ) (token : Option String) : Connection σ :=
  { c with client := c.client.withToken token }

variable {c : Connection σ}

/-- A query is the same with another token. -/
theorem alike_query (hremote : c.remote.IgnoresToken) (token : Option String)
    (method path version : String) (fields : Json.Members) :
    Action.Alike (c.client.query c.remote method path version fields)
      ((c.client.withToken token).query c.remote method path version fields) := by
  intro w
  have hurl : (c.client.withToken token).urlFor path version = c.client.urlFor path version := rfl
  cases hp : Http.Payload.ofFields (Text.upper method) fields with
  | error failure => rw [Client.query_unsent _ _ _ _ hp, Client.query_unsent _ _ _ _ hp, hurl]
  | ok payload =>
    cases hc : c.client.closed with
    | true =>
      have hc' : (c.client.withToken token).closed = true := hc
      rw [Client.query_closed hc _ _ _ hp, Client.query_closed hc' _ _ _ hp, hurl]
    | false =>
      have hc' : (c.client.withToken token).closed = false := hc
      rw [Client.query_run hc _ _ _ hp, Client.query_run hc' _ _ _ hp, hurl]
      -- the requests differ in the header, which the service does not see
      have hanonymous := Client.anonymous_request c.client token (Text.upper method)
        (c.client.urlFor path version) payload w.lockHeld
      simp only
      rw [hremote, hremote ((c.client.withToken token).request _ _ _ _), hanonymous]
      simp only [Run.anonymous, List.map_cons, Event.anonymous, hanonymous]

/-- **An operation is the same with another token.** -/
theorem Lockstep.alike {token : Option String} {x x' : Action (Wire σ) α}
    (h : Lockstep c (c.withToken token) x x') (hremote : c.remote.IgnoresToken) :
    Action.Alike x x' := by
  induction h with
  | ofExcept result => exact .refl _
  | log r => exact .refl _
  | query method path version fields => exact alike_query hremote token method path version fields
  | withLock _ ih => exact .bind (.refl _) fun _ => ih.afterwards _
  | bind _ _ ihx ihf => exact ihx.bind ihf

end Connection

namespace Cli

/-! ## 4. Commands -/

theorem Desk.alike_onWire {x x' : Action (Wire σ) α} (h : Action.Alike x x') :
    Action.Alike (Desk.onWire x) (Desk.onWire x') := h.onPart _ _

/-- **A command is the same with another token.** -/
theorem Command.alike_perform {c : Connection σ} (hremote : c.remote.IgnoresToken)
    (token : Option String) (command : Command) :
    Action.Alike (command.perform c) (command.perform (c.withToken token)) := by
  have hwire {α : Type} {x x' : Action (Wire σ) α}
      (h : Connection.Lockstep c (c.withToken token) x x') :
      Action.Alike (Desk.onWire x) (Desk.onWire x') := Desk.alike_onWire (h.alike hremote)
  have hdepth : c.maxDepth = (c.withToken token).maxDepth := rfl
  -- only what goes over the wire could tell the tokens apart
  cases command with
  | ls path recursive => exact (hwire (.list hdepth path recursive)).bind fun _ => .refl _
  | status path => exact (hwire (.read path)).bind fun _ => .refl _
  | exportNotebook path format output =>
    exact .bind (.refl _) fun format => (hwire (.exportContent path (some format))).bind fun _ =>
      .refl _
  | importNotebook path file language format overwrite =>
    exact .bind (.refl _) fun bytes => .bind (.refl _) fun language => .bind (.refl _) fun format =>
      (hwire (.create _)).bind fun _ => .refl _
  | mkdirs path => exact (hwire (.makeDirectories path)).bind fun _ => .refl _
  | rm path recursive => exact (hwire (.delete _)).bind fun _ => .refl _

end Cli

/-! ## 5. Settings -/

/-- The environment with another token, or none. -/
def Environment.withToken (env : Environment) (token : Option String) : Environment :=
  { env with token }

/-- The settings are the same with another token, and so is what is wrong with them. -/
theorem Settings.load_withToken (env : Environment) (token : Option String) :
    load (env.withToken token) = (load env).map fun s => { s with token := nonEmpty? token } := by
  obtain ⟨host, token', timeout⟩ := env
  show load ⟨host, token, timeout⟩ = (load ⟨host, token', timeout⟩).map _
  simp only [load]
  cases (Text.trim (host.getD "")).isEmpty with
  | true => rfl
  | false => cases timeoutOf timeout <;> simp [Except.map]

/-- **A client is the same with another token**, if that is ASCII. -/
theorem Client.ofEnvironment_withToken (env : Environment) {token : Option String}
    (h : ∀ t ∈ token, ∀ ch ∈ t.toList, ch.toNat < 128) :
    ofEnvironment (env.withToken token) =
      (ofEnvironment (env.withToken none)).map fun c => c.withToken (nonEmpty? token) := by
  have hsome : ∀ t ∈ (env.withToken token).token, ∀ ch ∈ t.toList, ch.toNat < 128 := h
  have hnone : ∀ t ∈ (env.withToken none).token, ∀ ch ∈ t.toList, ch.toNat < 128 :=
    fun _ ht => (nomatch ht)
  rw [ofEnvironment_of_ascii hsome, ofEnvironment_of_ascii hnone, Settings.load_withToken,
    Settings.load_withToken]
  cases Settings.load env <;> rfl

namespace Cli

/-! ## 6. Runs of the program -/

namespace Report

/-- The report without the header that carries the token. -/
def anonymous (r : Report) : Report :=
  { r with requests := r.requests.map Http.Request.anonymous }

variable {remote : Http.Remote σ}

/-- What a command line asks for is done with a token as without one. -/
theorem alike_perform (hremote : remote.IgnoresToken) (maxDepth : Nat) (env : Environment)
    {token : Option String} (h : ∀ t ∈ token, ∀ ch ∈ t.toList, ch.toNat < 128)
    (command : Command) :
    Action.Alike (perform remote maxDepth (env.withToken none) command)
      (perform remote maxDepth (env.withToken token) command) := by
  intro desk
  rw [perform_run, perform_run, Client.ofEnvironment_withToken env h]
  cases Client.ofEnvironment (env.withToken none) with
  | error failure => rfl
  | ok client =>
    exact Command.alike_perform (c := ⟨remote, client, maxDepth⟩) hremote (nonEmpty? token) command
      desk

/-- A run with a token is like the run without one. -/
theorem anonymous_ofWords (hremote : remote.IgnoresToken) (maxDepth : Nat) (env : Environment)
    {token : Option String} (h : ∀ t ∈ token, ∀ ch ∈ t.toList, ch.toNat < 128) (stamp : String)
    (desk : Desk σ) (words : List String) :
    (ofWords remote maxDepth (env.withToken token) stamp desk words).anonymous =
      (ofWords remote maxDepth (env.withToken none) stamp desk words).anonymous := by
  unfold ofWords
  split
  · rfl
  · next invocation _ =>
    unfold ofInvocation
    split
    · rfl
    -- words and logger do not look at the token, so only the work of the command is to be compared
    · have halike := alike_perform hremote maxDepth env h invocation.command desk
      obtain ⟨hresult, -, hworld⟩ := Run.anonymous_eq_iff.mp halike
      have hrecords := congrArg Run.records halike
      have hrequests := congrArg Run.requests halike
      rw [Run.records_anonymous, Run.records_anonymous] at hrecords
      rw [Run.requests_anonymous, Run.requests_anonymous] at hrequests
      simp only [anonymous, hresult, hworld, hrecords, hrequests]

/-- **The token is not seen.**  Two runs of the program, with the same words, files and input, that
differ in nothing but their tokens, both of them ASCII, empty or absent, end in the same way, with
the same texts on both outputs, the same files and the same requests but for the header that carries
the token, whenever the service does not look at that header; and scripted services do not. -/
theorem token_unseen :
    (∀ script : Script, script.remote.IgnoresToken) ∧
      ∀ {σ : Type} (remote : Http.Remote σ), remote.IgnoresToken →
        ∀ (maxDepth : Nat) (env : Environment) (stamp : String) (desk : Desk σ)
          (words : List String) (token token' : Option String),
          (∀ t ∈ token, ∀ ch ∈ t.toList, ch.toNat < 128) →
          (∀ t ∈ token', ∀ ch ∈ t.toList, ch.toNat < 128) →
          (ofWords remote maxDepth { env with token := token } stamp desk words).anonymous =
            (ofWords remote maxDepth { env with token := token' } stamp desk words).anonymous := by
  refine ⟨Script.ignoresToken, ?_⟩
  intro σ remote hremote maxDepth env stamp desk words token token' h h'
  exact (anonymous_ofWords hremote maxDepth env h stamp desk words).trans
    (anonymous_ofWords hremote maxDepth env h' stamp desk words).symm

end Report

namespace Disguise

/-- A script with an empty directory. -/
def script : Script := ⟨[("/r", .response ⟨200, Utf8.ofString "\x7b\"objects\": []\x7d", "", [], none⟩)]⟩

/-- No files, and nothing on the standard input. -/
def desk : Desk (List Http.Outcome) := ⟨⟨[], false⟩, ⟨["tmp"], [], [], [], none⟩, []⟩

/-- The report on the directory, with everything logged, for a token. -/
def report (token : Option String) : Report :=
  .ofWords script.remote 9 { host := some "example.com", token, timeout := none } "00:00:00" desk
    ["--log-level", "DEBUG", "ls", "/r", "-r"]

end Disguise

/-- Two listings that tell a token and none apart by nothing but the header. -/
theorem token_unseen_disguise :
    (Disguise.report (some "tok")).output = (Disguise.report none).output ∧
      (Disguise.report (some "tok")).errors = (Disguise.report none).errors ∧
      (Disguise.report (some "tok")).requests.map Http.Request.anonymous =
        (Disguise.report none).requests.map Http.Request.anonymous ∧
      (Disguise.report (some "tok")).requests.map Http.Request.authorization =
        [some "Bearer tok"] ∧
      (Disguise.report none).requests.map Http.Request.authorization = [none] := by
  obtain ⟨hscript, hrun⟩ := Report.token_unseen
  have hascii : ∀ t ∈ some "tok", ∀ ch ∈ t.toList, ch.toNat < 128 :=
    Client.ascii_of_all (by decide)
  have hsame : (Disguise.report (some "tok")).anonymous = (Disguise.report none).anonymous :=
    hrun Disguise.script.remote (hscript Disguise.script) 9 ⟨some "example.com", none, none⟩
      "00:00:00" Disguise.desk _ (some "tok") none hascii fun _ h => (nomatch h)
  have houtput := congrArg Report.output hsame
  have herrors := congrArg Report.errors hsame
  have hrequests := congrArg Report.requests hsame
  exact ⟨houtput, herrors, hrequests, by decide +kernel, by decide +kernel⟩

end Cli

end Workspace
