/-
# Exchanges that fail

An exchange can fail in five ways.  Two of them, a timeout and a failed connection, become errors
with a kind (`Outcome.error?`); the other three pass through as they are (`Outcome.escape?`).

In the course of an operation the requests follow one another, and each finds the service as the
ones before it left it (`Http.Remote.outcomeAfter`).  An operation heeds its exchanges: the first
that does not go well is the last, and its verdict is what the operation fails with.  `Heeds` is
kept by composition, and so holds of everything that is put together from queries
(`Lockstep.heeds`).
-/
import Workspace.Proofs.Frame
import Workspace.Proofs.Session.Turn
namespace Workspace

variable {σ ω α β : Type}

/-! ## 1. Outcomes -/

namespace Http

/-- What the exchange of a request comes to after those of some others. -/
def Remote.outcomeAfter (remote : Remote σ) (before : List Request) (r : Request) (service : σ) :
    Outcome := (remote r (remote.after before service)).1.checked

theorem Remote.outcomeAfter_append (remote : Remote σ) (before before' : List Request)
    (r : Request) (service : σ) :
    remote.outcomeAfter (before ++ before') r service =
      remote.outcomeAfter before' r (remote.after before service) := by
  rw [outcomeAfter, remote.after_append, outcomeAfter]

namespace Outcome

/-- The error that tells of an exchange that failed, if its failure has a kind. -/
def error? (method path : String) : Outcome → Option Error
  | timedOut text => some (.plain .timeout s!"{method} {path} timed out: {text}")
  | disconnected text => some (.plain .networkError s!"{method} {path} failed: {text}")
  | _ => none

/-- The failure of an exchange that has no kind. -/
def escape? : Outcome → Option Failure
  | tooManyRedirects text => some (.tooManyRedirects text)
  | undecodable text => some (.undecodableBody text)
  | misdirected => some .misdirected
  | _ => none

/-- An exchange without a response failed with a kind or without one. -/
theorem error?_or_escape? {outcome : Outcome} (h : ∀ r, outcome ≠ .response r)
    (method path : String) :
    (∃ e, outcome.error? method path = some e) ∨ ∃ failure, outcome.escape? = some failure := by
  cases outcome with
  | response r => exact absurd rfl (h r)
  | timedOut text => exact .inl ⟨_, rfl⟩
  | disconnected text => exact .inl ⟨_, rfl⟩
  | tooManyRedirects text => exact .inr ⟨_, rfl⟩
  | undecodable text => exact .inr ⟨_, rfl⟩
  | misdirected => exact .inr ⟨_, rfl⟩

theorem verdict_of_error? {method path : String} {outcome : Outcome} {e : Error}
    (h : outcome.error? method path = some e) :
    Client.verdict method path outcome = .error (.error e) := by
  cases outcome <;> cases h <;> rfl

theorem verdict_of_escape? {outcome : Outcome} {failure : Failure}
    (h : outcome.escape? = some failure) (method path : String) :
    Client.verdict method path outcome = .error failure := by
  cases outcome <;> cases h <;> rfl

end Outcome

end Http

/-! ## 2. Heeding exchanges -/

/-- A request in a composition is one of the first part or one of the second. -/
theorem split_of_append_eq {first second before rest : List α} {a : α}
    (h : first ++ second = before ++ a :: rest) :
    (∃ between, first = before ++ a :: between ∧ rest = between ++ second) ∨
      ∃ between, before = first ++ between ∧ second = between ++ a :: rest := by
  rcases List.append_eq_append_iff.mp h with ⟨between, hbefore, hsecond⟩ | ⟨tail, hfirst, hrest⟩
  · exact .inr ⟨between, hbefore, hsecond⟩
  · cases tail with
    | nil => exact .inr ⟨[], by simpa using hfirst.symm, by simpa using hrest.symm⟩
    | cons b between =>
      obtain ⟨rfl, rfl⟩ := List.cons.inj hrest
      exact .inl ⟨between, hfirst, rfl⟩

namespace Connection

/-- `c.Heeds service x`: the service, which is a part of the world, sees the requests of the action
and nothing else.  If the verdict on an exchange is a failure, its request is the last one, and the
action fails with the verdict. -/
structure Heeds (c : Connection σ) (service : ω → σ) (x : Action ω α) : Prop where
  seen : ∀ w, service (x w).world = c.remote.after (x w).requests (service w)
  heeded : ∀ w before r rest, (x w).requests = before ++ r :: rest →
    ∃ path version, r.base = c.client.urlFor path version ∧
      ∀ failure, Client.verdict r.method path (c.remote.outcomeAfter before r (service w)) =
        .error failure → rest = [] ∧ (x w).result = .error failure

namespace Heeds

variable {c : Connection σ} {service : ω → σ}

theorem of_silent {x : Action ω α} (hsilent : Action.Silent x)
    (hservice : ∀ w, service (x w).world = service w) : c.Heeds service x where
  seen w := by rw [hsilent w, hservice w, Http.Remote.after_nil]
  heeded w before r rest h := by
    rw [hsilent w] at h
    exact absurd h.symm (List.append_ne_nil_of_right_ne_nil before (List.cons_ne_nil r rest))

theorem ofExcept (result : Except Failure α) : c.Heeds service (Action.ofExcept result) :=
  of_silent (fun _ => rfl) fun _ => rfl

theorem pure (a : α) : c.Heeds service (Pure.pure a) := .ofExcept (.ok a)

theorem log (r : Log.Record) : c.Heeds service (Action.log r) :=
  of_silent (.log r) fun _ => rfl

/-- **A composition heeds what its parts heed.**  A failure in the first part leaves no second part,
and the exchanges of the second part find the service as the first part left it. -/
theorem bind {x : Action ω α} {f : α → Action ω β} (hx : c.Heeds service x)
    (hf : ∀ a, c.Heeds service (f a)) : c.Heeds service (x >>= f) where
  seen w := by
    rw [Action.requests_bind]
    cases ha : (x w).result with
    | error failure => rw [Action.bind_run_error ha, List.append_nil, hx.seen w]
    | ok a => rw [Action.bind_run_ok ha, (hf a).seen, hx.seen, c.remote.after_append]
  heeded w before r rest h := by
    rw [Action.requests_bind] at h
    -- the request was sent by the first part, or by the second one after all of the first
    rcases split_of_append_eq h with ⟨between, hfirst, rfl⟩ | ⟨between, rfl, hsecond⟩
    · obtain ⟨path, version, hbase, hverdict⟩ := hx.heeded w before r between hfirst
      refine ⟨path, version, hbase, fun failure hfailure => ?_⟩
      obtain ⟨rfl, hresult⟩ := hverdict failure hfailure
      rw [hresult, Action.bind_run_error hresult]
      exact ⟨rfl, rfl⟩
    · cases ha : (x w).result with
      | error failure =>
        rw [ha] at hsecond
        exact absurd hsecond.symm
          (List.append_ne_nil_of_right_ne_nil between (List.cons_ne_nil r rest))
      | ok a =>
        rw [ha] at hsecond
        obtain ⟨path, version, hbase, hverdict⟩ := (hf a).heeded _ between r rest hsecond
        rw [Action.bind_run_ok ha, c.remote.outcomeAfter_append, ← hx.seen w]
        exact ⟨path, version, hbase, hverdict⟩

/-- A query has one exchange at most, and its result is the verdict. -/
theorem query (method path version : String) (fields : Json.Members) :
    c.Heeds Wire.service (c.client.query c.remote method path version fields) := by
  rcases c.client.query_cases c.remote method path version fields with
    ⟨failure, -, hrun⟩ | ⟨payload, hp, hc⟩
  · exact of_silent (fun w => by rw [hrun w]; rfl) fun w => by rw [hrun w]
  · refine ⟨fun w => ?_, fun w before r rest h => ?_⟩
    · rw [Client.query_requests hc c.remote path version hp,
        Client.query_run hc c.remote path version hp]
      rfl
    · rw [Client.query_requests hc c.remote path version hp] at h
      rcases List.append_eq_singleton_iff.mp h.symm with ⟨rfl, hr⟩ | ⟨-, hr⟩
      case inr => exact absurd hr (List.cons_ne_nil r rest)
      obtain ⟨rfl, rfl⟩ := List.cons.inj hr
      refine ⟨path, version, rfl, fun failure hfailure => ⟨rfl, ?_⟩⟩
      rw [Client.query_run hc c.remote path version hp]
      exact hfailure

theorem withLock {x : Action (Wire σ) α} (hx : c.Heeds Wire.service x) :
    c.Heeds Wire.service (Connection.withLock x) where
  seen w := hx.seen { w with lockHeld := true }
  heeded w := hx.heeded { w with lockHeld := true }

end Heeds

/-- **What is put together from queries heeds their exchanges.** -/
theorem Lockstep.heeds {c c' : Connection σ} {x x' : Action (Wire σ) α}
    (h : Lockstep c c' x x') : c.Heeds Wire.service x := by
  induction h with
  | ofExcept result => exact .ofExcept result
  | log record => exact .log record
  | query method path version fields => exact .query method path version fields
  | withLock _ ih => exact ih.withLock
  | bind _ _ ihx ihf => exact ihx.bind ihf

end Connection

/-! ## 3. Steps of a session -/

/-- What a turn sends goes through the client in use, whose exchanges it heeds. -/
theorem Session.Turn.heeded {remote : Http.Remote σ} {maxDepth : Nat} {s : Session σ} {st : Step}
    {run : Run (Session σ) Reply} (h : Turn remote maxDepth s st run)
    {before rest : List Http.Request} {r : Http.Request} (hr : run.requests = before ++ r :: rest) :
    ∃ client path version, s.currentClient? = some client ∧ r.base = client.urlFor path version ∧
      ∀ failure, Client.verdict r.method path (remote.outcomeAfter before r s.wire.service) =
        .error failure → rest = [] ∧ run.result = .error failure := by
  induction h with
  | inScope _ ih => exact ih hr
  | @operated st operation client hst hclient =>
    obtain ⟨path, version, hbase, hheeded⟩ :=
      (Step.lockstep_operation hst ⟨remote, client, maxDepth⟩).heeds.heeded s.wire before r rest hr
    exact ⟨client, path, version, hclient, hbase, hheeded⟩
  | _ => exact absurd hr.symm (List.append_ne_nil_of_right_ne_nil before (List.cons_ne_nil r rest))

end Workspace
