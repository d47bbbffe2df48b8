/-
# One exchange, and one listing

A query is a record, a request and what becomes of the outcome.  This file takes the three apart,
so that the state of the service no longer stands in the way of statements about results.

* A success stays as it is when its target is looked at, as there is none
  (`Http.Outcome.checked_of_isSuccess`); any other response can become a failed connection or be
  refused (`checked_response`).
* `Client.verdict` is what the caller gets for an outcome, `Client.complaints` are the records of an
  exchange that failed, and `settle_run` says that `settle` is nothing else.
* `Client.query_run` is a whole query on an open client.
* `listDirectory_run` is a whole listing on an open client: one request (`listRequest`), and a
  result that depends on its outcome alone (`listingResult`).
* `listDirectory_closed` is a listing on a closed client, which sends nothing.
-/
import Workspace.Connection
namespace Workspace

variable {σ : Type}

/-! ## 1. Outcomes -/

namespace Http

/-- A response that tells success sends nowhere. -/
theorem Response.location?_of_isSuccess {r : Response} (h : r.isSuccess = true) : r.location? = none := by
  have hstatus : redirectStatuses.contains r.status = false := by
    simp only [isSuccess, Bool.and_eq_true, decide_eq_true_eq] at h
    simp only [redirectStatuses, List.contains_eq_mem, decide_eq_false_iff_not, List.mem_cons,
      List.not_mem_nil, or_false]
    omega
  rw [location?, hstatus]
  exact if_neg Bool.false_ne_true

namespace Outcome

theorem checked_of_isSuccess {r : Response} (h : r.isSuccess = true) :
    (response r).checked = response r :=
  checked_of_location?_eq_none (Response.location?_of_isSuccess h)

/-- What a look at the target of a redirection makes of a response. -/
theorem checked_response (r : Response) :
    (response r).checked = response r ∨ (∃ text, (response r).checked = disconnected text) ∨
      (response r).checked = misdirected := by
  simp only [checked]
  cases r.location? with
  | none => exact .inl rfl
  | some location =>
    simp only [ofTarget]
    cases Target.ofString location with
    | error fault => exact .inr (.inl ⟨_, rfl⟩)
    | ok target =>
      simp only
      split
      · exact .inl rfl
      · exact .inr (.inr rfl)

end Outcome

end Http

namespace Client

/-- What an exchange comes to for its caller, by its outcome. -/
def verdict (method path : String) : Http.Outcome → Except Failure Json.Members
  | .timedOut text => .error (.error (.plain .timeout s!"{method} {path} timed out: {text}"))
  | .disconnected text => .error (.error (.plain .networkError s!"{method} {path} failed: {text}"))
  | .tooManyRedirects text => .error (.tooManyRedirects text)
  | .undecodable text => .error (.undecodableBody text)
  | .misdirected => .error .misdirected
  | .response r =>
    if r.isSuccess then (answer method path r).mapError .error
    else
      match r.toError with
      | .error fault => .error (.unreadableBody fault)
      | .ok e => .error (.error e)

section Verdict

variable {method path : String} {r : Http.Response}

theorem verdict_of_isSuccess (hr : r.isSuccess = true) :
    verdict method path (.response r) = (answer method path r).mapError .error := by
  rw [verdict, if_pos hr]

theorem verdict_of_toError_eq_ok (hr : r.isSuccess = false) {e : Error} (he : r.toError = .ok e) :
    verdict method path (.response r) = .error (.error e) := by
  simp [verdict, hr, he]

theorem verdict_of_toError_eq_error (hr : r.isSuccess = false) {fault : Http.ReadFault}
    (hfault : r.toError = .error fault) :
    verdict method path (.response r) = .error (.unreadableBody fault) := by
  simp [verdict, hr, hfault]

end Verdict

/-- An exchange does not nest. -/
theorem verdict_ne_tooDeep (method path : String) (outcome : Http.Outcome) :
    verdict method path outcome ≠ .error .tooDeep := by
  cases outcome with
  | response r =>
    simp only [verdict]
    split
    · cases answer method path r <;> simp
    · split <;> simp
  | timedOut text => simp [verdict]
  | disconnected text => simp [verdict]
  | tooManyRedirects text => simp [verdict]
  | undecodable text => simp [verdict]
  | misdirected => simp [verdict]

/-- The records of an exchange that failed. -/
def complaints (method url : String) : Http.Outcome → List Event
  | .timedOut text => [.log (Log.httpFailure method url none text)]
  | .disconnected text => [.log (Log.httpFailure method url none text)]
  | .tooManyRedirects _ => []
  | .undecodable _ => []
  | .misdirected => []
  | .response r =>
    if r.isSuccess then []
    else
      match r.toError with
      | .error _ => []
      | .ok e => [.log (Log.httpFailure method url (some r.status) e.message)]

@[simp] theorem failExchange_run {α : Type} (method url : String) (status : Option Int)
    (reason : String) (e : Error) (w : Wire σ) :
    (failExchange method url status reason e : Action (Wire σ) α) w =
      ⟨.error (.error e), [.log (Log.httpFailure method url status reason)], w⟩ := rfl

/-- Settling an exchange is its verdict after its complaints; the service takes no part. -/
theorem settle_run (method path url : String) (outcome : Http.Outcome) (w : Wire σ) :
    settle method path url outcome w =
      ⟨verdict method path outcome, complaints method url outcome, w⟩ := by
  cases outcome with
  | response r =>
    by_cases hr : r.isSuccess = true
    · simp [settle, verdict, complaints, hr]
    · cases he : r.toError with
      | error fault =>
        simp [settle, verdict, complaints, hr, he, Action.bind_run]
      | ok e => simp [settle, verdict, complaints, hr, he, Action.bind_run]
  | timedOut text => rfl
  | disconnected text => rfl
  | tooManyRedirects text => rfl
  | undecodable text => rfl
  | misdirected => rfl

/-- Complaints are records, and no requests. -/
@[simp] theorem complaints_requests (method url : String) (outcome : Http.Outcome) :
    (complaints method url outcome).filterMap Event.request? = [] := by
  cases outcome with
  | response r =>
    simp only [complaints]
    split
    · rfl
    · split <;> rfl
  | timedOut text => rfl
  | disconnected text => rfl
  | tooManyRedirects text => rfl
  | undecodable text => rfl
  | misdirected => rfl

theorem upper_get : Text.upper "GET" = "GET" := by decide +kernel

theorem upper_post : Text.upper "POST" = "POST" := by decide +kernel

/-- A query whose fields have no payload fails before anything is sent. -/
theorem query_unsent (c : Client) (remote : Http.Remote σ) {method : String}
    (path version : String) {fields : Json.Members} {failure : Failure}
    (hp : Http.Payload.ofFields (Text.upper method) fields = .error failure) (w : Wire σ) :
    c.query remote method path version fields w =
      ⟨.error failure, [.log (Log.request (Text.upper method) (c.urlFor path version))], w⟩ := by
  simp [query, hp, Action.bind_run]

theorem query_closed {c : Client} (hc : c.closed = true) (remote : Http.Remote σ)
    {method : String} (path version : String) {fields : Json.Members} {payload : Http.Payload}
    (hp : Http.Payload.ofFields (Text.upper method) fields = .ok payload) (w : Wire σ) :
    c.query remote method path version fields w =
      ⟨.error .closedClient, [.log (Log.request (Text.upper method) (c.urlFor path version))],
        w⟩ := by
  simp [query, send, hc, hp, Action.bind_run]

/-- **A query of an open client** whose fields have a payload sends one request and returns the
verdict on its outcome. -/
theorem query_run {c : Client} (hc : c.closed = false) (remote : Http.Remote σ)
    {method : String} (path version : String) {fields : Json.Members} {payload : Http.Payload}
    (hp : Http.Payload.ofFields (Text.upper method) fields = .ok payload) (w : Wire σ) :
    c.query remote method path version fields w =
      let method := Text.upper method
      let request := c.request method (c.urlFor path version) payload w.lockHeld
      let outcome := (remote request w.service).1.checked
      ⟨verdict method path outcome,
        .log (Log.request method (c.urlFor path version)) :: .request request ::
          complaints method (c.urlFor path version) outcome,
        { w with service := (remote request w.service).2 }⟩ := by
  simp [query, send, hc, hp, Action.bind_run, settle_run]

/-- **A query fails before anything is sent**, for want of a payload or of an open client, or the
client is open and there is a payload. -/
theorem query_cases (c : Client) (remote : Http.Remote σ) (method path version : String)
    (fields : Json.Members) :
    (∃ failure, (Http.Payload.ofFields (Text.upper method) fields = .error failure ∨
        failure = .closedClient) ∧
      ∀ w : Wire σ, c.query remote method path version fields w =
        ⟨.error failure, [.log (Log.request (Text.upper method) (c.urlFor path version))], w⟩) ∨
    ∃ payload, Http.Payload.ofFields (Text.upper method) fields = .ok payload ∧
      c.closed = false := by
  cases hp : Http.Payload.ofFields (Text.upper method) fields with
  | error failure => exact .inl ⟨failure, .inl rfl, query_unsent c remote path version hp⟩
  | ok payload =>
    cases hc : c.closed with
    | true => exact .inl ⟨.closedClient, .inr rfl, query_closed hc remote path version hp⟩
    | false => exact .inr ⟨payload, rfl, rfl⟩

theorem ofFields_get {method : String} (hm : Text.upper method = "GET") (fields : Json.Members) :
    Http.Payload.ofFields (Text.upper method) fields = .ok (.query (Http.queryPairs fields)) := by
  rw [hm]
  rfl

theorem query_get_closed {c : Client} (hc : c.closed = true) (remote : Http.Remote σ)
    (path version : String) (fields : Json.Members) (w : Wire σ) :
    c.query remote "GET" path version fields w =
      ⟨.error .closedClient, [.log (Log.request "GET" (c.urlFor path version))], w⟩ := by
  simpa only [upper_get] using
    query_closed hc remote path version (ofFields_get upper_get fields) w

/-- A GET query of an open client sends one request and returns the verdict on its outcome. -/
theorem query_get_run {c : Client} (hc : c.closed = false) (remote : Http.Remote σ)
    (path version : String) (fields : Json.Members) (w : Wire σ) :
    c.query remote "GET" path version fields w =
      let request :=
        c.request "GET" (c.urlFor path version) (.query (Http.queryPairs fields)) w.lockHeld
      let outcome := (remote request w.service).1.checked
      ⟨verdict "GET" path outcome,
        .log (Log.request "GET" (c.urlFor path version)) :: .request request ::
          complaints "GET" (c.urlFor path version) outcome,
        { w with service := (remote request w.service).2 }⟩ := by
  simpa only [upper_get] using
    query_run hc remote path version (ofFields_get upper_get fields) w

theorem query_requests {c : Client} (hc : c.closed = false) (remote : Http.Remote σ)
    {method : String} (path version : String) {fields : Json.Members} {payload : Http.Payload}
    (hp : Http.Payload.ofFields (Text.upper method) fields = .ok payload) (w : Wire σ) :
    (c.query remote method path version fields w).requests =
      [c.request (Text.upper method) (c.urlFor path version) payload w.lockHeld] := by
  simp only [query_run hc remote path version hp, Run.requests, List.filterMap_cons, Event.request?,
    complaints_requests]

/-- What a query of an open client records: the request, and what there is to complain about. -/
theorem query_records {c : Client} (hc : c.closed = false) (remote : Http.Remote σ)
    {method : String} (path version : String) {fields : Json.Members} {payload : Http.Payload}
    (hp : Http.Payload.ofFields (Text.upper method) fields = .ok payload) (w : Wire σ) :
    let request := c.request (Text.upper method) (c.urlFor path version) payload w.lockHeld
    let outcome := (remote request w.service).1.checked
    (c.query remote method path version fields w).records =
      Log.request (Text.upper method) (c.urlFor path version) ::
        (complaints (Text.upper method) (c.urlFor path version) outcome).filterMap
          Event.record? := by
  simp only [query_run hc remote path version hp, Run.records, List.filterMap_cons, Event.record?]

end Client

/-! ## 2. Listings -/

/-- The directory whose listing a request asks for. -/
def Http.Request.listedPath (r : Http.Request) : String := (r.query.lookup "path").getD ""

namespace Connection

/-- The path of the interface for listings. -/
def listPath : String := "/workspace/list"

/-- The request for the listing of a directory. -/
def listRequest (c : Connection σ) (path : String) (locked : Bool) : Http.Request :=
  c.client.request "GET" (c.client.urlFor listPath apiVersion)
    (.query (Http.queryPairs [("path", .string path)])) locked

/-- The records before the request for a listing. -/
def listPreamble (c : Connection σ) (path : String) : List Event :=
  [.log (Log.apiCall service "list" [("path", .string path)]),
    .log (Log.request "GET" (c.client.urlFor listPath apiVersion))]

/-- What the listing of a directory comes to, by the outcome of its exchange. -/
def listingResult (path : String) (outcome : Http.Outcome) : Except Failure (List ObjectStatus) :=
  match Client.verdict "GET" listPath outcome.checked with
  | .error failure => .error failure
  | .ok body => (listingOf path body).mapError .error

/-- The record of a listing that returned. -/
def listPostscript : Except Failure (List ObjectStatus) → List Event
  | .error _ => []
  | .ok objects => [.log (Log.apiResult service "list" (some objects.length))]

theorem listDirectory_closed {c : Connection σ} (hc : c.client.closed = true) (path : String)
    (w : Wire σ) :
    c.listDirectory path w = ⟨.error .closedClient, c.listPreamble path, w⟩ := by
  simp [listDirectory, query, Action.bind_run, Client.query_get_closed hc, listPreamble, listPath]

/-- **A listing on an open client.**  One request goes out, and its outcome decides the result. -/
theorem listDirectory_run {c : Connection σ} (hc : c.client.closed = false) (path : String)
    (w : Wire σ) :
    c.listDirectory path w =
      let request := c.listRequest path w.lockHeld
      let outcome := (c.remote request w.service).1
      ⟨listingResult path outcome,
        c.listPreamble path ++ .request request ::
          (Client.complaints "GET" (c.client.urlFor listPath apiVersion) outcome.checked ++
            listPostscript (listingResult path outcome)),
        { w with service := (c.remote request w.service).2 }⟩ := by
  have hq : c.query "GET" "/workspace/list" [("path", .string path)] w = _ :=
    Client.query_get_run hc c.remote listPath apiVersion [("path", .string path)] w
  simp only [listDirectory, Action.bind_run, Action.log_run, hq]
  unfold listingResult
  -- the records at the end tell how the answer was read
  cases hv : Client.verdict "GET" listPath
      (c.remote (c.listRequest path w.lockHeld) w.service).1.checked with
  | error failure =>
    rw [listRequest] at hv
    simp [hv, listPreamble, listPostscript, listRequest]
  | ok body =>
    rw [listRequest] at hv
    cases hl : listingOf path body with
    | error e => simp [hv, hl, listPreamble, listPostscript, listRequest]
    | ok objects =>
      simp [hv, hl, listPreamble, listPostscript, listRequest]

/-- What the listing of a directory returns: the client must be open, and the rest is up to the
outcome of the exchange. -/
theorem listDirectory_result (c : Connection σ) (path : String) (w : Wire σ) :
    (c.listDirectory path w).result =
      if c.client.closed then .error .closedClient
      else listingResult path (c.remote (c.listRequest path w.lockHeld) w.service).1 := by
  cases hc : c.client.closed with
  | true => simp [listDirectory_closed hc]
  | false => simp [listDirectory_run hc]

/-- A listing on an open client sends one request, and on a closed client none. -/
theorem listDirectory_requests (c : Connection σ) (path : String) (w : Wire σ) :
    (c.listDirectory path w).requests =
      if c.client.closed then [] else [c.listRequest path w.lockHeld] := by
  have hpre : (c.listPreamble path).filterMap Event.request? = [] := rfl
  cases hc : c.client.closed with
  | true => simp [listDirectory_closed hc, Run.requests, hpre]
  | false =>
    have hpost (x : Except Failure (List ObjectStatus)) :
        (listPostscript x).filterMap Event.request? = [] := by cases x <;> rfl
    simp [listDirectory_run hc, Run.requests, hpre, hpost, Event.request?]

theorem listDirectory_lockHeld (c : Connection σ) (path : String) (w : Wire σ) :
    (c.listDirectory path w).world.lockHeld = w.lockHeld := by
  cases hc : c.client.closed with
  | true => simp [listDirectory_closed hc]
  | false => simp [listDirectory_run hc]

/-- A listing does not nest. -/
theorem listDirectory_ne_tooDeep (c : Connection σ) (path : String) (w : Wire σ) :
    (c.listDirectory path w).result ≠ .error .tooDeep := by
  rw [listDirectory_result]
  split
  · simp
  · unfold listingResult
    split
    · rename_i failure hv
      intro h
      cases h
      exact Client.verdict_ne_tooDeep _ _ _ hv
    · rename_i body _
      cases listingOf path body <;> simp

/-- The path that a request for a listing asks for reads back. -/
theorem listedPath_listRequest (c : Connection σ) (path : String) (locked : Bool) :
    (c.listRequest path locked).listedPath = path := by
  by_cases h : path = ""
  · subst h; rfl
  · have hpairs : Http.queryPairs [("path", .string path)] = [("path", path)] := by
      simp [Http.queryPairs, Http.isLeftOut, h, Http.fieldText, Json.plain]
    simp [Http.Request.listedPath, listRequest, Client.request, hpairs, Http.Payload.pairs]

/-- The path of a request for a listing tells it from the others. -/
theorem listRequest_inj {c : Connection σ} {path path' : String} {locked : Bool} :
    c.listRequest path locked = c.listRequest path' locked ↔ path = path' := by
  constructor
  · intro h
    rw [← c.listedPath_listRequest path locked, h, listedPath_listRequest]
  · rintro rfl
    rfl

end Connection

end Workspace
