/-
# The trail in the log

Each exchange of an operation leaves a group of records: the call, the request, and then one of three
things.  The result follows if the answer could be read, a warning if the exchange was reported as a
failure, and nothing if it was neither (`Exchange.Group`).

* An operation that is a single exchange is an `Exchange` performed on a query, and leaves one group
  (`Exchange.recorded_perform`).
* A recursive listing leaves the groups of its listings one after another, in the order of the
  requests, and only the last of them can lack its result (`Trail`).  This is kept by composition
  (`Trails.bind`), and so it holds of walks.

`log_trail` puts this together for all operations and a logger that drops nothing.
-/
import Workspace.Log.Logger
import Workspace.Proofs.Frame
import Workspace.Proofs.Http.Attempt
import Workspace.Proofs.Walk.Service
namespace Workspace

variable {σ α β : Type}

/-! ## 1. Loggers -/

namespace Connection

/-! ## 2. Exchanges -/

/-- How an operation that is a single exchange shows in the log, and what it makes of an answer: name
and arguments of the call, where the request goes, what an answer is read as, and how many objects
are counted in it, if they are. -/
structure Exchange (α : Type) where
  name : String
  params : Json.Members
  method : String
  path : String
  parse : Json.Members → Except Error α
  count : α → Option Int

namespace Exchange

/-- The import of a notebook. -/
def create (r : ImportRequest) : Exchange Unit where
  name := "import"
  params := [("path", .string r.path), ("language", optionalName (r.language.map Language.name)),
    ("format", optionalName (r.format.map ExportFormat.name)), ("overwrite", .bool r.overwrite)]
  method := "POST"
  path := "/workspace/import"
  parse _ := .ok ()
  count _ := none

/-- The status of an object. -/
def read (path : String) : Exchange ObjectStatus where
  name := "get-status"
  params := [("path", .string path)]
  method := "GET"
  path := "/workspace/get-status"
  parse body := ObjectStatus.ofJson (.object body)
  count _ := none

/-- The content of a notebook. -/
def exportContent (path : String) (format : Option ExportFormat) : Exchange String where
  name := "export"
  params := [("path", .string path), ("format", optionalName (format.map ExportFormat.name))]
  method := "GET"
  path := "/workspace/export"
  parse body := (Content.ofJson (.object body)).map Content.base64
  count _ := none

/-- The creation of directories. -/
def makeDirectories (path : String) : Exchange Unit where
  name := "mkdirs"
  params := [("path", .string path)]
  method := "POST"
  path := "/workspace/mkdirs"
  parse _ := .ok ()
  count _ := none

/-- The deletion of an object. -/
def delete (r : DeleteRequest) : Exchange Unit where
  name := "delete"
  params := [("path", .string r.path), ("recursive", .bool r.recursive)]
  method := "POST"
  path := "/workspace/delete"
  parse _ := .ok ()
  count _ := none

/-- The listing of one directory, whose entries are counted. -/
def listDirectory (path : String) : Exchange (List ObjectStatus) where
  name := "list"
  params := [("path", .string path)]
  method := "GET"
  path := listPath
  parse := listingOf path
  count objects := some objects.length

/-- The record of the call. -/
def call (e : Exchange α) : Log.Record := Log.apiCall service e.name e.params

/-- The record of the result. -/
def told (e : Exchange α) (a : α) : Log.Record := Log.apiResult service e.name (e.count a)

/-- Call, query, and what is made of the answer. -/
def perform (e : Exchange α) (query : Action (Wire σ) Json.Members) : Action (Wire σ) α := do
  Action.log e.call
  let body ← query
  let a ← Action.ofResult (e.parse body)
  Action.log (e.told a)
  return a

/-- `e.Asks c r`: the request is one for the exchange. -/
def Asks (e : Exchange α) (c : Connection σ) (r : Http.Request) : Prop :=
  r.method = e.method ∧ r.base = c.client.urlFor e.path apiVersion

/-- `e.Parses outcome a`: an answer came, and was read as the value. -/
def Parses (e : Exchange α) (outcome : Http.Outcome) (a : α) : Prop :=
  ∃ members, outcome.Answers members ∧ e.parse members = .ok a

/-- `e.Group url outcome records`: what the exchange leaves in the log if it comes to the outcome. -/
inductive Group (e : Exchange α) (url : String) (outcome : Http.Outcome) : List Log.Record → Prop
  /-- An answer was read. -/
  | told {a : α} : e.Parses outcome a →
      Group e url outcome [e.call, Log.request e.method url, e.told a]
  /-- The exchange failed, and this is reported. -/
  | warned {status : Option Int} {reason : String} : (∀ a, ¬ e.Parses outcome a) →
      outcome.Reported →
      Group e url outcome
        [e.call, Log.request e.method url, Log.httpFailure e.method url status reason]
  /-- No answer was read, and there was nothing to report. -/
  | quiet : (∀ a, ¬ e.Parses outcome a) → ¬ outcome.Reported →
      Group e url outcome [e.call, Log.request e.method url]

/-- `e.Recorded c request w run`: the run sends one request for the exchange and leaves the group for
its outcome; it returns what was read of an answer. -/
structure Recorded (e : Exchange α) (c : Connection σ) (request : Http.Request) (w : Wire σ)
    (run : Run (Wire σ) α) : Prop where
  requests : run.requests = [request]
  asks : e.Asks c request
  records : e.Group (c.client.urlFor e.path apiVersion) (c.remote request w.service).1 run.records
  returned (a : α) : run.result = .ok a ↔ e.Parses (c.remote request w.service).1 a

/-- What is recorded after the query: the result, if there is one. -/
def postscript (e : Exchange α) : Except Failure α → List Event
  | .ok a => [.log (e.told a)]
  | .error _ => []

/-- What an exchange comes to: the query between the call and the postscript. -/
theorem perform_run (e : Exchange α) (query : Action (Wire σ) Json.Members) (w : Wire σ) :
    e.perform query w =
      let result := (query w).result.bind fun body => (e.parse body).mapError Failure.error
      ⟨result, .log e.call :: ((query w).events ++ e.postscript result), (query w).world⟩ := by
  cases hq : (query w).result with
  | error failure => simp [perform, Action.bind_run, hq, postscript, Except.bind]
  | ok body =>
    cases hr : e.parse body <;> simp [perform, Action.bind_run, hq, hr, postscript, Except.bind]

theorem perform_requests (e : Exchange α) (query : Action (Wire σ) Json.Members) (w : Wire σ) :
    (e.perform query w).requests = (query w).requests := by
  have hpostscript (result : Except Failure α) :
      (e.postscript result).filterMap Event.request? = [] := by cases result <;> rfl
  rw [perform_run]
  simp only [Run.requests, List.filterMap_cons, Event.request?, List.filterMap_append, hpostscript,
    List.append_nil]

theorem perform_records (e : Exchange α) (query : Action (Wire σ) Json.Members) (w : Wire σ) :
    (e.perform query w).records = e.call :: ((query w).records ++
      (e.postscript (e.perform query w).result).filterMap Event.record?) := by
  rw [perform_run]
  simp only [Run.records, List.filterMap_cons, Event.record?, List.filterMap_append]

section Attempt

variable (e : Exchange α) {c : Connection σ} {query : Action (Wire σ) Json.Members} {w : Wire σ}
  {outcome : Http.Outcome}
  (hattempt : Client.Attempt Http.Outcome.Reported e.method (c.client.urlFor e.path apiVersion)
    outcome (query w))
include hattempt

/-- An exchange returns what is read of an answer. -/
theorem perform_eq_ok_iff (a : α) :
    (e.perform query w).result = .ok a ↔ e.Parses outcome a := by
  rw [perform_run]
  simp only
  -- an exchange returns what it makes of the answer, and there is one iff the query returned
  cases hq : (query w).result with
  | ok body =>
    have hbody := (hattempt.returned body).mp hq
    simp only [Except.bind, mapError_eq_ok_iff]
    constructor
    · exact fun h => ⟨body, hbody, h⟩
    · rintro ⟨members, hmembers, h⟩
      cases hq.symm.trans ((hattempt.returned members).mpr hmembers)
      exact h
  | error failure =>
    refine iff_of_false (fun h => nomatch h) ?_
    rintro ⟨members, hmembers, -⟩
    cases hq.symm.trans ((hattempt.returned members).mpr hmembers)

/-- **An exchange leaves a group**, if its query is an attempt. -/
theorem group_perform :
    e.Group (c.client.urlFor e.path apiVersion) outcome (e.perform query w).records := by
  rw [perform_records]
  -- what was parsed was answered, and no warning is written for an answer
  cases hresult : (e.perform query w).result with
  | ok a =>
    have hparses := (e.perform_eq_ok_iff hattempt a).mp hresult
    obtain ⟨members, hmembers, -⟩ := id hparses
    rw [hattempt.quiet hmembers.not_reported]
    exact .told hparses
  | error failure =>
    have hnone (a : α) : ¬ e.Parses outcome a := fun h => by
      cases hresult.symm.trans ((e.perform_eq_ok_iff hattempt a).mpr h)
    by_cases hreported : outcome.Reported
    · obtain ⟨status, reason, hwarned⟩ := hattempt.warned hreported
      rw [hwarned]
      exact .warned hnone hreported
    · rw [hattempt.quiet hreported]
      exact .quiet hnone hreported

end Attempt

end Exchange

/-! ## 3. Single operations -/

/-- The lock on a query does not show in what is recorded. -/
theorem Exchange.Recorded.withLock {c : Connection σ} {e : Exchange α}
    {query : Action (Wire σ) Json.Members} {w : Wire σ} {request : Http.Request}
    (h : e.Recorded c request { w with lockHeld := true }
      (e.perform query { w with lockHeld := true })) :
    e.Recorded c request w (e.perform (Connection.withLock query) w) := by
  have hrun : e.perform (Connection.withLock query) w =
      { e.perform query { w with lockHeld := true } with
        world := (e.perform (Connection.withLock query) w).world } := by
    simp only [Exchange.perform_run]
    rfl
  rw [hrun]
  exact ⟨h.requests, h.asks, h.records, h.returned⟩

section Single

variable {c : Connection σ} (hc : c.client.closed = false)
include hc

/-- An exchange with a query of an open client is recorded, if the fields of the query have a
payload. -/
theorem Exchange.recorded_perform (e : Exchange α) (hm : Text.upper e.method = e.method)
    {fields : Json.Members} {payload : Http.Payload}
    (hp : Http.Payload.ofFields e.method fields = .ok payload) (w : Wire σ) :
    ∃ request, e.Recorded c request w (e.perform (c.query e.method e.path fields) w) := by
  rw [← hm] at hp
  have hattempt := Client.attempt_of_payload hc c.remote e.path apiVersion hp w
  have hrequests := Client.query_requests hc c.remote e.path apiVersion hp w
  rw [hm] at hattempt hrequests
  exact ⟨_, by rw [e.perform_requests]; exact hrequests, ⟨rfl, rfl⟩, e.group_perform hattempt,
    e.perform_eq_ok_iff hattempt⟩

theorem recorded_listDirectory (path : String) (w : Wire σ) :
    ∃ request, (Exchange.listDirectory path).Recorded c request w (c.listDirectory path w) :=
  (Exchange.listDirectory path).recorded_perform hc Client.upper_get (by rfl) w

end Single

/-! ## 4. Trails -/

/-- `c.Trail whole s requests records`: the records are the groups of the requests, which are
for listings, one group after another; the service is in the state `s` at the start.  Each group has
its result, but for the last one if the trail is not `whole`. -/
inductive Trail (c : Connection σ) : Bool → σ → List Http.Request → List Log.Record → Prop
  | nil {s : σ} : Trail c true s [] []
  /-- The last request, whose answer could not be read. -/
  | broken {s : σ} {r : Http.Request} {group : List Log.Record} :
      (Exchange.listDirectory r.listedPath).Asks c r →
      (Exchange.listDirectory r.listedPath).Group (c.client.urlFor listPath apiVersion)
        (c.remote r s).1 group →
      (∀ objects, ¬ (Exchange.listDirectory r.listedPath).Parses (c.remote r s).1 objects) →
      Trail c false s [r] group
  /-- A request whose answer was read. -/
  | cons {whole : Bool} {s : σ} {r : Http.Request} {group : List Log.Record}
      {objects : List ObjectStatus} {requests : List Http.Request} {records : List Log.Record} :
      (Exchange.listDirectory r.listedPath).Asks c r →
      (Exchange.listDirectory r.listedPath).Group (c.client.urlFor listPath apiVersion)
        (c.remote r s).1 group →
      (Exchange.listDirectory r.listedPath).Parses (c.remote r s).1 objects →
      Trail c whole (c.remote r s).2 requests records →
      Trail c whole s (r :: requests) (group ++ records)

/-- A whole trail can be gone on with. -/
theorem Trail.append {c : Connection σ} {whole : Bool} {s : σ} {requests rest : List Http.Request}
    {records later : List Log.Record} (h : c.Trail true s requests records)
    (h' : c.Trail whole (c.remote.after requests s) rest later) :
    c.Trail whole s (requests ++ rest) (records ++ later) := by
  generalize hwhole : true = first at h
  induction h with
  | nil => exact h'
  | broken _ _ _ => cases hwhole
  | cons hasks hgroup hparses _ ih =>
    rw [List.append_assoc]
    exact .cons hasks hgroup hparses (ih h' hwhole)

/-- `c.Trails x`: the action leaves a trail, which is whole if it returns. -/
def Trails (c : Connection σ) (x : Action (Wire σ) α) : Prop :=
  ∀ w, ∃ whole, c.Trail whole w.service (x w).requests (x w).records ∧
    (x w).world.service = c.remote.after (x w).requests w.service ∧
    ∀ a, (x w).result = .ok a → whole = true

namespace Trails

variable {c : Connection σ}

theorem ofExcept (result : Except Failure α) : c.Trails (Action.ofExcept result) :=
  fun _ => ⟨true, .nil, rfl, fun _ _ => rfl⟩

/-- **A composition leaves the trails of its parts.**  The second part runs only if the trail of the
first one is whole. -/
theorem bind {x : Action (Wire σ) α} {f : α → Action (Wire σ) β} (hx : c.Trails x)
    (hf : ∀ a, c.Trails (f a)) : c.Trails (x >>= f) := by
  intro w
  obtain ⟨whole, htrail, hservice, hwhole⟩ := hx w
  cases ha : (x w).result with
  | error failure =>
    rw [Action.bind_run_error ha]
    exact ⟨whole, htrail, hservice, fun _ h => nomatch h⟩
  | ok a =>
    cases hwhole a ha
    obtain ⟨whole', htrail', hservice', hwhole'⟩ := hf a (x w).world
    rw [Action.bind_run_ok ha]
    rw [hservice] at htrail' hservice'
    simp only [Run.requests, Run.records, List.filterMap_append] at *
    refine ⟨whole', htrail.append htrail', ?_, hwhole'⟩
    rw [hservice', c.remote.after_append]

/-- A listing of an open client leaves one group. -/
theorem listDirectory (hc : c.client.closed = false) (path : String) :
    c.Trails (c.listDirectory path) := by
  intro w
  obtain ⟨request, hrecorded⟩ := recorded_listDirectory hc path w
  -- the request of the record is the one that the listing sends
  have hrequest : request = c.listRequest path w.lockHeld := by
    have hrequests := c.listDirectory_requests path w
    rw [hc, hrecorded.requests] at hrequests
    exact (List.cons.inj hrequests).1
  have hpath : request.listedPath = path := by rw [hrequest, c.listedPath_listRequest]
  have hservice : (c.listDirectory path w).world.service =
      c.remote.after (c.listDirectory path w).requests w.service := by
    rw [hrecorded.requests, hrequest, listDirectory_run hc]
    rfl
  subst hpath
  rw [hrecorded.requests] at hservice ⊢
  cases hresult : (c.listDirectory request.listedPath w).result with
  | ok objects =>
    have htrail := Trail.cons hrecorded.asks hrecorded.records
      ((hrecorded.returned objects).mp hresult) .nil
    rw [List.append_nil] at htrail
    exact ⟨true, htrail, hservice, fun _ _ => rfl⟩
  | error failure =>
    refine ⟨false, .broken hrecorded.asks hrecorded.records fun objects hparses => ?_, hservice,
      fun _ h => nomatch h⟩
    cases hresult.symm.trans ((hrecorded.returned objects).mpr hparses)

/-- **A walk leaves a trail.** -/
theorem walk (hc : c.client.closed = false) (path : String) :
    c.Trails (Workspace.walk c.listDirectory c.maxDepth path) :=
  Action.prop_walk (P := c.Trails) (fun a => .ofExcept (.ok a))
    (fun failure => .ofExcept (.error failure)) .bind (.listDirectory hc) c.maxDepth path

end Trails

end Connection

/-- The log of the shelf: two groups, and the count of its notebooks. -/
example : (Shelf.connection.list "/r" true ⟨[], false⟩).records.map Log.Record.kept =
    ["DEBUG API: workspace.list(path='/r')",
      "DEBUG GET https://example.com/api/2.0/workspace/list",
      "DEBUG API: workspace.list -> 4 objects",
      "DEBUG API: workspace.list(path='/r/d/')",
      "DEBUG GET https://example.com/api/2.0/workspace/list",
      "DEBUG API: workspace.list -> 1 objects",
      "DEBUG API: workspace.list(recursive) -> 3 objects"] := by
  decide +kernel

end Workspace
