/-
# A service over time, and recursive listings of it

`Comes` are the states that listings can bring a service to, `AnswersFrom` says that it gives a
fixed answer for each path from some state on, and `NamesWithin` that it never names a directory
outside a given set of keys.

`course_of_list` says that a recursive listing follows a course of single listings, made in such
states (`Made`), with one request for each.  What the laws of courses say about calls, they say
thereby about requests.
-/
import Workspace.Proofs.Exchange
import Workspace.Proofs.Walk.Course
import Workspace.Script
namespace Workspace

open Walk

variable {σ : Type}

/-! ## 1. A service over time -/

namespace Connection

/-- The states to which listings can bring the service of a connection from the state `s`. -/
inductive Comes (c : Connection σ) (s : σ) : σ → Prop
  | start : Comes c s s
  | listing {t : σ} (path : String) (locked : Bool) :
      Comes c s t → Comes c s (c.remote (c.listRequest path locked) t).2

/-- From the state `s` on, the service gives the answer `answer path` whenever it is asked for the
listing of `path`. -/
def AnswersFrom (c : Connection σ) (s : σ) (answer : String → Http.Outcome) : Prop :=
  ∀ t, c.Comes s t → ∀ path locked, (c.remote (c.listRequest path locked) t).1 = answer path

theorem Comes.listDirectory {c : Connection σ} {s : σ} {w : Wire σ} (h : c.Comes s w.service)
    (path : String) : c.Comes s (c.listDirectory path w).world.service := by
  cases hc : c.client.closed with
  | true => simpa [listDirectory_closed hc] using h
  | false => simpa [listDirectory_run hc] using h.listing path w.lockHeld

theorem AnswersFrom.listDirectory_result {c : Connection σ} {s : σ}
    {answer : String → Http.Outcome} (h : c.AnswersFrom s answer) {w : Wire σ}
    (hw : c.Comes s w.service) (path : String) :
    (c.listDirectory path w).result =
      if c.client.closed then .error .closedClient else listingResult path (answer path) := by
  rw [Connection.listDirectory_result, h w.service hw]

/-- From the state `s` on, every directory that the service names has its key in `keys`. -/
def NamesWithin (c : Connection σ) (s : σ) (keys : Finset String) : Prop :=
  ∀ w : Wire σ, c.Comes s w.service → ∀ path entries, (c.list path false w).result = .ok entries →
    ∀ d ∈ subdirectories entries, directoryKey d ∈ keys

/-- With fixed answers, the directories that the service names are those in its answers. -/
theorem AnswersFrom.namesWithin {c : Connection σ} {s : σ} {answer : String → Http.Outcome}
    (h : c.AnswersFrom s answer) {keys : Finset String}
    (hk : ∀ path entries, listingResult path (answer path) = .ok entries →
      ∀ d ∈ subdirectories entries, directoryKey d ∈ keys) : c.NamesWithin s keys := by
  intro w hw path entries hr
  have hlist : (c.listDirectory path w).result = .ok entries := hr
  rw [h.listDirectory_result hw] at hlist
  split at hlist
  · cases hlist
  · exact hk path entries hlist

/-- The answer of a scripted service that has nothing to say lists nothing. -/
theorem listingResult_empty (path : String) :
    listingResult path Script.emptyResponse = .ok [] := by
  have hbody : Client.verdict "GET" listPath Script.emptyResponse.checked = .ok [] := by
    have hdecoded : (Client.verdict "GET" listPath
        Script.emptyResponse.checked).toOption.map List.isEmpty = some true := by decide +kernel
    obtain ⟨body, hb, hnil⟩ := Option.map_eq_some_iff.mp hdecoded
    rw [toOption_eq_some_iff.mp hb, List.isEmpty_iff.mp hnil]
  rw [listingResult, hbody]
  rfl

/-- A scripted service whose queue is used up gives fixed answers, from its table. -/
theorem answersFrom_script {c : Connection (List Http.Outcome)} {s : Script}
    (hc : c.remote = s.remote)
    (hurl : (c.client.urlFor listPath apiVersion).endsWith "/workspace/list" = true) :
    c.AnswersFrom [] fun path => (s.tree.lookup path).getD Script.emptyResponse := by
  have hask (path : String) (locked : Bool) : c.remote (c.listRequest path locked) [] =
      ((s.tree.lookup path).getD Script.emptyResponse, []) := by
    have htabled : s.tabled? (c.listRequest path locked) = s.tree.lookup path := by
      have hpath := c.listedPath_listRequest path locked
      rw [Http.Request.listedPath] at hpath
      rw [Script.tabled?, hpath]
      exact if_pos hurl
    rw [hc, Script.remote, htabled]
    cases s.tree.lookup path <;> rfl
  -- a listing that the table answers takes nothing off the queue, and it started empty
  have hempty : ∀ t, c.Comes [] t → t = [] := by
    intro t ht
    induction ht with
    | start => rfl
    | listing path locked _ ih => rw [ih, hask]
  intro t ht path locked
  rw [hempty t ht, hask]

/-! ## 2. Recursive listings -/

/-- What the listing of each directory holds in a world, if it returns. -/
def listings (c : Connection σ) (w : Wire σ) (directory : String) : Option (List ObjectStatus) :=
  (c.list directory false w).result.toOption

/-- The worlds to which listings can lead from `w`: the service has moved on, and the lock is as it
was. -/
def Leads (c : Connection σ) (w v : Wire σ) : Prop :=
  c.Comes w.service v.service ∧ v.lockHeld = w.lockHeld

/-- A call that is a listing of the connection in a world to which listings lead from `w`. -/
def Made (c : Connection σ) (w : Wire σ) (call : Call) : Prop :=
  ∃ v, c.Leads w v ∧ call.answer = (c.listDirectory call.path v).result ∧
    call.events = (c.listDirectory call.path v).events

theorem Made.requests {c : Connection σ} {w : Wire σ} {call : Call} (h : c.Made w call) :
    call.events.filterMap Event.request? =
      if c.client.closed then [] else [c.listRequest call.path w.lockHeld] := by
  obtain ⟨v, ⟨-, hlock⟩, -, he⟩ := h
  rw [he, ← hlock]
  exact c.listDirectory_requests call.path v

/-- A call does not nest. -/
theorem Made.ne_tooDeep {c : Connection σ} {w : Wire σ} {call : Call} (h : c.Made w call) :
    call.answer ≠ .error .tooDeep := by
  obtain ⟨v, -, ha, -⟩ := h
  rw [ha]
  exact c.listDirectory_ne_tooDeep call.path v

theorem Made.client_open {c : Connection σ} {w : Wire σ} {call : Call} (h : c.Made w call)
    {entries : List ObjectStatus} (ha : call.answer = .ok entries) : c.client.closed = false := by
  obtain ⟨v, -, hv, -⟩ := h
  cases hc : c.client.closed with
  | false => rfl
  | true =>
    rw [ha, listDirectory_closed hc] at hv
    cases hv

theorem Made.answer_eq {c : Connection σ} {w : Wire σ} {answer : String → Http.Outcome}
    (hs : c.AnswersFrom w.service answer) {call : Call} (h : c.Made w call) :
    call.answer = (c.list call.path false w).result := by
  obtain ⟨v, hv, ha, -⟩ := h
  rw [ha, hs.listDirectory_result hv.1]
  exact (hs.listDirectory_result .start call.path).symm

/-- With fixed answers, a call tells what its directory holds at the start. -/
theorem Made.toOption_answer {c : Connection σ} {w : Wire σ} {answer : String → Http.Outcome}
    (hs : c.AnswersFrom w.service answer) {call : Call} (h : c.Made w call) :
    call.answer.toOption = c.listings w call.path := by
  rw [h.answer_eq hs, listings]

/-- The directories that a call names have their keys among those of the service. -/
theorem NamesWithin.key_mem {c : Connection σ} {w : Wire σ} {keys : Finset String}
    (hk : c.NamesWithin w.service keys) {call : Call} (h : c.Made w call) {directory : String}
    (hd : directory ∈ call.subdirectories) : directoryKey directory ∈ keys := by
  obtain ⟨v, hv, ha, -⟩ := h
  cases hr : call.answer with
  | error failure => simp [Call.subdirectories, hr] at hd
  | ok entries =>
    have hlist : (c.list call.path false v).result = .ok entries := ha.symm.trans hr
    exact hk v hv.1 call.path entries hlist directory (by simpa [Call.subdirectories, hr] using hd)

/-- A recursive listing is a walk and then a record. -/
theorem list_true_run (c : Connection σ) (root : String) (w : Wire σ) :
    (c.list root true w).result = (walk c.listDirectory c.maxDepth root w).result ∧
      (c.list root true w).requests = (walk c.listDirectory c.maxDepth root w).requests := by
  have hrun : c.list root true = c.listRecursively root := rfl
  cases hr : (walk c.listDirectory c.maxDepth root w).result with
  | error failure =>
    rw [hrun, listRecursively, Action.bind_run_error hr]
    exact ⟨rfl, rfl⟩
  | ok found =>
    rw [hrun, listRecursively, Action.bind_run_ok hr]
    simp [Action.bind_run, Run.requests, Event.request?]

/-- **A recursive listing follows a course** of listings of the connection.  Its requests are
those of the calls, one each, if the client is open. -/
theorem course_of_list (c : Connection σ) (root : String) (w : Wire σ) :
    ∃ calls r, Course (c.Made w) c.maxDepth (.directory root) [] calls r ∧
      (c.list root true w).result = r.map Prod.fst ∧
      (c.list root true w).requests = if c.client.closed then []
        else calls.map fun call => c.listRequest call.path w.lockHeld := by
  have hlist : ∀ path v, c.Leads w v →
      c.Made w ⟨path, (c.listDirectory path v).result, (c.listDirectory path v).events⟩ ∧
        c.Leads w (c.listDirectory path v).world := fun path v hv =>
    ⟨⟨v, hv, rfl, rfl⟩, hv.1.listDirectory path,
      (c.listDirectory_lockHeld path v).trans hv.2⟩
  obtain ⟨calls, r, hc, hr, he, -⟩ := course_of_walk hlist c.maxDepth root ⟨.start, rfl⟩
  obtain ⟨hresult, hrequests⟩ := c.list_true_run root w
  refine ⟨calls, r, hc, hresult.trans hr, ?_⟩
  rw [hrequests, Run.requests, he, List.filterMap_flatMap]
  -- each call sends its one request, or none if the client is closed
  have hcalls : ∀ call ∈ calls, call.events.filterMap Event.request? =
      if c.client.closed then [] else [c.listRequest call.path w.lockHeld] :=
    fun call hmem => (hc.permitted_of_mem call hmem).requests
  rw [List.flatMap_congr hcalls]
  split
  · simp
  · exact List.flatMap_pure_eq_map _ calls

end Connection

/-! ## 3. A shelf with two directories -/

namespace Shelf

/-- An entry of a listing. -/
def entry (path type : String) : Json :=
  .object [("path", .string path), ("object_type", .string type)]

/-- The response with a listing. -/
def page (entries : List Json) : Http.Outcome :=
  .response ⟨200, Utf8.ofString ((Json.object [("objects", .array entries)]).compact?.getD ""),
    "", [], none⟩

/-- The root holds a directory, whose path ends in a slash, among notebooks and a library. -/
def script : Script :=
  ⟨[("/r", page [entry "/r/a" "NOTEBOOK", entry "/r/d/" "DIRECTORY", entry "/r/l" "LIBRARY",
      entry "/r/z" "NOTEBOOK"]),
    ("/r/d/", page [entry "/r/d/n" "NOTEBOOK"])]⟩

/-- A connection to the shelf. -/
def connection : Connection (List Http.Outcome) :=
  ⟨script.remote, ⟨"https://example.com", none, Settings.defaultTimeout, false, none⟩, 3⟩

/-- A notebook without further details. -/
def notebook (path : String) : ObjectStatus :=
  ⟨path, .notebook, none, none, some "NOTEBOOK", none⟩

/-- The notebooks of the shelf: the one below the directory stands between the other two, and
nothing stands for the library. -/
def notebooks : List ObjectStatus := [notebook "/r/a", notebook "/r/d/n", notebook "/r/z"]

theorem list_true_result : (connection.list "/r" true ⟨[], false⟩).result = .ok notebooks := by
  rw [← toOption_eq_some_iff]
  decide +kernel

/-- The answer for each path. -/
def answer (path : String) : Http.Outcome := (script.tree.lookup path).getD Script.emptyResponse

theorem answersFrom : connection.AnswersFrom [] answer :=
  Connection.answersFrom_script rfl (by decide +kernel)

/-- Only one directory is named below the root. -/
theorem namesWithin : connection.NamesWithin [] {"/r/d"} := by
  refine answersFrom.namesWithin ?_
  intro path entries h d hd
  by_cases hroot : path = "/r"
  · have hnames : (Connection.listingResult "/r" (answer "/r")).toOption.map subdirectories =
        some ["/r/d/"] := by decide +kernel
    rw [hroot] at h
    have hkey : directoryKey "/r/d/" = "/r/d" := by decide +kernel
    simp_all [Except.toOption]
  by_cases hbelow : path = "/r/d/"
  · have hnames : (Connection.listingResult "/r/d/" (answer "/r/d/")).toOption.map subdirectories =
        some [] := by decide +kernel
    rw [hbelow] at h
    simp_all [Except.toOption]
  · have hempty : answer path = Script.emptyResponse := by
      simp [answer, script, List.lookup_cons, beq_false_of_ne hroot, beq_false_of_ne hbelow]
    rw [hempty, Connection.listingResult_empty] at h
    cases h
    cases hd

end Shelf

end Workspace
