/-
# Calls in the log

Every operation records its call before it does anything else, and the record shows the path that
it is about.  The path may hold whatever it likes: it stands between quotation marks, so the line of
a call is steady (`Call.steady_record`), which means that no character of it ends the line or steers
the output, and the line tells the path (`Call.record_inj`).

No other record of an operation has the form of a call.  What holds of the records that single
actions write is carried over compositions and walks by `Action.Writes`, so this takes one line for
each operation (`Call.Performs.writes`).

`Call.Performs.unforgeable` puts this together for all operations.
-/
import Workspace.Proofs.Effect
import Workspace.Proofs.Exchange
import Workspace.Proofs.Http.Posting
import Workspace.Proofs.Text.Quoted
import Workspace.Proofs.Walk.Service
namespace Workspace

variable {σ ω α β : Type}

/-! ## 1. Steady texts -/

namespace Text

/-- No character of the text steers the output. -/
def Steady (s : String) : Prop := ∀ c ∈ s.toList, isSteering c = false

theorem steady_of_all {s : String} (h : s.toList.all (fun c => !isSteering c) = true) :
    Steady s := by
  intro c hc
  have hc := List.all_eq_true.mp h c hc
  rwa [Bool.not_eq_true'] at hc

theorem Steady.append {s t : String} (hs : Steady s) (ht : Steady t) : Steady (s ++ t) := by
  intro c hc
  rw [String.toList_append] at hc
  rcases List.mem_append.mp hc with hc | hc
  · exact hs c hc
  · exact ht c hc

/-- Steady texts with a steady text between them make up a steady text. -/
theorem steady_intercalate {s : String} (hs : Steady s) :
    ∀ {texts : List String}, (∀ t ∈ texts, Steady t) → Steady (s.intercalate texts)
  | [], _ => by
    intro c hc
    simp at hc
  | [t], h => by
    rw [String.intercalate_singleton]
    exact h t (by simp)
  | t :: u :: texts, h => by
    rw [String.intercalate_cons_cons]
    have hrest : Steady (s.intercalate (u :: texts)) :=
      steady_intercalate hs fun v hv => h v (by simp [hv])
    exact ((h t (by simp)).append hs).append hrest

theorem steady_quoted (s : String) : Steady (Quoted.text s) := by
  intro c hc
  rw [Quoted.text, String.toList_ofList] at hc
  exact isSteering_of_isPrintable (Quoted.isPrintable_of_mem_encode hc)

end Text

open Text (Steady)

/-! ## 2. The records of calls -/

namespace Log

theorem steady_shown {v : Json} (h : v.IsFlat) : Steady v.shown := by
  cases h with
  | string s => exact Text.steady_quoted s
  | bool b => cases b <;> exact Text.steady_of_all (by decide +kernel)

/-- The arguments that are shown, each with its name. -/
def argumentTexts (params : Json.Members) : List String :=
  (params.filter fun (_, v) => !v matches .null).map fun (k, v) => k ++ "=" ++ v.shown

theorem arguments_eq (params : Json.Members) :
    arguments params = ", ".intercalate (argumentTexts params) := rfl

theorem argumentTexts_string (k s : String) (params : Json.Members) :
    argumentTexts ((k, .string s) :: params) =
      (k ++ "=" ++ Text.Quoted.text s) :: argumentTexts params := rfl

/-- Arguments are steady, if their names are and each value is flat or left out. -/
theorem steady_arguments {params : Json.Members}
    (h : ∀ param ∈ params, Steady param.1 ∧ (param.2 = .null ∨ param.2.IsFlat)) :
    Steady (arguments params) := by
  rw [arguments_eq]
  refine Text.steady_intercalate (Text.steady_of_all (by decide +kernel)) fun t ht => ?_
  obtain ⟨⟨k, v⟩, hmem, rfl⟩ := List.mem_map.mp ht
  obtain ⟨hmem, hpresent⟩ := List.mem_filter.mp hmem
  obtain ⟨hname, rfl | hflat⟩ := h _ hmem
  · simp at hpresent
  · exact (hname.append (Text.steady_of_all (by decide +kernel))).append (steady_shown hflat)

/-- A string is shown first if it is the first argument, and what stands behind it depends on the
other arguments alone. -/
theorem exists_arguments_string (k : String) (params : Json.Members) :
    ∃ rest, ∀ s, arguments ((k, .string s) :: params) = k ++ "=" ++ Text.Quoted.text s ++ rest := by
  cases h : argumentTexts params with
  | nil =>
    refine ⟨"", fun s => ?_⟩
    rw [arguments_eq, argumentTexts_string, h, String.intercalate_singleton, String.append_empty]
  | cons t ts =>
    refine ⟨", " ++ ", ".intercalate (t :: ts), fun s => ?_⟩
    rw [arguments_eq, argumentTexts_string, h, String.intercalate_cons_cons]
    simp only [String.append_assoc]

end Log

namespace Connection

/-- What is asked of the service, apart from the path. -/
inductive Call
  | create (language : Option Language) (format : Option ExportFormat) (overwrite : Bool)
  | read
  | exportContent (format : Option ExportFormat)
  | makeDirectories
  | delete (recursive : Bool)
  /-- A listing, of one directory or of one after the other. -/
  | list
  deriving DecidableEq, Repr

namespace Call

/-- The name of the call. -/
def name : Call → String
  | create _ _ _ => "import"
  | read => "get-status"
  | exportContent _ => "export"
  | makeDirectories => "mkdirs"
  | delete _ => "delete"
  | list => "list"

/-- The arguments of the call, apart from the path. -/
def others : Call → Json.Members
  | create language format overwrite =>
    [("language", optionalName (language.map Language.name)),
      ("format", optionalName (format.map ExportFormat.name)), ("overwrite", .bool overwrite)]
  | exportContent format => [("format", optionalName (format.map ExportFormat.name))]
  | delete recursive => [("recursive", .bool recursive)]
  | read | makeDirectories | list => []

/-- The record of the call for a path. -/
def record (call : Call) (path : String) : Log.Record :=
  Log.apiCall service call.name (("path", .string path) :: call.others)

/-- The words in the records of calls. -/
def words : List String :=
  ["import", "get-status", "export", "mkdirs", "delete", "list", "path", "language", "format",
    "overwrite", "recursive"]

theorem steady_of_mem_words {s : String} (h : s ∈ words) : Steady s := by
  have hall : words.all (fun s => s.toList.all fun c => !Text.isSteering c) = true := by
    decide +kernel
  exact Text.steady_of_all (List.all_eq_true.mp hall s h)

theorem optionalName_cases (name : Option String) :
    optionalName name = .null ∨ (optionalName name).IsFlat := by
  cases name with
  | none => exact .inl rfl
  | some s => exact .inr (.string s)

/-- The other arguments stand under steady names, and are flat or left out. -/
theorem others_cases {call : Call} {param : String × Json} (h : param ∈ call.others) :
    Steady param.1 ∧ (param.2 = .null ∨ param.2.IsFlat) := by
  -- names of parameters are fixed, and their values are names, flags or left out
  cases call with
  | create language format overwrite =>
    simp only [others, List.mem_cons, List.not_mem_nil, or_false] at h
    rcases h with rfl | rfl | rfl
    · exact ⟨steady_of_mem_words (by simp [words]), optionalName_cases _⟩
    · exact ⟨steady_of_mem_words (by simp [words]), optionalName_cases _⟩
    · exact ⟨steady_of_mem_words (by simp [words]), .inr (.bool overwrite)⟩
  | exportContent format =>
    rw [List.mem_singleton.mp h]
    exact ⟨steady_of_mem_words (by simp [words]), optionalName_cases _⟩
  | delete recursive =>
    rw [List.mem_singleton.mp h]
    exact ⟨steady_of_mem_words (by simp [words]), .inr (.bool recursive)⟩
  | read => cases h
  | makeDirectories => cases h
  | list => cases h

/-- **The line of a call is steady**, whatever the path holds. -/
theorem steady_record (call : Call) (path : String) : Steady (call.record path).text := by
  have hname : Steady call.name := steady_of_mem_words (by cases call <;> simp [words, name])
  have hservice : Steady ("API: " ++ service ++ ".") := Text.steady_of_all (by decide +kernel)
  have harguments : Steady (Log.arguments (("path", .string path) :: call.others)) := by
    refine Log.steady_arguments fun param hparam => ?_
    rcases List.mem_cons.mp hparam with rfl | hparam
    · exact ⟨steady_of_mem_words (by simp [words]), .inr (.string path)⟩
    · exact others_cases hparam
  exact (((hservice.append hname).append (Text.steady_of_all (by decide +kernel))).append
    harguments).append (Text.steady_of_all (by decide +kernel))

/-- **The line of a call tells the path.** -/
theorem record_inj {call : Call} {path path' : String}
    (h : (call.record path).text = (call.record path').text) : path = path' := by
  obtain ⟨rest, hrest⟩ := Log.exists_arguments_string "path" call.others
  simp only [record, Log.apiCall, hrest, String.append_right_inj, String.append_left_inj] at h
  exact Text.Quoted.text_injective h

end Call

end Connection

/-! ## 3. What an action writes -/

/-- All that is said about an exchange that failed is that it failed. -/
theorem Client.exists_of_mem_complaints {method url : String} {outcome : Http.Outcome}
    {r : Log.Record} (h : r ∈ (complaints method url outcome).filterMap Event.record?) :
    ∃ status reason, r = Log.httpFailure method url status reason := by
  cases outcome with
  | timedOut text => exact ⟨none, text, List.mem_singleton.mp h⟩
  | disconnected text => exact ⟨none, text, List.mem_singleton.mp h⟩
  | tooManyRedirects text => cases h
  | undecodable text => cases h
  | misdirected => cases h
  | response response =>
    simp only [complaints] at h
    split at h
    · cases h
    · split at h
      · cases h
      · exact ⟨_, _, List.mem_singleton.mp h⟩

namespace Action

/-- `x.Writes p`: the property holds of every record that the action writes. -/
def Writes (p : Log.Record → Prop) (x : Action ω α) : Prop := ∀ w, ∀ r ∈ (x w).records, p r

namespace Writes

variable {p : Log.Record → Prop}

theorem ofExcept (result : Except Failure α) :
    Writes p (Action.ofExcept result : Action ω α) := fun _ _ h => nomatch h

theorem pure (a : α) : Writes p (Pure.pure a : Action ω α) := .ofExcept (.ok a)

theorem log {r : Log.Record} (h : p r) : Writes p (Action.log r : Action ω Unit) := by
  intro w r' hr'
  rw [List.mem_singleton.mp hr']
  exact h

/-- A composition writes what its parts write. -/
theorem bind {x : Action ω α} {f : α → Action ω β} (hx : Writes p x) (hf : ∀ a, Writes p (f a)) :
    Writes p (x >>= f) := by
  intro w r hr
  rw [records_bind] at hr
  rcases List.mem_append.mp hr with hr | hr
  · exact hx w r hr
  · cases ha : (x w).result with
    | ok a =>
      rw [ha] at hr
      exact hf a _ r hr
    | error failure =>
      rw [ha] at hr
      cases hr

theorem withLock {x : Action (Wire σ) α} (hx : Writes p x) : Writes p (Connection.withLock x) :=
  fun w => hx { w with lockHeld := true }

theorem walk {list : String → Action ω (List ObjectStatus)} (hlist : ∀ path, Writes p (list path))
    (depth : Nat) (path : String) : Writes p (Workspace.walk list depth path) :=
  prop_walk (P := Writes p) .pure (fun failure => .ofExcept (.error failure)) .bind hlist depth path

/-- A query writes the record of its request, and that of a failed exchange. -/
theorem query {method : String} (hupper : Text.upper method = method)
    (hrequest : ∀ url, p (Log.request method url))
    (hfailure : ∀ url status reason, p (Log.httpFailure method url status reason)) (c : Client)
    (remote : Http.Remote σ) (path version : String) (fields : Json.Members) :
    Writes p (c.query remote method path version fields) := by
  intro w r hr
  rcases c.query_cases remote method path version fields with ⟨failure, -, hrun⟩ | ⟨payload, hp, hc⟩
  · rw [hrun w, hupper] at hr
    rw [List.mem_singleton.mp hr]
    exact hrequest _
  · rw [Client.query_records hc remote path version hp, hupper] at hr
    rcases List.mem_cons.mp hr with rfl | hr
    · exact hrequest _
    · obtain ⟨status, reason, rfl⟩ := Client.exists_of_mem_complaints hr
      exact hfailure _ status reason

end Writes

/-- `x.Opens r`: the record is the first that the action writes. -/
def Opens (r : Log.Record) (x : Action ω α) : Prop := ∀ w, ∃ rest, (x w).records = r :: rest

theorem opens_log (r : Log.Record) (f : Unit → Action ω α) : Opens r (Action.log r >>= f) :=
  fun w => ⟨(f () w).records, rfl⟩

theorem Opens.bind {r : Log.Record} {x : Action ω α} (hx : Opens r x) (f : α → Action ω β) :
    Opens r (x >>= f) := by
  intro w
  obtain ⟨rest, hrest⟩ := hx w
  rw [records_bind, hrest, List.cons_append]
  exact ⟨_, rfl⟩

end Action

open Workspace.Action (Writes Opens)

/-! ## 4. Calls and other records -/

/-- The record has the form of a call. -/
def Log.Record.IsCall (r : Log.Record) : Prop :=
  ∃ method params, r = Log.apiCall Connection.service method params

namespace Log

theorem getLast?_apiCall (service method : String) (params : Json.Members) :
    (apiCall service method params).text.toList.getLast? = some ')' := by
  simp only [apiCall, String.toList_append, List.getLast?_append]
  rfl

theorem head?_apiCall (service method : String) (params : Json.Members) :
    (apiCall service method params).text.toList.head? = some 'A' := by
  simp [apiCall]

/-- A result has not the form of a call: it does not end in a bracket. -/
theorem not_isCall_apiResult (service method : String) (count : Option Int) :
    ¬ (apiResult service method count).IsCall := by
  rintro ⟨method', params, h⟩
  have hlast := getLast?_apiCall Connection.service method' params
  rw [← h] at hlast
  cases count with
  | none =>
    simp only [apiResult, String.toList_append, List.getLast?_append] at hlast
    cases hlast
  | some n =>
    simp only [apiResult, String.toList_append, List.getLast?_append] at hlast
    cases hlast

/-- A request has not the form of a call, if its method starts in another way. -/
theorem not_isCall_request {method : String} {c : Char} (hmethod : method.toList.head? = some c)
    (hc : c ≠ 'A') (url : String) : ¬ (request method url).IsCall := by
  rintro ⟨method', params, h⟩
  have hhead := head?_apiCall Connection.service method' params
  rw [← h] at hhead
  simp [request, List.head?_append, hmethod, hc] at hhead

/-- A failed exchange is no call, for it is a warning. -/
theorem not_isCall_httpFailure (method url : String) (status : Option Int) (reason : String) :
    ¬ (httpFailure method url status reason).IsCall := by
  rintro ⟨method', params, h⟩
  cases congrArg Record.level h

end Log

namespace Connection

namespace Call

/-- A record that is a call at all is this one, for some path. -/
def Owns (call : Call) (r : Log.Record) : Prop := r.IsCall → ∃ path, r = call.record path

variable {call : Call} {c : Connection σ}

theorem owns_apiResult (call : Call) (service method : String) (count : Option Int) :
    call.Owns (Log.apiResult service method count) :=
  fun h => (Log.not_isCall_apiResult service method count h).elim

/-- The queries of operations write nothing that has the form of a call. -/
theorem writes_query {method : String} (hmethod : method = "GET" ∨ method = "POST")
    (path : String) (fields : Json.Members) : Writes call.Owns (c.query method path fields) := by
  have hupper : Text.upper method = method := by
    rcases hmethod with rfl | rfl
    · exact Client.upper_get
    · exact Client.upper_post
  refine .query hupper (fun url h => ?_) (fun url status reason h => ?_) _ _ _ _ _
  · rcases hmethod with rfl | rfl
    · exact (Log.not_isCall_request (c := 'G') (by decide) (by decide) url h).elim
    · exact (Log.not_isCall_request (c := 'P') (by decide) (by decide) url h).elim
  · exact (Log.not_isCall_httpFailure method url status reason h).elim

theorem writes_listDirectory (c : Connection σ) (path : String) :
    Writes list.Owns (c.listDirectory path) :=
  .bind (.log fun _ => ⟨path, rfl⟩) fun _ => .bind (writes_query (.inl rfl) _ _) fun _ =>
    .bind (.ofExcept _) fun objects => .bind (.log (owns_apiResult _ _ _ _)) fun _ => .pure objects

/-- `call.Performs c path x`: the operation makes the call for the path. -/
inductive Performs (c : Connection σ) :
    Call → String → {α : Type} → Action (Wire σ) α → Prop
  | create (r : ImportRequest) :
      Performs c (.create r.language r.format r.overwrite) r.path (c.create r)
  | read (path : String) : Performs c .read path (c.read path)
  | exportContent (path : String) (format : Option ExportFormat) :
      Performs c (.exportContent format) path (c.exportContent path format)
  | makeDirectories (path : String) : Performs c .makeDirectories path (c.makeDirectories path)
  | delete (r : DeleteRequest) : Performs c (.delete r.recursive) r.path (c.delete r)
  | list (path : String) : Performs c .list path (c.list path false)
  /-- A recursive listing, if it may list a directory at all. -/
  | walk (path : String) : 0 < c.maxDepth → Performs c .list path (c.list path true)

variable {path : String} {x : Action (Wire σ) α}

/-- **An operation writes no call but its own.** -/
theorem Performs.writes (h : call.Performs c path x) : Writes call.Owns x := by
  -- each operation writes its call, the records of its query, and its result
  cases h with
  | create r =>
    exact .bind (.log fun _ => ⟨r.path, rfl⟩) fun _ => .bind (writes_query (.inr rfl) _ _) fun _ =>
      .log (owns_apiResult _ _ _ _)
  | read path =>
    exact .bind (.log fun _ => ⟨path, rfl⟩) fun _ => .bind (writes_query (.inl rfl) _ _) fun _ =>
      .bind (.ofExcept _) fun status => .bind (.log (owns_apiResult _ _ _ _)) fun _ => .pure status
  | exportContent path format =>
    exact .bind (.log fun _ => ⟨path, rfl⟩) fun _ => .bind (writes_query (.inl rfl) _ _) fun _ =>
      .bind (.ofExcept _) fun content => .bind (.log (owns_apiResult _ _ _ _)) fun _ =>
        .pure content.base64
  | makeDirectories path =>
    exact .bind (.log fun _ => ⟨path, rfl⟩) fun _ =>
      .bind (.withLock (writes_query (.inr rfl) _ _)) fun _ => .log (owns_apiResult _ _ _ _)
  | delete r =>
    exact .bind (.log fun _ => ⟨r.path, rfl⟩) fun _ => .bind (writes_query (.inr rfl) _ _) fun _ =>
      .log (owns_apiResult _ _ _ _)
  | list path => exact writes_listDirectory c path
  | walk path _ =>
    exact .bind (.walk (writes_listDirectory c) _ _) fun notebooks =>
      .bind (.log (owns_apiResult _ _ _ _)) fun _ => .pure notebooks

/-- **An operation writes its call first.** -/
theorem Performs.opens (h : call.Performs c path x) : Opens (call.record path) x := by
  cases h with
  | create r => exact Action.opens_log _ _
  | read path => exact Action.opens_log _ _
  | exportContent path format => exact Action.opens_log _ _
  | makeDirectories path => exact Action.opens_log _ _
  | delete r => exact Action.opens_log _ _
  | list path => exact Action.opens_log _ _
  | walk path hdepth =>
    obtain ⟨depth, hdepth⟩ := Nat.exists_eq_add_one_of_ne_zero hdepth.ne'
    have hwalk :
        Opens (Call.list.record path) (Workspace.walk c.listDirectory c.maxDepth path) := by
      rw [hdepth]
      exact ((Action.opens_log _ _).bind _).bind _
    exact hwalk.bind _

/-- **The line of a call cannot be forged.**  Every operation writes its call for its path before
anything else.

* All the lines in its log that have the form of a call are its call, for some path.
* For every path that line holds no character that ends a line or steers the output.
* For two different paths, and the same other arguments, the lines are different. -/
theorem Performs.unforgeable (h : call.Performs c path x) (w : Wire σ) :
    (∃ rest, (x w).records = call.record path :: rest) ∧
      (∀ r ∈ (x w).records, r.IsCall → ∃ path', r = call.record path') ∧
      (∀ path', ∀ ch ∈ (call.record path').text.toList, Text.isSteering ch = false) ∧
      ∀ path' path'', path' ≠ path'' → (call.record path').text ≠ (call.record path'').text :=
  ⟨h.opens w, h.writes w, call.steady_record, fun _ _ hne heq => hne (record_inj heq)⟩

namespace Intruder

/-- A path that goes on in a second line, and shows a call there. -/
def disguise : String := "/a\nAPI: workspace.delete(path='/b')"

end Intruder

/-- A path with a second line shows as one line, which is the only call in the log. -/
theorem Performs.unforgeable_intruder :
    let run := Shelf.connection.read Intruder.disguise ⟨[], false⟩
    Performs Shelf.connection .read Intruder.disguise (Shelf.connection.read Intruder.disguise) ∧
      (∃ rest, run.records = Call.read.record Intruder.disguise :: rest) ∧
      (∀ r ∈ run.records, r.IsCall → ∃ path, r = Call.read.record path) ∧
      (Call.read.record Intruder.disguise).text =
        "API: workspace.get-status(path=\"/a\\nAPI: workspace.delete(path='/b')\")" ∧
      (∀ ch ∈ (Call.read.record Intruder.disguise).text.toList, Text.isSteering ch = false) ∧
      (Call.read.record Intruder.disguise).text ≠ (Call.read.record "/a").text := by
  have hperforms := Performs.read (c := Shelf.connection) Intruder.disguise
  obtain ⟨hopens, hcalls, hsteady, hinj⟩ := hperforms.unforgeable ⟨[], false⟩
  exact ⟨hperforms, hopens, hcalls, by decide +kernel, hsteady _, hinj _ _ (by decide +kernel)⟩

end Call

end Connection

end Workspace
