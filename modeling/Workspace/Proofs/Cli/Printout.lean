/-
# The printed document reads back

A run prints one document, or nothing (`Report.output_eq`).  Whatever the service answers, the
document has distinct keys, for it is made of texts, flags, counts and values that were read
(`Command.settles_distinct`).  So if it holds no number with a fraction and no integer that is too
long, the output is ASCII and is read as the very document (`Report.output_faithful`); and the
statuses in the output of `ls` and `status` are those that the operation returned.
-/
import Mathlib
import Workspace.Proofs.Cli.Run
import Workspace.Proofs.Json.Faithful
import Workspace.Proofs.Object.Status
import Workspace.Proofs.Operations
namespace Workspace

open Workspace.Action (Settles settles_bind settles_ofResult)

/-! ## 1. Documents with distinct keys -/

namespace Json

theorem distinct_of_parts {v : Json} (h : v.parts = []) : v.Distinct := by
  refine .of_parts h ?_
  cases v with
  | object members =>
    rw [List.map_eq_nil_iff.mp h]
    exact List.nodup_nil
  | _ => trivial

theorem distinct_object {members : Members} (hkeys : members.keys.Nodup)
    (h : ∀ v ∈ members.map Prod.snd, v.parts = []) : (object members).Distinct :=
  .intro hkeys fun v hv => distinct_of_parts (h v hv)

end Json

/-- The object of an error has distinct keys, if the details of the error are legible. -/
theorem Error.distinct_toJson {e : Error} (h : ∀ v ∈ e.details.map Prod.snd, v.Legible) :
    e.toJson.Distinct := by
  refine Json.distinct_putAll ?_ fun v hv => (h v hv).distinct
  refine Json.distinct_object ((keys_headMembers e).nodup (by decide)) fun v hv => ?_
  rcases cases_headMembers hv with rfl | ⟨s, rfl⟩ | ⟨status, -, rfl⟩ <;> rfl

/-- An environment from which no client is built fails tidily. -/
theorem Client.tidy_of_ofEnvironment {env : Environment} {failure : Failure}
    (h : Client.ofEnvironment env = .error failure) : failure.Tidy := by
  unfold ofEnvironment at h
  -- settings that cannot be loaded are told by an error; a token that is no header, by a failure
  split at h
  · next e he =>
    obtain rfl := Except.error.inj h
    exact (Settings.printable_of_load he).tidy
  · unfold ofSettings build at h
    simp only at h
    split at h
    · next fault hfault =>
      obtain rfl := Except.error.inj h
      obtain ⟨t, -, hfault⟩ := Option.bind_eq_some_iff.mp hfault
      unfold headerFault? at hfault
      simp only at hfault
      split at hfault
      · cases hfault
      · cases hfault
        trivial
    · cases h

namespace Cli

variable {σ : Type}

/-! ## 2. Commands -/

theorem Desk.tidy_of_nameOf {argument : Argument} {failure : Failure}
    (h : nameOf argument = .error failure) : failure.Tidy := by
  cases argument with
  | textless =>
    cases h
    trivial
  | text s => cases h

/-- Opening a file fails tidily. -/
theorem Desk.tidy_of_ofFault {α : Type} {name : File.Name} {x : Except File.Fault α}
    {failure : Failure} (h : ofFault name x = .error failure) : failure.Tidy := by
  unfold ofFault at h
  split at h
  · cases h
    trivial
  · cases x with
    | error fault =>
      cases h
      trivial
    | ok a => cases h

/-- Reading the bytes of an argument fails tidily. -/
theorem Desk.tidy_of_read {argument : Argument} {desk : Desk σ} {failure : Failure}
    (h : (read argument desk).result = .error failure) : failure.Tidy := by
  rw [read_run, bytesOf] at h
  split at h
  · cases h
  · split at h
    · next hname =>
      obtain rfl := Except.error.inj h
      exact tidy_of_nameOf hname
    · exact tidy_of_ofFault h

theorem Desk.settles_write (name : File.Name) (bytes : Bytes) (desk : Desk σ) :
    Settles (fun _ => True) Failure.Tidy (write name bytes desk).result := by
  rw [write_run]
  exact .of_error fun _ h => tidy_of_ofFault h

/-- A format that is none fails tidily. -/
theorem tidy_of_format {v : Json} {failure : Failure} (h : ExportFormat.ofJson v = .error failure) :
    failure.Tidy := by
  unfold ExportFormat.ofJson at h
  split at h
  · next s =>
    cases hf : ExportFormat.ofName? s with
    | none =>
      rw [hf] at h
      cases h
      trivial
    | some f =>
      rw [hf] at h
      cases h
  · cases h
    trivial

/-- A language that is none fails tidily. -/
theorem tidy_of_languageOf {language : Option Argument} {failure : Failure}
    (h : Command.perform.languageOf language = .error failure) : failure.Tidy := by
  rcases language with _ | (s | _)
  · cases h
  · rw [Command.perform.languageOf, map_eq_error_iff, Language.ofJson] at h
    cases hl : Language.ofName? s with
    | none =>
      rw [hl] at h
      cases h
      trivial
    | some l =>
      rw [hl] at h
      cases h
  · cases h

namespace Command

variable {c : Connection σ}

theorem settles_wire {α : Type} {good : α → Prop} {bad : Failure → Prop} {x : Action (Wire σ) α}
    {desk : Desk σ} (h : Settles good bad (x desk.wire).result) :
    Settles good bad (Desk.onWire x desk).result := h

theorem distinct_exportDocument (path : String) (format : ExportFormat) {rest : Json.Members}
    (hkeys : ("path" :: "format" :: rest.keys).Nodup)
    (h : ∀ v ∈ rest.map Prod.snd, v.parts = []) :
    (exportDocument path format rest).Distinct :=
  Json.distinct_object hkeys
    (List.forall_mem_cons.mpr ⟨rfl, List.forall_mem_cons.mpr ⟨rfl, h⟩⟩)

theorem distinct_done (path : String) {key : String} {rest : Json.Members}
    (hkeys : ("path" :: key :: rest.keys).Nodup) (h : ∀ v ∈ rest.map Prod.snd, v.parts = []) :
    (Json.object ([("path", .string path), (key, .bool true)] ++ rest)).Distinct :=
  Json.distinct_object hkeys
    (List.forall_mem_cons.mpr ⟨rfl, List.forall_mem_cons.mpr ⟨rfl, h⟩⟩)

/-- The text of a content that does not decode is kept in the details of the error. -/
theorem tidy_decode (content : String) :
    Settles (fun _ => True) Failure.Tidy ((Content.decode ⟨content⟩).mapError Failure.error) := by
  cases hd : Content.decode ⟨content⟩ with
  | ok bytes => exact .ok trivial
  | error e =>
    obtain ⟨message, rfl⟩ := Content.exists_malformed_of_decode hd
    exact .error (Error.tidy_malformed message (Json.legible_string content))

/-- **The document of a command has distinct keys**, and a failure is tidy. -/
theorem settles_distinct (c : Connection σ) (command : Command) (desk : Desk σ) :
    Settles Json.Distinct Failure.Tidy (command.perform c desk).result := by
  have hyields := c.yields_legible
  -- a document is built of a few keys and of values that were read, whose keys are distinct by then
  cases command with
  | ls path recursive =>
    have hlist : Settles (fun objects => ∀ s ∈ objects, ObjectStatus.From Json.Legible s)
        Failure.Tidy (Desk.onWire (c.list path recursive) desk).result := by
      refine (hyields.list path recursive desk.wire).imp (fun _ h => h) ?_
      rintro failure (h | ⟨-, rfl⟩)
      · exact h
      · trivial
    refine settles_bind hlist fun objects w hobjects => .ok (.intro trivial fun v hv => ?_)
    obtain ⟨s, hs, rfl⟩ := List.mem_map.mp hv
    obtain ⟨_, hlegible, hread⟩ := hobjects s hs
    exact (ObjectStatus.legible_toJson hlegible hread).distinct
  | status path =>
    refine settles_bind (settles_wire (hyields.read path desk.wire)) ?_
    rintro s w ⟨_, hlegible, hread⟩
    exact .ok (ObjectStatus.legible_toJson hlegible hread).distinct
  | exportNotebook path format output =>
    refine settles_bind (.of_error fun _ h => tidy_of_format h) fun f w _ => ?_
    refine settles_bind (settles_wire (hyields.exportContent path (some f) w.wire)) ?_
    intro content w' _
    cases output with
    | none =>
      exact .ok (distinct_exportDocument path f (by simp [Json.Members.keys])
        (List.forall_mem_singleton.mpr rfl))
    | some output =>
      refine settles_bind (settles_ofResult (tidy_decode content) w') fun bytes w'' _ => ?_
      refine settles_bind (.of_error fun _ h => Desk.tidy_of_nameOf h) fun name w₃ _ => ?_
      refine settles_bind (Desk.settles_write name bytes w₃) fun _ _ _ => ?_
      exact .ok (distinct_exportDocument path f (by simp [Json.Members.keys])
        (List.forall_mem_cons.mpr ⟨rfl, List.forall_mem_singleton.mpr rfl⟩))
  | importNotebook path file language format overwrite =>
    refine settles_bind (.of_error fun _ h => Desk.tidy_of_read h) fun bytes w _ => ?_
    refine settles_bind (.of_error fun _ h => tidy_of_languageOf h) fun l w' _ => ?_
    refine settles_bind (.of_error fun _ h => tidy_of_format h) fun f w'' _ => ?_
    refine settles_bind (settles_wire (hyields.create _ w''.wire)) fun _ _ _ => ?_
    exact .ok (distinct_done path (by simp [Json.Members.keys]) (List.forall_mem_singleton.mpr rfl))
  | mkdirs path =>
    refine settles_bind (settles_wire (hyields.makeDirectories path desk.wire)) fun _ _ _ => ?_
    exact .ok (distinct_done path (by decide) (List.forall_mem_nil _))
  | rm path recursive =>
    refine settles_bind (settles_wire (hyields.delete _ desk.wire)) fun _ _ _ => ?_
    exact .ok (distinct_done path (by decide) (List.forall_mem_nil _))

end Command

/-! ## 3. What is printed -/

namespace Report

/-- The document that is printed for the result of a command, if one is printed. -/
def documentOf : Except Failure Json → Option Json
  | .ok document => some document
  | .error (.error e) => some e.toJson
  | .error (.file fault name) =>
    some (Error.plain .invalidInput (Failure.file fault name).message).toJson
  | .error _ => none

theorem settle_snd (result : Except Failure Json) :
    (settle result).2 = (documentOf result).elim "" printed := by
  rcases result with failure | document
  · cases failure <;> rfl
  · rfl

/-- The document for the result of a command has distinct keys. -/
theorem distinct_documentOf {result : Except Failure Json}
    (h : Settles Json.Distinct Failure.Tidy result) {document : Json}
    (hdocument : documentOf result = some document) : document.Distinct := by
  cases h with
  | ok h =>
    cases hdocument
    exact h
  | @error failure h =>
    cases failure with
    | error e =>
      cases hdocument
      exact Error.distinct_toJson h.legible
    | file fault name =>
      cases hdocument
      exact Error.distinct_toJson (List.forall_mem_nil _)
    | _ => cases hdocument

/-- The document that a run prints, if it prints one. -/
def document? (remote : Http.Remote σ) (maxDepth : Nat) (env : Environment) (desk : Desk σ)
    (words : List String) : Option Json :=
  match Invocation.ofWords words with
  | .error _ => none
  | .ok i =>
    match loggerOf i.logLevel with
    | .error _ => none
    | .ok _ => documentOf (perform remote maxDepth env i.command desk).result

variable {remote : Http.Remote σ} {maxDepth : Nat} {env : Environment} {stamp : String}
  {desk : Desk σ} {words : List String}

/-- **A run prints its document and nothing else**, if its words are accepted. -/
theorem output_eq {i : Invocation} (hwords : Invocation.ofWords words = .ok i) :
    (ofWords remote maxDepth env stamp desk words).output =
      (document? remote maxDepth env desk words).elim "" printed := by
  rw [ofWords_eq hwords, document?, hwords, ofInvocation]
  simp only
  cases loggerOf i.logLevel with
  | error failure => rfl
  | ok logger => exact settle_snd _

/-- The document of a run has distinct keys. -/
theorem distinct_of_document? {document : Json}
    (h : document? remote maxDepth env desk words = some document) : document.Distinct := by
  unfold document? at h
  split at h
  · cases h
  · next i hwords =>
    split at h
    · cases h
    · refine distinct_documentOf ?_ h
      rw [perform_run]
      cases hc : Client.ofEnvironment env with
      | error failure => exact .error (Client.tidy_of_ofEnvironment hc)
      | ok client => exact i.command.settles_distinct _ desk

theorem ofString_printed {document : Json} (h : document.Legible)
    (hnumber : document.Everywhere Json.IsNoNumber) :
    Json.ofString (printed document) = .ok document := Json.ofString_printout h hnumber

theorem isAscii_printed {document : Json} (hnumber : document.Everywhere Json.IsNoNumber) :
    ∀ ch ∈ (printed document).toList, ch.toNat < 128 := by
  rw [printed, String.toList_append, Json.indented, String.toList_ofList]
  exact List.forall_mem_append.mpr
    ⟨Json.isAscii_indentedChars hnumber 0, List.forall_mem_singleton.mpr (by decide)⟩

end Report

/-! ## 4. Statuses -/

/-- The statuses of objects that were read are read from what is written of them. -/
theorem mapM_ofJson_toJson {kept : Json → Prop} {objects : List ObjectStatus}
    (h : ∀ s ∈ objects, ObjectStatus.From kept s) :
    (objects.map ObjectStatus.toJson).mapM ObjectStatus.ofJson = .ok objects := by
  induction objects with
  | nil => rfl
  | cons s rest ih =>
    obtain ⟨⟨v, -, hv⟩, hrest⟩ := List.forall_mem_cons.mp h
    rw [List.map_cons, List.mapM_cons, ObjectStatus.ofJson_toJson hv, ih hrest]
    rfl

namespace Command

variable {c : Connection σ} {path : String} {desk : Desk σ} {document : Json}

/-- A listing that returns prints the objects of the operation, which were read. -/
theorem ls_returned {recursive : Bool}
    (h : ((ls path recursive).perform c desk).result = .ok document) :
    ∃ objects, (c.list path recursive desk.wire).result = .ok objects ∧
      (∀ s ∈ objects, ObjectStatus.From Json.Legible s) ∧
      document = .array (objects.map ObjectStatus.toJson) := by
  rw [perform, Action.bind_pure_run] at h
  obtain ⟨objects, hobjects, rfl⟩ := map_eq_ok_iff.mp h
  exact ⟨objects, hobjects, (c.yields_legible.list path recursive desk.wire).of_eq_ok hobjects, rfl⟩

theorem status_returned (h : ((status path).perform c desk).result = .ok document) :
    ∃ object, (c.read path desk.wire).result = .ok object ∧
      ObjectStatus.From Json.Legible object ∧ document = object.toJson := by
  rw [perform, Action.bind_pure_run] at h
  obtain ⟨object, hobject, rfl⟩ := map_eq_ok_iff.mp h
  exact ⟨object, hobject, (c.yields_legible.read path desk.wire).of_eq_ok hobject, rfl⟩

end Command

/-- **The output of a run says what was printed.**

* A run whose words are accepted prints its document, or nothing.
* If the document holds no number with a fraction, and no integer that is too long, then the output is
  ASCII and is read as the document.
* The output of a listing that tells success is read as an array, and its items are read as the very
  statuses that the operation returned; and the same holds of the status of one object. -/
theorem Report.output_faithful (remote : Http.Remote σ) (maxDepth : Nat) (env : Environment)
    (stamp : String) (desk : Desk σ) (words : List String) :
    let report := Report.ofWords remote maxDepth env stamp desk words
    let document? := Report.document? remote maxDepth env desk words
    (∀ i, Invocation.ofWords words = .ok i →
      report.output = document?.elim "" Report.printed) ∧
    (∀ document, document? = some document → document.Everywhere Json.IsNoNumber →
      document.Everywhere Json.IsShort →
      (∀ ch ∈ report.output.toList, ch.toNat < 128) ∧
        Json.ofString report.output = .ok document) ∧
    (∀ level path recursive, Invocation.ofWords words = .ok ⟨level, .ls path recursive⟩ →
      report.result = .ok 0 →
      ∃ client objects items, Client.ofEnvironment env = .ok client ∧
        (Connection.list ⟨remote, client, maxDepth⟩ path recursive desk.wire).result =
          .ok objects ∧
        Json.ofString report.output = .ok (.array items) ∧
        items.mapM ObjectStatus.ofJson = .ok objects) ∧
    ∀ level path, Invocation.ofWords words = .ok ⟨level, .status path⟩ → report.result = .ok 0 →
      ∃ client object v, Client.ofEnvironment env = .ok client ∧
        (Connection.read ⟨remote, client, maxDepth⟩ path desk.wire).result = .ok object ∧
        Json.ofString report.output = .ok v ∧ ObjectStatus.ofJson v = .ok object := by
  intro report document?
  refine ⟨fun i hwords => Report.output_eq hwords, ?_, ?_, ?_⟩
  · intro document hdocument hnumber hshort
    -- there is a document, so the words were accepted
    have hwords : ∃ i, Invocation.ofWords words = .ok i := by
      cases hwords : Invocation.ofWords words with
      | ok i => exact ⟨i, rfl⟩
      | error exit =>
        simp only [document?, Report.document?, hwords] at hdocument
        cases hdocument
    obtain ⟨i, hwords⟩ := hwords
    have houtput : report.output = Report.printed document := by
      rw [show report.output = _ from Report.output_eq hwords]
      exact congrArg (fun d => Option.elim d "" Report.printed) hdocument
    have hlegible := Json.legible_of_distinct (Report.distinct_of_document? hdocument) hnumber hshort
    rw [houtput]
    exact ⟨Report.isAscii_printed hnumber, Report.ofString_printed hlegible hnumber⟩
  · intro level path recursive hwords hresult
    simp only [report, Report.ofWords_eq hwords] at hresult ⊢
    obtain ⟨client, document, hclient, hdocument, houtput, -⟩ := Report.exists_of_result hresult
    -- what a listing returned was read from legible entries, so it is legible itself
    obtain ⟨objects, hobjects, hfrom, rfl⟩ := Command.ls_returned hdocument
    refine ⟨client, objects, _, hclient, hobjects, ?_, mapM_ofJson_toJson hfrom⟩
    rw [houtput]
    refine Report.ofString_printed (Json.legible_array fun v hv => ?_) (.intro trivial fun v hv => ?_)
    · obtain ⟨s, hs, rfl⟩ := List.mem_map.mp hv
      obtain ⟨_, hlegible, hread⟩ := hfrom s hs
      exact ObjectStatus.legible_toJson hlegible hread
    · obtain ⟨s, -, rfl⟩ := List.mem_map.mp hv
      exact s.noNumber_toJson
  · intro level path hwords hresult
    simp only [report, Report.ofWords_eq hwords] at hresult ⊢
    obtain ⟨client, document, hclient, hdocument, houtput, -⟩ := Report.exists_of_result hresult
    obtain ⟨object, hobject, ⟨v, hlegible, hread⟩, rfl⟩ := Command.status_returned hdocument
    refine ⟨client, object, _, hclient, hobject, ?_, ObjectStatus.ofJson_toJson hread⟩
    rw [houtput]
    exact Report.ofString_printed (ObjectStatus.legible_toJson hlegible hread) object.noNumber_toJson

/-! ### An oddity -/

namespace Oddity

/-- A service that answers everything with one value. -/
def remote (v : Json) : Http.Remote Unit := fun _ s =>
  (.response ⟨200, Utf8.encode (v.indentedChars 0), "", [], none⟩, s)

/-- Settings that suffice. -/
def environment : Environment := ⟨some "example.com", some "tok", none⟩

/-- No files, and nothing on the standard input. -/
def desk : Desk Unit := ⟨⟨(), false⟩, ⟨["tmp"], [], [], [], none⟩, []⟩

/-- An entry of an unknown type, with an empty language. -/
def entry : Json :=
  .object [("path", .string "/é😀"), ("object_type", .string "DASHBOARD"), ("object_id", .int 7),
    ("language", .string "")]

/-- A listing of the entry. -/
def listing : Json := .object [("objects", .array [entry])]

/-- Values with nothing in them, and a text that needs escapes. -/
def parts : Json := .array [.array [], .object [], .string "\x00é😀"]

/-- An entry without a path. -/
def pathless : Json := .object [("parts", parts)]

/-- The error that tells what the entry lacks. -/
def lack : Error := .malformed "Workspace object has no path" pathless

/-- The report on some words, if the service answers with a value. -/
def report (v : Json) (words : List String) : Report :=
  .ofWords (remote v) 2 environment "00:00:00" desk words

theorem ofWords_ls : Invocation.ofWords ["ls", "/"] = .ok ⟨.text "WARNING", .ls "/" false⟩ := by
  rw [← toOption_eq_some_iff]
  decide +kernel

theorem ofWords_status : Invocation.ofWords ["status", "/a"] = .ok ⟨.text "WARNING", .status "/a"⟩ := by
  rw [← toOption_eq_some_iff]
  decide +kernel

theorem result_ls : (report listing ["ls", "/"]).result = .ok 0 := by
  rw [← toOption_eq_some_iff]
  decide +kernel

theorem result_status : (report entry ["status", "/a"]).result = .ok 0 := by
  rw [← toOption_eq_some_iff]
  decide +kernel

/-- What holds of each value in the entry holds everywhere in it. -/
theorem pathless_everywhere {p : Json → Prop} (h : ∀ v ∈ [pathless, parts, .array [], .object [],
    .string "\x00é😀"], p v) : pathless.Everywhere p := by
  simp only [List.forall_mem_cons] at h
  obtain ⟨hpathless, hparts, harray, hobject, hstring, -⟩ := h
  exact .intro hpathless <| List.forall_mem_singleton.mpr <| .intro hparts <|
    List.forall_mem_cons.mpr ⟨.of_parts rfl harray, List.forall_mem_cons.mpr
      ⟨.of_parts rfl hobject, List.forall_mem_singleton.mpr (.of_parts rfl hstring)⟩⟩

theorem pathless_legible : pathless.Legible :=
  pathless_everywhere (by simp [Json.IsLegible, pathless, parts, Json.Members.keys])

theorem pathless_noNumber : pathless.Everywhere Json.IsNoNumber :=
  pathless_everywhere (by simp [Json.IsNoNumber, pathless, parts])

theorem pathless_short : pathless.Everywhere Json.IsShort :=
  pathless_everywhere (by simp [Json.IsShort, pathless, parts])

theorem lack_everywhere {p : Json → Prop} (hobject : ∀ members, p (.object members))
    (hbool : ∀ b, p (.bool b)) (hstring : ∀ s, p (.string s)) (hpathless : pathless.Everywhere p) :
    lack.toJson.Everywhere p :=
  .intro (hobject _) <| List.forall_mem_cons.mpr ⟨.of_parts rfl (hbool true),
    List.forall_mem_cons.mpr ⟨.of_parts rfl (hstring _), List.forall_mem_cons.mpr
      ⟨.of_parts rfl (hstring _), List.forall_mem_singleton.mpr hpathless⟩⟩⟩

/-- A question for the status of the entry ends with what it lacks. -/
theorem read_pathless {client : Client} (hc : client.closed = false) :
    (Connection.read ⟨remote pathless, client, 2⟩ "/a" desk.wire).result = .error (.error lack) := by
  have hspells := pathless_legible.indented 0
  rw [Json.reread_eq_self pathless_noNumber] at hspells
  have hquery : (Connection.query ⟨remote pathless, client, 2⟩ "GET" "/workspace/get-status"
      [("path", .string "/a")] desk.wire).result = .ok [("parts", parts)] := by
    rw [Connection.query, Client.query_get_run hc]
    have hchecked : (Http.Outcome.response ⟨200, Utf8.encode (pathless.indentedChars 0), "", [],
        none⟩).checked = .response ⟨200, Utf8.encode (pathless.indentedChars 0), "", [], none⟩ := rfl
    simp only [remote, hchecked, Client.verdict, Client.answer]
    have hblank : Http.Response.isBlank ⟨200, Utf8.encode (pathless.indentedChars 0), "", [], none⟩ =
        false := by decide +kernel
    rw [hblank, hspells.ofBytes]
    rfl
  rw [Connection.read, Action.bind_run_ok rfl, Action.log_run, Action.bind_run_ok hquery]
  rfl

theorem document?_pathless :
    Report.document? (remote pathless) 2 environment desk ["status", "/a"] = some lack.toJson := by
  obtain ⟨logger, hlogger⟩ := Report.exists_logger (by decide : "WARNING" ∈ logLevels)
  obtain ⟨client, hclient⟩ : ∃ client, Client.ofEnvironment environment = .ok client :=
    exists_of_isOk (by decide +kernel)
  have hread : (Desk.onWire (Connection.read ⟨remote pathless, client, 2⟩ "/a") desk).result =
      .error (.error lack) := read_pathless (Client.closed_of_ofEnvironment hclient)
  simp only [Report.document?, ofWords_status, hlogger, Report.perform_run, hclient]
  rw [Command.perform, Action.bind_run_error hread]
  rfl

end Oddity

/-- An entry of an unknown type is read from the output as it was read from the service, and an entry
without a path is read from the details of the error. -/
theorem Report.output_faithful_oddity :
    (∃ items objects, Json.ofString (Oddity.report Oddity.listing ["ls", "/"]).output =
        .ok (.array items) ∧ items.mapM ObjectStatus.ofJson = .ok objects) ∧
      (∃ v object, Json.ofString (Oddity.report Oddity.entry ["status", "/a"]).output = .ok v ∧
        ObjectStatus.ofJson v = .ok object) ∧
      Json.ofString (Oddity.report Oddity.pathless ["status", "/a"]).output =
        .ok Oddity.lack.toJson := by
  refine ⟨?_, ?_, ?_⟩
  · obtain ⟨_, objects, items, -, -, hread, hobjects⟩ :=
      (Report.output_faithful (Oddity.remote Oddity.listing) 2 Oddity.environment "00:00:00"
        Oddity.desk ["ls", "/"]).2.2.1 _ _ _ Oddity.ofWords_ls Oddity.result_ls
    exact ⟨items, objects, hread, hobjects⟩
  · obtain ⟨_, object, v, -, -, hread, hobject⟩ :=
      (Report.output_faithful (Oddity.remote Oddity.entry) 2 Oddity.environment "00:00:00"
        Oddity.desk ["status", "/a"]).2.2.2 _ _ Oddity.ofWords_status Oddity.result_status
    exact ⟨v, object, hread, hobject⟩
  · have hnumber : Oddity.lack.toJson.Everywhere Json.IsNoNumber :=
      Oddity.lack_everywhere (fun _ => trivial) (fun _ => trivial) (fun _ => trivial)
        Oddity.pathless_noNumber
    have hshort : Oddity.lack.toJson.Everywhere Json.IsShort :=
      Oddity.lack_everywhere (fun _ => trivial) (fun _ => trivial) (fun _ => trivial)
        Oddity.pathless_short
    exact ((Report.output_faithful (Oddity.remote Oddity.pathless) 2 Oddity.environment "00:00:00"
      Oddity.desk ["status", "/a"]).2.1 _ Oddity.document?_pathless hnumber hshort).2

end Cli

end Workspace
