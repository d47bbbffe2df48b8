/-
# A notebook on its way to the service and back

An import posts its bytes in base64, an export writes the bytes of the content that it is given, and
between the two stands a service that may spell the content as it likes.  `import_export` puts the two
runs together: the bytes that were imported are the bytes in the file.
-/
import Mathlib
import Workspace.Proofs.Cli.Choices
import Workspace.Proofs.Cli.Run
import Workspace.Proofs.Effect
import Workspace.Proofs.Http.Posting
namespace Workspace

variable {σ : Type}

/-! ## 1. Answers in any spelling -/

namespace Http.Response

/-- `r.Delivers content`: the response tells success, and its body spells an object that has the
content under its key. -/
structure Delivers (r : Response) (content : String) : Prop where
  success : r.isSuccess = true
  body : ∃ t, ∃ members : Json.Members, r.body = Utf8.encode t ∧
    Json.Spells t (.value (.object members)) ∧ members.get? "content" = some (.string content)

end Http.Response

/-- The answer in a body that spells an object. -/
theorem Client.answer_of_spells {r : Http.Response} {t : List Char} {members : Json.Members}
    (hbody : r.body = Utf8.encode t) (h : Json.Spells t (.value (.object members)))
    (method path : String) : answer method path r = .ok members := by
  -- the brace of the object is no blank
  have hbrace : (0x7B : UInt8) ∈ r.body := by
    rw [hbody]
    exact List.mem_flatMap.mpr ⟨'\x7b', h.brace_mem, by decide⟩
  have hblank : r.isBlank = false :=
    List.all_eq_false.mpr ⟨0x7B, hbrace, by decide⟩
  rw [answer, hblank, if_neg Bool.false_ne_true, hbody, h.ofBytes]

/-- The verdict on a response that delivers a content. -/
theorem Client.verdict_of_delivers {r : Http.Response} {content : String} (h : r.Delivers content)
    (method path : String) : ∃ members : Json.Members, members.get? "content" = some (.string content) ∧
      verdict method path (Http.Outcome.response r).checked = .ok members := by
  obtain ⟨hsuccess, t, members, hbody, hspells, hcontent⟩ := h
  refine ⟨members, hcontent, ?_⟩
  rw [Http.Outcome.checked_of_isSuccess hsuccess]
  simp only [verdict, if_pos hsuccess, answer_of_spells hbody hspells, mapError_ok]

/-! ## 2. The two operations -/

namespace Connection

variable {c : Connection σ}

/-- An import on an open client sends one request, which carries its fields. -/
theorem create_requests (hc : c.client.closed = false) (r : ImportRequest) (w : Wire σ) :
    (c.create r w).requests =
      [c.client.request "POST" (c.client.urlFor "/workspace/import" apiVersion)
        (.body (Http.Payload.bodyOf r.toMembers)) w.lockHeld] := by
  have hp : Http.Payload.ofFields (Text.upper "POST") r.toMembers =
      .ok (.body (Http.Payload.bodyOf r.toMembers)) := by
    rw [Client.upper_post]
    exact Http.Payload.ofFields_of_flat (fun _ h => r.isFlat_of_mem h) (by decide)
  have hquiet (_ : Json.Members) : Action.Silent (ω := Wire σ)
      (Action.log (Log.apiResult service "import" none)) := .log _
  rw [create, Action.requests_bind_of_silent_left (.log _) rfl,
    Action.requests_bind_of_silent hquiet, Action.log_run, query,
    Client.query_requests hc c.remote _ _ hp, Client.upper_post]

/-- An export on an open client returns the content that the service delivers. -/
theorem exportContent_result (hc : c.client.closed = false) (path : String)
    (format : Option ExportFormat) {w : Wire σ} {content : String}
    (h : ∀ request : Http.Request, request.method = "GET" →
      request.base = c.client.urlFor "/workspace/export" apiVersion →
      ∃ r, (c.remote request w.service).1 = .response r ∧ r.Delivers content) :
    (c.exportContent path format w).result = .ok content := by
  -- there is only one request, and the service delivers the content for it
  obtain ⟨r, hr, hdelivers⟩ := h
    (c.client.request "GET" (c.client.urlFor "/workspace/export" apiVersion)
      (.query (Http.queryPairs [("path", .string path),
        ("format", optionalName (format.map ExportFormat.name))])) w.lockHeld) rfl rfl
  obtain ⟨members, hcontent, hverdict⟩ :=
    Client.verdict_of_delivers hdelivers "GET" "/workspace/export"
  have hq : (c.query "GET" "/workspace/export"
      [("path", .string path), ("format", optionalName (format.map ExportFormat.name))] w).result =
        .ok members := by
    rw [query, Client.query_get_run hc]
    exact (congrArg (fun o => Client.verdict _ _ (Http.Outcome.checked o)) hr).trans hverdict
  have hjson : Content.ofJson (.object members) = .ok ⟨content⟩ := by simp [Content.ofJson, hcontent]
  rw [exportContent, Action.bind_run_ok rfl, Action.log_run, Action.bind_run_ok hq,
    Action.bind_run_ok (congrArg (Except.mapError Failure.error) hjson)]
  rfl

end Connection

/-! ## 3. The two commands -/

namespace Cli

namespace Command

variable {c : Connection σ} {desk : Desk σ} {path : String} {document : Json}

/-- **An import that returns** read its bytes and sent one request, whose body reads back as JSON
and carries the bytes in base64; the document tells how many they were. -/
theorem importNotebook_returned (hc : c.client.closed = false) {file format : Argument}
    {language : Option Argument} {overwrite : Bool}
    (h : ((importNotebook path file language format overwrite).perform c desk).result =
      .ok document) :
    ∃ bytes request fields, desk.bytesOf file = .ok bytes ∧
      ((importNotebook path file language format overwrite).perform c desk).requests = [request] ∧
      request.method = "POST" ∧ request.url = c.client.urlFor "/workspace/import" apiVersion ∧
      Json.ofString request.body = .ok (.object fields) ∧
      Json.Members.get? fields "content" = some (.string (Content.encode bytes).base64) ∧
      document = .object [("path", .string path), ("imported", .bool true),
        ("bytes", byteCount bytes)] := by
  rw [perform] at h ⊢
  -- the whole returned, so every step before the last did: the run is peeled off step by step
  obtain ⟨bytes, hbytes⟩ := Action.exists_of_bind h
  replace hbytes : desk.bytesOf file = .ok bytes := by rw [← hbytes, Desk.read_run]
  rw [Action.bind_run_of_eq (Desk.read_run file desk) hbytes] at h ⊢
  obtain ⟨l, hl⟩ := Action.exists_of_bind h
  replace hl : perform.languageOf language = .ok l := hl
  rw [Action.bind_run_of_eq (Action.ofExcept_run _ _) hl] at h ⊢
  obtain ⟨f, hf⟩ := Action.exists_of_bind h
  replace hf : ExportFormat.ofJson format.toJson = .ok f := hf
  rw [Action.bind_run_of_eq (Action.ofExcept_run _ _) hf] at h ⊢
  obtain ⟨_, hcreate⟩ := Action.exists_of_bind h
  rw [Action.bind_run_ok hcreate] at h
  have hquiet (_ : Unit) : Action.Silent (ω := Desk σ) (pure (Json.object
      [("path", .string path), ("imported", .bool true), ("bytes", byteCount bytes)])) := .pure _
  rw [Action.requests_bind_of_silent hquiet]
  have hrequests := Connection.create_requests hc
    ⟨path, (Content.encode bytes).base64, l, some f, overwrite⟩ desk.wire
  refine ⟨bytes, _, _, hbytes, hrequests, rfl, rfl,
    Http.Payload.ofString_bodyOf (fun _ h => ImportRequest.isFlat_of_mem _ h)
      (ImportRequest.keys_nodup _), ImportRequest.get?_content _, (Except.ok.inj h).symm⟩

/-- **An export to a file** that can be written leaves the bytes of the content there. -/
theorem exportNotebook_returns (hc : c.client.closed = false) (path : String)
    (format : ExportFormat) {name : String} {bytes : Bytes} (hwritable : desk.Writable name bytes)
    (h : ∀ request : Http.Request, request.method = "GET" →
      request.base = c.client.urlFor "/workspace/export" apiVersion →
      ∃ r, (c.remote request desk.wire.service).1 = .response r ∧
        r.Delivers (Content.encode bytes).base64) :
    let run := (exportNotebook path (.text format.name) (some (.text name))).perform c desk
    run.result = .ok (exportDocument path format
        [("output", .string (File.Name.ofString name).spelling), ("bytes", byteCount bytes)]) ∧
      run.world.files.readFile (.ofString name) = .ok bytes := by
  have hformat : ExportFormat.ofJson (Argument.text format.name).toJson = .ok format := by
    simp [Argument.toJson, ExportFormat.ofJson, ExportFormat.ofName?_name]
  have hcontent : (Desk.onWire (c.exportContent path (some format)) desk).result =
      .ok (Content.encode bytes).base64 := Connection.exportContent_result hc path _ h
  have hdecode : Content.decode ⟨(Content.encode bytes).base64⟩ = .ok bytes := by
    simp [Content.decode, Content.encode, Base64.decode_encode]
  -- the exchange moves the service and leaves the files, so what can be written still can
  have hwritable' :
      Desk.Writable (Desk.onWire (c.exportContent path (some format)) desk).world name bytes :=
    ⟨hwritable.nul, hwritable.takes, hwritable.place⟩
  obtain ⟨files, hwrite, hread⟩ := hwritable'.write_run
  rw [perform, Action.bind_run_of_eq (Action.ofExcept_run _ _) hformat, Action.bind_run_ok hcontent]
  simp only
  rw [Action.bind_run_of_eq (Action.ofResult_run _ _) (congrArg (Except.mapError Failure.error) hdecode),
    Action.bind_run_of_eq (Action.ofExcept_run _ _) (rfl : Desk.nameOf (.text name) = _),
    Action.bind_run_ok (congrArg Run.result hwrite)]
  exact ⟨rfl, by rw [hwrite]; exact hread⟩

end Command

/-! ## 4. The round trip -/

/-- `report.TellsBytes n`: the report prints an object that gives `n` as the count of bytes. -/
def Report.TellsBytes (report : Report) (n : Nat) : Prop :=
  ∃ members : Json.Members, report.output = Report.printed (.object members) ∧
    members.get? "bytes" = some (.int n)

/-- **What was imported is exported again.**  An import that succeeds sends one request, which posts
a JSON object to the service.  If the service delivers the text under `content` of that object, in any
spelling, then an export to a file that can be written succeeds and leaves the very bytes there, and
both runs print how many they are. -/
theorem import_export {env : Environment} {words : List String} {level file format : Argument}
    {language : Option Argument} {path : String} {overwrite : Bool}
    (hwords : Invocation.ofWords words =
      .ok ⟨level, .importNotebook path file language format overwrite⟩)
    {desk : Desk σ} {bytes : Bytes} (hbytes : desk.Holds file bytes)
    {remote : Http.Remote σ} {maxDepth : Nat} {stamp : String}
    (hresult : (Report.ofWords remote maxDepth env stamp desk words).result = .ok 0) :
    ∃ client request fields content, Client.ofEnvironment env = .ok client ∧
      (Report.ofWords remote maxDepth env stamp desk words).requests = [request] ∧
      request.method = "POST" ∧
      request.url = client.urlFor "/workspace/import" apiVersion ∧
      Json.ofString request.body = .ok (.object fields) ∧
      Json.Members.get? fields "content" = some (.string content) ∧
      (Report.ofWords remote maxDepth env stamp desk words).TellsBytes bytes.length ∧
      ∀ {τ : Type} (remote' : Http.Remote τ) (maxDepth' : Nat) (stamp' : String) (desk' : Desk τ)
        (words' : List String) (level' path' format' name : String),
        Invocation.ofWords words' =
          .ok ⟨.text level', .exportNotebook path' (.text format') (some (.text name))⟩ →
        desk'.Writable name bytes →
        (∀ request' : Http.Request, request'.method = "GET" →
          request'.base = client.urlFor "/workspace/export" apiVersion →
          ∃ r, (remote' request' desk'.wire.service).1 = .response r ∧ r.Delivers content) →
        let exported := Report.ofWords remote' maxDepth' env stamp' desk' words'
        exported.result = .ok 0 ∧ exported.files.readFile (.ofString name) = .ok bytes ∧
          exported.TellsBytes bytes.length := by
  rw [Report.ofWords_eq hwords] at hresult ⊢
  obtain ⟨client, document, hclient, hdocument, houtput, hrequests⟩ :=
    Report.exists_of_result hresult
  have hopen := Client.closed_of_ofEnvironment hclient
  obtain ⟨bytes', request, fields, hread, hsent, hmethod, hurl, hbody, hcontent, rfl⟩ :=
    Command.importNotebook_returned (c := ⟨remote, client, maxDepth⟩) hopen hdocument
  obtain rfl := hbytes.eq_of_bytesOf hread
  refine ⟨client, request, fields, _, hclient, hrequests.trans hsent, hmethod, hurl, hbody,
    hcontent, ⟨_, houtput, rfl⟩, ?_⟩
  intro τ remote' maxDepth' stamp' desk' words' level' path' format' name hwords' hwritable hserves
  -- the log level and the format are listed ones
  have hlevel : level' ∈ logLevels := Invocation.mem_of_ofWords hwords' List.mem_cons_self rfl
  have hformat : format' ∈ ExportFormat.all.map ExportFormat.name :=
    Invocation.mem_of_ofWords hwords' (List.mem_cons_of_mem _ List.mem_cons_self) rfl
  obtain ⟨format', -, rfl⟩ := List.mem_map.mp hformat
  obtain ⟨logger, hlogger⟩ := Report.exists_logger hlevel
  rw [Report.ofWords_eq hwords', Report.ofInvocation_run hlogger hclient]
  obtain ⟨hreturned, hfile⟩ := Command.exportNotebook_returns
    (c := ⟨remote', client, maxDepth'⟩) hopen path' format' hwritable hserves
  simp only [hreturned]
  exact ⟨rfl, hfile, _, rfl, rfl⟩

/-! ### A vault -/

namespace Vault

/-- The answer that holds a content, on several lines and with all but ASCII escaped. -/
def response (content : String) : Http.Response :=
  ⟨200, Utf8.encode ((Json.object [("content", .string content)]).indentedChars 0), "", [], none⟩

/-- A service that answers everything with one content. -/
def remote (content : String) : Http.Remote Unit := fun _ s => (.response (response content), s)

/-- Settings that suffice. -/
def environment : Environment := ⟨some "example.com", some "tok", none⟩

/-- Bytes on the standard input, none of which is text, and no files. -/
def desk : Desk Unit := ⟨⟨(), false⟩, .ofNames ["tmp"] [] [], [0x00, 0xFF, 0x0A, 0x80]⟩

theorem delivers (content : String) : (response content).Delivers content where
  success := rfl
  body := by
    have hlegible : (Json.object [("content", .string content)]).Legible :=
      Json.everywhere_of_flat (Json.isFlat_singleton "content" content) (List.nodup_singleton _)
        fun v hv => by cases hv <;> trivial
    exact ⟨_, _, rfl, hlegible.indented 0, rfl⟩

theorem name : File.Name.ofString "out" = ⟨"", ["out"]⟩ := by cbv

theorem writable : desk.Writable "out" [0x00, 0xFF, 0x0A, 0x80] where
  nul := by
    rw [name]
    decide +kernel
  takes := by
    intro barrier hbarrier
    cases hbarrier
  place := by
    refine ⟨["tmp", "out"], .inr ?_⟩
    rw [name, ← toOption_eq_some_iff]
    decide +kernel

end Vault

/-- Four bytes from the standard input come back in a file. -/
theorem import_export_vault :
    (Report.ofWords (Vault.remote "") 2 Vault.environment "00:00:00" Vault.desk
        ["import", "/a", "-", "--language=PYTHON", "--overwrite"]).result = .ok 0 ∧
      ∃ content, ((Report.ofWords (Vault.remote content) 2 Vault.environment "00:00:00" Vault.desk
        ["export", "/a", "-o", "out"]).files.readFile (.ofString "out")) =
          .ok [0x00, 0xFF, 0x0A, 0x80] := by
  have hwords : Invocation.ofWords ["import", "/a", "-", "--language=PYTHON", "--overwrite"] =
      .ok ⟨.text "WARNING", .importNotebook "/a" (.text "-") (some (.text "PYTHON"))
        (.text "SOURCE") true⟩ := by
    rw [← toOption_eq_some_iff]
    decide +kernel
  have hwords' : Invocation.ofWords ["export", "/a", "-o", "out"] =
      .ok ⟨.text "WARNING", .exportNotebook "/a" (.text "SOURCE") (some (.text "out"))⟩ := by
    rw [← toOption_eq_some_iff]
    decide +kernel
  have hresult : (Report.ofWords (Vault.remote "") 2 Vault.environment "00:00:00" Vault.desk
      ["import", "/a", "-", "--language=PYTHON", "--overwrite"]).result = .ok 0 := by
    rw [← toOption_eq_some_iff]
    decide +kernel
  refine ⟨hresult, ?_⟩
  obtain ⟨_, _, _, content, -, -, -, -, -, -, -, hexport⟩ :=
    import_export hwords .input hresult
  refine ⟨content, (hexport (Vault.remote content) 2 "00:00:00" Vault.desk _ _ _ _ _ hwords'
    Vault.writable fun _ _ _ => ⟨_, rfl, Vault.delivers content⟩).2.1⟩

end Cli

end Workspace
