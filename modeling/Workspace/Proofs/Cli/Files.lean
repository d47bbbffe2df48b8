/-
# What a run leaves on the disk

Only an export to a file writes, and writing is the last thing that it does which can fail: the
content was received and decoded before.  So a command either leaves the files as they were or comes
to its write (`Command.export_cases`), and the write changes no file but the one that is named
(`Tree.writeFile_wrote`).

A write is no single step.  It empties the file before it fills it, and if the disk is full by then, a
part of the bytes is all that is left of it.  `Report.files_all_or_nothing` says of whole runs what can
be said; that a run without success changes nothing is too much to ask, and so is that every file
holds what was written to it (`not_forall_whole`).
-/
import Mathlib
import Workspace.Proofs.Cli.Run
import Workspace.Proofs.Effect
namespace Workspace

/-! ## 1. Actions that leave a part of the world -/

namespace Action

variable {ω π α β : Type}

/-- `x.Keeps part`: the action leaves the part of the world as it was. -/
def Keeps (part : ω → π) (x : Action ω α) : Prop := ∀ w, part (x w).world = part w

variable {part : ω → π}

theorem Keeps.pure (a : α) : Keeps part (Pure.pure a) := fun _ => rfl

theorem Keeps.ofExcept (x : Except Failure α) : Keeps part (Action.ofExcept x) := fun _ => rfl

/-- Actions that keep the part make up one that keeps it. -/
theorem Keeps.bind {x : Action ω α} {f : α → Action ω β} (hx : Keeps part x)
    (hf : ∀ a, Keeps part (f a)) : Keeps part (x >>= f) := by
  intro w
  cases ha : (x w).result with
  | ok a =>
    rw [bind_run_ok ha]
    exact (hf a _).trans (hx w)
  | error failure =>
    rw [bind_run_error ha]
    exact hx w

end Action

/-! ## 2. Files -/

namespace File.Tree

/-- `t.Wrote n bytes t'`: in `t'` the file that the name leads to holds the bytes, and everything
else is as it is in `t`. -/
structure Wrote (t : Tree) (n : Name) (bytes : Bytes) (t' : Tree) : Prop where
  read : t'.readFile n = .ok bytes
  others : ∃ place, t'.resolve n = .ok (.file place) ∧
    ∀ other, other ≠ place → t'.read? other = t.read? other
  directories : t'.directories = t.directories
  workingDirectory : t'.workingDirectory = t.workingDirectory

theorem wrote_write (t : Tree) {n : Name} {place : Place} (bytes : Bytes)
    (h : t.resolve n = .ok (.file place) ∨ t.resolve n = .ok (.vacant place)) :
    t.Wrote n bytes (t.write place bytes) :=
  ⟨t.readFile_write bytes h, ⟨place, t.resolve_write bytes h, fun _ => t.read?_write_of_ne bytes⟩,
    rfl, rfl⟩

/-- `t.Stores n bytes t'`: the file that the name leads to was written, or the name leads to a device
and nothing changed. -/
def Stores (t : Tree) (n : Name) (bytes : Bytes) (t' : Tree) : Prop :=
  t.Wrote n bytes t' ∨ (∃ place, t.resolve n = .ok (.device place)) ∧ t' = t

/-- `t.Tears n bytes t'`: a barrier stands in the way of the bytes, and the file that the name leads to
holds those in front of it. -/
def Tears (t : Tree) (n : Name) (bytes : Bytes) (t' : Tree) : Prop :=
  ∃ barrier, t.barrier = some barrier ∧ barrier.bytes < bytes.length ∧
    t.Wrote n (bytes.take barrier.bytes) t'

/-- **A write stores the bytes, or it fails** and leaves the tree as it was or a file torn. -/
theorem writeFile_wrote (t : Tree) (n : Name) (bytes : Bytes) :
    ((t.writeFile n bytes).1 = .ok () ∧ t.Stores n bytes (t.writeFile n bytes).2) ∨
      ∃ fault, (t.writeFile n bytes).1 = .error fault ∧
        ((t.writeFile n bytes).2 = t ∨ t.Tears n bytes (t.writeFile n bytes).2) := by
  rcases t.writeFile_cases n bytes with
    ⟨fault, h⟩ | ⟨place, hplace, h⟩ | ⟨place, hplace, h | ⟨barrier, hbarrier, hshort, h⟩⟩
  · exact .inr ⟨fault, by rw [h], .inl (by rw [h])⟩
  · exact .inl ⟨by rw [h], .inr ⟨⟨place, hplace⟩, by rw [h]⟩⟩
  · exact .inl ⟨by rw [h], .inl (h ▸ t.wrote_write bytes hplace)⟩
  · exact .inr ⟨_, by rw [h], .inr ⟨barrier, hbarrier, hshort, h ▸ t.wrote_write _ hplace⟩⟩

end File.Tree

namespace Cli

variable {σ : Type}

open Workspace.Action (Keeps)

namespace Desk

theorem keeps_onWire {α : Type} (x : Action (Wire σ) α) : Keeps Desk.files (onWire x) :=
  fun _ => rfl

theorem keeps_read (argument : Argument) :
    Keeps (Desk.files : Desk σ → File.Tree) (read argument) :=
  fun desk => congrArg (fun run => run.world.files) (read_run argument desk)

/-- How a write leaves the files of a desk. -/
theorem write_cases (name : File.Name) (bytes : Bytes) (desk : Desk σ) :
    ((write name bytes desk).result = .ok () ∧
        desk.files.Stores name bytes (write name bytes desk).world.files) ∨
      ((∃ failure, (write name bytes desk).result = .error failure) ∧
        (write name bytes desk).world.files = desk.files) ∨
      (∃ fault, (write name bytes desk).result = .error (.file fault name.spelling)) ∧
        desk.files.Tears name bytes (write name bytes desk).world.files := by
  rw [write_run]
  cases hnul : hasNul name with
  | true => exact .inr (.inl ⟨⟨.nulInName, by simp [ofFault, hnul]⟩, rfl⟩)
  | false =>
    simp only [ofFault, hnul, Bool.false_eq_true, if_false]
    rcases desk.files.writeFile_wrote name bytes with ⟨hresult, hstores⟩ | ⟨fault, hresult, hleft⟩
    · exact .inl ⟨by rw [hresult]; rfl, hstores⟩
    · rw [hresult]
      exact .inr (hleft.imp (fun hsame => ⟨⟨_, rfl⟩, hsame⟩) fun htorn => ⟨⟨fault, rfl⟩, htorn⟩)

end Desk

/-! ## 3. Commands -/

namespace Command

/-- The file that a command writes, if it writes one. -/
def output? : Command → Option Argument
  | exportNotebook _ _ output => output
  | _ => none

/-- Only an export has a file to write. -/
theorem exists_of_output? {command : Command} {output : Argument}
    (h : command.output? = some output) :
    ∃ path format, command = .exportNotebook path format (some output) := by
  cases command with
  | exportNotebook path format output' => exact ⟨path, format, by rw [show output' = _ from h]⟩
  | _ => cases h

variable (c : Connection σ)

/-- A command that writes no file leaves all files as they were. -/
theorem keeps_perform {command : Command} (h : command.output? = none) :
    Keeps Desk.files (command.perform c) := by
  cases command with
  | ls path recursive => exact .bind (Desk.keeps_onWire _) fun _ => .pure _
  | status path => exact .bind (Desk.keeps_onWire _) fun _ => .pure _
  | exportNotebook path format output =>
    obtain rfl : output = none := h
    exact .bind (.ofExcept _) fun _ => .bind (Desk.keeps_onWire _) fun _ => .pure _
  | importNotebook path file language format overwrite =>
    exact .bind (Desk.keeps_read file) fun _ => .bind (.ofExcept _) fun _ => .bind (.ofExcept _)
      fun _ => .bind (Desk.keeps_onWire _) fun _ => .pure _
  | mkdirs path => exact .bind (Desk.keeps_onWire _) fun _ => .pure _
  | rm path recursive => exact .bind (Desk.keeps_onWire _) fun _ => .pure _

/-- `c.Receives path format desk bytes`: an export of the path brings a content that decodes to the
bytes. -/
def Receives (path : String) (format : Argument) (desk : Desk σ) (bytes : Bytes) : Prop :=
  ∃ f content, ExportFormat.ofJson format.toJson = .ok f ∧
    (c.exportContent path (some f) desk.wire).result = .ok content ∧
    Content.decode ⟨content⟩ = .ok bytes

/-- `Ends output bytes desk run`: a run that came to write bytes returned if all of them are stored,
and failed with the fault of the file if they are torn. -/
inductive Ends (output : Argument) (bytes : Bytes) (desk : Desk σ) (run : Run (Desk σ) Json) : Prop
  | stored {name : String} : output = .text name → (∃ document, run.result = .ok document) →
      desk.files.Stores (.ofString name) bytes run.world.files → Ends output bytes desk run
  | torn {name : String} : output = .text name →
      (∃ fault, run.result = .error (.file fault (File.Name.ofString name).spelling)) →
      desk.files.Tears (.ofString name) bytes run.world.files → Ends output bytes desk run

/-- What becomes of a content that was received. -/
theorem store_cases (content : String) (output : Argument) (document : Bytes → File.Name → Json)
    (desk : Desk σ) :
    let run := (do
      let bytes ← Action.ofResult (Content.decode ⟨content⟩)
      let name ← Action.ofExcept (Desk.nameOf output)
      Desk.write name bytes
      return document bytes name : Action (Desk σ) Json) desk
    ((∃ failure, run.result = .error failure) ∧ run.world.files = desk.files) ∨
      ∃ bytes, Content.decode ⟨content⟩ = .ok bytes ∧ Ends output bytes desk run := by
  intro run
  cases hbytes : Content.decode ⟨content⟩ with
  | error e =>
    have hrun : run = ⟨.error (.error e), [], desk⟩ := by
      simp only [run, Action.bind_run, Action.ofResult_run, hbytes, mapError_error]
    exact .inl ⟨⟨_, congrArg Run.result hrun⟩, congrArg (fun r => r.world.files) hrun⟩
  | ok bytes =>
    cases output with
    | textless =>
      have hrun : run = ⟨.error .nameWithoutText, [], desk⟩ := by
        simp only [run, Action.bind_run, Action.ofResult_run, hbytes, mapError_ok,
          Action.ofExcept_run, Desk.nameOf, List.append_nil]
      exact .inl ⟨⟨_, congrArg Run.result hrun⟩, congrArg (fun r => r.world.files) hrun⟩
    | text name =>
      have hdecode : (Content.decode ⟨content⟩).mapError Failure.error = .ok bytes := by
        rw [hbytes, mapError_ok]
      have hname : Desk.nameOf (.text name) = .ok (.ofString name) := rfl
      have hrun : run = (Desk.write (.ofString name) bytes desk).map
          fun _ => document bytes (.ofString name) := by
        rw [show run = _ from Action.bind_run_of_eq (Action.ofResult_run _ _) hdecode _,
          Action.bind_run_of_eq (Action.ofExcept_run _ _) hname, Action.bind_pure_run]
      have hresult : run.result = (Desk.write (.ofString name) bytes desk).result.map
          fun _ => document bytes (.ofString name) := by rw [hrun, Run.map_result]
      have hworld : run.world = (Desk.write (.ofString name) bytes desk).world := by
        rw [hrun, Run.map_world]
      clear_value run
      -- the write ends in one of three ways, and the document is made only of the first
      rcases Desk.write_cases (.ofString name) bytes desk with
        ⟨hwrite, hstores⟩ | ⟨⟨failure, hwrite⟩, hsame⟩ | ⟨⟨fault, hwrite⟩, htorn⟩
      · rw [hwrite] at hresult
        rw [← hworld] at hstores
        exact .inr ⟨bytes, rfl, .stored rfl ⟨_, hresult⟩ hstores⟩
      · rw [hwrite] at hresult
        exact .inl ⟨⟨failure, hresult⟩, by rw [hworld, hsame]⟩
      · rw [hwrite] at hresult
        rw [← hworld] at htorn
        exact .inr ⟨bytes, rfl, .torn rfl ⟨fault, hresult⟩ htorn⟩

/-- **How an export to a file goes.**  It fails and leaves the files as they were, or it received bytes
and came to write them. -/
theorem export_cases (path : String) (format output : Argument) (desk : Desk σ) :
    let run := (exportNotebook path format (some output)).perform c desk
    ((∃ failure, run.result = .error failure) ∧ run.world.files = desk.files) ∨
      ∃ bytes, Receives c path format desk bytes ∧ Ends output bytes desk run := by
  intro run
  have hrun : run = (exportNotebook path format (some output)).perform c desk := rfl
  clear_value run
  rw [perform] at hrun
  -- the steps in front of the write keep the files, so what fails there has changed none
  cases hf : ExportFormat.ofJson format.toJson with
  | error failure =>
    rw [hrun, Action.bind_run_error hf]
    exact .inl ⟨⟨failure, rfl⟩, rfl⟩
  | ok f =>
    rw [Action.bind_run_of_eq (Action.ofExcept_run _ _) hf] at hrun
    cases hcontent : (Desk.onWire (c.exportContent path (some f)) desk).result with
    | error failure =>
      rw [hrun, Action.bind_run_error hcontent]
      exact .inl ⟨⟨failure, rfl⟩, Desk.keeps_onWire _ desk⟩
    | ok content =>
      rw [Action.bind_run_ok hcontent] at hrun
      subst hrun
      have hkept := Desk.keeps_onWire (c.exportContent path (some f)) desk
      rcases store_cases content output (fun bytes name => exportDocument path f
          [("output", .string name.spelling), ("bytes", byteCount bytes)])
          (Desk.onWire (c.exportContent path (some f)) desk).world with
        ⟨hfails, hsame⟩ | ⟨bytes, hbytes, hends⟩
      · exact .inl ⟨hfails, hsame.trans hkept⟩
      · refine .inr ⟨bytes, ⟨f, content, hf, hcontent, hbytes⟩, ?_⟩
        cases hends with
        | stored hname hresult hstores => exact .stored hname hresult (hkept ▸ hstores)
        | torn hname hresult htorn => exact .torn hname hresult (hkept ▸ htorn)

/-- A command without success left all files as they were, or broke off while it wrote the bytes. -/
theorem files_of_unsuccessful {command : Command} {desk : Desk σ}
    (h : (Report.settle (command.perform c desk).result).1 ≠ .ok 0) :
    let run := command.perform c desk
    run.world.files = desk.files ∨
      ∃ path format name bytes, command = .exportNotebook path format (some (.text name)) ∧
        Receives c path format desk bytes ∧ (Report.settle run.result).1 = .ok 1 ∧
        desk.files.Tears (.ofString name) bytes run.world.files := by
  cases houtput : command.output? with
  | none => exact .inl (keeps_perform c houtput desk)
  | some output =>
    obtain ⟨path, format, rfl⟩ := exists_of_output? houtput
    rcases export_cases c path format output desk with ⟨-, hsame⟩ | ⟨bytes, hreceives, hends⟩
    · exact .inl hsame
    -- what was stored has a document, and the run would tell success
    · cases hends with
      | stored _ hdocument _ =>
        obtain ⟨document, hdocument⟩ := hdocument
        exact absurd (by rw [hdocument]; rfl) h
      | torn hname hfault htorn =>
        obtain ⟨fault, hfault⟩ := hfault
        subst hname
        exact .inr ⟨path, format, _, bytes, rfl, hreceives, by rw [hfault]; rfl, htorn⟩

/-- An export to a file that returns has stored the bytes that it received. -/
theorem exists_of_exported {path : String} {format output : Argument} {desk : Desk σ}
    {document : Json}
    (h : ((exportNotebook path format (some output)).perform c desk).result = .ok document) :
    ∃ name bytes, output = .text name ∧ Receives c path format desk bytes ∧
      desk.files.Stores (.ofString name) bytes
        ((exportNotebook path format (some output)).perform c desk).world.files := by
  rcases export_cases c path format output desk with
    ⟨⟨failure, hfailure⟩, -⟩ | ⟨bytes, hreceives, hends⟩
  · cases h.symm.trans hfailure
  · cases hends with
    | stored hname _ hstores => exact ⟨_, bytes, hname, hreceives, hstores⟩
    | torn _ hfault _ =>
      obtain ⟨fault, hfault⟩ := hfault
      cases h.symm.trans hfault

/-- An import that cannot read its bytes sends nothing. -/
theorem requests_of_unread {path : String} {file format : Argument} {language : Option Argument}
    {overwrite : Bool} {desk : Desk σ} {failure : Failure}
    (h : (Desk.read file desk).result = .error failure) :
    ((importNotebook path file language format overwrite).perform c desk).requests = [] := by
  rw [perform, Action.bind_run_error h, Desk.read_run]
  rfl

end Command

/-! ## 4. Runs -/

/-- **An export to a file is all or nothing, up to the write itself.**  A run that does not tell success
leaves all files as they were, unless it is an export that received a content and broke off while it
wrote the bytes: then it exits with 1, the file holds the bytes up to there, and everything else is as
before.  A run of a command that writes no file changes none.  An export to a file that tells success
received a content from the service: the file holds its bytes, unless it is a device, and everything
else is as before.  An import that cannot read its bytes sends nothing. -/
theorem Report.files_all_or_nothing (remote : Http.Remote σ) (maxDepth : Nat) (env : Environment)
    (stamp : String) (desk : Desk σ) (words : List String) :
    let report := Report.ofWords remote maxDepth env stamp desk words
    (report.result ≠ .ok 0 → report.files = desk.files ∨
        ∃ level path format name client bytes,
          Invocation.ofWords words =
            .ok ⟨level, .exportNotebook path format (some (.text name))⟩ ∧
          Client.ofEnvironment env = .ok client ∧
          Command.Receives ⟨remote, client, maxDepth⟩ path format desk bytes ∧
          report.result = .ok 1 ∧ desk.files.Tears (.ofString name) bytes report.files) ∧
      ((∀ i, Invocation.ofWords words = .ok i → i.command.output? = none) →
        report.files = desk.files) ∧
      (∀ level path format output,
        Invocation.ofWords words = .ok ⟨level, .exportNotebook path format (some output)⟩ →
        report.result = .ok 0 →
        ∃ name client bytes, output = .text name ∧ Client.ofEnvironment env = .ok client ∧
          Command.Receives ⟨remote, client, maxDepth⟩ path format desk bytes ∧
          desk.files.Stores (.ofString name) bytes report.files) ∧
      ∀ level path file language format overwrite failure,
        Invocation.ofWords words =
          .ok ⟨level, .importNotebook path file language format overwrite⟩ →
        (Desk.read file desk).result = .error failure → report.requests = [] := by
  intro report
  cases hwords : Invocation.ofWords words with
  | error exit =>
    -- words that are refused do nothing
    have hfiles : report.files = desk.files := by
      simp only [report, Report.ofWords, hwords]
    have hrefused (i : Invocation) : (.error exit : Except Exit Invocation) ≠ .ok i := by
      intro h
      cases h
    exact ⟨fun _ => .inl hfiles, fun _ => hfiles, fun _ _ _ _ h => absurd h (hrefused _),
      fun _ _ _ _ _ _ _ h => absurd h (hrefused _)⟩
  | ok i =>
    obtain hreport : report = Report.ofInvocation remote maxDepth env stamp desk i :=
      Report.ofWords_eq hwords
    clear_value report
    subst hreport
    rcases Report.ofInvocation_cases remote maxDepth env stamp desk i with
      ⟨hresult, hrequests, hfiles⟩ | ⟨client, hclient, hresult, -, hrequests, hfiles⟩
    · exact ⟨fun _ => .inl hfiles, fun _ => hfiles, fun _ _ _ _ _ h => absurd h hresult,
        fun _ _ _ _ _ _ _ _ _ => hrequests⟩
    · refine ⟨fun hne => ?_, fun hnone => ?_, ?_, ?_⟩
      · rcases Command.files_of_unsuccessful ⟨remote, client, maxDepth⟩ (hresult ▸ hne) with
          hsame | ⟨path, format, name, bytes, hcommand, hreceives, hone, htorn⟩
        · exact .inl (hfiles.trans hsame)
        · exact .inr ⟨i.logLevel, path, format, name, client, bytes, by rw [← hcommand], hclient,
            hreceives, hresult.trans hone, hfiles ▸ htorn⟩
      · exact hfiles.trans (Command.keeps_perform _ (hnone i rfl) desk)
      · rintro level path format output h hzero
        obtain rfl := Except.ok.inj h
        obtain ⟨document, hdocument⟩ := Report.settle_eq_zero (hresult.symm.trans hzero)
        obtain ⟨name, bytes, hname, hreceives, hstores⟩ := Command.exists_of_exported _ hdocument
        exact ⟨name, client, bytes, hname, hclient, hreceives, hfiles ▸ hstores⟩
      · rintro level path file language format overwrite failure h hread
        obtain rfl := Except.ok.inj h
        exact hrequests.trans (Command.requests_of_unread _ hread)

/-! ### A disk -/

namespace Disk

/-- A service that answers everything with one content. -/
def remote (content : String) : Http.Remote Unit := fun _ s =>
  (.response ⟨200, Utf8.encode ((Json.object [("content", .string content)]).indentedChars 0), "",
    [], none⟩, s)

/-- Settings that suffice. -/
def environment : Environment := ⟨some "example.com", some "tok", none⟩

/-- Two files and a device in the working directory, and a disk with or without a barrier. -/
def desk (barrier : Option File.Barrier) : Desk Unit :=
  ⟨⟨(), false⟩, ⟨["tmp"], [], [(["tmp", "old"], [0x6F]), (["tmp", "out"], [0x74])],
    [["tmp", "null"]], barrier⟩, []⟩

/-- The report on an export to a file, if the service answers with the content. -/
def exported (barrier : Option File.Barrier) (content name : String) : Report :=
  .ofWords (remote content) 2 environment "00:00:00" (desk barrier) ["export", "/a", "-o", name]

/-- A disk with space for one more byte. -/
def almostFull : Option File.Barrier := some ⟨1, .noSpace⟩

/-- The report on an import of a file that is not there. -/
def unread : Report :=
  .ofWords (remote "") 2 environment "00:00:00" (desk none) ["import", "/a", "none"]

/-- The command lines of the runs. -/
theorem ofWords_runs :
    Invocation.ofWords ["export", "/a", "-o", "out"] =
        .ok ⟨.text "WARNING", .exportNotebook "/a" (.text "SOURCE") (some (.text "out"))⟩ ∧
      Invocation.ofWords ["export", "/a", "-o", "null"] =
        .ok ⟨.text "WARNING", .exportNotebook "/a" (.text "SOURCE") (some (.text "null"))⟩ ∧
      Invocation.ofWords ["import", "/a", "none"] =
        .ok ⟨.text "WARNING", .importNotebook "/a" (.text "none") none (.text "SOURCE") false⟩ := by
  simp only [← toOption_eq_some_iff]
  decide +kernel

theorem ofString_runs :
    File.Name.ofString "out" = ⟨"", ["out"]⟩ ∧ File.Name.ofString "null" = ⟨"", ["null"]⟩ ∧
      File.Name.ofString "none" = ⟨"", ["none"]⟩ :=
  ⟨by cbv, by cbv, by cbv⟩

/-- One letter is no base64, two bytes are, and they fit on a disk that is not full. -/
theorem result_out :
    (exported none "A" "out").result ≠ .ok 0 ∧ (exported none "AP8=" "out").result = .ok 0 := by
  rw [ne_eq, exported, exported, Report.ofWords_eq ofWords_runs.1, Report.ofWords_eq ofWords_runs.1]
  simp only [← toOption_eq_some_iff, Report.ofInvocation, Report.perform, Command.perform,
    Desk.nameOf, ofString_runs.1]
  decide +kernel

/-- A full disk leaves the first of the two bytes. -/
theorem exported_torn :
    (exported almostFull "AP8=" "out").result ≠ .ok 0 ∧
      (exported almostFull "AP8=" "out").files.files =
        [(["tmp", "old"], [0x6F]), (["tmp", "out"], [0x00])] := by
  rw [exported, Report.ofWords_eq ofWords_runs.1, ne_eq, ← toOption_eq_some_iff]
  simp only [Report.ofInvocation, Report.perform, Command.perform, Desk.nameOf, ofString_runs.1]
  decide +kernel

/-- What is written to a device is not read from it. -/
theorem exported_null :
    (exported none "AP8=" "null").result = .ok 0 ∧
      (exported none "AP8=" "null").files.readFile (.ofString "null") = .ok [] := by
  rw [exported, Report.ofWords_eq ofWords_runs.2.1]
  simp only [← toOption_eq_some_iff, Report.ofInvocation, Report.perform, Command.perform,
    Desk.nameOf, ofString_runs.2.1]
  decide +kernel

/-- What the service delivers is what the export receives. -/
theorem eq_of_receives {barrier : Option File.Barrier} {client : Client}
    (hclient : Client.ofEnvironment environment = .ok client) {bytes : Bytes}
    (h : Command.Receives ⟨remote "AP8=", client, 2⟩ "/a" (.text "SOURCE") (desk barrier) bytes) :
    bytes = [0x00, 0xFF] := by
  obtain ⟨f, content, hf, hcontent, hbytes⟩ := h
  cases hf
  have hwire : (desk barrier).wire = ⟨(), false⟩ := rfl
  rw [hwire] at hcontent
  -- the environment makes one client only, so its answer can be computed
  have heval : (Client.ofEnvironment environment).toOption.bind (fun client =>
      (Connection.exportContent ⟨remote "AP8=", client, 2⟩ "/a" (some .source)
        ⟨(), false⟩).result.toOption) = some "AP8=" := by decide +kernel
  rw [hclient] at heval
  obtain rfl := Except.ok.inj (hcontent.symm.trans (toOption_eq_some_iff.mp heval))
  have hdecode : Content.decode ⟨"AP8="⟩ = .ok [0x00, 0xFF] := by
    rw [← toOption_eq_some_iff]
    decide +kernel
  exact Except.ok.inj (hbytes.symm.trans hdecode)

/-- The name leads to a file, so not to a device. -/
theorem resolve_out (place : File.Place) :
    (desk none).files.resolve (.ofString "out") ≠ .ok (.device place) := by
  have hresolve : (desk none).files.resolve (.ofString "out") = .ok (.file ["tmp", "out"]) := by
    rw [ofString_runs.1, ← toOption_eq_some_iff]
    decide +kernel
  rw [hresolve]
  intro h
  cases h

theorem read_unread :
    ∃ failure, (Desk.read (.text "none") (desk none)).result = .error failure := by
  rw [Desk.read_run]
  refine exists_of_not_isOk ?_
  simp only [Desk.bytesOf, Desk.nameOf, ofString_runs.2.2]
  decide +kernel

end Disk

/-- A content that is no base64 changes no file, two bytes are written over the file that was there, one
of two bytes is left of it where the disk has space for one, and no import starts with a file that is
missing. -/
theorem Report.files_all_or_nothing_disk :
    (Disk.exported none "A" "out").files = (Disk.desk none).files ∧
      (Disk.desk none).files.Wrote (.ofString "out") [0x00, 0xFF]
        (Disk.exported none "AP8=" "out").files ∧
      (Disk.exported Disk.almostFull "AP8=" "out").result = .ok 1 ∧
      Disk.unread.requests = [] := by
  refine ⟨?_, ?_, ?_, ?_⟩
  · rcases (Report.files_all_or_nothing (Disk.remote "A") 2 Disk.environment "00:00:00"
      (Disk.desk none) ["export", "/a", "-o", "out"]).1 Disk.result_out.1 with
      hsame | ⟨_, _, _, _, _, _, _, _, _, _, barrier, hbarrier, -⟩
    · exact hsame
    · cases hbarrier
  · obtain ⟨name, _, _, hname, hclient, hreceives, hstores⟩ :=
      (Report.files_all_or_nothing (Disk.remote "AP8=") 2 Disk.environment "00:00:00"
        (Disk.desk none) ["export", "/a", "-o", "out"]).2.2.1 _ _ _ _ Disk.ofWords_runs.1
        Disk.result_out.2
    obtain rfl : name = "out" := (Argument.text.inj hname).symm
    obtain rfl := Disk.eq_of_receives hclient hreceives
    rcases hstores with hwrote | ⟨⟨place, hplace⟩, -⟩
    · exact hwrote
    · exact absurd hplace (Disk.resolve_out place)
  · rcases (Report.files_all_or_nothing (Disk.remote "AP8=") 2 Disk.environment "00:00:00"
      (Disk.desk Disk.almostFull) ["export", "/a", "-o", "out"]).1 Disk.exported_torn.1 with
      hsame | ⟨_, _, _, _, _, _, _, _, _, hone, -⟩
    · have hfiles := Disk.exported_torn.2
      rw [Disk.exported, hsame] at hfiles
      exact absurd hfiles (by decide)
    · exact hone
  · obtain ⟨failure, hread⟩ := Disk.read_unread
    exact (Report.files_all_or_nothing (Disk.remote "") 2 Disk.environment "00:00:00"
      (Disk.desk none) ["import", "/a", "none"]).2.2.2 _ _ _ _ _ _ failure
      Disk.ofWords_runs.2.2 hread

/-- **What cannot be said.**  That a run without success leaves all files as they were is false on a disk
that gets full; that a file holds what an export wrote to it is false of a device. -/
theorem Report.not_forall_whole :
    (¬ ∀ (remote : Http.Remote Unit) (maxDepth : Nat) (env : Environment) (stamp : String)
        (desk : Desk Unit) (words : List String),
        (Report.ofWords remote maxDepth env stamp desk words).result ≠ .ok 0 →
          (Report.ofWords remote maxDepth env stamp desk words).files = desk.files) ∧
      ¬ ∀ (remote : Http.Remote Unit) (maxDepth : Nat) (env : Environment) (stamp : String)
        (desk : Desk Unit) (words : List String) (level : Argument) (path : String)
        (format : Argument) (name : String),
        Invocation.ofWords words = .ok ⟨level, .exportNotebook path format (some (.text name))⟩ →
        (Report.ofWords remote maxDepth env stamp desk words).result = .ok 0 →
          ∃ client bytes, Client.ofEnvironment env = .ok client ∧
            Command.Receives ⟨remote, client, maxDepth⟩ path format desk bytes ∧
            (Report.ofWords remote maxDepth env stamp desk words).files.readFile
              (.ofString name) = .ok bytes := by
  constructor
  · intro h
    -- of two bytes one is left, so the file is neither as it was nor whole
    obtain ⟨hresult, hfiles⟩ := Disk.exported_torn
    rw [Disk.exported] at hresult hfiles
    rw [h _ _ _ _ _ _ hresult] at hfiles
    exact absurd hfiles (by decide)
  · intro h
    obtain ⟨hresult, hnothing⟩ := Disk.exported_null
    rw [Disk.exported] at hresult hnothing
    obtain ⟨client, bytes, hclient, hreceives, hread⟩ := h _ _ _ _ _ _ _ _ _ _
      Disk.ofWords_runs.2.1 hresult
    obtain rfl := Disk.eq_of_receives hclient hreceives
    rw [hnothing] at hread
    cases hread

end Cli

end Workspace
