/-
# One run of the program

A run reads the settings, performs a command and reports how it ended.  `ofInvocation_run` takes
this apart: with a log level and a client, the report is what the command made of the desk.
`exists_of_result` goes back from a report that tells success.
-/
import Workspace.Cli.Report
import Workspace.Proofs.Building
import Workspace.Proofs.Exchange
namespace Workspace

namespace Cli

variable {σ : Type}

/-! ## 1. Parts of a desk -/

namespace Desk

/-- `desk.Holds argument bytes`: the argument names the bytes, those of the standard input or those
of a file. -/
inductive Holds (desk : Desk σ) : Argument → Bytes → Prop
  | input : Holds desk (.text "-") desk.input
  | file {name : String} {bytes : Bytes} : name ≠ "-" →
      desk.files.readFile (.ofString name) = .ok bytes → Holds desk (.text name) bytes

/-- What an argument is read as. -/
def bytesOf (desk : Desk σ) (argument : Argument) : Except Failure Bytes :=
  if argument = .text "-" then .ok desk.input
  else
    match nameOf argument with
    | .error failure => .error failure
    | .ok name => ofFault name (desk.files.readFile name)

theorem read_run (argument : Argument) (desk : Desk σ) :
    read argument desk = ⟨desk.bytesOf argument, [], desk⟩ := by
  unfold read bytesOf
  simp only [Action.bind_run, Action.get_run, List.nil_append]
  split
  · rfl
  · cases nameOf argument <;> rfl

/-- What is read is what the argument names. -/
theorem Holds.eq_of_bytesOf {desk : Desk σ} {argument : Argument} {bytes bytes' : Bytes}
    (h : desk.Holds argument bytes) (hr : desk.bytesOf argument = .ok bytes') :
    bytes' = bytes := by
  unfold bytesOf at hr
  cases h with
  | input =>
    rw [if_pos rfl] at hr
    exact (Except.ok.inj hr).symm
  | @file name bytes hne hfile =>
    simp only [if_neg fun e => hne (Argument.text.inj e), nameOf, ofFault, hfile] at hr
    split at hr
    · cases hr
    · exact (Except.ok.inj hr).symm

theorem write_run (name : File.Name) (bytes : Bytes) (desk : Desk σ) :
    write name bytes desk =
      ⟨ofFault name (desk.files.writeFile name bytes).1, [],
        if hasNul name then desk else { desk with files := (desk.files.writeFile name bytes).2 }⟩ :=
  rfl

/-- `desk.Writable name bytes`: the name holds no U+0000 and leads to a file or to a vacant place, and
no barrier stands in the way of the bytes. -/
structure Writable (desk : Desk σ) (name : String) (bytes : Bytes) : Prop where
  nul : hasNul (.ofString name) = false
  takes : desk.files.Takes bytes
  place : ∃ place, desk.files.resolve (.ofString name) = .ok (.file place) ∨
    desk.files.resolve (.ofString name) = .ok (.vacant place)

/-- Writing to a name that can be written succeeds, and the bytes are read under the name. -/
theorem Writable.write_run {desk : Desk σ} {name : String} {bytes : Bytes}
    (h : desk.Writable name bytes) :
    ∃ files, write (.ofString name) bytes desk = ⟨.ok (), [], { desk with files }⟩ ∧
      files.readFile (.ofString name) = .ok bytes := by
  obtain ⟨place, hplace⟩ := h.place
  have hwrite : desk.files.writeFile (.ofString name) bytes =
      (.ok (), desk.files.write place bytes) := by
    unfold File.Tree.writeFile
    rcases hplace with hplace | hplace <;> rw [hplace] <;> exact File.Tree.fill_of_takes h.takes place
  refine ⟨_, ?_, desk.files.readFile_write bytes hplace⟩
  rw [Desk.write_run, hwrite, ofFault, h.nul]
  rfl

end Desk

/-! ## 2. Reports -/

namespace Report

/-- Every listed log level is one of the logger. -/
theorem exists_logger {level : String} (h : level ∈ logLevels) :
    ∃ logger, loggerOf (.text level) = .ok logger := by
  have hlisted : ∀ level ∈ logLevels, (loggerOf (.text level)).isOk = true := by decide +kernel
  exact exists_of_isOk (hlisted level h)

/-- To perform a command is to build the client and to perform it with that. -/
theorem perform_run (remote : Http.Remote σ) (maxDepth : Nat) (env : Environment)
    (command : Command) (desk : Desk σ) :
    perform remote maxDepth env command desk =
      match Client.ofEnvironment env with
      | .error failure => ⟨.error failure, [], desk⟩
      | .ok client => command.perform ⟨remote, client, maxDepth⟩ desk := by
  unfold perform Client.ofEnvironment
  simp only [Action.bind_run, Action.ofResult_run, Action.ofExcept_run, List.nil_append]
  cases Settings.load env with
  | error e => rfl
  | ok settings =>
    cases hc : Client.ofSettings settings with
    | error failure => simp [hc]
    | ok client => simp [hc]

variable {remote : Http.Remote σ} {maxDepth : Nat} {env : Environment} {stamp : String}
  {desk : Desk σ}

/-- With a log level and a client, the report is what the command made of the desk. -/
theorem ofInvocation_run {level : Argument} {command : Command} {logger : Log.Logger}
    {client : Client} (hl : loggerOf level = .ok logger)
    (hc : Client.ofEnvironment env = .ok client) :
    ofInvocation remote maxDepth env stamp desk ⟨level, command⟩ =
      let run := command.perform ⟨remote, client, maxDepth⟩ desk
      ⟨(settle run.result).1, (settle run.result).2, logger.errorText stamp run.records, run.requests,
        run.world.files⟩ := by
  unfold ofInvocation
  simp only [hl, perform_run, hc]

theorem ofWords_eq {words : List String} {invocation : Invocation}
    (h : Invocation.ofWords words = .ok invocation) :
    ofWords remote maxDepth env stamp desk words =
      ofInvocation remote maxDepth env stamp desk invocation := by
  rw [ofWords, h]

/-- The exit code tells success only after a document was printed. -/
theorem settle_eq_zero {result : Except Failure Json} (h : (settle result).1 = .ok 0) :
    ∃ document, result = .ok document := by
  unfold settle at h
  split at h
  · exact ⟨_, rfl⟩
  · cases h
  · cases h
  · cases h

/-- **A run comes to nothing or performs its command.**  Without a logger or a client it does not
succeed, sends nothing and leaves the files alone; with both, it tells what the command did. -/
theorem ofInvocation_cases (remote : Http.Remote σ) (maxDepth : Nat) (env : Environment)
    (stamp : String) (desk : Desk σ) (invocation : Invocation) :
    let report := ofInvocation remote maxDepth env stamp desk invocation
    (report.result ≠ .ok 0 ∧ report.requests = [] ∧ report.files = desk.files) ∨
      ∃ client, Client.ofEnvironment env = .ok client ∧
        let run := invocation.command.perform ⟨remote, client, maxDepth⟩ desk
        report.result = (settle run.result).1 ∧ report.output = (settle run.result).2 ∧
          report.requests = run.requests ∧ report.files = run.world.files := by
  intro report
  cases hl : loggerOf invocation.logLevel with
  | error failure =>
    have hreport : report = ⟨.error failure, "", "", [], desk.files⟩ := by
      simp only [report, ofInvocation, hl]
    rw [hreport]
    exact .inl ⟨fun h => (nomatch h), rfl, rfl⟩
  | ok logger =>
    cases hc : Client.ofEnvironment env with
    | ok client =>
      have hreport : report = _ := ofInvocation_run hl hc
      exact .inr ⟨client, rfl, congrArg Report.result hreport, congrArg Report.output hreport,
        congrArg Report.requests hreport, congrArg Report.files hreport⟩
    | error failure =>
      -- without a client the command is the failure of the environment, whichever it is
      have hrun : perform remote maxDepth env invocation.command desk =
          ⟨.error failure, [], desk⟩ := by rw [perform_run, hc]
      have hreport : report =
          ⟨(settle (.error failure)).1, (settle (.error failure)).2, logger.errorText stamp [], [],
            desk.files⟩ := by
        simp only [report, ofInvocation, hl, hrun]
        rfl
      rw [hreport]
      refine .inl ⟨fun h => ?_, rfl, rfl⟩
      obtain ⟨document, hdocument⟩ := settle_eq_zero h
      cases hdocument

/-- **A run that tells success** had a log level and a client, and its command returned the document
that is printed. -/
theorem exists_of_result {invocation : Invocation}
    (h : (ofInvocation remote maxDepth env stamp desk invocation).result = .ok 0) :
    ∃ client document, Client.ofEnvironment env = .ok client ∧
      (invocation.command.perform ⟨remote, client, maxDepth⟩ desk).result = .ok document ∧
      (ofInvocation remote maxDepth env stamp desk invocation).output = printed document ∧
      (ofInvocation remote maxDepth env stamp desk invocation).requests =
        (invocation.command.perform ⟨remote, client, maxDepth⟩ desk).requests := by
  rcases ofInvocation_cases remote maxDepth env stamp desk invocation with
    ⟨hresult, -⟩ | ⟨client, hclient, hresult, houtput, hrequests, -⟩
  · exact absurd h hresult
  · obtain ⟨document, hdocument⟩ := settle_eq_zero (hresult.symm.trans h)
    rw [hdocument] at houtput
    exact ⟨client, document, hclient, hdocument, houtput, hrequests⟩

end Report

end Cli

end Workspace
