/-
# What a failed exchange does to a run

A command heeds its exchanges as the operations do that it performs (`Command.heeds_perform`), for
what it does beside them sends nothing.  So the first exchange that fails decides the run, and
`failed_exchange` tells how: a failure with a kind is printed as an error and the exit code is 1;
one without a kind breaks the run off, and nothing is printed.
-/
import Workspace.Proofs.Cli.Run
import Workspace.Proofs.Heeding
namespace Workspace.Cli

open Workspace.Connection (Heeds Lockstep)

variable {σ α : Type}

/-! ## 1. Commands -/

namespace Desk

/-- The service behind the wire of a desk. -/
def service (desk : Desk σ) : σ := desk.wire.service

variable {c : Connection σ}

theorem heeds_onWire {x : Action (Wire σ) α} (hx : c.Heeds Wire.service x) :
    c.Heeds service (onWire x) where
  seen desk := hx.seen desk.wire
  heeded desk := hx.heeded desk.wire

theorem heeds_read (argument : Argument) : c.Heeds service (read argument) :=
  .of_silent (fun desk => by rw [read_run]; rfl) fun desk => by rw [read_run]

theorem heeds_write (name : File.Name) (bytes : Bytes) : c.Heeds service (write name bytes) :=
  .of_silent (fun desk => by rw [write_run]; rfl) fun desk => by
    rw [write_run]
    exact congrArg (fun files => files) (by split <;> rfl)

end Desk

/-- **Every command heeds its exchanges.** -/
theorem Command.heeds_perform (c : Connection σ) (command : Command) :
    c.Heeds Desk.service (command.perform c) := by
  -- an operation is in lockstep with itself
  have hwire {α : Type} {x : Action (Wire σ) α} (hx : Lockstep c c x x) :
      c.Heeds Desk.service (Desk.onWire x) := Desk.heeds_onWire hx.heeds
  cases command with
  | ls path recursive => exact .bind (hwire (.list rfl path recursive)) fun _ => .pure _
  | status path => exact .bind (hwire (.read path)) fun _ => .pure _
  | exportNotebook path format output =>
    refine .bind (.ofExcept _) fun f => .bind (hwire (.exportContent path (some f))) fun _ => ?_
    cases output with
    | none => exact .pure _
    | some output =>
      exact .bind (.ofExcept _) fun bytes => .bind (.ofExcept _) fun name =>
        .bind (Desk.heeds_write name bytes) fun _ => .pure _
  | importNotebook path file language format overwrite =>
    exact .bind (Desk.heeds_read file) fun _ => .bind (.ofExcept _) fun _ => .bind (.ofExcept _)
      fun _ => .bind (hwire (.create _)) fun _ => .pure _
  | mkdirs path => exact .bind (hwire (.makeDirectories path)) fun _ => .pure _
  | rm path recursive => exact .bind (hwire (.delete _)) fun _ => .pure _

/-! ## 2. Runs -/

/-- A failure without a kind is reported as it is, and nothing is printed. -/
theorem Report.settle_of_escape? {outcome : Http.Outcome} {failure : Failure}
    (h : outcome.escape? = some failure) : settle (.error failure) = (.error failure, "") := by
  cases outcome <;> cases h <;> rfl

/-- What a run of the program sends goes through the client of the environment; an exchange that
does not go well is the last one, and its verdict is reported. -/
theorem Report.heeded {remote : Http.Remote σ} {maxDepth : Nat} {env : Environment}
    {stamp : String} {desk : Desk σ} {words : List String} {before rest : List Http.Request}
    {r : Http.Request}
    (hr : (ofWords remote maxDepth env stamp desk words).requests = before ++ r :: rest) :
    ∃ client path version, Client.ofEnvironment env = .ok client ∧
      r.base = client.urlFor path version ∧
      ∀ failure, Client.verdict r.method path (remote.outcomeAfter before r desk.service) =
        .error failure → rest = [] ∧
          (ofWords remote maxDepth env stamp desk words).result = (settle (.error failure)).1 ∧
          (ofWords remote maxDepth env stamp desk words).output = (settle (.error failure)).2 := by
  have hne : before ++ r :: rest ≠ [] :=
    List.append_ne_nil_of_right_ne_nil before (List.cons_ne_nil r rest)
  -- something was sent, so the words were accepted and there is a client
  cases hwords : Invocation.ofWords words with
  | error exit =>
    rw [ofWords, hwords] at hr
    exact absurd hr.symm hne
  | ok i =>
    rw [ofWords_eq hwords] at hr ⊢
    rcases ofInvocation_cases remote maxDepth env stamp desk i with
      ⟨-, hrequests, -⟩ | ⟨client, hclient, hresult, houtput, hrequests, -⟩
    · exact absurd (hr.symm.trans hrequests) hne
    · obtain ⟨path, version, hbase, hheeded⟩ :=
        (i.command.heeds_perform ⟨remote, client, maxDepth⟩).heeded desk before r rest
          (hrequests.symm.trans hr)
      refine ⟨client, path, version, hclient, hbase, fun failure hfailure => ?_⟩
      obtain ⟨hrest, hfailed⟩ := hheeded failure hfailure
      rw [hresult, houtput, hfailed]
      exact ⟨hrest, rfl, rfl⟩

/-- **The first exchange that fails decides.**  Whatever a step of a session or a run of the program
has sent, an exchange without a response has failed with a kind or without one.  A failure with a kind
is the end, as an error which the program prints; and a failure without a kind is the end, which the
program does not handle. -/
theorem failed_exchange (remote : Http.Remote σ) (maxDepth : Nat) :
    (∀ (st : Step) (s : Session σ) (before rest : List Http.Request) (r : Http.Request),
      let run := Session.step remote maxDepth st s
      let outcome := remote.outcomeAfter before r s.wire.service
      run.requests = before ++ r :: rest →
      ∃ client path version, s.currentClient? = some client ∧
        r.base = client.urlFor path version ∧
        ((∀ answer, outcome ≠ .response answer) →
          (∃ e, outcome.error? r.method path = some e) ∨ ∃ failure, outcome.escape? = some failure) ∧
        (∀ e, outcome.error? r.method path = some e → rest = [] ∧ run.result = .error (.error e)) ∧
        ∀ failure, outcome.escape? = some failure → rest = [] ∧ run.result = .error failure) ∧
    ∀ (env : Environment) (stamp : String) (desk : Desk σ) (words : List String)
      (before rest : List Http.Request) (r : Http.Request),
      let report := Report.ofWords remote maxDepth env stamp desk words
      let outcome := remote.outcomeAfter before r desk.service
      report.requests = before ++ r :: rest →
      ∃ client path version, Client.ofEnvironment env = .ok client ∧
        r.base = client.urlFor path version ∧
        ((∀ answer, outcome ≠ .response answer) →
          (∃ e, outcome.error? r.method path = some e) ∨ ∃ failure, outcome.escape? = some failure) ∧
        (∀ e, outcome.error? r.method path = some e →
          rest = [] ∧ report.result = .ok 1 ∧ report.output = Report.printed e.toJson) ∧
        ∀ failure, outcome.escape? = some failure →
          rest = [] ∧ report.result = .error failure ∧ report.output = "" := by
  constructor
  · intro st s before rest r run outcome hr
    obtain ⟨client, path, version, hclient, hbase, hheeded⟩ :=
      (Session.turn_step remote maxDepth st s).heeded hr
    exact ⟨client, path, version, hclient, hbase,
      fun hnone => Http.Outcome.error?_or_escape? hnone r.method path,
      fun e he => hheeded _ (Http.Outcome.verdict_of_error? he),
      fun failure hfailure => hheeded _ (Http.Outcome.verdict_of_escape? hfailure _ _)⟩
  · intro env stamp desk words before rest r report outcome hr
    obtain ⟨client, path, version, hclient, hbase, hheeded⟩ := Report.heeded hr
    refine ⟨client, path, version, hclient, hbase,
      fun hnone => Http.Outcome.error?_or_escape? hnone r.method path,
      fun e he => hheeded _ (Http.Outcome.verdict_of_error? he), fun failure hfailure => ?_⟩
    have hreported := hheeded _ (Http.Outcome.verdict_of_escape? hfailure _ _)
    rwa [Report.settle_of_escape? hfailure] at hreported

/-! ### A torn answer -/

namespace Torn

/-- A service with one outcome for everything. -/
def remote (outcome : Http.Outcome) : Http.Remote Unit := fun _ s => (outcome, s)

/-- Settings that suffice. -/
def environment : Environment := ⟨some "example.com", some "tok", none⟩

/-- No files, and nothing on the standard input. -/
def desk : Desk Unit := ⟨⟨(), false⟩, ⟨["tmp"], [], [], [], none⟩, []⟩

/-- A session with one client, which is in use. -/
def session : Session Unit :=
  ⟨environment, [⟨"https://example.com", none, Settings.defaultTimeout, false, none⟩], none, some 0,
    ⟨(), false⟩⟩

/-- The step that asks for a status, at a service with one outcome. -/
def run (outcome : Http.Outcome) : Run (Session Unit) Reply :=
  Session.step (remote outcome) 2 (.read "/a") session

/-- The report on the same question. -/
def report (outcome : Http.Outcome) : Report :=
  .ofWords (remote outcome) 2 environment "00:00:00" desk ["status", "/a"]

theorem exists_of_run : ∃ r, (run (.undecodable "torn")).requests = [] ++ r :: [] :=
  List.length_eq_one_iff.mp (by decide +kernel)

theorem exists_of_late : ∃ r, (report (.timedOut "late")).requests = [] ++ r :: [] :=
  List.length_eq_one_iff.mp (by decide +kernel)

theorem exists_of_torn : ∃ r, (report (.undecodable "torn")).requests = [] ++ r :: [] :=
  List.length_eq_one_iff.mp (by decide +kernel)

end Torn

/-- An answer that comes too late is an error that is printed, and one that is torn breaks off the
step of a session and the run of the program. -/
theorem failed_exchange_torn :
    (Torn.report (.timedOut "late")).result = .ok 1 ∧
      (Torn.report (.undecodable "torn")).result = .error (.undecodableBody "torn") ∧
      (Torn.run (.undecodable "torn")).result = .error (.undecodableBody "torn") := by
  refine ⟨?_, ?_, ?_⟩
  · obtain ⟨r, hr⟩ := Torn.exists_of_late
    obtain ⟨_, _, _, -, -, -, herror, -⟩ :=
      (failed_exchange (Torn.remote (.timedOut "late")) 2).2 _ _ _ _ _ _ r hr
    exact (herror _ rfl).2.1
  · obtain ⟨r, hr⟩ := Torn.exists_of_torn
    obtain ⟨_, _, _, -, -, -, -, hescape⟩ :=
      (failed_exchange (Torn.remote (.undecodable "torn")) 2).2 _ _ _ _ _ _ r hr
    exact (hescape _ rfl).2.1
  · obtain ⟨r, hr⟩ := Torn.exists_of_run
    obtain ⟨_, _, _, -, -, -, -, hescape⟩ :=
      (failed_exchange (Torn.remote (.undecodable "torn")) 2).1 _ _ _ _ r hr
    exact (hescape _ rfl).2

/-- An error for every exchange without a response, and exit code 1, is more than the library and the
program keep. -/
theorem not_forall_error :
    ¬ ((∀ (remote : Http.Remote Unit) (maxDepth : Nat) (st : Step) (s : Session Unit)
        (before rest : List Http.Request) (r : Http.Request),
        (Session.step remote maxDepth st s).requests = before ++ r :: rest →
        (∀ response, remote.outcomeAfter before r s.wire.service ≠ .response response) →
        ∃ e, (Session.step remote maxDepth st s).result = .error (.error e)) ∧
      ∀ (remote : Http.Remote Unit) (maxDepth : Nat) (env : Environment) (stamp : String)
        (desk : Desk Unit) (words : List String) (before rest : List Http.Request)
        (r : Http.Request),
        (Report.ofWords remote maxDepth env stamp desk words).requests = before ++ r :: rest →
        (∀ response, remote.outcomeAfter before r desk.service ≠ .response response) →
        (Report.ofWords remote maxDepth env stamp desk words).result = .ok 1) := by
  rintro ⟨herror, -⟩
  obtain ⟨r, hr⟩ := Torn.exists_of_run
  -- the exchange did not come to a response, and what it failed with is no error of the library
  obtain ⟨e, he⟩ := herror (Torn.remote (.undecodable "torn")) 2 (.read "/a") Torn.session [] [] r hr
    fun response h => nomatch h
  have hrun : (Torn.run (.undecodable "torn")).result = .error (.undecodableBody "torn") := rfl
  cases hrun.symm.trans he

end Workspace.Cli
