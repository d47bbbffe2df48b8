/-
# An error shows through its details

The details of an error are put into its object last, and could replace what the error says itself;
and they may hold what the service sent, under any keys.  But they stand under keys of their own, in
every error that the program can raise (`Failure.Tidy`), and so the object says of the error what the
error is (`Error.ToldBy`).

`Report.error_unmasked` says this of every run: the exit code is 1 if and only if an error is raised
(`Report.Raises`), and the object that is printed tells that error.
-/
import Workspace.Proofs.Cli.Printout
namespace Workspace

variable {σ : Type}

/-! ## 1. Objects that tell an error -/

/-- `e.ToldBy members`: the object says that it is an error and of which kind, gives its message, and
gives status and code if the error has them. -/
structure Error.ToldBy (e : Error) (members : Json.Members) : Prop where
  error : members.get? "error" = some (.bool true)
  kind : members.get? "kind" = some (.string e.kind.name)
  message : members.get? "message" = some (.string e.message)
  status : members.get? "status_code" = e.status.map .int
  code : members.get? "error_code" = (nonEmpty? e.code).map .string

namespace Error

variable {e : Error}

/-- What an error says before its details: three members, the status if it is known, and the code if
it is not empty. -/
theorem headMembers_eq (e : Error) : e.headMembers =
    [("error", .bool true), ("kind", .string e.kind.name), ("message", .string e.message)] ++
      (e.status.map fun status => ("status_code", Json.int status)).toList ++
      ((nonEmpty? e.code).map fun code => ("error_code", Json.string code)).toList := by
  obtain ⟨kind, message, details, status, code⟩ := e
  rcases status with _ | n <;> rcases code with _ | text
  · rfl
  · cases h : text.isEmpty <;> simp [headMembers, nonEmpty?, h]
  · rfl
  · cases h : text.isEmpty <;> simp [headMembers, nonEmpty?, h]

theorem toldBy_headMembers (e : Error) : e.ToldBy e.headMembers := by
  rw [headMembers_eq]
  generalize hcode : nonEmpty? e.code = code
  cases hstatus : e.status <;> cases code <;>
    exact ⟨rfl, rfl, rfl, by rw [hstatus]; rfl, by rw [hcode]; rfl⟩

/-- **The object of a tidy error tells it**, whatever the details are. -/
theorem Tidy.toldBy (h : e.Tidy) : e.ToldBy e.toMembers := by
  have hhead := e.toldBy_headMembers
  -- details come last and are only told by `path` and `body`, so they hide none of what is told
  have hget {key : String} (hpath : key ≠ "path") (hbody : key ≠ "body") :
      e.toMembers.get? key = e.headMembers.get? key := by
    have hnone : e.details.lookup key = none := by
      refine List.lookup_eq_none_iff.mpr fun entry hentry => bne_iff_ne.mpr ?_
      rintro rfl
      rcases h.names entry.1 (List.mem_map_of_mem hentry) with hname | hname
      · exact hpath hname
      · exact hbody hname
    rw [h.toMembers_eq, Json.Members.get?, List.lookup_append, hnone, Option.or_none,
      Json.Members.get?]
  constructor
  · rw [hget (by decide) (by decide), hhead.error]
  · rw [hget (by decide) (by decide), hhead.kind]
  · rw [hget (by decide) (by decide), hhead.message]
  · rw [hget (by decide) (by decide), hhead.status]
  · rw [hget (by decide) (by decide), hhead.code]

/-- What is read of an object that tells an error tells it, too. -/
theorem ToldBy.reread {members : Json.Members} (h : e.ToldBy members) :
    e.ToldBy (Json.rereadMembers members) := by
  constructor
  · rw [Json.get?_rereadMembers, h.error]
    rfl
  · rw [Json.get?_rereadMembers, h.kind]
    rfl
  · rw [Json.get?_rereadMembers, h.message]
    rfl
  · rw [Json.get?_rereadMembers, h.status]
    cases e.status <;> rfl
  · rw [Json.get?_rereadMembers, h.code]
    cases nonEmpty? e.code <;> rfl

end Error

/-! ## 2. Runs that raise an error -/

namespace Cli.Report

/-- `Raises remote maxDepth env desk words e`: a run raises the error, or the one for a file that
cannot be opened. -/
inductive Raises (remote : Http.Remote σ) (maxDepth : Nat) (env : Environment) (desk : Desk σ)
    (words : List String) : Error → Prop
  | error {i : Invocation} {logger : Log.Logger} {e : Error} :
      Invocation.ofWords words = .ok i → loggerOf i.logLevel = .ok logger →
      (perform remote maxDepth env i.command desk).result = .error (.error e) →
      Raises remote maxDepth env desk words e
  | file {i : Invocation} {logger : Log.Logger} {fault : File.Fault} {name : String} :
      Invocation.ofWords words = .ok i → loggerOf i.logLevel = .ok logger →
      (perform remote maxDepth env i.command desk).result = .error (.file fault name) →
      Raises remote maxDepth env desk words
        (.plain .invalidInput (Failure.file fault name).message)

variable {remote : Http.Remote σ} {maxDepth : Nat} {env : Environment} {stamp : String}
  {desk : Desk σ} {words : List String} {e : Error}

/-- What the work of a run comes to is tidy, if it fails. -/
theorem tidy_of_perform {command : Command} {failure : Failure}
    (h : (perform remote maxDepth env command desk).result = .error failure) : failure.Tidy := by
  rw [perform_run] at h
  cases hc : Client.ofEnvironment env with
  | error fault =>
    rw [hc] at h
    cases h
    exact Client.tidy_of_ofEnvironment hc
  | ok client =>
    rw [hc] at h
    have hsettles := command.settles_distinct ⟨remote, client, maxDepth⟩ desk
    rw [h] at hsettles
    cases hsettles with
    | error htidy => exact htidy

/-- **Every error that a run raises is tidy.** -/
theorem Raises.tidy (h : Raises remote maxDepth env desk words e) : e.Tidy := by
  cases h with
  | error _ _ hresult => exact tidy_of_perform hresult
  | file _ _ _ => exact .of_details_eq_nil rfl

/-- A run whose words are accepted and whose level is known reports what its work came to. -/
theorem ofWords_of_result {i : Invocation} {logger : Log.Logger}
    (hwords : Invocation.ofWords words = .ok i) (hlogger : loggerOf i.logLevel = .ok logger)
    {result : Except Failure Json}
    (hresult : (perform remote maxDepth env i.command desk).result = result) :
    let report := ofWords remote maxDepth env stamp desk words
    report.result = (settle result).1 ∧ report.output = (settle result).2 := by
  simp only [ofWords_eq hwords, ofInvocation, hlogger, hresult, and_self]

theorem Raises.report (h : Raises remote maxDepth env desk words e) :
    let report := ofWords remote maxDepth env stamp desk words
    report.result = .ok 1 ∧ report.output = printed e.toJson := by
  cases h with
  | error hwords hlogger hresult => exact ofWords_of_result hwords hlogger hresult
  | file hwords hlogger hresult => exact ofWords_of_result hwords hlogger hresult

/-- A run with the exit code 1 raises an error: words that are refused have another exit code. -/
theorem exists_raises (h : (ofWords remote maxDepth env stamp desk words).result = .ok 1) :
    ∃ e, Raises remote maxDepth env desk words e := by
  cases hwords : Invocation.ofWords words with
  | error exit =>
    rw [ofWords, hwords] at h
    cases exit <;> cases h
  | ok i =>
    cases hlogger : loggerOf i.logLevel with
    | error failure =>
      simp only [ofWords_eq hwords, ofInvocation, hlogger] at h
      cases h
    | ok logger =>
      cases hresult : (perform remote maxDepth env i.command desk).result with
      | ok document =>
        rw [(ofWords_of_result hwords hlogger hresult).1] at h
        cases h
      | error failure =>
        rw [(ofWords_of_result hwords hlogger hresult).1] at h
        -- an exit code of 1 is that of an error or of a file; whatever else escapes has none
        cases failure with
        | error e => exact ⟨e, .error hwords hlogger hresult⟩
        | file fault name => exact ⟨_, .file hwords hlogger hresult⟩
        | _ => cases h

/-- **An error is not masked by its details.**  The exit code is 1 if and only if the run raises an
error.  Then one object is printed, which tells the error; and so does what is read of the output, if
the status of the error can be written. -/
theorem error_unmasked (remote : Http.Remote σ) (maxDepth : Nat) (env : Environment)
    (stamp : String) (desk : Desk σ) (words : List String) :
    let report := ofWords remote maxDepth env stamp desk words
    (report.result = .ok 1 ↔ ∃ e, Raises remote maxDepth env desk words e) ∧
    ∀ e, Raises remote maxDepth env desk words e →
      ∃ members, report.output = printed (.object members) ∧ e.ToldBy members ∧
        ((∀ status, e.status = some status → status.natAbs < Json.limit) →
          ∃ read, Json.ofString report.output = .ok (.object read) ∧ e.ToldBy read) := by
  intro report
  refine ⟨⟨exists_raises, fun ⟨e, he⟩ => he.report.1⟩, fun e he => ?_⟩
  have houtput : report.output = printed e.toJson := he.report.2
  refine ⟨e.toMembers, houtput, he.tidy.toldBy, fun hstatus => ?_⟩
  refine ⟨Json.rereadMembers e.toMembers, ?_, he.tidy.toldBy.reread⟩
  rw [houtput]
  exact Json.ofString_line (he.tidy.printable hstatus).legible_toJson

/-! ### A disguise -/

namespace Disguise

/-- An entry without a path, which claims to be no error. -/
def entry : Json :=
  .object [("error", .bool false), ("kind", .string "unknown"), ("message", .string "fine")]

/-- The error that a result holds, if it holds one. -/
def error? : Except Failure Json → Option Error
  | .error (.error e) => some e
  | _ => none

theorem error?_eq_some {result : Except Failure Json} {e : Error} (h : error? result = some e) :
    result = .error (.error e) := by
  unfold error? at h
  split at h
  · rw [Option.some.inj h]
  · cases h

/-- The error for the entry has details. -/
theorem exists_raises : ∃ e, Raises (Oddity.remote entry) 2 Oddity.environment Oddity.desk
    ["status", "/a"] e ∧ e.kind = .malformedResponse ∧ e.details ≠ [] := by
  obtain ⟨logger, hlogger⟩ := exists_logger (by decide : "WARNING" ∈ logLevels)
  have hany : (error? (perform (Oddity.remote entry) 2 Oddity.environment (.status "/a")
      Oddity.desk).result).any
        (fun e => e.kind == .malformedResponse && !e.details.isEmpty) = true := by decide +kernel
  obtain ⟨e, he, hkind⟩ := (Option.any_eq_true _ _).mp hany
  rw [Bool.and_eq_true, beq_iff_eq] at hkind
  exact ⟨e, .error Oddity.ofWords_status hlogger (error?_eq_some he), hkind.1,
    by simpa using hkind.2⟩

end Disguise

/-- An entry that claims to be no error does not hide the error about it. -/
theorem error_unmasked_disguise :
    let report := Oddity.report Disguise.entry ["status", "/a"]
    report.result = .ok 1 ∧ ∃ (e : Error) (members : Json.Members), e.details ≠ [] ∧
      report.output = printed (.object members) ∧ members.get? "error" = some (.bool true) ∧
      members.get? "kind" = some (.string "malformed_response") ∧
      members.get? "message" = some (.string e.message) := by
  intro report
  obtain ⟨e, he, hkind, hdetails⟩ := Disguise.exists_raises
  obtain ⟨hexit, htold⟩ := error_unmasked (Oddity.remote Disguise.entry) 2 Oddity.environment
    "00:00:00" Oddity.desk ["status", "/a"]
  obtain ⟨members, houtput, htells, -⟩ := htold e he
  refine ⟨hexit.mpr ⟨e, he⟩, e, members, hdetails, houtput, htells.error, ?_, htells.message⟩
  rw [htells.kind, hkind]
  rfl

end Cli.Report

end Workspace
