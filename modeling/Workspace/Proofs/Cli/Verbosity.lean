/-
# The log level decides about the log alone

The log level says which records are written, and nothing else depends on it.  This is said about
two runs of the program with the same command and the same words behind it, that ask for two levels
(`Asks`).  They print the same, end in the same way, send the same requests and leave the same
files; and the run that asks for the more severe level writes those records of the other one that
are severe enough (`Report.level_unseen`).

* What a command line asks for is read off the words behind the name of the command, and the log
  level off those before it (`Invocation.ofWords_of_asks`).
* The logger of a level writes a line for each record that is severe enough
  (`Log.Logger.errorText_ofLevel`).
-/
import Workspace.Proofs.Cli.Run
import Workspace.Script
namespace Workspace

variable {σ : Type}

/-! ## 1. What a logger writes -/

namespace Log

/-- The lines of some records. -/
def lines (stamp : String) (records : List Record) : String :=
  String.join (records.map (Record.line stamp))

/-- The records that are at least as severe as a level. -/
def severe (level : Level) (records : List Record) : List Record :=
  records.filter fun r => level.severity ≤ r.level.severity

theorem severe_severe {level level' : Level} (h : level'.severity ≤ level.severity)
    (records : List Record) : severe level (severe level' records) = severe level records := by
  unfold severe
  rw [List.filter_filter]
  refine List.filter_congr fun r _ => ?_
  rw [← Bool.decide_and, decide_eq_decide]
  exact and_iff_left_of_imp h.trans

namespace Logger

/-- The logger of a level. -/
def ofLevel (level : Level) : Logger := ⟨level.severity, [.errorOutput]⟩

theorem threshold_ofLevel (level : Level) : (ofLevel level).threshold = level.severity := by
  cases level <;> rfl

/-- A record becomes a line, or nothing. -/
theorem emit_ofLevel (level : Level) (stamp : String) (r : Record) :
    ((ofLevel level).emit stamp r).errors =
      if level.severity ≤ r.level.severity then r.line stamp else "" := by
  simp only [emit, passes, threshold_ofLevel, decide_eq_true_eq]
  split
  · show String.join [r.line stamp] = r.line stamp
    rw [String.join_cons, String.join_nil, String.append_empty]
  · rfl

/-- **The logger of a level** writes a line for each record that is severe enough. -/
theorem errorText_ofLevel (level : Level) (stamp : String) (records : List Record) :
    (ofLevel level).errorText stamp records = lines stamp (severe level records) := by
  unfold errorText lines severe
  induction records with
  | nil => rfl
  | cons r rest ih =>
    rw [List.map_cons, String.join_cons, ih, emit_ofLevel, List.filter_cons]
    by_cases h : level.severity ≤ r.level.severity
    · rw [if_pos h, if_pos (decide_eq_true h), List.map_cons, String.join_cons]
    · rw [if_neg h, if_neg (by simpa using h), String.empty_append]

end Logger

end Log

namespace Cli

/-! ## 2. Asking for a level -/

/-- `Asks level ask`: the words before the name of a command ask for the level. -/
inductive Asks : Log.Level → List String → Prop
  | apart {level : Log.Level} : level.name ∈ logLevels → Asks level ["--log-level", level.name]
  | joined {level : Log.Level} : level.name ∈ logLevels → Asks level ["--log-level=" ++ level.name]
  /-- Warnings are written without being asked for. -/
  | silent : Asks .warning []

namespace Grammar

theorem tokens_cons {g : Grammar} {word : String} {role : Role} (hword : word ≠ separatorWord)
    (hrole : (g.roleOf word).toOption = some role) (rest : List String) :
    g.tokens (word :: rest) = (g.tokens rest).map fun ts => ⟨word, role⟩ :: ts := by
  rw [tokens, if_neg hword, toOption_eq_some_iff.mp hrole]

/-- Tokens are the words themselves. -/
theorem map_word_of_tokens {g : Grammar} {words : List String} {tokens : List Token}
    (h : g.tokens words = .ok tokens) : tokens.map Token.word = words := by
  induction words generalizing tokens with
  | nil => cases h; rfl
  | cons word rest ih =>
    rw [Grammar.tokens] at h
    split at h
    · cases h
      have hwords : rest.map (Token.word ∘ fun w => ⟨w, .operand⟩) = rest := List.map_id rest
      rw [List.map_cons, List.map_map, hwords]
    · split at h
      · cases h
      · obtain ⟨ts, hts, rfl⟩ := map_eq_ok_iff.mp h
        rw [List.map_cons, ih hts]

end Grammar

/-- `Opens tokens ask general`: the words become the tokens, and up to the name of a command these
are read as `general`. -/
structure Opens (tokens : List Token) (ask : List String) (general : Reading) : Prop where
  tokens_append : ∀ words,
    programGrammar.tokens (ask ++ words) = (programGrammar.tokens words).map (tokens ++ ·)
  runToOperand : ∀ word ts,
    State.start.runToOperand programGrammar (tokens ++ ⟨word, .operand⟩ :: ts) =
      .ok (general, word, ts.map Token.word)

/-- What opens a command line is read up to the name of the command, and does not change how the
words behind it are sorted. -/
theorem Opens.readToOperand {tokens : List Token} {ask : List String} {general : Reading}
    (h : Opens tokens ask general) (name : CommandName) (rest : List String) :
    programGrammar.readToOperand (ask ++ name.word :: rest) =
      ((programGrammar.tokens rest).mapError (.refused programGrammar)).map fun _ =>
        (general, name.word, rest) := by
  have hname : name.word ≠ separatorWord ∧
      (programGrammar.roleOf name.word).toOption = some .operand := by
    cases name <;> decide +kernel
  unfold Grammar.readToOperand
  rw [h.tokens_append, Grammar.tokens_cons hname.1 hname.2]
  cases hts : programGrammar.tokens rest with
  | error e => rfl
  | ok ts =>
    show State.start.runToOperand programGrammar (tokens ++ ⟨name.word, .operand⟩ :: ts) = _
    rw [h.runToOperand, Grammar.map_word_of_tokens hts]
    rfl

/-- The options that ask for a level. -/
def asked (level : Log.Level) : Reading := ⟨[], [⟨logLevelOption, some (.text level.name)⟩], []⟩

/-- **What asks for a level** opens a command line, and is read as the level and nothing else. -/
theorem Asks.exists_opens {level : Log.Level} {ask : List String} (h : Asks level ask) :
    ∃ tokens general, Opens tokens ask general ∧ general.extras = [] ∧
      (general.value? "--log-level").getD (.text defaultLogLevel) = .text level.name := by
  cases h with
  | apart hlevel =>
    refine ⟨[⟨"--log-level", .option logLevelOption true none⟩, ⟨level.name, .operand⟩],
      asked level, ⟨fun words => ?_, fun word ts => ?_⟩, rfl, ?_⟩
    -- five levels are on offer: the words for each are computed
    · have hoption : (programGrammar.roleOf "--log-level").toOption =
          some (.option logLevelOption true none) := by decide +kernel
      have hname : level.name ≠ separatorWord ∧
          (programGrammar.roleOf level.name).toOption = some .operand := by
        cases level <;> decide +kernel
      rw [List.cons_append, Grammar.tokens_cons (by decide) hoption, List.cons_append,
        Grammar.tokens_cons hname.1 hname.2, List.nil_append]
      cases programGrammar.tokens words <;> rfl
    -- `CRITICAL` is a level of the logger, but none on offer
    · cases level with
      | critical => exact absurd hlevel (by decide)
      | _ => rfl
    · cases level <;> rfl
  | joined hlevel =>
    refine ⟨[⟨"--log-level=" ++ level.name, .option logLevelOption true (some level.name)⟩],
      asked level, ⟨fun words => ?_, fun word ts => ?_⟩, rfl, ?_⟩
    · have hname : "--log-level=" ++ level.name ≠ separatorWord ∧
          (programGrammar.roleOf ("--log-level=" ++ level.name)).toOption =
            some (.option logLevelOption true (some level.name)) := by
        cases level <;> decide +kernel
      rw [List.cons_append, Grammar.tokens_cons hname.1 hname.2]
      rfl
    · cases level with
      | critical => exact absurd hlevel (by decide)
      | _ => rfl
    · cases level <;> rfl
  | silent =>
    refine ⟨[], .empty, ⟨fun words => ?_, fun word ts => rfl⟩, rfl, rfl⟩
    cases h : programGrammar.tokens words <;> simp [h, Except.map]

/-! ## 3. What a command line comes to -/

/-- What the words behind the name of a command come to. -/
def CommandName.parse (name : CommandName) (rest : List String) : Except Exit Command := do
  let _ ← (programGrammar.tokens rest).mapError (.refused programGrammar)
  let special ← name.grammar.read rest
  match special.extras with
  | [] => .ok (special.command name)
  | extras => .error (.refused programGrammar (.unrecognized extras))

/-- What is said to a command line that is refused; nothing to any other one. -/
def CommandName.notice (name : CommandName) (rest : List String) : String :=
  match name.parse rest with
  | .error exit => exit.errors
  | .ok _ => ""

/-- **A command line is read in two parts**: the words before the name of the command give the
level, those behind it the command. -/
theorem Invocation.ofWords_of_asks {level : Log.Level} {ask : List String} (h : Asks level ask)
    (name : CommandName) (rest : List String) :
    Invocation.ofWords (ask ++ name.word :: rest) =
      (name.parse rest).map fun command => ⟨.text level.name, command⟩ := by
  obtain ⟨tokens, general, hopens, hextras, hlevel⟩ := h.exists_opens
  have hname : commandOf name.word = .ok name := by rw [commandOf, CommandName.ofWord?_word]
  -- behind the words that ask for a level the reading goes on as if they were not there
  unfold ofWords CommandName.parse
  rw [hopens.readToOperand]
  cases programGrammar.tokens rest with
  | error e => rfl
  | ok ts =>
    show ((commandOf name.word).bind fun name => _) = _
    rw [hname]
    show (name.grammar.read rest).bind _ = Except.map _ ((name.grammar.read rest).bind _)
    cases name.grammar.read rest with
    | error exit => rfl
    | ok special =>
      simp only [Except.bind, hextras, hlevel, List.nil_append]
      cases special.extras <;> rfl

/-! ## 4. Two runs of the program -/

namespace Report

/-- The records that are written when the program runs with the given words. -/
def written (remote : Http.Remote σ) (maxDepth : Nat) (env : Environment) (desk : Desk σ)
    (words : List String) : List Log.Record :=
  match Invocation.ofWords words with
  | .error _ => []
  | .ok invocation =>
    match loggerOf invocation.logLevel with
    | .error _ => []
    | .ok logger =>
      (perform remote maxDepth env invocation.command desk).records.filter logger.passes

/-- The report without the text on the error output. -/
def quiet (r : Report) : Report := { r with errors := "" }

theorem loggerOf_name (level : Log.Level) : loggerOf (.text level.name) = .ok (.ofLevel level) := by
  rw [← toOption_eq_some_iff]
  cases level <;> decide +kernel

variable {remote : Http.Remote σ} {maxDepth : Nat} {env : Environment} {stamp : String}
  {desk : Desk σ} {level : Log.Level} {ask : List String} {name : CommandName} {rest : List String}

/-- **A run that asks for a level** and carries out a command shows the level in what it writes on
the error output, and nowhere else. -/
theorem ofWords_of_parse {command : Command} (h : Asks level ask)
    (hcommand : name.parse rest = .ok command) :
    ofWords remote maxDepth env stamp desk (ask ++ name.word :: rest) =
      let run := perform remote maxDepth env command desk
      ⟨(settle run.result).1, (settle run.result).2,
        Log.lines stamp (Log.severe level run.records), run.requests, run.world.files⟩ := by
  have hwords := Invocation.ofWords_of_asks h name rest
  rw [hcommand] at hwords
  rw [ofWords_eq hwords]
  unfold ofInvocation
  simp only [loggerOf_name, Log.Logger.errorText_ofLevel]

/-- The records that such a run writes. -/
theorem written_of_parse {command : Command} (h : Asks level ask)
    (hcommand : name.parse rest = .ok command) :
    written remote maxDepth env desk (ask ++ name.word :: rest) =
      Log.severe level (perform remote maxDepth env command desk).records := by
  have hwords := Invocation.ofWords_of_asks h name rest
  rw [hcommand] at hwords
  unfold written
  rw [hwords]
  simp only [Except.map, loggerOf_name]
  exact List.filter_congr fun r _ => by rw [Log.Logger.passes, Log.Logger.threshold_ofLevel]

/-- A run that refuses its words shows no level at all. -/
theorem ofWords_of_refused {exit : Exit} (h : Asks level ask)
    (hrefused : name.parse rest = .error exit) :
    ofWords remote maxDepth env stamp desk (ask ++ name.word :: rest) =
      ⟨.ok exit.code, exit.output, exit.errors, [], desk.files⟩ := by
  have hwords := Invocation.ofWords_of_asks h name rest
  rw [hrefused] at hwords
  unfold ofWords
  rw [hwords]
  rfl

/-- Such a run writes no records. -/
theorem written_of_refused {exit : Exit} (h : Asks level ask)
    (hrefused : name.parse rest = .error exit) :
    written remote maxDepth env desk (ask ++ name.word :: rest) = [] := by
  have hwords := Invocation.ofWords_of_asks h name rest
  rw [hrefused] at hwords
  unfold written
  rw [hwords]
  rfl

/-- **What a run writes on the error output**: the notice, and a line for each record. -/
theorem errors_ofWords (h : Asks level ask) :
    (ofWords remote maxDepth env stamp desk (ask ++ name.word :: rest)).errors =
      name.notice rest ++
        Log.lines stamp (written remote maxDepth env desk (ask ++ name.word :: rest)) := by
  cases hcommand : name.parse rest with
  | ok command =>
    have hnotice : name.notice rest = "" := by rw [CommandName.notice, hcommand]
    rw [hnotice, String.empty_append, written_of_parse h hcommand, ofWords_of_parse h hcommand]
  | error exit =>
    have hnotice : name.notice rest = exit.errors := by rw [CommandName.notice, hcommand]
    rw [hnotice, written_of_refused h hcommand, ofWords_of_refused h hcommand]
    exact String.append_empty.symm

/-- **What else a run leaves behind** depends on the command and the words behind it alone. -/
theorem quiet_ofWords (h : Asks level ask) :
    (ofWords remote maxDepth env stamp desk (ask ++ name.word :: rest)).quiet =
      match name.parse rest with
      | .ok command =>
        let run := perform remote maxDepth env command desk
        ⟨(settle run.result).1, (settle run.result).2, "", run.requests, run.world.files⟩
      | .error exit => ⟨.ok exit.code, exit.output, "", [], desk.files⟩ := by
  cases hcommand : name.parse rest with
  | ok command =>
    rw [ofWords_of_parse h hcommand, quiet]
  | error exit =>
    rw [ofWords_of_refused h hcommand]
    rfl

/-- **The log level decides about the log alone.**  Let a command be given with the words behind it,
and two ways to ask for a log level before it.

* Both runs print the same, end in the same way, send the same requests and leave the same files.
* On the error output each of them writes a line for each record that is severe enough, and nothing
  else if the command line is accepted.  If it is refused, both write the same notice.
* The run that asks for the more severe level writes those records of the other one that are at
  least as severe as its level. -/
theorem level_unseen (remote : Http.Remote σ) (maxDepth : Nat) (env : Environment) (stamp : String)
    (desk : Desk σ) (name : CommandName) (rest : List String) {level level' : Log.Level}
    {ask ask' : List String} (h : Asks level ask) (h' : Asks level' ask') :
    let words := ask ++ name.word :: rest
    let words' := ask' ++ name.word :: rest
    let report := ofWords remote maxDepth env stamp desk words
    let report' := ofWords remote maxDepth env stamp desk words'
    let records := written remote maxDepth env desk words
    let records' := written remote maxDepth env desk words'
    report.quiet = report'.quiet ∧
      report.errors = name.notice rest ++ Log.lines stamp records ∧
      report'.errors = name.notice rest ++ Log.lines stamp records' ∧
      (level'.severity ≤ level.severity → records = Log.severe level records') := by
  refine ⟨(quiet_ofWords h).trans (quiet_ofWords h').symm, errors_ofWords h, errors_ofWords h',
    fun hle => ?_⟩
  -- words that are refused write no records at any level
  cases hcommand : name.parse rest with
  | ok command =>
    rw [written_of_parse h hcommand, written_of_parse h' hcommand, Log.severe_severe hle]
  | error exit =>
    rw [written_of_refused h hcommand, written_of_refused h' hcommand]
    rfl

end Report

namespace Murmur

/-- A service that knows nothing. -/
def remote : Http.Remote (List Http.Outcome) := (Script.mk []).remote

/-- No files, nothing on the standard input, and an answer that tells of a failure. -/
def desk : Desk (List Http.Outcome) :=
  ⟨⟨[.response ⟨404, [], "", [], none⟩], false⟩, ⟨["tmp"], [], [], [], none⟩, []⟩

/-- An environment from which a client can be built. -/
def env : Environment := ⟨some "example.com", some "tok", none⟩

/-- The report on an object, with some words before the name of the command. -/
def report (ask : List String) : Report :=
  .ofWords remote 9 env "00:00:00" desk (ask ++ CommandName.status.word :: ["/x"])

/-- The records that are written for it. -/
def records (ask : List String) : List Log.Record :=
  Report.written remote 9 env desk (ask ++ CommandName.status.word :: ["/x"])

end Murmur

/-- An object that is not there: who asks for everything gets three records, who asks for nothing
the warning among them, and who asks for errors none. -/
theorem level_unseen_murmur :
    (Murmur.report []).output = (Murmur.report ["--log-level=DEBUG"]).output ∧
      (Murmur.report []).result.toOption = some 1 ∧
      (Murmur.records ["--log-level=DEBUG"]).map Log.Record.level = [.debug, .debug, .warning] ∧
      Murmur.records [] = Log.severe .warning (Murmur.records ["--log-level=DEBUG"]) ∧
      (Murmur.records []).map Log.Record.level = [.warning] ∧
      (Murmur.report []).errors = Log.lines "00:00:00" (Murmur.records []) ∧
      Murmur.records ["--log-level", "ERROR"] = Log.severe .error (Murmur.records []) ∧
      (Murmur.report ["--log-level", "ERROR"]).errors = "" := by
  have hdebug : Asks .debug ["--log-level=DEBUG"] :=
    .joined (show Log.Level.debug.name ∈ logLevels by decide)
  have herror : Asks .error ["--log-level", "ERROR"] :=
    .apart (show Log.Level.error.name ∈ logLevels by decide)
  have hnotice : CommandName.status.notice ["/x"] = "" := by decide +kernel
  obtain ⟨hquiet, hwarned, -, hwarnings⟩ := Report.level_unseen Murmur.remote 9 Murmur.env
    "00:00:00" Murmur.desk .status ["/x"] .silent hdebug
  obtain ⟨-, hsilent, -, herrors⟩ := Report.level_unseen Murmur.remote 9 Murmur.env "00:00:00"
    Murmur.desk .status ["/x"] herror .silent
  rw [hnotice, String.empty_append] at hwarned hsilent
  have houtput := congrArg Report.output hquiet
  have hnone : Murmur.records ["--log-level", "ERROR"] = [] := by decide +kernel
  have hblank : (Murmur.report ["--log-level", "ERROR"]).errors =
      Log.lines "00:00:00" (Murmur.records ["--log-level", "ERROR"]) := hsilent
  refine ⟨houtput, by decide +kernel, by decide +kernel, hwarnings (by decide), by decide +kernel,
    hwarned, herrors (by decide), ?_⟩
  rw [hblank, hnone]
  rfl

end Cli

end Workspace
