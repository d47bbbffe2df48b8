/-
# Any arrangement of a command line

The words behind the name of a command are an arrangement of pieces (`Piece`): operands, flags, and
options with a value, which follows as a word of its own or behind a `=`.  Pieces may stand in any
order, and options may be given again and in any of their spellings.  Such a command line is always
accepted (`Invocation.ofWords_arranged`), and what it comes to is read off the pieces
(`Command.arranged`): the operands in their order, the last value that each option was given, and
the flags that were given at all.  So order and spelling make no difference
(`CommandName.parse_congr`).

* A word is sorted by itself, whatever stands around it.  The grammar of a command sorts the words
  of a piece as the piece says (`Grammar.Regular.tokens_append`); the grammar of the program, which
  has to sort the same words before, sorts them somehow (`Piece.Fits.sorted`).
* A piece is taken up as a whole (`State.run_tokens`), and between two pieces nothing waits; so the
  pieces of a run add up (`State.run_flatMap_tokens`).
* What adds up is looked up by the spelling of an option, which gives the last value that a piece
  gives to the option (`Reading.value?_add`).

A value behind a `=` may be any text, but the text of a separator becomes a value without text
(`Invocation.not_forall_arranged`).
-/
import Workspace.Proofs.Cli.Verbosity
namespace Workspace.Cli

/-! ## 1. Pieces -/

/-- A part of a command line. -/
inductive Piece
  | operand (text : String)
  | flag (o : Opt) (spelling : String)
  /-- An option and behind it a word with its value. -/
  | apart (o : Opt) (spelling value : String)
  /-- An option with its value in one word. -/
  | joined (o : Opt) (spelling value : String)

/-- A text that stands for itself as a word: it does not start with `-`, or is nothing else. -/
def IsPlain (text : String) : Prop := text.startsWith "-" = false ∨ text = "-"

instance (text : String) : Decidable (IsPlain text) := inferInstanceAs (Decidable (_ ∨ _))

/-- A text that stands for itself is no separator. -/
theorem IsPlain.ne_separator {text : String} (h : IsPlain text) : text ≠ separatorWord := by
  rintro rfl
  rcases h with h | h
  · exact absurd h (by decide +kernel)
  · exact absurd h (by decide)

/-- The value can be given to an option with the purpose. -/
def Purpose.Takes : Purpose → String → Prop
  | help, _ | flag, _ => False
  | text, _ => True
  | choice choices, value => value ∈ choices

instance : (purpose : Purpose) → (value : String) → Decidable (purpose.Takes value)
  | .help, _ | .flag, _ => inferInstanceAs (Decidable False)
  | .text, _ => inferInstanceAs (Decidable True)
  | .choice choices, value => inferInstanceAs (Decidable (value ∈ choices))

/-- What takes the value takes any text, or offers the value as a choice. -/
theorem Purpose.Takes.text_or_choice {purpose : Purpose} {value : String}
    (h : purpose.Takes value) :
    purpose = .text ∨ ∃ choices, purpose = .choice choices ∧ value ∈ choices := by
  cases purpose with
  | help => exact h.elim
  | flag => exact h.elim
  | text => exact .inl rfl
  | choice choices => exact .inr ⟨choices, rfl, h⟩

theorem Purpose.Takes.ne_help {purpose : Purpose} {value : String} (h : purpose.Takes value) :
    purpose ≠ .help := by
  rcases h.text_or_choice with rfl | ⟨choices, rfl, -⟩ <;> exact Purpose.noConfusion

theorem Opt.takesText_of_takes {o : Opt} {value : String} (h : o.purpose.Takes value) :
    o.takesText = true := by
  rcases h.text_or_choice with hpurpose | ⟨choices, hpurpose, -⟩ <;>
    simp only [Opt.takesText, hpurpose]

namespace Piece

/-- The words of a piece. -/
def words : Piece → List String
  | operand text => [text]
  | flag _ spelling => [spelling]
  | apart _ spelling value => [spelling, value]
  | joined _ spelling value => [spelling ++ "=" ++ value]

/-- The words of a piece, each with its role. -/
def tokens : Piece → List Token
  | operand text => [⟨text, .operand⟩]
  | flag o spelling => [⟨spelling, .option o (isLong spelling) none⟩]
  | apart o spelling value =>
    [⟨spelling, .option o (isLong spelling) none⟩, ⟨value, .operand⟩]
  | joined o spelling value =>
    [⟨spelling ++ "=" ++ value, .option o (isLong spelling) (some value)⟩]

/-- The text of an operand. -/
def operand? : Piece → Option String
  | operand text => some text
  | _ => none

/-- The option that a piece gives. -/
def option? : Piece → Option Opt
  | operand _ => none
  | flag o _ | apart o _ _ | joined o _ _ => some o

/-- The value that a piece gives to its option. -/
def value? : Piece → Option String
  | operand _ | flag _ _ => none
  | apart _ _ value | joined _ _ value => some value

/-- The piece belongs to the grammar: its option is one of the grammar and spelled as the grammar
says, and its value is one that the option takes.  Only an option in the long style can be joined to
its value. -/
def Fits (g : Grammar) : Piece → Prop
  | operand text => IsPlain text
  | flag o spelling => o ∈ g.options ∧ spelling ∈ o.spellings ∧ o.purpose = .flag
  | apart o spelling value =>
    o ∈ g.options ∧ spelling ∈ o.spellings ∧ o.purpose.Takes value ∧ IsPlain value
  | joined o spelling value =>
    o ∈ g.options ∧ spelling ∈ o.spellings ∧ o.purpose.Takes value ∧ isLong spelling = true

instance (g : Grammar) : (p : Piece) → Decidable (p.Fits g)
  | operand text => inferInstanceAs (Decidable (IsPlain text))
  | flag _ _ => inferInstanceAs (Decidable (_ ∧ _ ∧ _))
  | apart _ _ _ | joined _ _ _ => inferInstanceAs (Decidable (_ ∧ _ ∧ _ ∧ _))

theorem Fits.mem_options {g : Grammar} {p : Piece} (hp : p.Fits g) {o : Opt}
    (ho : p.option? = some o) : o ∈ g.options := by
  cases p <;> cases ho <;> exact hp.1

/-- A piece that gives an option with values has a value. -/
theorem Fits.exists_value {g : Grammar} {p : Piece} (hp : p.Fits g) {o : Opt}
    (ho : p.option? = some o) (htakes : o.takesText = true) : ∃ value, p.value? = some value := by
  cases p with
  | operand text => cases ho
  | flag o s =>
    cases ho
    rw [Opt.takesText, hp.2.2] at htakes
    cases htakes
  | apart o s value => exact ⟨value, rfl⟩
  | joined o s value => exact ⟨value, rfl⟩

end Piece

/-! ## 2. Words and their roles -/

/-- A spelling that an option can have in a grammar: it starts with `-` and goes on after that, is
no separator, has no `=` in it, and belongs to that option. -/
def Grammar.Spells (g : Grammar) (o : Opt) (s : String) : Prop :=
  s.startsWith "-" = true ∧ s ≠ "-" ∧ s ≠ separatorWord ∧ '=' ∉ s.toList ∧ g.option? s = some o

instance (g : Grammar) (o : Opt) (s : String) : Decidable (g.Spells o s) :=
  inferInstanceAs (Decidable (_ ∧ _ ∧ _ ∧ _ ∧ _))

/-- Every spelling in the grammar is one that its option can have. -/
def Grammar.Regular (g : Grammar) : Prop := ∀ o ∈ g.options, ∀ s ∈ o.spellings, g.Spells o s

instance (g : Grammar) : Decidable g.Regular :=
  inferInstanceAs (Decidable (∀ o ∈ g.options, ∀ s ∈ o.spellings, g.Spells o s))

theorem CommandName.regular (name : CommandName) : name.grammar.Regular := by
  cases name <;> decide +kernel

theorem regular_programGrammar : programGrammar.Regular := by decide +kernel

theorem startsWith_append {s start : String} (h : s.startsWith start = true) (more : String) :
    (s ++ more).startsWith start = true := by
  rw [String.startsWith_string_iff] at h ⊢
  rw [String.toList_append]
  exact h.trans (List.prefix_append _ _)

theorem equals_mem_toList (s value : String) : '=' ∈ (s ++ "=" ++ value).toList := by
  simp

theorem append_ne_separator (s value : String) : s ++ "=" ++ value ≠ separatorWord := by
  intro hne
  have hmem := equals_mem_toList s value
  rw [hne] at hmem
  exact absurd hmem (by decide)

theorem bne_equals_of_mem {s : String} (h : '=' ∉ s.toList) :
    ∀ c ∈ s.toList, (c != '=') = true := by
  intro c hc
  rw [bne_iff_ne]
  rintro rfl
  exact h hc

theorem splitAtEquals_eq_self {s : String} (h : '=' ∉ s.toList) : splitAtEquals s = (s, none) := by
  have hnil : s.toList.dropWhile (· != '=') = [] := by
    rw [← List.append_nil s.toList, List.dropWhile_append_of_pos (bne_equals_of_mem h)]
    rfl
  simp only [splitAtEquals, hnil]

theorem splitAtEquals_append {s : String} (h : '=' ∉ s.toList) (value : String) :
    splitAtEquals (s ++ "=" ++ value) = (s, some value) := by
  have hlist : (s ++ "=" ++ value).toList = s.toList ++ '=' :: value.toList := by
    rw [String.toList_append, String.toList_append, List.append_assoc]
    rfl
  simp only [splitAtEquals, hlist, List.dropWhile_append_of_pos (bne_equals_of_mem h),
    List.takeWhile_append_of_pos (bne_equals_of_mem h)]
  simp

namespace Grammar

variable {g : Grammar}

theorem roleOf_of_isPlain {text : String} (h : IsPlain text) : g.roleOf text = .ok .operand := by
  have hplain : (!text.startsWith "-" || text == "-") = true := by
    rcases h with h | h <;> simp [h]
  rw [roleOf, if_pos hplain]

/-- A word with a `=` in it spells no option in full. -/
theorem Regular.option?_eq_none (hg : g.Regular) {word : String} (h : '=' ∈ word.toList) :
    g.option? word = none := by
  cases ho : g.option? word with
  | none => rfl
  | some o =>
    obtain ⟨_, _, heq, -⟩ := List.lookup_eq_some_iff.mp ho
    have hmem : (word, o) ∈ g.spellings := heq ▸ List.mem_append_right _ List.mem_cons_self
    obtain ⟨o', ho', hmem⟩ := List.mem_flatMap.mp hmem
    obtain ⟨spelling, hspelling, hpair⟩ := List.mem_map.mp hmem
    cases hpair
    obtain ⟨-, -, -, hequals, -⟩ := hg o ho' word hspelling
    exact absurd h hequals

/-- A word that starts as an option does is read at its `=`: what stands before it is the spelling
of an option, or the word is none that spells an option. -/
theorem Regular.roleOf_append (hg : g.Regular) {s : String} (hdash : s.startsWith "-" = true)
    (hequals : '=' ∉ s.toList) (value : String) :
    (∀ o, g.option? s = some o →
      g.roleOf (s ++ "=" ++ value) = .ok (.option o (isLong s) (some value))) ∧
    (g.option? s = none → g.roleOf (s ++ "=" ++ value) = g.roleOfOther (s ++ "=" ++ value)) := by
  have hmem := equals_mem_toList s value
  have hstart : (s ++ "=" ++ value).startsWith "-" = true := by
    rw [String.append_assoc]
    exact startsWith_append hdash _
  have hlone : s ++ "=" ++ value ≠ "-" := by
    intro hlone
    rw [hlone] at hmem
    exact absurd hmem (by decide)
  -- the word is not plain, and no option is spelled with a `=`, so it is cut at its first one
  have hguard : ¬ (!(s ++ "=" ++ value).startsWith "-" || s ++ "=" ++ value == "-") = true := by
    simp [hstart, hlone]
  have hnone := hg.option?_eq_none hmem
  have hcut := splitAtEquals_append hequals value
  constructor
  · intro o ho
    simp only [roleOf, if_neg hguard, hnone, hcut, ho]
  · intro ho
    simp only [roleOf, if_neg hguard, hnone, hcut, ho]

/-- **The words of a piece of the grammar**, whatever stands behind them, have the roles that the
piece gives them. -/
theorem Regular.tokens_append (hg : g.Regular) {p : Piece} (hp : p.Fits g) (rest : List String) :
    g.tokens (p.words ++ rest) = (g.tokens rest).map (p.tokens ++ ·) := by
  have hspelled {o : Opt} {s : String} (h : g.Spells o s) :
      (g.roleOf s).toOption = some (.option o (isLong s) none) := by
    obtain ⟨hdash, hlone, -, -, hoption⟩ := h
    rw [toOption_eq_some_iff, roleOf, if_neg (by simp [hdash, hlone]), hoption]
  have hoperand {text : String} (h : IsPlain text) : (g.roleOf text).toOption = some .operand :=
    toOption_eq_some_iff.mpr (roleOf_of_isPlain h)
  -- a word that stands for itself is neither separator nor option, and a spelling is no separator
  cases p with
  | operand text => exact tokens_cons hp.ne_separator (hoperand hp) rest
  | flag o s =>
    have hs := hg o hp.1 s hp.2.1
    exact tokens_cons hs.2.2.1 (hspelled hs) rest
  | apart o s value =>
    have hs := hg o hp.1 s hp.2.1
    have hvalue := hp.2.2.2
    rw [Piece.words, List.cons_append, tokens_cons hs.2.2.1 (hspelled hs), List.cons_append,
      tokens_cons hvalue.ne_separator (hoperand hvalue), List.nil_append]
    cases g.tokens rest <;> rfl
  | joined o s value =>
    obtain ⟨hdash, -, -, hequals, hoption⟩ := hg o hp.1 s hp.2.1
    have hrole := (hg.roleOf_append hdash hequals value).1 o hoption
    exact tokens_cons (append_ne_separator s value) (toOption_eq_some_iff.mpr hrole) rest

/-- The words of an arrangement have the roles that its pieces give them. -/
theorem Regular.tokens_flatMap (hg : g.Regular) {pieces : List Piece}
    (hp : ∀ p ∈ pieces, p.Fits g) :
    g.tokens (pieces.flatMap Piece.words) = .ok (pieces.flatMap Piece.tokens) := by
  induction pieces with
  | nil => rfl
  | cons p rest ih =>
    rw [List.flatMap_cons, hg.tokens_append (hp p List.mem_cons_self),
      ih fun q hq => hp q (List.mem_cons_of_mem _ hq)]
    rfl

end Grammar

/-! ### In the hands of the program -/

/-- The grammar of the program knows nothing that starts like the spelling, and takes no part of it
for an option of its own. -/
def Foreign (s : String) : Prop :=
  programGrammar.option? s = none ∧ programGrammar.candidates s = []

instance (s : String) : Decidable (Foreign s) := inferInstanceAs (Decidable (_ ∧ _))

/-- The options of commands that ask for no help are foreign to the program. -/
theorem CommandName.foreign (name : CommandName) : ∀ o ∈ name.grammar.options,
    o.purpose ≠ .help → ∀ s ∈ o.spellings, Foreign s := by
  cases name <;> decide +kernel

/-- Whether a long word can mean an option depends on what stands in front of its `=`. -/
theorem Grammar.candidates_eq_nil_iff {g : Grammar} {word : String} (h : isLong word = true) :
    g.candidates word = [] ↔
      g.spellings.filter (fun x => x.1.startsWith (splitAtEquals word).1) = [] := by
  rw [candidates, if_pos h]
  exact List.map_eq_nil_iff

/-- A word that joins a foreign spelling to a value can mean no option of the program either. -/
theorem Foreign.candidates_append {s : String} (h : Foreign s) (hlong : isLong s = true)
    (hequals : '=' ∉ s.toList) (value : String) :
    programGrammar.candidates (s ++ "=" ++ value) = [] := by
  have hwhole : isLong (s ++ "=" ++ value) = true := by
    rw [isLong, String.append_assoc]
    exact startsWith_append hlong _
  have hnone := (Grammar.candidates_eq_nil_iff hlong).mp h.2
  rw [splitAtEquals_eq_self hequals] at hnone
  rw [Grammar.candidates_eq_nil_iff hwhole, splitAtEquals_append hequals]
  exact hnone

theorem Grammar.isOk_roleOfOther {g : Grammar} {word : String} (h : g.candidates word = []) :
    (g.roleOfOther word).isOk = true := by
  simp only [roleOfOther, h]
  rfl

/-- **The program can sort the words of a piece** that fits one of its commands. -/
theorem Piece.Fits.sorted {name : CommandName} {p : Piece} (hp : p.Fits name.grammar) :
    ∀ word ∈ p.words, word ≠ separatorWord ∧ (programGrammar.roleOf word).isOk = true := by
  -- a word of a piece is a plain text, a spelling of an option of the command, or both with a `=`;
  -- the program knows none of these options, so it takes the word for an operand or an unknown one
  have hplain {text : String} (h : IsPlain text) :
      text ≠ separatorWord ∧ (programGrammar.roleOf text).isOk = true := by
    rw [Grammar.roleOf_of_isPlain h]
    exact ⟨h.ne_separator, rfl⟩
  have hspelled {o : Opt} {s : String} (ho : o ∈ name.grammar.options) (hs : s ∈ o.spellings)
      (hhelp : o.purpose ≠ .help) :
      s ≠ separatorWord ∧ (programGrammar.roleOf s).isOk = true := by
    obtain ⟨hdash, hlone, hne, hequals, -⟩ := name.regular o ho s hs
    obtain ⟨hoption, hcandidates⟩ := name.foreign o ho hhelp s hs
    rw [Grammar.roleOf, if_neg (by simp [hdash, hlone]), hoption, splitAtEquals_eq_self hequals]
    exact ⟨hne, Grammar.isOk_roleOfOther hcandidates⟩
  cases p with
  | operand text =>
    intro word hword
    cases List.mem_singleton.mp hword
    exact hplain hp
  | flag o s =>
    obtain ⟨ho, hs, hflag⟩ := hp
    intro word hword
    cases List.mem_singleton.mp hword
    exact hspelled ho hs (by simp [hflag])
  | apart o s value =>
    obtain ⟨ho, hs, htakes, hvalue⟩ := hp
    intro word hword
    rcases List.mem_cons.mp hword with rfl | hword
    · exact hspelled ho hs htakes.ne_help
    · cases List.mem_singleton.mp hword
      exact hplain hvalue
  | joined o s value =>
    obtain ⟨ho, hs, htakes, hlong⟩ := hp
    intro word hword
    cases List.mem_singleton.mp hword
    obtain ⟨hdash, -, -, hequals, -⟩ := name.regular o ho s hs
    have hforeign := name.foreign o ho htakes.ne_help s hs
    rw [(regular_programGrammar.roleOf_append hdash hequals value).2 hforeign.1]
    exact ⟨append_ne_separator s value,
      Grammar.isOk_roleOfOther (hforeign.candidates_append hlong hequals value)⟩

/-- Words that can be sorted one by one can be sorted. -/
theorem Grammar.isOk_tokens {g : Grammar} {words : List String}
    (h : ∀ word ∈ words, word ≠ separatorWord ∧ (g.roleOf word).isOk = true) :
    (g.tokens words).isOk = true := by
  induction words with
  | nil => rfl
  | cons word rest ih =>
    obtain ⟨hword, hrole⟩ := h word List.mem_cons_self
    obtain ⟨role, hrole⟩ := exists_of_isOk hrole
    obtain ⟨ts, hts⟩ := exists_of_isOk (ih fun w hw => h w (List.mem_cons_of_mem _ hw))
    rw [tokens_cons hword (toOption_eq_some_iff.mpr hrole), hts]
    rfl

/-! ## 3. Pieces that are taken up -/

/-- The option that was given, as it is found. -/
def Piece.given? (p : Piece) : Option Given :=
  p.option?.map fun o => ⟨o, p.value?.map .ofWord⟩

/-- What was found, with some pieces behind it. -/
def Reading.add (r : Reading) (pieces : List Piece) : Reading :=
  ⟨r.operands ++ (pieces.filterMap Piece.operand?).map .text,
    r.given ++ pieces.filterMap Piece.given?, r.extras⟩

theorem Reading.add_cons (r : Reading) (p : Piece) (pieces : List Piece) :
    r.add (p :: pieces) = (r.add [p]).add pieces := by
  simp only [Reading.add, List.filterMap_cons, List.filterMap_nil]
  cases p.operand? <;> cases p.given? <;> simp

theorem Reading.add_operand (r : Reading) (text : String) :
    r.add [.operand text] = { r with operands := r.operands ++ [.text text] } := by
  simp [Reading.add, Piece.operand?, Piece.given?, Piece.option?]

theorem Reading.add_given (r : Reading) {p : Piece} {x : Given} (hoperand : p.operand? = none)
    (hgiven : p.given? = some x) : r.add [p] = { r with given := r.given ++ [x] } := by
  simp [Reading.add, hoperand, hgiven]

namespace State

/-- Nothing waits: what was found, and whether the last token was an operand. -/
def idle (found : Reading) (afterOperand : Bool) : State := ⟨found, none, afterOperand, false⟩

/-- An option waits for its value. -/
def pending (found : Reading) (afterOperand : Bool) (o : Opt) : State :=
  ⟨found, some ⟨[], o⟩, afterOperand, false⟩

variable {g : Grammar} {r : Reading} {after : Bool}

/-- An option takes up a value that it takes. -/
theorem give_idle {o : Opt} {value : String} (h : o.purpose.Takes value) :
    (idle r after).give g ⟨o, some (.ofWord value)⟩ =
      .ok (idle { r with given := r.given ++ [⟨o, some (.ofWord value)⟩] } false) := by
  unfold give Argument.ofWord
  rcases h.text_or_choice with hpurpose | ⟨choices, hpurpose, hmem⟩
  · simp only [hpurpose]
    rfl
  · by_cases hvalue : value = separatorWord
    · simp only [hpurpose, if_pos hvalue]
      rfl
    · simp only [hpurpose, if_neg hvalue, if_pos hmem]
      rfl

theorem takeOperand_idle {text : String} (h : IsPlain text)
    (hroom : r.operands.length < g.operands.length) :
    (idle r after).takeOperand g text =
      idle { r with operands := r.operands ++ [.text text] } true := by
  have hwants : (idle r after).wantsOperand g = true := decide_eq_true hroom
  have hword : Argument.ofWord text = .text text := if_neg h.ne_separator
  rw [takeOperand, if_pos hwants]
  simp only [idle, Bool.false_eq_true, if_false, hword]

theorem takeOptions_flag {o : Opt} (h : o.purpose = .flag) (long : Bool) :
    (idle r after).takeOptions g o long none =
      .ok (idle { r with given := r.given ++ [⟨o, none⟩] } false) := by
  simp [takeOptions, optionsOf, cluster, Opt.takesText, h, giveAll, give, idle]

theorem takeOptions_pending {o : Opt} (h : o.takesText = true) (long : Bool) :
    (idle r after).takeOptions g o long none = .ok (pending r after o) := by
  simp [takeOptions, optionsOf, cluster, h, pending, idle]

theorem advance_pending {o : Opt} {value : String} (h : o.purpose.Takes value) (last : Bool) :
    (pending r after o).advance g ⟨value, .operand⟩ last =
      .ok (idle { r with given := r.given ++ [⟨o, some (.ofWord value)⟩] } false) := by
  show giveAll g [⟨o, some (.ofWord value)⟩] (idle r after) = _
  simp only [giveAll, give_idle h]

theorem takeOptions_joined {o : Opt} {value : String} (h : o.purpose.Takes value) (long : Bool) :
    (idle r after).takeOptions g o long (some value) =
      .ok (idle { r with given := r.given ++ [⟨o, some (.ofWord value)⟩] } false) := by
  simp only [takeOptions, optionsOf, Opt.takesText_of_takes h, if_true, giveAll, give_idle h]

theorem run_cons {s s' : State} {t : Token} {rest : List Token}
    (h : s.advance g t rest.isEmpty = .ok s') : s.run g (t :: rest) = s'.run g rest := by
  rw [run, h]

/-- **A piece is taken up as a whole**, and nothing waits behind it. -/
theorem run_tokens {p : Piece} (hp : p.Fits g)
    (hroom : p.operand? ≠ none → r.operands.length < g.operands.length) (rest : List Token) :
    ∃ after', (idle r after).run g (p.tokens ++ rest) = (idle (r.add [p]) after').run g rest := by
  -- one or two tokens for each form of a piece; an option apart from its value waits in between
  cases p with
  | operand text =>
    have htaken := @takeOperand_idle g r after text hp (hroom (by simp [Piece.operand?]))
    refine ⟨true, ?_⟩
    rw [r.add_operand]
    exact run_cons (congrArg Except.ok htaken)
  | flag o s =>
    refine ⟨false, ?_⟩
    rw [r.add_given rfl rfl]
    exact run_cons (takeOptions_flag hp.2.2 _)
  | apart o s value =>
    have hpending : (idle r after).advance g ⟨s, .option o (isLong s) none⟩ false =
        .ok (pending r after o) := takeOptions_pending (Opt.takesText_of_takes hp.2.2.1) _
    refine ⟨false, ?_⟩
    rw [r.add_given rfl rfl]
    exact (run_cons hpending).trans (run_cons (advance_pending hp.2.2.1 _))
  | joined o s value =>
    refine ⟨false, ?_⟩
    rw [r.add_given rfl rfl]
    exact run_cons (takeOptions_joined hp.2.2.1 _)

/-- **Pieces add up**: an arrangement with as many operands as are left is taken up to its end. -/
theorem run_flatMap_tokens {pieces : List Piece} (hp : ∀ p ∈ pieces, p.Fits g)
    (hcount : r.operands.length + (pieces.filterMap Piece.operand?).length = g.operands.length) :
    (idle r after).run g (pieces.flatMap Piece.tokens) = .ok (r.add pieces) := by
  -- the reading that was found so far grows with each piece, and the room for operands shrinks
  induction pieces generalizing r after with
  | nil =>
    have hdrop : g.operands.drop r.operands.length = [] := by
      rw [List.filterMap_nil, List.length_nil, Nat.add_zero] at hcount
      exact List.drop_eq_nil_of_le hcount.ge
    have hnothing : r.add [] = r := by simp [Reading.add]
    simp only [List.flatMap_nil, run, finish, idle, hdrop, hnothing]
  | cons p rest ih =>
    have hroom : p.operand? ≠ none → r.operands.length < g.operands.length := by
      intro hsome
      obtain ⟨text, htext⟩ := Option.ne_none_iff_exists'.mp hsome
      rw [List.filterMap_cons_some htext, List.length_cons] at hcount
      omega
    obtain ⟨after', hstep⟩ := @run_tokens g r after p (hp p List.mem_cons_self) hroom
      (rest.flatMap Piece.tokens)
    have hleft : (r.add [p]).operands.length + (rest.filterMap Piece.operand?).length =
        g.operands.length := by
      rw [← hcount]
      simp only [Reading.add, List.filterMap_cons, List.filterMap_nil]
      cases p.operand? with
      | none => simp only [List.map_nil, List.append_nil]
      | some text =>
        simp only [List.map_cons, List.map_nil, List.length_append, List.length_cons,
          List.length_nil]
        omega
    rw [List.flatMap_cons, hstep, r.add_cons p rest]
    exact ih (fun q hq => hp q (List.mem_cons_of_mem _ hq)) hleft

end State

/-- **What is found in an arrangement** is what its pieces add up to. -/
theorem Grammar.read_pieces {g : Grammar} (hg : g.Regular) {pieces : List Piece}
    (hp : ∀ p ∈ pieces, p.Fits g)
    (hcount : (pieces.filterMap Piece.operand?).length = g.operands.length) :
    g.read (pieces.flatMap Piece.words) = .ok (Reading.empty.add pieces) := by
  rw [read, hg.tokens_flatMap hp]
  exact State.run_flatMap_tokens hp (by simpa [Reading.empty] using hcount)

/-! ## 4. What an arrangement comes to -/

section Values

variable (pieces : List Piece)

/-- The text of the operand at the place. -/
def operandAt (i : Nat) : String := (pieces.filterMap Piece.operand?)[i]?.getD ""

/-- Is the option given in an arrangement? -/
def isGivenIn (o : Opt) : Bool := pieces.any fun p => p.option? = some o

/-- The last value that an arrangement gives to the option. -/
def lastValue? (o : Opt) : Option String :=
  (pieces.filterMap fun p => if p.option? = some o then p.value? else none).getLast?

/-- The command that an arrangement comes to, if `argument` makes the value of an option from its
text. -/
def Command.arranged (argument : String → Argument) : CommandName → Command
  | .ls => .ls (operandAt pieces 0) (isGivenIn pieces recursiveOption)
  | .status => .status (operandAt pieces 0)
  | .exportNotebook =>
    .exportNotebook (operandAt pieces 0)
      (((lastValue? pieces formatOption).map argument).getD (.text "SOURCE"))
      ((lastValue? pieces outputOption).map argument)
  | .importNotebook =>
    .importNotebook (operandAt pieces 0) (.text (operandAt pieces 1))
      ((lastValue? pieces languageOption).map argument)
      (((lastValue? pieces formatOption).map argument).getD (.text "SOURCE"))
      (isGivenIn pieces overwriteOption)
  | .mkdirs => .mkdirs (operandAt pieces 0)
  | .rm => .rm (operandAt pieces 0) (isGivenIn pieces recursiveOption)

end Values

section Lookup

variable {g : Grammar} {pieces : List Piece} (o : Opt) (spelling : String)

/-- A piece is found for a spelling if it gives the option, and no other one has the spelling. -/
theorem Piece.Fits.any_given {p : Piece} (hp : p.Fits g)
    (hspelling : ∀ o' ∈ g.options, o'.spellings.contains spelling = decide (o' = o)) :
    p.given?.any (fun x => x.option.spellings.contains spelling) =
      decide (p.option? = some o) := by
  cases hoption : p.option? with
  | none => simp [Piece.given?, hoption]
  | some o' =>
    rw [Piece.given?, hoption, Option.map_some, Option.any_some,
      hspelling o' (hp.mem_options hoption)]
    simp

/-- **An option is found by its spelling if it is given.** -/
theorem Reading.isGiven_add (hp : ∀ p ∈ pieces, p.Fits g)
    (hspelling : ∀ o' ∈ g.options, o'.spellings.contains spelling = decide (o' = o)) :
    (Reading.empty.add pieces).isGiven spelling = isGivenIn pieces o := by
  rw [Bool.eq_iff_iff]
  simp only [isGiven, Reading.add, Reading.empty, List.nil_append, isGivenIn, List.any_eq_true,
    List.mem_filterMap]
  constructor
  · rintro ⟨x, ⟨p, hmem, hx⟩, hfound⟩
    refine ⟨p, hmem, ?_⟩
    rw [← (hp p hmem).any_given o spelling hspelling, hx]
    exact hfound
  · rintro ⟨p, hmem, hgives⟩
    rw [← (hp p hmem).any_given o spelling hspelling] at hgives
    obtain ⟨x, hx, hfound⟩ := (Option.any_eq_true _ _).mp hgives
    exact ⟨x, ⟨p, hmem, hx⟩, hfound⟩

/-- **The value that is found for a spelling** is the last one that a piece gives to the option. -/
theorem Reading.value?_add (hp : ∀ p ∈ pieces, p.Fits g) (ho : o.takesText = true)
    (hspelling : ∀ o' ∈ g.options, o'.spellings.contains spelling = decide (o' = o)) :
    (Reading.empty.add pieces).value? spelling = (lastValue? pieces o).map .ofWord := by
  -- the values of an option are the same in the pieces and in what was found: so is the last one
  have hfound : (pieces.filterMap Piece.given?).filter
        (fun x => x.option.spellings.contains spelling) =
      (pieces.filterMap fun p => if p.option? = some o then p.value? else none).map
        fun value => ⟨o, some (.ofWord value)⟩ := by
    rw [List.filter_filterMap, List.map_filterMap]
    refine List.filterMap_congr fun p hmem => ?_
    have hany := (hp p hmem).any_given o spelling hspelling
    by_cases hoption : p.option? = some o
    · obtain ⟨value, hvalue⟩ := (hp p hmem).exists_value hoption ho
      rw [Piece.given?, hoption, hvalue] at hany ⊢
      rw [if_pos rfl]
      exact Option.filter_some_pos (by simpa using hany)
    · rw [decide_eq_false hoption] at hany
      rw [if_neg hoption, Option.map_none, ← Option.not_isSome_iff_eq_none, Option.isSome_filter,
        hany]
      exact Bool.false_ne_true
  rw [value?, ← List.getLast?_filter]
  simp only [Reading.add, Reading.empty, List.nil_append]
  rw [hfound, List.getLast?_map, lastValue?, Option.bind_map]
  exact Option.map_eq_bind.symm

end Lookup

/-- **What is found in an arrangement makes the command that the arrangement comes to.** -/
theorem Reading.command_add {name : CommandName} {pieces : List Piece}
    (hp : ∀ p ∈ pieces, p.Fits name.grammar)
    (hcount : (pieces.filterMap Piece.operand?).length = name.grammar.operands.length) :
    (Reading.empty.add pieces).command name = Command.arranged pieces .ofWord name := by
  -- only operands of the arrangement count as operands, and the first one is the path
  have hoperands : (Reading.empty.add pieces).operands =
      (pieces.filterMap Piece.operand?).map .text := List.nil_append _
  have hpath : (Reading.empty.add pieces).path = operandAt pieces 0 := by
    rw [path, hoperands, List.head?_map, operandAt, List.head?_eq_getElem?]
    cases (pieces.filterMap Piece.operand?)[0]? <;> rfl
  cases name with
  | status => simp only [command, Command.arranged, hpath]
  | mkdirs => simp only [command, Command.arranged, hpath]
  | ls =>
    simp only [command, Command.arranged, hpath,
      isGiven_add recursiveOption "--recursive" hp (by decide)]
  | rm =>
    simp only [command, Command.arranged, hpath,
      isGiven_add recursiveOption "--recursive" hp (by decide)]
  | exportNotebook =>
    simp only [command, Command.arranged, hpath, format,
      value?_add formatOption "--format" hp rfl (by decide),
      value?_add outputOption "--output" hp rfl (by decide)]
    rfl
  | importNotebook =>
    have hfile : (Reading.empty.add pieces).file = .text (operandAt pieces 1) := by
      have htwo : 1 < (pieces.filterMap Piece.operand?).length := by
        rw [hcount]
        decide
      rw [file, hoperands, List.getElem?_map, operandAt, List.getElem?_eq_getElem htwo]
      rfl
    simp only [command, Command.arranged, hpath, hfile, format,
      value?_add languageOption "--language" hp rfl (by decide),
      value?_add formatOption "--format" hp rfl (by decide),
      isGiven_add overwriteOption "--overwrite" hp (by decide)]
    rfl

/-! ## 5. Whole command lines -/

/-- What the words behind the name of a command come to, if they are an arrangement. -/
theorem CommandName.parse_arranged {name : CommandName} {pieces : List Piece}
    (hp : ∀ p ∈ pieces, p.Fits name.grammar)
    (hcount : (pieces.filterMap Piece.operand?).length = name.grammar.operands.length) :
    name.parse (pieces.flatMap Piece.words) = .ok (Command.arranged pieces .ofWord name) := by
  have hsorted : (programGrammar.tokens (pieces.flatMap Piece.words)).isOk = true := by
    refine Grammar.isOk_tokens fun word hword => ?_
    obtain ⟨p, hmem, hword⟩ := List.mem_flatMap.mp hword
    exact (hp p hmem).sorted word hword
  obtain ⟨ts, hts⟩ := exists_of_isOk hsorted
  unfold parse
  rw [hts, Grammar.read_pieces name.regular hp hcount, ← Reading.command_add hp hcount]
  rfl

/-- **Order and spelling make no difference to a command**: two arrangements with the same operands,
the same flags and the same last values come to the same. -/
theorem CommandName.parse_congr {name : CommandName} {pieces others : List Piece}
    (hp : ∀ p ∈ pieces, p.Fits name.grammar) (ho : ∀ p ∈ others, p.Fits name.grammar)
    (hcount : (pieces.filterMap Piece.operand?).length = name.grammar.operands.length)
    (hoperands : pieces.filterMap Piece.operand? = others.filterMap Piece.operand?)
    (hflags : isGivenIn pieces = isGivenIn others)
    (hvalues : lastValue? pieces = lastValue? others) :
    name.parse (pieces.flatMap Piece.words) = name.parse (others.flatMap Piece.words) := by
  rw [parse_arranged hp hcount, parse_arranged ho (hoperands ▸ hcount)]
  cases name <;> simp only [Command.arranged, operandAt, hoperands, hflags, hvalues]

/-- **Any arrangement of a command line is accepted**: operands, as many as the command takes, and
options of the command in any order.  It comes to the command with the operands in their order, the
flags that are given, and for every other option the last value that it is given or its default;
warnings are written.  A value is a text, but the word of a separator, which only a `=` can join to
an option, becomes a value without text.  So an arrangement with the same operands, the same flags
and the same last values comes to the same. -/
theorem Invocation.ofWords_arranged (name : CommandName) (pieces : List Piece)
    (hp : ∀ p ∈ pieces, p.Fits name.grammar)
    (hcount : (pieces.filterMap Piece.operand?).length = name.grammar.operands.length) :
    Invocation.ofWords (name.word :: pieces.flatMap Piece.words) =
        .ok ⟨.text "WARNING", Command.arranged pieces .ofWord name⟩ ∧
      (Command.arranged pieces .ofWord name).name = name ∧
      ∀ others : List Piece, (∀ p ∈ others, p.Fits name.grammar) →
        pieces.filterMap Piece.operand? = others.filterMap Piece.operand? →
        isGivenIn pieces = isGivenIn others → lastValue? pieces = lastValue? others →
        Invocation.ofWords (name.word :: others.flatMap Piece.words) =
          Invocation.ofWords (name.word :: pieces.flatMap Piece.words) := by
  have hpieces := ofWords_of_asks .silent name (pieces.flatMap Piece.words)
  have hwords := hpieces
  rw [CommandName.parse_arranged hp hcount] at hwords
  refine ⟨hwords, ?_, fun others ho hoperands hflags hvalues => ?_⟩
  · cases name <;> rfl
  · have hothers := ofWords_of_asks .silent name (others.flatMap Piece.words)
    rw [← CommandName.parse_congr hp ho hcount hoperands hflags hvalues] at hothers
    exact hothers.trans hpieces.symm

/-- An import with options before, between and behind its operands. -/
def mixedImport : List Piece :=
  [.joined languageOption "--language" "PYTHON", .operand "/a", .flag overwriteOption "--overwrite",
    .apart formatOption "--format" "HTML", .operand "-", .joined formatOption "--format" "DBC"]

/-- The last format counts, and a single `-` is an operand. -/
theorem Invocation.ofWords_arranged_import :
    (∀ p ∈ mixedImport, p.Fits CommandName.importNotebook.grammar) ∧
      Invocation.ofWords ["import", "--language=PYTHON", "/a", "--overwrite", "--format", "HTML",
          "-", "--format=DBC"] =
        .ok ⟨.text "WARNING",
          .importNotebook "/a" (.text "-") (some (.text "PYTHON")) (.text "DBC") true⟩ := by
  have hp : ∀ p ∈ mixedImport, p.Fits CommandName.importNotebook.grammar := by decide +kernel
  exact ⟨hp, (ofWords_arranged .importNotebook mixedImport hp (by decide)).1⟩

/-- Not every value behind a `=` is kept as a text: that of a separator is not. -/
theorem Invocation.not_forall_arranged :
    ¬ ∀ (name : CommandName) (pieces : List Piece), (∀ p ∈ pieces, p.Fits name.grammar) →
      (pieces.filterMap Piece.operand?).length = name.grammar.operands.length →
        Invocation.ofWords (name.word :: pieces.flatMap Piece.words) =
          .ok ⟨.text "WARNING", Command.arranged pieces .text name⟩ := by
  intro hall
  have htext := hall .exportNotebook [.operand "/a", .joined outputOption "--output" "--"]
    (by decide +kernel) (by decide)
  have hread : (Invocation.ofWords ["export", "/a", "--output=--"]).toOption =
      some ⟨.text "WARNING", .exportNotebook "/a" (.text "SOURCE") (some .textless)⟩ := by
    decide +kernel
  rw [toOption_eq_some_iff] at hread
  cases hread.symm.trans htext

end Workspace.Cli
