/-
# Reading a command line

The tokens of a command line are read from left to right by `State.advance`, one at a time.  The
state holds what was found: the operands, the options in the order in which they were given, and
the words that have no place.

* Options may stand between operands, and be given again.
* The value of an option is the text attached to it, or else the next word, which must be an
  operand.
* Short options without value may share one word.  They count once the word was read to its end.
* A separator belongs to the operand before it, or else to the operand after it.  An operand that
  is itself spelled `--` has no text unless a separator before it belongs to it, and neither has
  an option whose value is spelled `--`.
* Help is shown, and a bad value refused, as soon as it is found.
-/
import Workspace.Cli.Grammar
namespace Workspace.Cli

/-- What stands in the place of a text. -/
inductive Argument
  | text (s : String)
  /-- A separator, which has no text. -/
  | textless
  deriving DecidableEq, Repr

namespace Argument

/-- The argument that a word makes. -/
def ofWord (word : String) : Argument :=
  if word = separatorWord then textless else text word

/-- The text of an argument. -/
def text? : Argument → Option String
  | text s => some s
  | textless => none

end Argument

/-- How a program ends on account of its command line alone. -/
inductive Exit
  /-- The help text was asked for. -/
  | help (g : Grammar)
  | refused (g : Grammar) (e : UsageError)
  deriving DecidableEq, Repr

namespace Exit

/-- The exit code. -/
def code : Exit → Nat
  | help _ => 0
  | refused _ _ => 2

/-- The text on the standard output. -/
def output : Exit → String
  | help g => g.usage ++ "\n" ++ g.manual
  | refused _ _ => ""

/-- The text on the error output. -/
def errors : Exit → String
  | help _ => ""
  | refused g e => g.usage ++ g.program ++ ": error: " ++ e.message ++ "\n"

end Exit

/-- An option that was given, with its value if it takes one. -/
structure Given where
  option : Opt
  value : Option Argument
  deriving DecidableEq, Repr

/-- What was found in a command line. -/
structure Reading where
  operands : List Argument
  given : List Given
  /-- The words that have no place. -/
  extras : List String
  deriving DecidableEq, Repr

namespace Reading

/-- Nothing was found yet. -/
def empty : Reading := ⟨[], [], []⟩

/-- Was the option with the spelling given? -/
def isGiven (r : Reading) (spelling : String) : Bool :=
  r.given.any fun x => x.option.spellings.contains spelling

/-- The value that was given last for the option with the spelling. -/
def value? (r : Reading) (spelling : String) : Option Argument :=
  (r.given.reverse.find? fun x => x.option.spellings.contains spelling).bind Given.value

end Reading

/-- The options of a word whose last one still waits for its value. -/
structure Waiting where
  before : List Given
  option : Opt
  deriving DecidableEq, Repr

/-- Where reading stands. -/
structure State where
  found : Reading
  waiting : Option Waiting
  /-- Was the last token an operand that had a place? -/
  afterOperand : Bool
  /-- Does a separator belong to the next operand? -/
  separated : Bool
  deriving DecidableEq, Repr

/-- The state before the first token. -/
def State.start : State := ⟨.empty, none, false, false⟩

/-! ## 1. The options in one word -/

/-- The options in a word: the short option `o`, and the characters after it.  The first part
holds those that are complete, the second the one that waits for its value. -/
def cluster (g : Grammar) (o : Opt) : List Char → Except UsageError (List Given × Option Opt)
  | [] => .ok (if o.takesText then ([], some o) else ([⟨o, none⟩], none))
  | c :: cs =>
    if o.takesText then
      .ok ([⟨o, some (.ofWord (String.ofList (c :: cs)))⟩], none)
    else
      match g.option? (String.ofList ['-', c]) with
      | none => .error (.ignoredText o (String.ofList (c :: cs)))
      | some next => (cluster g next cs).map fun (given, last) => (⟨o, none⟩ :: given, last)

/-- The options in a word that starts with the option `o` and the text attached to it. -/
def optionsOf (g : Grammar) (o : Opt) (long : Bool) :
    Option String → Except UsageError (List Given × Option Opt)
  | none => cluster g o []
  | some text =>
    if o.takesText then .ok ([⟨o, some (.ofWord text)⟩], none)
    else if long || text.isEmpty then .error (.ignoredText o text)
    else cluster g o text.toList

/-! ## 2. One token after the other -/

namespace State

/-- Is there an operand left to be found? -/
def wantsOperand (g : Grammar) (s : State) : Bool := s.found.operands.length < g.operands.length

/-- Take up an option. -/
def give (g : Grammar) (s : State) (x : Given) : Except Exit State :=
  let taken : State :=
    { s with found := { s.found with given := s.found.given ++ [x] }, afterOperand := false }
  match x.option.purpose, x.value with
  | .help, _ => .error (.help g)
  | .choice choices, some (.text text) =>
    if text ∈ choices then .ok taken
    else .error (.refused g (.invalidChoice x.option.label text choices))
  | _, _ => .ok taken

/-- Take up options in turn. -/
def giveAll (g : Grammar) : List Given → State → Except Exit State
  | [], s => .ok s
  | x :: rest, s =>
    match s.give g x with
    | .error exit => .error exit
    | .ok s => giveAll g rest s

/-- Put a word aside that has no place. -/
def putAside (s : State) (word : String) : State :=
  { s with
    found := { s.found with extras := s.found.extras ++ [word] }
    afterOperand := false }

/-- Take up an operand. -/
def takeOperand (g : Grammar) (s : State) (word : String) : State :=
  if s.wantsOperand g then
    -- a separator behind a separator is an operand like any other word
    let argument := if s.separated then .text word else .ofWord word
    { s with
      found := { s.found with operands := s.found.operands ++ [argument] }
      afterOperand := true
      separated := false }
  else s.putAside word

/-- Take up a separator, which may be the last token. -/
def separate (g : Grammar) (s : State) (last : Bool) : State :=
  if s.afterOperand then { s with afterOperand := false }
  else if !last && s.wantsOperand g then { s with separated := true }
  else s.putAside separatorWord

/-- Take up the options of a word. -/
def takeOptions (g : Grammar) (s : State) (o : Opt) (long : Bool) (attached : Option String) :
    Except Exit State :=
  match optionsOf g o long attached with
  | .error e => .error (.refused g e)
  | .ok (given, none) => giveAll g given s
  | .ok (given, some o) => .ok { s with waiting := some ⟨given, o⟩ }

/-- Take up a token, which may be the last one. -/
def advance (g : Grammar) (s : State) (t : Token) (last : Bool) : Except Exit State :=
  match s.waiting, t.role with
  | some w, .operand =>
    giveAll g (w.before ++ [⟨w.option, some (.ofWord t.word)⟩]) { s with waiting := none }
  | some w, _ => .error (.refused g (.expectedText w.option))
  | none, .operand => .ok (s.takeOperand g t.word)
  | none, .separator => .ok (s.separate g last)
  | none, .unknown => .ok (s.putAside t.word)
  | none, .option o long attached => s.takeOptions g o long attached

/-- What was found when the tokens are used up: every operand must be there. -/
def finish (g : Grammar) (s : State) : Except Exit Reading :=
  match s.waiting with
  | some w => .error (.refused g (.expectedText w.option))
  | none =>
    match g.operands.drop s.found.operands.length with
    | [] => .ok s.found
    | names => .error (.refused g (.missing names))

/-- Take up tokens in turn. -/
def run (g : Grammar) (s : State) : List Token → Except Exit Reading
  | [] => s.finish g
  | t :: rest =>
    match s.advance g t rest.isEmpty with
    | .error exit => .error exit
    | .ok s => s.run g rest

/-- Take up tokens until an operand comes; return it, and the words after it as they are.  A
separator before the operand counts as the operand. -/
def runToOperand (g : Grammar) (s : State) :
    List Token → Except Exit (Reading × String × List String)
  | [] =>
    .error (.refused g
      (match s.waiting with
      | some w => .expectedText w.option
      | none => .missing g.operands))
  | t :: rest =>
    if s.waiting.isNone && (t.role = .operand || t.role = .separator && !rest.isEmpty) then
      .ok (s.found, t.word, rest.map Token.word)
    else
      match s.advance g t rest.isEmpty with
      | .error exit => .error exit
      | .ok s => s.runToOperand g rest

end State

namespace Grammar

/-- Read the words of a command. -/
def read (g : Grammar) (words : List String) : Except Exit Reading :=
  match g.tokens words with
  | .error e => .error (.refused g e)
  | .ok tokens => State.start.run g tokens

/-- Read the words of a command up to its first operand, which is returned with the words after
it. -/
def readToOperand (g : Grammar) (words : List String) :
    Except Exit (Reading × String × List String) :=
  match g.tokens words with
  | .error e => .error (.refused g e)
  | .ok tokens => State.start.runToOperand g tokens

end Grammar

end Workspace.Cli
