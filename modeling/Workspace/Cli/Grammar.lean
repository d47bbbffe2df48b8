/-
# Command-line grammars

A grammar says which options and which operands a command takes.  Before anything else the words
of a command line are sorted by what they can be (`Grammar.tokens`):

* a word is an operand if it is empty, is a single `-`, or does not start with `-`;
* a word is an option if it is spelled in full, alone or with `=` and a text after it;
* a long option may be cut short as long as one option alone fits, and a short option may be
  followed at once by a text;
* a negative number, and a word with a space, is an operand after all, and any other word is an
  option that the grammar does not know;
* the first `--` separates: every word after it is an operand.
-/
import Workspace.Text.Blank
import Workspace.Text.Digit
import Workspace.Text.Quoted
namespace Workspace.Cli

/-! ## 1. Grammars -/

/-- What an option is for. -/
inductive Purpose
  /-- It asks for the help text. -/
  | help
  /-- It is given or not. -/
  | flag
  /-- It takes any text. -/
  | text
  /-- It takes one of the listed texts. -/
  | choice (choices : List String)
  deriving DecidableEq, Repr

/-- An option: its spellings, and what it is for. -/
structure Opt where
  spellings : List String
  purpose : Purpose
  deriving DecidableEq, Repr

/-- The words and the texts of a command. -/
structure Grammar where
  /-- The words that start the command. -/
  program : String
  /-- The names of the operands. -/
  operands : List String
  options : List Opt
  /-- How the command is used, in one line or a few. -/
  usage : String
  /-- What the help text says after that. -/
  manual : String
  deriving DecidableEq, Repr

/-- What is wrong with a command line. -/
inductive UsageError
  /-- A word can be the start of several options. -/
  | ambiguous (word : String) (spellings : List String)
  /-- An option without value was given one. -/
  | ignoredText (option : Opt) (text : String)
  /-- The value of an option is missing. -/
  | expectedText (option : Opt)
  /-- A text is none of the choices for the argument with the label. -/
  | invalidChoice (label text : String) (choices : List String)
  /-- Operands are missing. -/
  | missing (names : List String)
  /-- Words have no place. -/
  | unrecognized (words : List String)
  deriving DecidableEq, Repr

/-- How messages call an option: by all of its spellings. -/
def Opt.label (o : Opt) : String := "/".intercalate o.spellings

/-- Does a value belong to the option? -/
def Opt.takesText (o : Opt) : Bool :=
  match o.purpose with
  | .help | .flag => false
  | .text | .choice _ => true

/-- The words for what is wrong. -/
def UsageError.message : UsageError → String
  | ambiguous word spellings =>
    "ambiguous option: " ++ word ++ " could match " ++ ", ".intercalate spellings
  | ignoredText option text =>
    "argument " ++ option.label ++ ": ignored explicit argument " ++ Text.Quoted.text text
  | expectedText option => "argument " ++ option.label ++ ": expected one argument"
  | invalidChoice label text choices =>
    "argument " ++ label ++ ": invalid choice: " ++ Text.Quoted.text text ++ " (choose from " ++
      ", ".intercalate (choices.map Text.Quoted.text) ++ ")"
  | missing names => "the following arguments are required: " ++ ", ".intercalate names
  | unrecognized words => "unrecognized arguments: " ++ " ".intercalate words

/-! ## 2. What a word can be -/

/-- The role of a word. -/
inductive Role
  | operand
  /-- The spelling of an option, and the text that is attached to it. -/
  | option (o : Opt) (long : Bool) (attached : Option String)
  /-- An option that the grammar does not know. -/
  | unknown
  | separator
  deriving DecidableEq, Repr

/-- A word and its role. -/
structure Token where
  word : String
  role : Role
  deriving DecidableEq, Repr

/-- The word that separates options from operands. -/
def separatorWord : String := "--"

/-- Does the word look like an option in the long style? -/
def isLong (word : String) : Bool := word.startsWith "--"

/-- The part of a word before the first `=`, and the part after it if there is a `=`. -/
def splitAtEquals (word : String) : String × Option String :=
  let cs := word.toList
  let head := cs.takeWhile (· != '=')
  match cs.dropWhile (· != '=') with
  | [] => (word, none)
  | _ :: text => (String.ofList head, some (String.ofList text))

/-- Is every character a decimal digit, and is there one? -/
def allDigits (cs : List Char) : Bool :=
  !cs.isEmpty && cs.all fun c => (Text.digitValue? c).isSome

/-- Is the word a negative number in digits, with or without a point?  A line feed may end it. -/
def isNegativeNumber (word : String) : Bool :=
  match word.toList with
  | '-' :: cs =>
    let cs := if cs.getLast? = some '\n' then cs.dropLast else cs
    let whole := cs.takeWhile fun c => (Text.digitValue? c).isSome
    match cs.dropWhile fun c => (Text.digitValue? c).isSome with
    | [] => !whole.isEmpty
    | '.' :: fraction => allDigits fraction
    | _ => false
  | _ => false

namespace Grammar

/-- Every spelling with its option, in order. -/
def spellings (g : Grammar) : List (String × Opt) :=
  g.options.flatMap fun o => o.spellings.map fun s => (s, o)

/-- The option with the given spelling. -/
def option? (g : Grammar) (spelling : String) : Option Opt := g.spellings.lookup spelling

/-- The options that a word can mean if it spells none in full. -/
def candidates (g : Grammar) (word : String) : List (String × Role) :=
  if isLong word then
    let (start, text) := splitAtEquals word
    (g.spellings.filter fun (s, _) => s.startsWith start).map fun (s, o) =>
      (s, .option o true text)
  else
    let cs := word.toList
    let short := String.ofList (cs.take 2)
    (g.spellings.filter fun (s, _) => s == short).map fun (s, o) =>
      (s, .option o false (some (String.ofList (cs.drop 2))))

/-- The role of a word that spells no option in full. -/
def roleOfOther (g : Grammar) (word : String) : Except UsageError Role :=
  match g.candidates word with
  | [] =>
    .ok (if isNegativeNumber word || word.toList.contains ' ' then .operand else .unknown)
  | [(_, role)] => .ok role
  | several => .error (.ambiguous word (several.map Prod.fst))

/-- The role of a word before the separator. -/
def roleOf (g : Grammar) (word : String) : Except UsageError Role :=
  if !word.startsWith "-" || word == "-" then .ok .operand
  else
    match g.option? word with
    | some o => .ok (.option o (isLong word) none)
    | none =>
      match splitAtEquals word with
      | (spelling, some text) =>
        match g.option? spelling with
        | some o => .ok (.option o (isLong spelling) (some text))
        | none => g.roleOfOther word
      | (_, none) => g.roleOfOther word

/-- The words of a command line with their roles. -/
def tokens (g : Grammar) : List String → Except UsageError (List Token)
  | [] => .ok []
  | word :: rest =>
    if word = separatorWord then
      .ok (⟨word, .separator⟩ :: rest.map fun w => ⟨w, .operand⟩)
    else
      match g.roleOf word with
      | .error e => .error e
      | .ok role => (g.tokens rest).map fun ts => ⟨word, role⟩ :: ts

end Grammar

end Workspace.Cli
