/-
# Reading JSON

The reader takes the characters of a text and gives a value or the first fault.  A fault carries
the part of the text that starts where it was found, so that its place can be told as an offset,
a line and a column.

* Beyond the standard, the words `NaN`, `Infinity` and `-Infinity` are numbers.
* Of two members with one key the last value counts, at the place of the first.
* A number without fraction and exponent is an integer; one of more than 4300 digits is refused.
* A surrogate that is written as an escape is joined with its partner if that follows at once.

`value`, `members` and `elements` recurse on a bound for the characters left; `parse` sets it to
one more than the length of the text, and every call stands behind a character that was read.
-/
import Workspace.Json.Basic
import Workspace.Text.Hex
import Workspace.Text.Surrogate
namespace Workspace.Json.Reader

open Text.Surrogate (Units)

/-! ## 1. Faults -/

/-- What the reader missed, or found where it may not stand. -/
inductive Reason
  | expectingValue
  | expectingName
  | expectingColon
  | expectingComma
  | extraData
  | unterminatedString
  | controlCharacter
  | invalidEscape
  | invalidUnicodeEscape
  | byteOrderMark
  deriving DecidableEq, Repr

/-- The words for a reason. -/
def Reason.text : Reason → String
  | expectingValue => "Expecting value"
  | expectingName => "Expecting property name enclosed in double quotes"
  | expectingColon => "Expecting ':' delimiter"
  | expectingComma => "Expecting ',' delimiter"
  | extraData => "Extra data"
  | unterminatedString => "Unterminated string starting at"
  | controlCharacter => "Invalid control character at"
  | invalidEscape => "Invalid \\escape"
  | invalidUnicodeEscape => "Invalid \\uXXXX escape"
  | byteOrderMark => "Unexpected UTF-8 BOM (decode using utf-8-sig)"

/-- A fault: a reason and the text from the place on, or an integer with too many digits. -/
inductive Fault
  | malformed (reason : Reason) (rest : List Char)
  | tooManyDigits (count : Nat)
  deriving DecidableEq, Repr

/-- A value read off the front of a text, and the text after it. -/
abbrev Result (α : Type) := Except Fault (α × List Char)

/-! ## 2. Blanks, words and numbers -/

/-- White space between the parts of a value. -/
def isBlank (c : Char) : Bool := c == ' ' || c == '\t' || c == '\n' || c == '\r'

/-- The text without the white space at its front. -/
def skipBlanks (cs : List Char) : List Char := cs.dropWhile isBlank

/-- The values that are written as words. -/
def words : List (String × Json) :=
  [("null", null), ("true", bool true), ("false", bool false), ("NaN", number .nan),
    ("Infinity", number (.infinite false)), ("-Infinity", number (.infinite true))]

/-- The value of the word at the front of a text. -/
def word? (cs : List Char) : Option (Json × List Char) :=
  words.findSome? fun (word, value) =>
    if word.toList.isPrefixOf cs then some (value, cs.drop word.length) else none

/-- The most digits an integer may have. -/
def maxDigits : Nat := 4300

/-- The digits of a whole number at the front of a text: a zero alone, or a run that starts with
another digit. -/
def wholeDigits (cs : List Char) : List Char × List Char :=
  match cs with
  | '0' :: rest => (['0'], rest)
  | _ => (cs.takeWhile Char.isDigit, cs.dropWhile Char.isDigit)

/-- The digits after a point, if at least one follows it. -/
def fractionDigits (cs : List Char) : List Char × List Char :=
  match cs with
  | '.' :: d :: rest =>
    if d.isDigit then ((d :: rest).takeWhile Char.isDigit, (d :: rest).dropWhile Char.isDigit)
    else ([], cs)
  | _ => ([], cs)

/-- The exponent after `e` or `E`, if it has at least one digit. -/
def exponent? (cs : List Char) : Option (Int × List Char) :=
  let digits (sign : Int) (cs : List Char) : Option (Int × List Char) :=
    let ds := cs.takeWhile Char.isDigit
    if ds.isEmpty then none
    else some (sign * Nat.ofDigitChars 10 ds 0, cs.dropWhile Char.isDigit)
  match cs with
  | e :: rest =>
    if e = 'e' ∨ e = 'E' then
      match rest with
      | '-' :: rest => digits (-1) rest
      | '+' :: rest => digits 1 rest
      | rest => digits 1 rest
    else none
  | [] => none

/-- The number at the front of a text. -/
def numeral (cs : List Char) : Result Json :=
  let (negative, body) :=
    match cs with
    | '-' :: rest => (true, rest)
    | _ => (false, cs)
  let (whole, rest) := wholeDigits body
  if whole.isEmpty then .error (.malformed .expectingValue cs)
  else
    let (fraction, rest) := fractionDigits rest
    let mantissa := Nat.ofDigitChars 10 (whole ++ fraction) 0
    match exponent? rest with
    | some (e, rest) => .ok (number (.ofDecimal negative mantissa (e - fraction.length)), rest)
    | none =>
      if !fraction.isEmpty then .ok (number (.ofDecimal negative mantissa (-fraction.length)), rest)
      -- the limit is on integers alone: a number with a fraction is rounded anyway
      else if maxDigits < whole.length then .error (.tooManyDigits whole.length)
      else .ok (int (if negative then -(mantissa : Int) else mantissa), rest)

/-! ## 3. Strings -/

/-- The character of an escape of one letter. -/
def shortEscape? (c : Char) : Option Char :=
  match c with
  | '"' => some '"'
  | '\\' => some '\\'
  | '/' => some '/'
  | 'b' => some '\x08'
  | 'f' => some '\x0c'
  | 'n' => some '\n'
  | 'r' => some '\r'
  | 't' => some '\t'
  | _ => none

/-- The rest of a string up to its closing mark; `start` is the text from the opening mark on. -/
def stringBody (start : List Char) (units : Units) : List Char → Result String
  | [] => .error (.malformed .unterminatedString start)
  | c :: rest =>
    if c = '"' then .ok (String.ofList units.chars, rest)
    else if c = '\\' then
      match rest with
      | [] => .error (.malformed .unterminatedString start)
      | e :: after =>
        if e = 'u' then
          match after with
          | h₁ :: h₂ :: h₃ :: h₄ :: tail =>
            match Text.Hex.quad? h₁ h₂ h₃ h₄ with
            | some u =>
              -- four digits at the very end are refused as such, and not for the missing mark
              if tail.isEmpty then .error (.malformed .invalidUnicodeEscape rest)
              else stringBody start (units.pushUnit u) tail
            | none => .error (.malformed .invalidUnicodeEscape rest)
          | _ => .error (.malformed .invalidUnicodeEscape rest)
        else
          match shortEscape? e with
          | some plain => stringBody start (units.push plain) after
          | none => .error (.malformed .invalidEscape (c :: rest))
    else if c.toNat < 0x20 then .error (.malformed .controlCharacter (c :: rest))
    else stringBody start (units.push c) rest

/-! ## 4. Values -/

mutual

/-- The value at the front of a text. -/
def value : (bound : Nat) → List Char → Result Json
  | 0, cs => .error (.malformed .expectingValue cs)
  | bound + 1, cs =>
    match cs with
    | '"' :: rest =>
      match stringBody cs {} rest with
      | .ok (s, rest) => .ok (string s, rest)
      | .error fault => .error fault
    | '{' :: rest =>
      match skipBlanks rest with
      | '}' :: rest => .ok (object [], rest)
      | rest => members bound [] rest
    | '[' :: rest =>
      match skipBlanks rest with
      | ']' :: rest => .ok (array [], rest)
      | rest => elements bound [] rest
    | _ =>
      match word? cs with
      | some result => .ok result
      | none => numeral cs

/-- The members of an object from the next key on; `done` holds those before it. -/
def members : (bound : Nat) → Members → List Char → Result Json
  | 0, _, cs => .error (.malformed .expectingName cs)
  | bound + 1, done, cs =>
    match cs with
    | '"' :: rest =>
      match stringBody cs {} rest with
      | .error fault => .error fault
      | .ok (key, rest) =>
        match skipBlanks rest with
        | ':' :: rest =>
          match value bound (skipBlanks rest) with
          | .error fault => .error fault
          | .ok (v, rest) =>
            match skipBlanks rest with
            | '}' :: rest => .ok (object (done.put key v), rest)
            | ',' :: rest => members bound (done.put key v) (skipBlanks rest)
            | rest => .error (.malformed .expectingComma rest)
        | rest => .error (.malformed .expectingColon rest)
    | _ => .error (.malformed .expectingName cs)

/-- The items of an array from the next one on; `done` holds those before it, the last one
first. -/
def elements : (bound : Nat) → List Json → List Char → Result Json
  | 0, _, cs => .error (.malformed .expectingValue cs)
  | bound + 1, done, cs =>
    match value bound cs with
    | .error fault => .error fault
    | .ok (v, rest) =>
      match skipBlanks rest with
      | ']' :: rest => .ok (array (v :: done).reverse, rest)
      | ',' :: rest => elements bound (v :: done) (skipBlanks rest)
      | rest => .error (.malformed .expectingComma rest)

end

/-- The value of a whole text. -/
def parse (cs : List Char) : Except Fault Json :=
  match value (cs.length + 1) (skipBlanks cs) with
  | .error fault => .error fault
  | .ok (v, rest) =>
    match skipBlanks rest with
    | [] => .ok v
    | rest => .error (.malformed .extraData rest)

end Workspace.Json.Reader
