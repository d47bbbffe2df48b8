/-
# Parameters of a header

A header value carries parameters, as in `text/plain; charset=latin-1`.

* Semicolons cut the value into pieces, except between quotation marks; a mark behind a backslash
  does not count, and a mark that is never closed takes the rest along.
* A piece is a name and a value around its first equals sign.  A piece without equals sign is a
  name with the empty value, and the first piece is read like all others.
* Quotation marks or angle brackets around a value are dropped.
* A long value may come in sections, `name*0=…; name*1=…`, in any order.  Sections whose name
  ends with a star hold percent signs with two digits, and then two ticks may set a character set
  and a language apart from the text.  What sections make up stands after all plain parameters.

Two things keep a header from being read (`Refusal`).  The sections of one name must all be numbered,
or none of them, or they cannot be put in order; and a number must not have too many digits.
-/
import Workspace.Json.Text
import Workspace.Text.Blank
import Workspace.Text.Hex
namespace Workspace.Http

/-- A parameter of a header. -/
structure Parameter where
  name : String
  value : String
  /-- The character set that was set apart from the value. -/
  charset : Option String
  deriving DecidableEq, Repr

namespace Parameter

/-! ## 1. Pieces -/

/-- The pieces of a header value.  `inside` tells whether a quotation mark is open, and `escaped`
whether the character before is a backslash. -/
def pieces (inside escaped : Bool) : List Char → List (List Char)
  | [] => [[]]
  | c :: rest =>
    if c = ';' ∧ inside = false then [] :: pieces false false rest
    else
      let inside := if c = '"' ∧ escaped = false then !inside else inside
      match pieces inside (c == '\\') rest with
      | [] => [[c]]
      | piece :: more => (c :: piece) :: more

/-- The parameter of a piece, its value as it is written.  A name in front of an equals sign is
read in lower case. -/
def ofPiece (piece : List Char) : Parameter :=
  match piece.dropWhile (· != '=') with
  | _ :: value =>
    let name := Text.trimChars (piece.takeWhile (· != '='))
    ⟨String.ofList (name.map Char.toLower), String.ofList (Text.trimChars value), none⟩
  | [] => ⟨String.ofList (Text.trimChars piece), "", none⟩

/-! ## 2. Marks around a value -/

/-- The characters without each backslash that stands in front of a `c`. -/
def dropBackslashes (c : Char) : List Char → List Char
  | [] => []
  | [d] => [d]
  | d :: e :: rest =>
    if d = '\\' ∧ e = c then c :: dropBackslashes c rest
    else d :: dropBackslashes c (e :: rest)

/-- The characters of a value without the marks around it, and without the backslashes that
escape a backslash or a quotation mark between two such marks. -/
def unquoteChars (cs : List Char) : List Char :=
  match cs with
  | '"' :: rest =>
    if rest.getLast? = some '"' then dropBackslashes '"' (dropBackslashes '\\' rest.dropLast)
    else cs
  | '<' :: rest => if rest.getLast? = some '>' then rest.dropLast else cs
  | _ => cs

/-- The parameter without the marks around its value. -/
def unquoted (p : Parameter) : Parameter :=
  { p with value := String.ofList (unquoteChars p.value.toList) }

/-! ## 3. Sections -/

/-- One section of a parameter. -/
structure Section where
  /-- The name of the parameter. -/
  name : String
  number : Option Nat
  value : String
  /-- Does the value hold percent signs for bytes? -/
  encoded : Bool
  deriving DecidableEq, Repr

/-- Why the parameters of a header cannot be read. -/
inductive Refusal
  /-- The sections of a parameter are numbered in part; has the first one a number? -/
  | mixed (firstNumbered : Bool)
  /-- A section has a number of so many digits. -/
  | longNumber (digits : Nat)
  deriving DecidableEq, Repr

/-- The text of a refusal. -/
def Refusal.text : Refusal → String
  | mixed true => "'<' not supported between instances of 'NoneType' and 'int'"
  | mixed false => "'<' not supported between instances of 'int' and 'NoneType'"
  | longNumber digits => (Json.ReadError.tooManyDigits digits).message

namespace Section

/-- A character in the name of a parameter with sections. -/
def isNameChar (c : Char) : Bool := c.isAlphanum || c == '_'

/-- The section that a parameter is by its name: the name of the whole, a star, perhaps a number,
and a star behind the number if the value is encoded. -/
def ofParameter? (p : Parameter) : Option Section :=
  let cs := p.name.toList
  let name := String.ofList (cs.takeWhile isNameChar)
  match cs.dropWhile isNameChar with
  | '*' :: tail =>
    let digits := tail.takeWhile Char.isDigit
    let number := if digits.isEmpty then none else some (Nat.ofDigitChars 10 digits 0)
    match tail.dropWhile Char.isDigit with
    | [] => if name.isEmpty then none else some ⟨name, number, p.value, digits.isEmpty⟩
    | ['*'] =>
      if name.isEmpty || digits.isEmpty then none else some ⟨name, number, p.value, true⟩
    | _ => none
  | _ => none

/-- Does a section stand at or before another one?  Equal numbers leave it to the values. -/
def le (a b : Section) : Bool :=
  let x := a.number.getD 0
  let y := b.number.getD 0
  if x = y then
    if a.value = b.value then !a.encoded || b.encoded else decide (a.value < b.value)
  else decide (x < y)

/-- The characters with each percent sign and the two digits behind it replaced by the character
with that code.  A percent sign without digits stays. -/
def percentDecode : List Char → List Char
  | [] => []
  | [c] => [c]
  | [c, d] => [c, d]
  | c :: d :: e :: rest =>
    match c == '%', Text.Hex.value? d, Text.Hex.value? e with
    | true, some x, some y => Char.ofNat (x * 16 + y) :: percentDecode rest
    | _, _, _ => c :: percentDecode (d :: e :: rest)

/-- The characters of a section. -/
def chars (s : Section) : List Char :=
  if s.encoded then percentDecode s.value.toList else s.value.toList

/-- The text behind the second tick, and the character set in front of the first one; the whole text
if there are fewer ticks. -/
def cutTicks (cs : List Char) : Option String × List Char :=
  match cs.dropWhile (· != '\x27') with
  | [] => (none, cs)
  | _ :: rest =>
    match rest.dropWhile (· != '\x27') with
    | [] => (none, cs)
    | _ :: text => (some (String.ofList (cs.takeWhile (· != '\x27'))), text)

/-- What keeps sections from being put in order. -/
def mixture? (sections : List Section) : Option Refusal :=
  match sections with
  | [] => none
  | s :: rest =>
    if rest.all fun t => t.number.isSome == s.number.isSome then none
    else some (.mixed s.number.isSome)

/-- The parameter that sections make up. -/
def join (name : String) (sections : List Section) : Except Refusal Parameter :=
  match mixture? sections with
  | some refusal => .error refusal
  | none =>
    let text := (sections.mergeSort le).flatMap chars
    let (charset, text) := if sections.any Section.encoded then cutTicks text else (none, text)
    .ok ⟨name, String.ofList text, charset⟩

end Section

/-! ## 4. The parameters of a header -/

/-- The digits of the number in the name of a section. -/
def numberDigits (p : Parameter) : List Char :=
  ((p.name.toList.dropWhile Section.isNameChar).drop 1).takeWhile Char.isDigit

/-- Is the parameter a section with a number that is too long? -/
def isTooLong (p : Parameter) : Bool :=
  (Section.ofParameter? p).isSome && Json.Reader.maxDigits < p.numberDigits.length

/-- The parameters of a header value.  The first piece is never a section. -/
def ofHeader (value : String) : Except Refusal (List Parameter) :=
  match (pieces false false value.toList).map fun piece => (ofPiece piece).unquoted with
  | [] => .ok []
  | first :: rest =>
    match rest.find? isTooLong with
    | some p => .error (.longNumber p.numberDigits.length)
    | none => do
      let plain := rest.filter fun p => (Section.ofParameter? p).isNone
      let sections := rest.filterMap Section.ofParameter?
      let names := (sections.map Section.name).eraseDups
      let joined ← names.mapM fun name => Section.join name (sections.filter (·.name == name))
      return first :: (plain ++ joined)

/-- The first parameter with a name, which may have any case. -/
def find? (name : String) (parameters : List Parameter) : Option Parameter :=
  parameters.find? fun p => p.name.toLower == name

end Parameter

end Workspace.Http
