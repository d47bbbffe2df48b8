/-
# The decimal notation of numbers

The written form of a binary64 value is its shortest decimal, laid out by the rules of
`Notation`: positional while the point lies near the digits, with an exponent beyond.  A value
without a fraction keeps `.0`, so that it is told apart from an integer.

Reading goes the other way and is more liberal: `ofText?` accepts digits of any script, single
underscores between digits, blanks around the number, and the names of infinity and of the value
that is not a number.
-/
import Workspace.Number.Shortest
import Workspace.Text.Blank
import Workspace.Text.Digit
namespace Workspace.Binary64

/-! ## 1. Writing -/

/-- The words for the values that have no digits. -/
structure SpecialNames where
  nan : String
  infinity : String

/-- The names in messages. -/
def plainNames : SpecialNames := ⟨"nan", "inf"⟩

/-- The point may stand up to this many places after the first digit before an exponent is
written. -/
def positionalUpTo : Int := 16

/-- The point may stand less than this many places before the first digit before an exponent is
written. -/
def positionalFrom : Int := -4

/-- `n` zeros. -/
def zeros (n : Nat) : List Char := List.replicate n '0'

/-- The exponent part: a sign and at least two digits. -/
def exponentPart (x : Int) : List Char :=
  let ds := Nat.toDigits 10 x.natAbs
  'e' :: (if x < 0 then '-' else '+') :: (zeros (2 - ds.length) ++ ds)

/-- The digits `ds` with the point after `point` of them. -/
def layOut (ds : List Char) (point : Int) : List Char :=
  if positionalFrom < point ∧ point ≤ positionalUpTo then
    if point ≤ 0 then '0' :: '.' :: (zeros (-point).toNat ++ ds)
    else
      let whole := point.toNat
      if ds.length ≤ whole then ds ++ zeros (whole - ds.length) ++ ['.', '0']
      else ds.take whole ++ '.' :: ds.drop whole
  else
    match ds with
    | [] => []
    | [d] => d :: exponentPart (point - 1)
    | d :: ds => d :: '.' :: (ds ++ exponentPart (point - 1))

/-- The characters of a positive decimal. -/
def Decimal.chars (d : Decimal) : List Char :=
  let ds := Nat.toDigits 10 d.digits
  layOut (Text.dropEndWhile (· == '0') ds) (ds.length + d.exponent)

/-- The characters of a value, with the given names for the values without digits. -/
def chars (names : SpecialNames) : Binary64 → List Char
  | nan => names.nan.toList
  | infinite negative => (if negative then ['-'] else []) ++ names.infinity.toList
  | finite negative m e =>
    (if negative then ['-'] else []) ++
      (if m = 0 then ['0', '.', '0'] else (shortest m e).chars)

/-- The text of a value in messages. -/
def text (x : Binary64) : String := String.ofList (x.chars plainNames)

/-! ## 2. Reading -/

/-- A blank around a number.  The four ASCII separators do not count here. -/
def isEdge (c : Char) : Bool := Text.isBlank c && !(28 ≤ c.toNat && c.toNat ≤ 31)

/-- The character with a digit of any script replaced by the ASCII digit of its value. -/
def plainDigit (c : Char) : Char :=
  match Text.digitValue? c with
  | some v => Nat.digitChar v
  | none => c

/-- The characters without the underscores, if each stands between two digits; `afterDigit` tells
whether the character before was a digit. -/
def dropUnderscores? (afterDigit : Bool) : List Char → Option (List Char)
  | [] => some []
  | '_' :: c :: rest =>
    if afterDigit && c.isDigit then (dropUnderscores? true rest).map (c :: ·) else none
  | ['_'] => none
  | c :: rest => (dropUnderscores? c.isDigit rest).map (c :: ·)

/-- The value of an optional sign and digits; `none` if there are no digits or something
follows. -/
def signedInt? (cs : List Char) : Option Int :=
  let natural? (ds : List Char) : Option Nat :=
    if !ds.isEmpty && ds.all Char.isDigit then some (Nat.ofDigitChars 10 ds 0) else none
  match cs with
  | '-' :: ds => (natural? ds).map fun n => -(n : Int)
  | '+' :: ds => (natural? ds).map fun n => (n : Int)
  | ds => (natural? ds).map fun n => (n : Int)

/-- The value of a number without sign: digits with at most one point among them, and at least
one digit, then perhaps an exponent. -/
def unsigned? (negative : Bool) (cs : List Char) : Option Binary64 := do
  let whole := cs.takeWhile Char.isDigit
  let rest := cs.dropWhile Char.isDigit
  let (fraction, rest) :=
    match rest with
    | '.' :: rest => (rest.takeWhile Char.isDigit, rest.dropWhile Char.isDigit)
    | rest => ([], rest)
  if whole.isEmpty && fraction.isEmpty then none
  else
    let exponent ←
      match rest with
      | [] => some 0
      | e :: rest => if e = 'e' ∨ e = 'E' then signedInt? rest else none
    return ofDecimal negative (Nat.ofDigitChars 10 (whole ++ fraction) 0)
      (exponent - fraction.length)

/-- The value of a number without its sign, or of one of the names `inf`, `infinity` and `nan` in
any case. -/
def magnitude? (negative : Bool) (cs : List Char) : Option Binary64 :=
  let name := String.ofList (cs.map Char.toLower)
  if name = "inf" ∨ name = "infinity" then some (infinite negative)
  else if name = "nan" then some nan
  else unsigned? negative cs

/-- The characters of a number as it is read: without the blanks around it and without
underscores, its digits in ASCII. -/
def plainChars? (cs : List Char) : Option (List Char) :=
  dropUnderscores? false ((Text.dropEndWhile isEdge (cs.dropWhile isEdge)).map plainDigit)

/-- The value of a text that is a number. -/
def ofText? (s : String) : Option Binary64 := do
  match ← plainChars? s.toList with
  | '-' :: cs => magnitude? true cs
  | '+' :: cs => magnitude? false cs
  | cs => magnitude? false cs

end Workspace.Binary64
