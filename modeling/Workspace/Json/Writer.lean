/-
# Writing JSON

A value has two written forms.

* `compact` is what a request body carries: no white space, and every character that JSON allows
  stands for itself.  It refuses the numbers that JSON has no form for.
* `indented` is what the command line prints: two spaces for each level, ASCII only, and the
  words `NaN`, `Infinity` and `-Infinity` for the numbers without digits.

Both write the members of an object in their order.
-/
import Workspace.Json.Basic
import Workspace.Number.Notation
import Workspace.Text.Hex
import Workspace.Text.Surrogate
namespace Workspace.Json

/-! ## 1. Strings and numbers -/

/-- The escape of one letter for a character, if it has one. -/
def shortEscape? (c : Char) : Option Char :=
  match c with
  | '"' => some '"'
  | '\\' => some '\\'
  | '\x08' => some 'b'
  | '\x0c' => some 'f'
  | '\n' => some 'n'
  | '\r' => some 'r'
  | '\t' => some 't'
  | _ => none

/-- The escape of a unit of sixteen bits. -/
def unitEscape (u : Nat) : List Char := '\\' :: 'u' :: Text.Hex.digits 4 u

/-- A character of a string, where only the mark, the backslash and the controls are escaped. -/
def escapeControls (c : Char) : List Char :=
  match shortEscape? c with
  | some letter => ['\\', letter]
  | none => if c.toNat < 0x20 then unitEscape c.toNat else [c]

/-- A character of a string, where all but printable ASCII is escaped. -/
def escapeToAscii (c : Char) : List Char :=
  match shortEscape? c with
  | some letter => ['\\', letter]
  | none =>
    if 0x20 ≤ c.toNat ∧ c.toNat < 0x7F then [c]
    else if c.toNat < 0x10000 then unitEscape c.toNat
    else
      let (high, low) := Text.Surrogate.split c
      unitEscape high ++ unitEscape low

/-- A string between its marks, each character written by `escape`. -/
def quoted (escape : Char → List Char) (s : String) : List Char :=
  '"' :: s.toList.flatMap escape ++ ['"']

/-- The names of the numbers without digits. -/
def numberNames : Binary64.SpecialNames := ⟨"NaN", "Infinity"⟩

/-- The decimal digits of an integer, after its sign. -/
def intChars : Int → List Char
  | .ofNat n => Nat.toDigits 10 n
  | .negSucc n => '-' :: Nat.toDigits 10 (n + 1)

/-- The words for the two truth values. -/
def boolChars (b : Bool) : List Char := if b then "true".toList else "false".toList

/-! ## 2. The compact form -/

mutual

/-- Does every number in a value have digits? -/
def allFinite : Json → Bool
  | number x => x.isFinite
  | array items => allFiniteItems items
  | object members => allFiniteMembers members
  | _ => true

/-- Does every number in the items have digits? -/
def allFiniteItems : List Json → Bool
  | [] => true
  | v :: rest => allFinite v && allFiniteItems rest

/-- Does every number in the members have digits? -/
def allFiniteMembers : List (String × Json) → Bool
  | [] => true
  | (_, v) :: rest => allFinite v && allFiniteMembers rest

end

mutual

/-- The characters of a value without white space. -/
def compactChars : Json → List Char
  | null => "null".toList
  | bool b => boolChars b
  | int n => intChars n
  | number x => x.chars numberNames
  | string s => quoted escapeControls s
  | array items => '[' :: compactItems items ++ [']']
  | object members => '{' :: compactMembers members ++ ['}']

/-- The items of an array, separated by commas. -/
def compactItems : List Json → List Char
  | [] => []
  | [v] => compactChars v
  | v :: rest => compactChars v ++ ',' :: compactItems rest

/-- The members of an object, separated by commas. -/
def compactMembers : List (String × Json) → List Char
  | [] => []
  | [(k, v)] => quoted escapeControls k ++ ':' :: compactChars v
  | (k, v) :: rest =>
    quoted escapeControls k ++ ':' :: (compactChars v ++ ',' :: compactMembers rest)

end

/-- The compact text of a value, `none` if it holds a number without digits. -/
def compact? (v : Json) : Option String :=
  if v.allFinite then some (String.ofList v.compactChars) else none

/-! ## 3. The indented form -/

/-- A line break and the spaces of a level. -/
def newline (level : Nat) : List Char := '\n' :: List.replicate (2 * level) ' '

mutual

/-- The characters of a value whose inner lines stand one level below `level`. -/
def indentedChars (level : Nat) : Json → List Char
  | null => "null".toList
  | bool b => boolChars b
  | int n => intChars n
  | number x => x.chars numberNames
  | string s => quoted escapeToAscii s
  | array [] => ['[', ']']
  | array items => '[' :: (indentedItems (level + 1) items ++ (newline level ++ [']']))
  | object [] => ['{', '}']
  | object members =>
    '{' :: (indentedMembers (level + 1) members ++ (newline level ++ ['}']))

/-- The items of an array, each on lines of its own. -/
def indentedItems (level : Nat) : List Json → List Char
  | [] => []
  | [v] => newline level ++ indentedChars level v
  | v :: rest => newline level ++ (indentedChars level v ++ ',' :: indentedItems level rest)

/-- The members of an object, each on lines of its own. -/
def indentedMembers (level : Nat) : List (String × Json) → List Char
  | [] => []
  | [(k, v)] =>
    newline level ++ (quoted escapeToAscii k ++ ':' :: ' ' :: indentedChars level v)
  | (k, v) :: rest =>
    newline level ++ (quoted escapeToAscii k ++
      ':' :: ' ' :: (indentedChars level v ++ ',' :: indentedMembers level rest))

end

/-- The indented text of a value. -/
def indented (v : Json) : String := String.ofList (v.indentedChars 0)

end Workspace.Json
