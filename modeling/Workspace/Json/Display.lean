/-
# Values in messages

A message shows a value in a form of its own: the words `None`, `True` and `False`, strings
between quotation marks, and blanks after commas and colons.  `shown` writes every string with
its marks; `plain` is the text of a value that stands alone, where a string stands for itself.
-/
import Workspace.Json.Writer
import Workspace.Text.Quoted
namespace Workspace.Json

mutual

/-- The characters of a value, with every string between marks. -/
def shownChars : Json → List Char
  | null => "None".toList
  | bool b => if b then "True".toList else "False".toList
  | int n => intChars n
  | number x => x.chars Binary64.plainNames
  | string s => Text.Quoted.encode s.toList
  | array items => '[' :: shownItems items ++ [']']
  | object members => '{' :: shownMembers members ++ ['}']

/-- The items of an array, separated by a comma and a blank. -/
def shownItems : List Json → List Char
  | [] => []
  | [v] => shownChars v
  | v :: rest => shownChars v ++ ',' :: ' ' :: shownItems rest

/-- The members of an object, separated by a comma and a blank. -/
def shownMembers : List (String × Json) → List Char
  | [] => []
  | [(k, v)] => Text.Quoted.encode k.toList ++ ':' :: ' ' :: shownChars v
  | (k, v) :: rest =>
    Text.Quoted.encode k.toList ++ ':' :: ' ' :: shownChars v ++ ',' :: ' ' :: shownMembers rest

end

/-- The text of a value, with every string between marks. -/
def shown (v : Json) : String := String.ofList v.shownChars

/-- The text of a value, where a string stands for itself. -/
def plain : Json → String
  | string s => s
  | v => v.shown

end Workspace.Json
