/-
# Quoted text

Log lines and error messages show a text between quotation marks, so that its edges are visible
and nothing in it can break the line.

* The mark is `'`, or `"` for a text that holds a `'` and no `"` (`mark`).
* The mark and the backslash are written after a backslash; tab, line feed and carriage return
  as `\t`, `\n`, `\r`; any other character that is not printable by its code point, with two,
  four or eight hexadecimal digits (`escape`).
* Every other character stands for itself.
-/
import Workspace.Text.Hex
import Workspace.Text.Printable
namespace Workspace.Text.Quoted

/-- The quotation mark of a text: `"` if that saves escapes, else `'`. -/
def mark (cs : List Char) : Char :=
  if cs.contains '\x27' && !cs.contains '"' then '"' else '\x27'

/-- A character by its code point, with as many digits as the next of the widths two, four and
eight asks for. -/
def byCode (c : Char) : List Char :=
  let n := c.toNat
  if n < 0x100 then '\\' :: 'x' :: Hex.digits 2 n
  else if n < 0x10000 then '\\' :: 'u' :: Hex.digits 4 n
  else '\\' :: 'U' :: Hex.digits 8 n

/-- A character as it is written between two marks `q`. -/
def escape (q c : Char) : List Char :=
  if c = q ∨ c = '\\' then ['\\', c]
  else if c = '\t' then ['\\', 't']
  else if c = '\n' then ['\\', 'n']
  else if c = '\r' then ['\\', 'r']
  else if isPrintable c then [c]
  else byCode c

/-- The characters of a text between quotation marks. -/
def encode (cs : List Char) : List Char :=
  let q := mark cs
  q :: cs.flatMap (escape q) ++ [q]

/-- The text between quotation marks. -/
def text (s : String) : String := String.ofList (encode s.toList)

end Workspace.Text.Quoted
