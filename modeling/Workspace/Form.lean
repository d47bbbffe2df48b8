/-
# Form encoding

The query of a URL is a list of pairs of texts, written `k=v&k=v`.  Each text is encoded by its
UTF-8 bytes: a letter, a digit or one of `_ . - ~` stands for itself, the space becomes `+`, and
every other byte a percent sign with two hexadecimal digits.  So neither `&` nor `=` occurs in an
encoded text, and the pairs can be told apart.
-/
import Workspace.Bytes.Utf8
import Workspace.Text.Hex
namespace Workspace.Form

/-- A byte that stands for itself in an encoded text. -/
def isUnreserved (b : UInt8) : Bool :=
  let c := Char.ofNat b.toNat
  c.isAlphanum || c == '_' || c == '.' || c == '-' || c == '~'

/-- The encoding of one byte. -/
def encodeByte (b : UInt8) : List Char :=
  if isUnreserved b then [Char.ofNat b.toNat]
  else if b = 0x20 then ['+']
  else '%' :: Text.Hex.upperDigits b

/-- The encoding of a text. -/
def encodeText (cs : List Char) : List Char := (Utf8.encode cs).flatMap encodeByte

/-- The encoding of one pair. -/
def encodePair (pair : String × String) : List Char :=
  encodeText pair.1.toList ++ '=' :: encodeText pair.2.toList

/-- The encoding of a list of pairs, in order. -/
def encodeChars : List (String × String) → List Char
  | [] => []
  | [pair] => encodePair pair
  | pair :: rest => encodePair pair ++ '&' :: encodeChars rest

/-- The query text of a list of pairs. -/
def encode (pairs : List (String × String)) : String := String.ofList (encodeChars pairs)

end Workspace.Form
