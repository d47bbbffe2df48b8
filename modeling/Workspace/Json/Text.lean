/-
# Reading JSON from a string or from bytes

A string is read as it is.  Bytes are decoded first: a byte-order mark names the encoding, and
without one the places of the zero bytes among the first four do.

`ReadError` is what can go wrong, and `ReadError.message` is its text: a fault is placed by line,
column and offset, all counted in characters of the decoded text.
-/
import Workspace.Bytes.Utf8
import Workspace.Bytes.Wide
import Workspace.Json.Reader
namespace Workspace

namespace Undecodable

/-- The text that reports a place which does not decode: one byte by its value, several by their
offsets. -/
def message (u : Undecodable) : String :=
  if u.stop = u.start + 1 then
    s!"'{u.codec}' codec can't decode byte 0x" ++ String.ofList (Text.Hex.digits 2 u.first.toNat) ++
      s!" in position {u.start}: {u.reason}"
  else
    s!"'{u.codec}' codec can't decode bytes in position {u.start}-{u.stop - 1}: {u.reason}"

end Undecodable

namespace Json

/-! ## 1. Places and errors -/

/-- A place in a text: its offset, its line and its column, the last two counted from one. -/
structure Place where
  offset : Nat
  line : Nat
  column : Nat
  deriving DecidableEq, Repr

/-- The place in `text` where the part `rest` of it starts. -/
def Place.of (text rest : List Char) : Place :=
  let offset := text.length - rest.length
  let before := text.take offset
  ⟨offset, before.count '\n' + 1, (before.reverse.takeWhile (· != '\n')).length + 1⟩

/-- Why a text or a body is no JSON value. -/
inductive ReadError
  | malformed (reason : Reader.Reason) (place : Place)
  | tooManyDigits (count : Nat)
  | undecodable (place : Undecodable)
  deriving DecidableEq, Repr

/-- The text of an error. -/
def ReadError.message : ReadError → String
  | .malformed reason place =>
    s!"{reason.text}: line {place.line} column {place.column} (char {place.offset})"
  | .tooManyDigits count =>
    s!"Exceeds the limit ({Reader.maxDigits} digits) for integer string conversion: value has " ++
      s!"{count} digits; use sys.set_int_max_str_digits() to increase the limit"
  | .undecodable place => place.message

/-- The error for a fault in `text`. -/
def ReadError.ofFault (text : List Char) : Reader.Fault → ReadError
  | .malformed reason rest => .malformed reason (.of text rest)
  | .tooManyDigits count => .tooManyDigits count

/-! ## 2. Reading -/

/-- The value of a sequence of characters. -/
def ofChars (cs : List Char) : Except ReadError Json :=
  match Reader.parse cs with
  | .ok v => .ok v
  | .error fault => .error (.ofFault cs fault)

/-- The value of a string, which must not start with a byte-order mark. -/
def ofString (s : String) : Except ReadError Json :=
  let cs := s.toList
  if cs.head? = some '\uFEFF' then .error (.ofFault cs (.malformed .byteOrderMark cs))
  else ofChars cs

/-- The characters of a body without a byte-order mark, in the encoding that the zero bytes at its
start show. -/
def decodeUnmarked (bytes : Bytes) : Except Undecodable (List Char) :=
  match bytes with
  | a :: b :: c :: d :: _ =>
    if a = 0 then
      if b = 0 then Wide.decode32 .big 0 [] bytes else Wide.decode16 .big 0 {} bytes
    else if b = 0 then
      if c = 0 ∧ d = 0 then Wide.decode32 .little 0 [] bytes
      else Wide.decode16 .little 0 {} bytes
    else Utf8.decode bytes
  | [a, b] =>
    if a = 0 then Wide.decode16 .big 0 {} bytes
    else if b = 0 then Wide.decode16 .little 0 {} bytes
    else Utf8.decode bytes
  | _ => Utf8.decode bytes

/-- The characters of a body, in the encoding that its first bytes show. -/
def decodeBytes (bytes : Bytes) : Except Undecodable (List Char) :=
  if [0x00, 0x00, 0xFE, 0xFF].isPrefixOf bytes then Wide.decode32 .big 4 [] (bytes.drop 4)
  else if [0xFF, 0xFE, 0x00, 0x00].isPrefixOf bytes then Wide.decode32 .little 4 [] (bytes.drop 4)
  else if [0xFE, 0xFF].isPrefixOf bytes then Wide.decode16 .big 2 {} (bytes.drop 2)
  else if [0xFF, 0xFE].isPrefixOf bytes then Wide.decode16 .little 2 {} (bytes.drop 2)
  else if [0xEF, 0xBB, 0xBF].isPrefixOf bytes then Utf8.decode (bytes.drop 3)
  else decodeUnmarked bytes

/-- The value of a body. -/
def ofBytes (bytes : Bytes) : Except ReadError Json :=
  match decodeBytes bytes with
  | .ok cs => ofChars cs
  | .error place => .error (.undecodable place)

end Json

end Workspace
