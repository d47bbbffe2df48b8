/-
# UTF-16 and UTF-32

A body may also come in code units of two or four bytes, with either byte order.

* `decode16` and `decode32` read JSON.  They stop at the first place that does not decode and tell
  where it lies, counting from the offset at which the units start (a byte-order mark lies before
  them).  A surrogate without its partner is let through and stands as U+FFFD.
* `lossy16` and `lossy32` read text.  They never fail: what is no character becomes U+FFFD, and so
  does what is left of a unit at the end.
-/
import Workspace.Bytes.Utf8
import Workspace.Text.Surrogate
namespace Workspace.Wide

open Text.Surrogate

/-- The order of the bytes in a code unit. -/
inductive ByteOrder
  | big
  | little
  deriving DecidableEq, Repr

namespace ByteOrder

/-- The name of the encoding with units of `width` bits. -/
def codec (order : ByteOrder) (width : String) : String :=
  match order with
  | big => "utf-" ++ width ++ "-be"
  | little => "utf-" ++ width ++ "-le"

/-- The value of a unit of two bytes. -/
def unit16 (order : ByteOrder) (a b : UInt8) : Nat :=
  match order with
  | big => a.toNat * 256 + b.toNat
  | little => b.toNat * 256 + a.toNat

/-- The value of a unit of four bytes. -/
def unit32 (order : ByteOrder) (a b c d : UInt8) : Nat :=
  match order with
  | big => order.unit16 a b * 65536 + order.unit16 c d
  | little => order.unit16 c d * 65536 + order.unit16 a b

/-- The mark in front of units of two bytes. -/
def mark16 : ByteOrder → Bytes
  | big => [0xFE, 0xFF]
  | little => [0xFF, 0xFE]

/-- The mark in front of units of four bytes. -/
def mark32 : ByteOrder → Bytes
  | big => [0x00, 0x00, 0xFE, 0xFF]
  | little => [0xFF, 0xFE, 0x00, 0x00]

end ByteOrder

/-- Decode units of two bytes from the offset `pos` on. -/
def decode16 (order : ByteOrder) (pos : Nat) (units : Units) :
    Bytes → Except Undecodable (List Char)
  | [] => .ok units.chars
  | [b] => .error ⟨order.codec "16", b, pos, pos + 1, "truncated data"⟩
  | a :: b :: rest => decode16 order (pos + 2) (units.pushUnit (order.unit16 a b)) rest

/-- Decode units of four bytes from the offset `pos` on; `done` holds the characters so far, the
last one first. -/
def decode32 (order : ByteOrder) (pos : Nat) (done : List Char) :
    Bytes → Except Undecodable (List Char)
  | [] => .ok done.reverse
  | a :: b :: c :: d :: rest =>
    let u := order.unit32 a b c d
    if u < 0x110000 then decode32 order (pos + 4) (single u :: done) rest
    else .error ⟨order.codec "32", a, pos, pos + 4, "code point not in range(0x110000)"⟩
  | a :: rest => .error ⟨order.codec "32", a, pos, pos + 1 + rest.length, "truncated data"⟩

/-- The text of units of two bytes.  A byte that is left goes into the same U+FFFD as a first half in
front of it. -/
def lossy16 (order : ByteOrder) (units : Units) : Bytes → List Char
  | [] => units.chars
  | [_] => if units.pending.isSome then units.chars else (units.push replacement).chars
  | a :: b :: rest => lossy16 order (units.pushUnit (order.unit16 a b)) rest

/-- The text of units of four bytes. -/
def lossy32 (order : ByteOrder) : Bytes → List Char
  | [] => []
  | a :: b :: c :: d :: rest =>
    let u := order.unit32 a b c d
    (if u < 0x110000 then single u else replacement) :: lossy32 order rest
  | _ => [replacement]

end Workspace.Wide
