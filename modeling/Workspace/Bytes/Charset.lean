/-
# The character set of a body

A few character sets are known, each under several labels.  A label may be spelled freely: case
does not count, and any run of marks between letters and digits is one separator (`Charset.key`),
so that `UTF-8`, `utf_8` and `<utf 8>` are the same label.  Only the point is kept, because a few
labels hold one.

Every reading is lossy: what is no character of the set becomes U+FFFD.  Some labels stand for codecs
that know no such reading, and units of two or four bytes need a mark in front; there, a body is not
read at all (`Charset.Fault`).
-/
import Workspace.Bytes.Utf8
import Workspace.Bytes.Wide
namespace Workspace

/-- The codecs that a label can name. -/
inductive Charset
  | utf8
  | latin1
  | ascii
  /-- Units of two bytes, in the order that a mark in front tells. -/
  | utf16
  /-- Units of four bytes, in the order that a mark in front tells. -/
  | utf32
  /-- A code for bytes, such as base64, or a compression. -/
  | bytewise
  /-- A shift of letters. -/
  | lettered
  /-- The codec that refuses everything. -/
  | undefined
  /-- The codec for international names of hosts. -/
  | hostNames
  deriving DecidableEq, Repr

namespace Charset

/-! ## 1. Labels -/

/-- A character that is kept in the key of a label. -/
def isKeyChar (c : Char) : Bool := c.isAlphanum || c == '.'

/-- The kept characters of a label in lower case; between two of them a `_` stands for the marks
that were dropped.  `gap` tells whether marks were dropped since the last kept character, and
`started` whether there was one. -/
def keyChars (started gap : Bool) : List Char → List Char
  | [] => []
  | c :: rest =>
    if isKeyChar c then
      (if started && gap then ['_'] else []) ++ c.toLower :: keyChars true false rest
    else keyChars started true rest

/-- The key of a label: what counts of its spelling. -/
def key (label : String) : String := String.ofList (keyChars false false label.toList)

/-- The own names of the character sets, by their keys. -/
def ownNames : List (String × Charset) :=
  [("utf_8", utf8), ("latin_1", latin1), ("ascii", ascii), ("utf_16", utf16), ("utf_32", utf32),
    ("base64_codec", bytewise), ("bz2_codec", bytewise), ("hex_codec", bytewise),
    ("quopri_codec", bytewise), ("uu_codec", bytewise), ("zlib_codec", bytewise),
    ("rot_13", lettered), ("undefined", undefined), ("idna", hostNames)]

/-- The other labels of the character sets, by their keys. -/
def aliases : List (String × Charset) :=
  [("u8", utf8), ("utf", utf8), ("utf8", utf8), ("utf8_ucs2", utf8), ("utf8_ucs4", utf8),
    ("cp65001", utf8),
    ("8859", latin1), ("cp819", latin1), ("csisolatin1", latin1), ("ibm819", latin1),
    ("iso8859", latin1), ("iso8859_1", latin1), ("iso_8859_1", latin1),
    ("iso_8859_1_1987", latin1), ("iso_ir_100", latin1), ("l1", latin1), ("latin", latin1),
    ("latin1", latin1),
    ("646", ascii), ("ansi_x3.4_1968", ascii), ("ansi_x3_4_1968", ascii),
    ("ansi_x3.4_1986", ascii), ("cp367", ascii), ("csascii", ascii), ("ibm367", ascii),
    ("iso646_us", ascii), ("iso_646.irv_1991", ascii), ("iso_ir_6", ascii), ("us", ascii),
    ("us_ascii", ascii),
    ("u16", utf16), ("utf16", utf16), ("u32", utf32), ("utf32", utf32),
    ("base64", bytewise), ("base_64", bytewise), ("bz2", bytewise), ("hex", bytewise),
    ("quopri", bytewise), ("quoted_printable", bytewise), ("quotedprintable", bytewise),
    ("uu", bytewise), ("zip", bytewise), ("zlib", bytewise), ("rot13", lettered)]

/-- The character set with a label, which is ASCII.  In an alias a point may stand for a
separator. -/
def ofLabel? (label : String) : Option Charset :=
  if label.toList.all fun c => c.toNat < 128 then
    let k := key label
    let pointless := String.ofList (k.toList.map fun c => if c == '.' then '_' else c)
    (aliases.lookup k).or ((aliases.lookup pointless).or (ownNames.lookup k))
  else none

/-! ## 2. Reading -/

/-- Why a body cannot be read in a character set. -/
inductive Fault
  /-- Units of so many bits come without a mark in front. -/
  | unmarked (bits : Nat)
  /-- The codec makes bytes of bytes, and knows no lossy reading. -/
  | bytewise
  /-- The codec makes letters of letters, and knows no bytes. -/
  | lettered
  /-- The codec refuses everything. -/
  | undefined
  /-- The codec for the names of hosts knows no lossy reading. -/
  | hostNames
  /-- The label holds the character U+0000. -/
  | nulInLabel
  /-- What another codec says. -/
  | other (text : String)
  deriving DecidableEq, Repr

/-- The text of a fault. -/
def Fault.text : Fault → String
  | unmarked bits => s!"UTF-{bits} stream does not start with BOM"
  | bytewise => ""
  | lettered => "descriptor 'translate' for 'str' objects doesn't apply to a 'bytes' object"
  | undefined => "undefined encoding"
  | hostNames => "Unsupported error handling replace"
  | nulInLabel => "embedded null character"
  | other text => text

/-- What a codec makes of a body. -/
inductive Reading
  | text (s : String)
  | refused (fault : Fault)
  deriving DecidableEq, Repr

/-- The text, or the fault. -/
def Reading.toExcept : Reading → Except Fault String
  | text s => .ok s
  | refused fault => .error fault

/-- The text of units with a mark in front, which tells their order.  Without a mark, what is shorter
than one is all that is read. -/
def decodeMarked (bits : Nat) (mark : Wide.ByteOrder → Bytes)
    (lossy : Wide.ByteOrder → Bytes → List Char) (bytes : Bytes) : Except Fault (List Char) :=
  if (mark .little).isPrefixOf bytes then .ok (lossy .little (bytes.drop (mark .little).length))
  else if (mark .big).isPrefixOf bytes then .ok (lossy .big (bytes.drop (mark .big).length))
  else if (mark .little).length ≤ bytes.length then .error (.unmarked bits)
  else .ok (if bytes.isEmpty then [] else [Utf8.replacement])

/-- The text of a body in a character set. -/
def decode : Charset → Bytes → Except Fault (List Char)
  | .utf8, bytes => .ok (Utf8.decodeLossy bytes)
  | .latin1, bytes => .ok (bytes.map fun b => Char.ofNat b.toNat)
  | .ascii, bytes =>
    .ok (bytes.map fun b => if b < 0x80 then Char.ofNat b.toNat else Utf8.replacement)
  | .utf16, bytes => decodeMarked 16 Wide.ByteOrder.mark16 (fun o => Wide.lossy16 o {}) bytes
  | .utf32, bytes => decodeMarked 32 Wide.ByteOrder.mark32 Wide.lossy32 bytes
  | .bytewise, _ => .error .bytewise
  | .lettered, _ => .error .lettered
  | .undefined, _ => .error .undefined
  | .hostNames, _ => .error .hostNames

end Charset

end Workspace
