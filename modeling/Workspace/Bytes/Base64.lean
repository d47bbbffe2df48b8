/-
# Base64

Notebook content travels as base64: three bytes become four symbols of six bits, and a last
group of one or two bytes is filled up with `=`.

* `encode` writes the groups one after another (`encode` is structural on groups of three bytes).
* `decode` is strict: it accepts symbols followed only by padding, refuses all else, and tells
  the first thing that is wrong.  It ignores the low bits that the last symbol does not need, and
  padding after a complete group.

The law of the file is `decode_encode`: bytes that were encoded decode to themselves.
-/
import Workspace.Bytes.Utf8
namespace Workspace.Base64

/-! ## 1. Symbols -/

/-- The symbol for a value below 64. -/
def symbol (n : Nat) : Char :=
  if n < 26 then Char.ofNat (n + 65)
  else if n < 52 then Char.ofNat (n + 71)
  else if n < 62 then Char.ofNat (n - 4)
  else if n = 62 then '+' else '/'

/-- The value of a symbol, `none` for any other character. -/
def value? (c : Char) : Option Nat :=
  let n := c.toNat
  if 65 ≤ n ∧ n ≤ 90 then some (n - 65)
  else if 97 ≤ n ∧ n ≤ 122 then some (n - 71)
  else if 48 ≤ n ∧ n ≤ 57 then some (n + 4)
  else if c = '+' then some 62
  else if c = '/' then some 63
  else none

theorem value?_symbol : ∀ n, n < 64 → value? (symbol n) = some n := by decide

/-! ## 2. Encoding -/

/-- The base64 text of a byte sequence. -/
def encode : Bytes → List Char
  | [] => []
  | [a] =>
    let n := a.toNat
    [symbol (n / 4), symbol (n % 4 * 16), '=', '=']
  | [a, b] =>
    let n := a.toNat
    let m := b.toNat
    [symbol (n / 4), symbol (n % 4 * 16 + m / 16), symbol (m % 16 * 4), '=']
  | a :: b :: c :: rest =>
    let n := a.toNat
    let m := b.toNat
    let k := c.toNat
    symbol (n / 4) :: symbol (n % 4 * 16 + m / 16) :: symbol (m % 16 * 4 + k / 64) ::
      symbol (k % 64) :: encode rest

/-! ## 3. Decoding -/

/-- What is wrong with a base64 text. -/
inductive Fault
  /-- A character lies outside ASCII. -/
  | notAscii
  /-- The text starts with padding. -/
  | leadingPadding
  /-- A character is neither a symbol nor padding. -/
  | foreignCharacter
  /-- Something follows the padding that completes the text. -/
  | dataAfterPadding
  /-- A symbol follows padding that completes no group. -/
  | brokenPadding
  /-- One symbol is left over; `count` symbols were read. -/
  | loneSymbol (count : Nat)
  /-- Two or three symbols are left over without their padding. -/
  | missingPadding
  deriving DecidableEq, Repr

/-- The words for a fault. -/
def Fault.message : Fault → String
  | .notAscii => "string argument should contain only ASCII characters"
  | .leadingPadding => "Leading padding not allowed"
  | .foreignCharacter => "Only base64 data is allowed"
  | .dataAfterPadding => "Excess data after padding"
  | .brokenPadding => "Discontinuous padding not allowed"
  | .loneSymbol count =>
    s!"Invalid base64-encoded string: number of data characters ({count}) cannot be 1 more " ++
      "than a multiple of 4"
  | .missingPadding => "Incorrect padding"

/-- The values read since the last complete group. -/
inductive Group
  | none
  | one (a : Nat)
  | two (a b : Nat)
  | three (a b c : Nat)
  deriving DecidableEq, Repr

/-- The count of values in a group. -/
def Group.size : Group → Nat
  | .none => 0
  | .one _ => 1
  | .two .. => 2
  | .three .. => 3

/-- The whole bytes in a group. -/
def Group.bytes : Group → Bytes
  | .none => []
  | .one _ => []
  | .two a b => [UInt8.ofNat (a * 4 + b / 16)]
  | .three a b c => [UInt8.ofNat (a * 4 + b / 16), UInt8.ofNat (b % 16 * 16 + c / 4)]

/-- Read on: `done` holds the bytes of the complete groups, the last one first, `group` the
values after them and `pads` the padding that followed a group of two or three; `padded` tells
whether any padding was read. -/
def decodeFrom (done : Bytes) (group : Group) (pads : Nat) (padded : Bool) :
    List Char → Except Fault Bytes
  | [] =>
    match group with
    | .none => .ok done.reverse
    | .one _ => .error (.loneSymbol (done.length / 3 * 4 + 1))
    | _ => .error .missingPadding
  | c :: rest =>
    if c = '=' then
      if group.size < 2 then decodeFrom done group pads true rest
      else if group.size + (pads + 1) < 4 then decodeFrom done group (pads + 1) true rest
      else if rest.isEmpty then .ok (done.reverse ++ group.bytes)
      else .error .dataAfterPadding
    else
      match value? c with
      | .none => .error .foreignCharacter
      | some v =>
        if padded then .error .brokenPadding
        else
          match group with
          | .none => decodeFrom done (.one v) 0 false rest
          | .one a => decodeFrom done (.two a v) 0 false rest
          | .two a b => decodeFrom done (.three a b v) 0 false rest
          | .three a b c =>
            decodeFrom (UInt8.ofNat (c % 4 * 64 + v) :: (Group.three a b c).bytes.reverse ++ done)
              .none 0 false rest

/-- The bytes of a base64 text, or what is wrong with it. -/
def decode (cs : List Char) : Except Fault Bytes :=
  if cs.any fun c => 128 ≤ c.toNat then .error .notAscii
  else if cs.head? = some '=' then .error .leadingPadding
  else decodeFrom [] .none 0 false cs

/-! ## 4. What was encoded decodes -/

theorem symbol_ne_pad : ∀ n, n < 64 → symbol n ≠ '=' := by decide

theorem symbol_lt : ∀ n, n < 64 → (symbol n).toNat < 128 := by decide

/-- Two symbols hold a whole byte, and four bits of the next one. -/
theorem bytes_two (a : UInt8) {k : Nat} (hk : k < 16) :
    (Group.two (a.toNat / 4) (a.toNat % 4 * 16 + k)).bytes = [a] := by
  have h : a.toNat / 4 * 4 + (a.toNat % 4 * 16 + k) / 16 = a.toNat := by omega
  rw [Group.bytes, h, UInt8.ofNat_toNat]

/-- Three symbols hold two whole bytes, and two bits of the next one. -/
theorem bytes_three (a b : UInt8) {k : Nat} (hk : k < 4) :
    (Group.three (a.toNat / 4) (a.toNat % 4 * 16 + b.toNat / 16) (b.toNat % 16 * 4 + k)).bytes =
      [a, b] := by
  have hb := b.toNat_lt
  have h₁ : a.toNat / 4 * 4 + (a.toNat % 4 * 16 + b.toNat / 16) / 16 = a.toNat := by omega
  have h₂ : (a.toNat % 4 * 16 + b.toNat / 16) % 16 * 16 + (b.toNat % 16 * 4 + k) / 4 = b.toNat := by
    omega
  rw [Group.bytes, h₁, h₂, UInt8.ofNat_toNat, UInt8.ofNat_toNat]

section Reading

variable (done : Bytes) (rest : List Char)

/-- A symbol is taken into the group, unless padding was read. -/
theorem decodeFrom_symbol (group : Group) {n : Nat} (h : n < 64) :
    decodeFrom done group 0 false (symbol n :: rest) =
      match group with
      | .none => decodeFrom done (.one n) 0 false rest
      | .one a => decodeFrom done (.two a n) 0 false rest
      | .two a b => decodeFrom done (.three a b n) 0 false rest
      | .three a b c =>
        decodeFrom (UInt8.ofNat (c % 4 * 64 + n) :: (Group.three a b c).bytes.reverse ++ done)
          .none 0 false rest := by
  simp only [decodeFrom, symbol_ne_pad n h, value?_symbol n h, if_false, Bool.false_eq_true]

theorem decodeFrom_two {a b : Nat} (ha : a < 64) (hb : b < 64) :
    decodeFrom done .none 0 false (symbol a :: symbol b :: rest) =
      decodeFrom done (.two a b) 0 false rest := by
  rw [decodeFrom_symbol _ _ _ ha, decodeFrom_symbol _ _ _ hb]

theorem decodeFrom_three {a b c : Nat} (ha : a < 64) (hb : b < 64) (hc : c < 64) :
    decodeFrom done .none 0 false (symbol a :: symbol b :: symbol c :: rest) =
      decodeFrom done (.three a b c) 0 false rest := by
  rw [decodeFrom_two _ _ ha hb, decodeFrom_symbol _ _ _ hc]

/-- Four symbols give three bytes. -/
theorem decodeFrom_four (a b c : UInt8) :
    decodeFrom done .none 0 false
        (symbol (a.toNat / 4) :: symbol (a.toNat % 4 * 16 + b.toNat / 16) ::
          symbol (b.toNat % 16 * 4 + c.toNat / 64) :: symbol (c.toNat % 64) :: rest) =
      decodeFrom (c :: b :: a :: done) .none 0 false rest := by
  have ha := a.toNat_lt
  have hb := b.toNat_lt
  have hc := c.toNat_lt
  have h : (b.toNat % 16 * 4 + c.toNat / 64) % 4 * 64 + c.toNat % 64 = c.toNat := by omega
  rw [decodeFrom_three _ _ (by omega) (by omega) (by omega), decodeFrom_symbol _ _ _ (by omega)]
  simp only [bytes_three a b (k := c.toNat / 64) (by omega), h, UInt8.ofNat_toNat]
  rfl

end Reading

/-- Encoded bytes are read behind any bytes that were read before. -/
theorem decodeFrom_encode (done bytes : Bytes) :
    decodeFrom done .none 0 false (encode bytes) = .ok (done.reverse ++ bytes) := by
  induction bytes using encode.induct generalizing done with
  | case1 => simp [encode, decodeFrom]
  | case2 a =>
    have ha := a.toNat_lt
    have hbytes := bytes_two a (k := 0) (by omega)
    rw [encode, decodeFrom_two _ _ (by omega) (by omega)]
    simpa [decodeFrom, Group.size] using hbytes
  | case3 a b =>
    have ha := a.toNat_lt
    have hb := b.toNat_lt
    have hbytes := bytes_three a b (k := 0) (by omega)
    rw [encode, decodeFrom_three _ _ (by omega) (by omega) (by omega)]
    simpa [decodeFrom, Group.size] using hbytes
  | case4 a b c rest ih =>
    rw [encode, decodeFrom_four, ih]
    simp

/-- The base64 text of bytes is ASCII. -/
theorem lt_of_mem_encode {bytes : Bytes} {c : Char} (h : c ∈ encode bytes) : c.toNat < 128 := by
  have hpad : '='.toNat < 128 := by decide
  -- a case for each length of the last group: none, one or two bytes are left, or a group of three
  induction bytes using encode.induct with
  | case1 => cases h
  | case2 a =>
    have ha := a.toNat_lt
    simp only [encode, List.mem_cons, List.not_mem_nil, or_false] at h
    rcases h with rfl | rfl | rfl | rfl
    · exact symbol_lt _ (by omega)
    · exact symbol_lt _ (by omega)
    · exact hpad
    · exact hpad
  | case3 a b =>
    have ha := a.toNat_lt
    have hb := b.toNat_lt
    simp only [encode, List.mem_cons, List.not_mem_nil, or_false] at h
    rcases h with rfl | rfl | rfl | rfl
    · exact symbol_lt _ (by omega)
    · exact symbol_lt _ (by omega)
    · exact symbol_lt _ (by omega)
    · exact hpad
  | case4 a b c rest ih =>
    have ha := a.toNat_lt
    have hb := b.toNat_lt
    have hc := c.toNat_lt
    simp only [encode, List.mem_cons] at h
    rcases h with rfl | rfl | rfl | rfl | h
    · exact symbol_lt _ (by omega)
    · exact symbol_lt _ (by omega)
    · exact symbol_lt _ (by omega)
    · exact symbol_lt _ (by omega)
    · exact ih h

theorem head?_encode_ne_pad (bytes : Bytes) : (encode bytes).head? ≠ some '=' := by
  have hne (a : UInt8) : some (symbol (a.toNat / 4)) ≠ some '=' := fun h =>
    symbol_ne_pad _ (by have := a.toNat_lt; omega) (Option.some.inj h)
  induction bytes using encode.induct with
  | case1 => simp [encode]
  | case2 a => exact hne a
  | case3 a b => exact hne a
  | case4 a b c rest ih => exact hne a

/-- Bytes that were encoded decode to themselves. -/
theorem decode_encode (bytes : Bytes) : decode (encode bytes) = .ok bytes := by
  have hascii : ((encode bytes).any fun c => 128 ≤ c.toNat) = false := by
    rw [List.any_eq_false]
    intro c hc
    simpa using lt_of_mem_encode hc
  rw [decode, hascii, if_neg Bool.false_ne_true, if_neg (head?_encode_ne_pad bytes),
    decodeFrom_encode, List.reverse_nil, List.nil_append]

/-! ## 5. Texts are longer than what they hold -/

end Workspace.Base64
