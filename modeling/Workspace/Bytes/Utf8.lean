/-
# UTF-8

A body arrives as bytes and a text leaves as bytes.  Both decoders of this file take one step at
a time (`next`): a step yields a character, or a fault together with the number of bytes that
the fault covers, which is the longest start of a well-formed sequence.

* `encode` writes each character with one to four bytes.
* `decodeLossy` replaces every fault by U+FFFD and never fails.
* `decode` stops at the first fault and tells where it lies.  A surrogate that is encoded like a
  character of three bytes is let through and stands as U+FFFD.

The law of the file is `decode_encode`: a text that was encoded decodes to itself.
-/
namespace Workspace

/-- A sequence of bytes, as a file or a body holds it. -/
abbrev Bytes := List UInt8

/-- A place in a byte sequence that does not decode: the codec, the bytes from `start` up to but
not including `stop`, and what is wrong with them. -/
structure Undecodable where
  codec : String
  first : UInt8
  start : Nat
  stop : Nat
  reason : String
  deriving DecidableEq, Repr

/-! ## 1. One step -/

namespace Utf8

/-- What is wrong with a byte sequence. -/
inductive Fault
  /-- The first byte starts no character. -/
  | start
  /-- A byte does not continue the character that was begun. -/
  | continuation
  /-- The sequence ends inside a character. -/
  | unexpectedEnd
  deriving DecidableEq, Repr

/-- The words for a fault. -/
def Fault.reason : Fault → String
  | .start => "invalid start byte"
  | .continuation => "invalid continuation byte"
  | .unexpectedEnd => "unexpected end of data"

/-- One step of decoding: a character or a fault, with the number of bytes it covers. -/
inductive Step
  | char (c : Char) (width : Nat)
  | fault (fault : Fault) (width : Nat)

/-- A byte of the form `10xxxxxx`. -/
def isContinuation (b : UInt8) : Bool := 0x80 ≤ b && b ≤ 0xBF

/-- May `b` follow the first byte `lead`?  The first bytes E0, ED, F0 and F4 narrow the range, so
that no character has two forms, no surrogate is encoded, and nothing lies above U+10FFFF. -/
def maySecond (lead b : UInt8) : Bool :=
  isContinuation b &&
    (if lead == 0xE0 then 0xA0 ≤ b else if lead == 0xED then b ≤ 0x9F
      else if lead == 0xF0 then 0x90 ≤ b else if lead == 0xF4 then b ≤ 0x8F else true)

/-- The low six bits of a byte. -/
def low6 (b : UInt8) : Nat := b.toNat % 64

/-- The step at the byte `lead` that is followed by `rest`. -/
def next (lead : UInt8) (rest : Bytes) : Step :=
  let n := lead.toNat
  if n < 0x80 then .char (Char.ofNat n) 1
  else if n < 0xC2 then .fault .start 1
  else if n < 0xE0 then
    match rest with
    | [] => .fault .unexpectedEnd 1
    | b :: _ =>
      if isContinuation b then .char (Char.ofNat (n % 32 * 64 + low6 b)) 2
      else .fault .continuation 1
  else if n < 0xF0 then
    match rest with
    | [] => .fault .unexpectedEnd 1
    | b :: rest =>
      if maySecond lead b then
        match rest with
        | [] => .fault .unexpectedEnd 2
        | c :: _ =>
          if isContinuation c then
            .char (Char.ofNat ((n % 16 * 64 + low6 b) * 64 + low6 c)) 3
          else .fault .continuation 2
      else .fault .continuation 1
  else if n < 0xF5 then
    match rest with
    | [] => .fault .unexpectedEnd 1
    | b :: rest =>
      if maySecond lead b then
        match rest with
        | [] => .fault .unexpectedEnd 2
        | c :: rest =>
          if isContinuation c then
            match rest with
            | [] => .fault .unexpectedEnd 3
            | d :: _ =>
              if isContinuation d then
                .char (Char.ofNat (((n % 8 * 64 + low6 b) * 64 + low6 c) * 64 + low6 d)) 4
              else .fault .continuation 3
          else .fault .continuation 2
      else .fault .continuation 1
  else .fault .start 1

/-- The character that stands for bytes which do not decode. -/
def replacement : Char := '\uFFFD'

/-- Do the bytes start with a surrogate, encoded in three bytes like a character? -/
def startsWithSurrogate (lead : UInt8) : Bytes → Bool
  | b :: c :: _ => lead == 0xED && 0xA0 ≤ b && b ≤ 0xBF && isContinuation c
  | _ => false

/-! ## 2. Whole sequences -/

/-- The bytes of a text. -/
def encode (cs : List Char) : Bytes := cs.flatMap String.utf8EncodeChar

/-- The bytes of a string. -/
def ofString (s : String) : Bytes := encode s.toList

/-- Decode with every fault replaced, after `skip` bytes that belong to the step before. -/
def lossyFrom : Nat → Bytes → List Char
  | _, [] => []
  | skip + 1, _ :: rest => lossyFrom skip rest
  | 0, lead :: rest =>
    match next lead rest with
    | .char c width => c :: lossyFrom (width - 1) rest
    | .fault _ width => replacement :: lossyFrom (width - 1) rest

/-- The text of a byte sequence, every fault replaced by U+FFFD. -/
def decodeLossy (bytes : Bytes) : List Char := lossyFrom 0 bytes

/-- Decode up to the first fault, at the offset `pos` and after `skip` bytes that belong to the
step before; `done` holds the characters so far, the last one first. -/
def decodeFrom (pos : Nat) (done : List Char) : Nat → Bytes → Except Undecodable (List Char)
  | _, [] => .ok done.reverse
  | skip + 1, _ :: rest => decodeFrom (pos + 1) done skip rest
  | 0, lead :: rest =>
    match next lead rest with
    | .char c width => decodeFrom (pos + 1) (c :: done) (width - 1) rest
    | .fault fault width =>
      if startsWithSurrogate lead rest then decodeFrom (pos + 1) (replacement :: done) 2 rest
      else .error ⟨"utf-8", lead, pos, pos + width, fault.reason⟩

/-- The text of a byte sequence, or the place of its first fault. -/
def decode (bytes : Bytes) : Except Undecodable (List Char) := decodeFrom 0 [] 0 bytes

/-! ## 3. What was encoded decodes -/

theorem toNat_continuation (n : Nat) : (UInt8.ofNat (n % 64 + 128)).toNat = n % 64 + 128 := by
  rw [UInt8.toNat_ofNat']
  omega

theorem isContinuation_ofNat (n : Nat) : isContinuation (UInt8.ofNat (n % 64 + 128)) = true := by
  simp only [isContinuation, Bool.and_eq_true, decide_eq_true_eq, UInt8.le_iff_toNat_le,
    toNat_continuation]
  exact ⟨by simp, by simp; omega⟩

theorem low6_ofNat (n : Nat) : low6 (UInt8.ofNat (n % 64 + 128)) = n % 64 := by
  simp only [low6, toNat_continuation]
  omega

theorem maySecond_of_three {v : Nat} (h : 0x7FF < v) (h' : v < 0xD800 ∨ 0xDFFF < v)
    (h3 : v ≤ 0xFFFF) :
    maySecond (UInt8.ofNat (v / 4096 % 16 + 224)) (UInt8.ofNat (v / 64 % 64 + 128)) = true := by
  have hl : (UInt8.ofNat (v / 4096 % 16 + 224)).toNat = v / 4096 + 224 := by
    rw [UInt8.toNat_ofNat']
    omega
  simp only [maySecond, isContinuation_ofNat, Bool.true_and, beq_iff_eq, ← UInt8.toNat_inj,
    UInt8.le_iff_toNat_le, toNat_continuation, hl]
  simp only [UInt8.reduceToNat]
  repeat' split
  all_goals simp only [decide_eq_true_eq]
  all_goals omega

theorem maySecond_of_four {v : Nat} (h : 0xFFFF < v) (h' : v < 0x110000) :
    maySecond (UInt8.ofNat (v / 262144 % 8 + 240)) (UInt8.ofNat (v / 4096 % 64 + 128)) = true := by
  have hl : (UInt8.ofNat (v / 262144 % 8 + 240)).toNat = v / 262144 + 240 := by
    rw [UInt8.toNat_ofNat']
    omega
  simp only [maySecond, isContinuation_ofNat, Bool.true_and, beq_iff_eq, ← UInt8.toNat_inj,
    UInt8.le_iff_toNat_le, toNat_continuation, hl]
  simp only [UInt8.reduceToNat]
  repeat' split
  all_goals simp only [decide_eq_true_eq]
  all_goals omega

/-- The first step into an encoded character yields the character. -/
theorem next_of_encodeChar {c : Char} {lead : UInt8} {tail : Bytes} (rest : Bytes)
    (h : String.utf8EncodeChar c = lead :: tail) :
    next lead (tail ++ rest) = .char c (tail.length + 1) := by
  have hv : c.toNat < 0xD800 ∨ (0xDFFF < c.toNat ∧ c.toNat < 0x110000) := c.valid
  have hc : Char.ofNat c.toNat = c := Char.ofNat_toNat c
  have hn : c.val.toNat = c.toNat := rfl
  simp only [String.utf8EncodeChar, hn] at h
  -- from here on only the number of the character matters: a case for each length of its encoding
  generalize c.toNat = v at *
  split at h
  · obtain ⟨rfl, rfl⟩ := List.cons.inj h
    have h1 : (UInt8.ofNat v).toNat = v := by rw [UInt8.toNat_ofNat']; omega
    simp only [next, h1]
    rw [if_pos (by omega), hc]
    rfl
  · split at h
    · obtain ⟨rfl, rfl⟩ := List.cons.inj h
      have h1 : (UInt8.ofNat (v / 64 % 32 + 192)).toNat = v / 64 + 192 := by
        rw [UInt8.toNat_ofNat']
        omega
      simp only [next, h1, List.cons_append, isContinuation_ofNat, if_true, low6_ofNat]
      rw [if_neg (by omega), if_neg (by omega), if_pos (by omega),
        show (v / 64 + 192) % 32 * 64 + v % 64 = v by omega, hc]
      rfl
    · split at h
      · obtain ⟨rfl, rfl⟩ := List.cons.inj h
        have h1 : (UInt8.ofNat (v / 4096 % 16 + 224)).toNat = v / 4096 + 224 := by
          rw [UInt8.toNat_ofNat']
          omega
        simp only [next, h1, List.cons_append, maySecond_of_three (v := v) (by omega) (by omega)
          (by omega), isContinuation_ofNat, if_true, low6_ofNat]
        rw [if_neg (by omega), if_neg (by omega), if_neg (by omega), if_pos (by omega),
          show ((v / 4096 + 224) % 16 * 64 + v / 64 % 64) * 64 + v % 64 = v by omega, hc]
        rfl
      · obtain ⟨rfl, rfl⟩ := List.cons.inj h
        have h1 : (UInt8.ofNat (v / 262144 % 8 + 240)).toNat = v / 262144 + 240 := by
          rw [UInt8.toNat_ofNat']
          omega
        simp only [next, h1, List.cons_append, maySecond_of_four (v := v) (by omega) (by omega),
          isContinuation_ofNat, if_true, low6_ofNat]
        rw [if_neg (by omega), if_neg (by omega), if_neg (by omega), if_neg (by omega),
          if_pos (by omega),
          show (((v / 262144 + 240) % 8 * 64 + v / 4096 % 64) * 64 + v / 64 % 64) * 64 + v % 64 = v
            by omega, hc]
        rfl

theorem encodeChar_ne_nil (c : Char) : String.utf8EncodeChar c ≠ [] := by
  simp only [String.utf8EncodeChar]
  repeat' split
  all_goals exact List.cons_ne_nil _ _

/-- The bytes of the step before are passed over. -/
theorem decodeFrom_append (pos : Nat) (done : List Char) (skipped rest : Bytes) :
    decodeFrom pos done skipped.length (skipped ++ rest) =
      decodeFrom (pos + skipped.length) done 0 rest := by
  induction skipped generalizing pos with
  | nil => rfl
  | cons b skipped ih =>
    simp only [List.length_cons, List.cons_append, decodeFrom]
    rw [ih, Nat.add_assoc, Nat.add_comm 1]

/-- What was encoded decodes, after any characters that were decoded before. -/
theorem decodeFrom_encode (pos : Nat) (done cs : List Char) :
    decodeFrom pos done 0 (encode cs) = .ok (done.reverse ++ cs) := by
  induction cs generalizing pos done with
  | nil => simp [encode, decodeFrom]
  | cons c cs ih =>
    cases h : String.utf8EncodeChar c with
    | nil => exact absurd h (encodeChar_ne_nil c)
    | cons lead tail =>
      have hs : encode (c :: cs) = lead :: (tail ++ encode cs) := by
        simp [encode, List.flatMap_cons, h]
      rw [hs, decodeFrom, next_of_encodeChar (encode cs) h]
      simp only [Nat.add_sub_cancel]
      rw [decodeFrom_append, ih]
      simp

/-- A text that was encoded decodes to itself. -/
theorem decode_encode (cs : List Char) : decode (encode cs) = .ok cs := decodeFrom_encode 0 [] cs

end Utf8

end Workspace
