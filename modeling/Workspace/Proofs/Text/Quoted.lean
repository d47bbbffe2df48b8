/-
# Quoted text reads back

Between its quotation marks a text can be read back: `unescape` reads one character off the front,
and undoes what `escape` wrote for it (`unescape_escape`).  So where one character ends and the next
one begins is never in doubt, and two texts are never quoted alike (`text_injective`).

What stands between the marks is printable, and so are the marks (`isPrintable_of_mem_encode`).  A
printable character ends no line and steers no output (`isSteering_of_isPrintable`).
-/
import Mathlib
import Workspace.Text.Quoted
namespace Workspace.Text

/-! ## 1. Hexadecimal numbers -/

namespace Hex

/-- The number that some hexadecimal digits spell, the first of them counting most. -/
def number? (cs : List Char) : Option Nat :=
  cs.foldlM (fun n c => (value? c).map (16 * n + ·)) 0

theorem number?_append_digit {cs : List Char} {n d : Nat} (h : number? cs = some n) (hd : d < 16) :
    number? (cs ++ [digit d]) = some (16 * n + d) := by
  rw [number?] at h ⊢
  rw [List.foldlM_append, h]
  simp [value?_digit d hd]

/-- **The digits of a number spell it**, as far as they reach. -/
theorem number?_digits (width n : Nat) : number? (digits width n) = some (n % 16 ^ width) := by
  induction width generalizing n with
  | zero => simp [digits, number?, Nat.mod_one]
  | succ width ih =>
    rw [digits, number?_append_digit (ih (n / 16)) (Nat.mod_lt n (by decide)), Nat.pow_succ,
      Nat.mul_comm (16 ^ width) 16, Nat.mod_mul, Nat.add_comm]

end Hex

namespace Quoted

/-! ## 2. Reading a character back -/

/-- A character by its code point, which the next `width` digits spell, and what follows. -/
def codePoint? (width : Nat) (cs : List Char) : Option (Char × List Char) :=
  (Hex.number? (cs.take width)).map fun n => (Char.ofNat n, cs.drop width)

/-- The first character of what stands between two marks, and what follows. -/
def unescape : List Char → Option (Char × List Char)
  | '\\' :: 't' :: rest => some ('\t', rest)
  | '\\' :: 'n' :: rest => some ('\n', rest)
  | '\\' :: 'r' :: rest => some ('\r', rest)
  | '\\' :: 'x' :: rest => codePoint? 2 rest
  | '\\' :: 'u' :: rest => codePoint? 4 rest
  | '\\' :: 'U' :: rest => codePoint? 8 rest
  | '\\' :: c :: rest => some (c, rest)
  | c :: rest => some (c, rest)
  | [] => none

/-- The mark of a text is one of two. -/
theorem mark_eq (cs : List Char) : mark cs = '\x27' ∨ mark cs = '"' := by
  unfold mark
  split
  · exact .inr rfl
  · exact .inl rfl

/-- The digits of a code point read back, if they reach. -/
theorem codePoint?_digits (width : Nat) {c : Char} (h : c.toNat < 16 ^ width) (rest : List Char) :
    codePoint? width (Hex.digits width c.toNat ++ rest) = some (c, rest) := by
  have hlength := Hex.length_digits width c.toNat
  rw [codePoint?, List.take_left' hlength, List.drop_left' hlength, Hex.number?_digits,
    Nat.mod_eq_of_lt h, Option.map_some, Char.ofNat_toNat]

/-- A character by its code point reads back. -/
theorem unescape_byCode (c : Char) (rest : List Char) :
    unescape (byCode c ++ rest) = some (c, rest) := by
  have hscalar : c.toNat < 16 ^ 8 := by
    have hvalid : c.toNat < 0xD800 ∨ 0xDFFF < c.toNat ∧ c.toNat < 0x110000 := c.valid
    omega
  unfold byCode
  simp only
  split
  · exact codePoint?_digits 2 ‹_› rest
  · split
    · exact codePoint?_digits 4 ‹_› rest
    · exact codePoint?_digits 8 hscalar rest

theorem unescape_cons {c : Char} (h : c ≠ '\\') (rest : List Char) :
    unescape (c :: rest) = some (c, rest) := by
  unfold unescape
  split <;> simp_all

/-- **A character reads back** as it is written between two marks, whatever follows. -/
theorem unescape_escape {q : Char} (hq : q = '\x27' ∨ q = '"') (c : Char) (rest : List Char) :
    unescape (escape q c ++ rest) = some (c, rest) := by
  unfold escape
  split_ifs with hspecial htab hfeed hreturn hprintable
  · rcases hspecial with rfl | rfl
    · rcases hq with rfl | rfl <;> rfl
    · rfl
  · rw [htab]; rfl
  · rw [hfeed]; rfl
  · rw [hreturn]; rfl
  · exact unescape_cons (fun heq => hspecial (.inr heq)) rest
  · exact unescape_byCode c rest

theorem escape_ne_nil {q : Char} (hq : q = '\x27' ∨ q = '"') (c : Char) : escape q c ≠ [] := by
  intro h
  have hread := unescape_escape hq c []
  rw [h] at hread
  cases hread

/-- What stands between two marks stands for one text alone. -/
theorem flatMap_escape_inj {q : Char} (hq : q = '\x27' ∨ q = '"') :
    ∀ {cs ds : List Char}, cs.flatMap (escape q) = ds.flatMap (escape q) → cs = ds
  | [], [], _ => rfl
  | [], d :: ds, h => by
    rw [List.flatMap_nil, List.flatMap_cons] at h
    exact absurd (List.append_eq_nil_iff.mp h.symm).1 (escape_ne_nil hq d)
  | c :: cs, [], h => by
    rw [List.flatMap_nil, List.flatMap_cons] at h
    exact absurd (List.append_eq_nil_iff.mp h).1 (escape_ne_nil hq c)
  | c :: cs, d :: ds, h => by
    rw [List.flatMap_cons, List.flatMap_cons] at h
    have hread := congrArg unescape h
    rw [unescape_escape hq, unescape_escape hq] at hread
    obtain ⟨rfl, hrest⟩ := Prod.mk.inj (Option.some.inj hread)
    rw [flatMap_escape_inj hq hrest]

theorem encode_injective : Function.Injective encode := by
  intro cs ds h
  obtain ⟨hmark, hbody⟩ := List.cons.inj h
  rw [hmark] at hbody
  exact flatMap_escape_inj (mark_eq ds) (List.append_cancel_right hbody)

/-- **Two texts are never quoted alike.** -/
theorem text_injective : Function.Injective text := by
  intro s t h
  exact String.toList_inj.mp (encode_injective (String.ofList_injective h))

/-! ## 3. What may stand between the marks -/

theorem isPrintable_marks :
    ∀ c ∈ ['\x27', '"', '\\', 't', 'n', 'r', 'x', 'u', 'U'], isPrintable c = true :=
  List.all_eq_true.mp (by decide +kernel)

theorem isPrintable_of_mem_digits {width n : Nat} {c : Char} (h : c ∈ Hex.digits width n) :
    isPrintable c = true := by
  have hdigit : ∀ d < 16, isPrintable (Hex.digit d) = true := by decide +kernel
  exact Hex.forall_mem_digits (p := fun c => isPrintable c = true) hdigit width n c h

/-- A character by its code point is written with printable ones. -/
theorem isPrintable_of_mem_byCode {c d : Char} (h : d ∈ byCode c) : isPrintable d = true := by
  unfold byCode at h
  simp only at h
  split_ifs at h
  all_goals
    rcases List.mem_cons.mp h with rfl | h
    · exact isPrintable_marks _ (by simp)
    · rcases List.mem_cons.mp h with rfl | h
      · exact isPrintable_marks _ (by simp)
      · exact isPrintable_of_mem_digits h

theorem isPrintable_of_mem_pair {c d : Char} (hc : isPrintable c = true) (h : d ∈ ['\\', c]) :
    isPrintable d = true := by
  rcases List.mem_cons.mp h with rfl | h
  · exact isPrintable_marks _ (by simp)
  · rw [List.mem_singleton.mp h]
    exact hc

/-- Every character is written with printable ones. -/
theorem isPrintable_of_mem_escape {q c d : Char} (hq : isPrintable q = true) (h : d ∈ escape q c) :
    isPrintable d = true := by
  unfold escape at h
  split_ifs at h with hspecial htab hfeed hreturn hprintable
  · refine isPrintable_of_mem_pair ?_ h
    rcases hspecial with rfl | rfl
    · exact hq
    · exact isPrintable_marks _ (by simp)
  · exact isPrintable_of_mem_pair (isPrintable_marks _ (by simp)) h
  · exact isPrintable_of_mem_pair (isPrintable_marks _ (by simp)) h
  · exact isPrintable_of_mem_pair (isPrintable_marks _ (by simp)) h
  · rw [List.mem_singleton.mp h]
    exact hprintable
  · exact isPrintable_of_mem_byCode h

/-- **A quoted text is printable**, its marks included. -/
theorem isPrintable_of_mem_encode {cs : List Char} {c : Char} (h : c ∈ encode cs) :
    isPrintable c = true := by
  have hmark : isPrintable (mark cs) = true := by
    rcases mark_eq cs with heq | heq <;> rw [heq] <;> exact isPrintable_marks _ (by simp)
  rw [encode, List.cons_append, List.mem_cons, List.mem_append, List.mem_singleton] at h
  rcases h with rfl | h | rfl
  · exact hmark
  · obtain ⟨d, -, hd⟩ := List.mem_flatMap.mp h
    exact isPrintable_of_mem_escape hmark hd
  · exact hmark

end Quoted

/-- A character that ends a line or steers the output: a control character, or one of the two
separators of lines and paragraphs. -/
def isSteering (c : Char) : Bool :=
  c.toNat ≤ 0x1F || (0x7F ≤ c.toNat && c.toNat ≤ 0x9F) || c.toNat == 0x2028 || c.toNat == 0x2029

/-- A printable character steers nothing. -/
theorem isSteering_of_isPrintable {c : Char} (h : isPrintable c = true) : isSteering c = false := by
  have hrange (low high : Nat) (hmem : (low, high) ∈ unprintable) :
      ¬ (low ≤ c.toNat ∧ c.toNat ≤ high) := by
    rintro ⟨hlow, hhigh⟩
    rw [not_isPrintable_of_mem hmem hlow hhigh] at h
    cases h
  have hcontrols := hrange 0 0x1F (by decide +kernel)
  have hhigh := hrange 0x7F 0xA0 (by decide +kernel)
  have hseparators := hrange 0x2028 0x202F (by decide +kernel)
  simp only [isSteering, Bool.or_eq_false_iff, Bool.and_eq_false_iff, decide_eq_false_iff_not,
    beq_eq_false_iff_ne]
  omega

end Workspace.Text
