/-
# What is read can be printed

A value that was read is legible: the reader refuses integers with too many digits, rounds numbers
and keeps each key once.  Its strings are no longer than the text, and the text is no longer than the
bytes that it was decoded from (`readable_ofBytes`).

The proof follows the reader: each function gives a readable value and consumes text.
-/
import Workspace.Proofs.Json.Printing
namespace Workspace

namespace Json

/-- A legible value, whose strings are no longer than `n`. -/
def IsReadable (n : Nat) : Json → Prop
  | string s => s.length ≤ n
  | v => IsLegible v

/-- `v.Readable n`: the value is legible, and its strings are no longer than `n`. -/
abbrev Readable (n : Nat) (v : Json) : Prop := v.Everywhere (IsReadable n)

theorem Readable.legible {n : Nat} {v : Json} (h : v.Readable n) : v.Legible := by
  refine h.imp fun v hv => ?_
  cases v <;> first | exact hv | trivial

namespace Reader

open Text.Surrogate (Units)

variable {n : Nat} {v : Json} {cs rest : List Char}

/-- What reading comes to: the value is readable, and the text that is left is no longer than before. -/
def Fits (n : Nat) (cs : List Char) (result : Result Json) : Prop :=
  ∀ v rest, result = .ok (v, rest) → v.Readable n ∧ rest.length ≤ cs.length

/-! ## 1. Words and numbers -/

theorem readable_of_mem_words (h : ∃ w, (w, v) ∈ words) : v.Readable n := by
  obtain ⟨w, h⟩ := h
  simp only [words, List.mem_cons, Prod.mk.injEq, List.not_mem_nil, or_false] at h
  rcases h with ⟨-, rfl⟩ | ⟨-, rfl⟩ | ⟨-, rfl⟩ | ⟨-, rfl⟩ | ⟨-, rfl⟩ | ⟨-, rfl⟩ <;>
    exact Everywhere.of_parts rfl trivial

theorem word?_fits (h : word? cs = some (v, rest)) :
    v.Readable n ∧ rest.length ≤ cs.length := by
  obtain ⟨⟨w, v'⟩, hmem, hw⟩ := List.exists_of_findSome?_eq_some h
  simp only at hw
  split at hw
  · cases hw
    exact ⟨readable_of_mem_words ⟨w, hmem⟩, by simp⟩
  · cases hw

/-- Digits stand for less than the power of ten with as many zeros. -/
theorem ofDigitChars_lt {ds : List Char} (h : ∀ d ∈ ds, d.isDigit = true) (start : Nat) :
    Nat.ofDigitChars 10 ds start < (start + 1) * 10 ^ ds.length := by
  induction ds generalizing start with
  | nil => simp
  | cons d ds ih =>
    have hd : d.toNat - '0'.toNat ≤ 9 := by
      have hdigit := h d List.mem_cons_self
      simp only [Char.isDigit, Bool.and_eq_true, decide_eq_true_eq] at hdigit
      have hnine : d.toNat ≤ 57 := UInt32.le_iff_toNat_le.mp hdigit.2
      have hzero : '0'.toNat = 48 := rfl
      omega
    rw [Nat.ofDigitChars_cons, List.length_cons, pow_succ]
    refine (ih (fun d' hd' => h d' (List.mem_cons_of_mem _ hd')) _).trans_le ?_
    calc (10 * start + (d.toNat - '0'.toNat) + 1) * 10 ^ ds.length
        ≤ ((start + 1) * 10) * 10 ^ ds.length := Nat.mul_le_mul_right _ (by omega)
      _ = (start + 1) * (10 ^ ds.length * 10) := by ring

/-- The digits of a whole number are digits, and they are taken off the front. -/
theorem wholeDigits_spec (cs : List Char) :
    (∀ d ∈ (wholeDigits cs).1, d.isDigit = true) ∧ (wholeDigits cs).2.length ≤ cs.length := by
  unfold wholeDigits
  split
  · refine ⟨fun d hd => ?_, by simp⟩
    rw [List.mem_singleton.mp hd]
    rfl
  · exact ⟨fun d hd => List.all_eq_true.mp List.all_takeWhile d hd,
      (List.dropWhile_suffix _).length_le⟩

/-- The digits of a fraction are taken off the front. -/
theorem length_fractionDigits (cs : List Char) : (fractionDigits cs).2.length ≤ cs.length := by
  unfold fractionDigits
  split
  · split
    · exact (List.dropWhile_suffix _).length_le.trans (by simp)
    · exact le_rfl
  · exact le_rfl

/-- An exponent is taken off the front. -/
theorem length_exponent? {e : Int} (h : exponent? cs = some (e, rest)) :
    rest.length ≤ cs.length := by
  unfold exponent? at h
  simp only at h
  have hdrop (t : List Char) : (t.dropWhile Char.isDigit).length ≤ t.length :=
    (List.dropWhile_suffix _).length_le
  -- a mark, perhaps a sign, and digits: all of them are taken off the front
  split at h
  · split at h
    · split at h
      all_goals
        split at h
        · cases h
        · cases h
          refine (hdrop _).trans ?_
          simp only [List.length_cons]
          omega
    · cases h
  · cases h

theorem readable_ofDecimal (negative : Bool) (mantissa : Nat) (e : Int) :
    (Json.number (.ofDecimal negative mantissa e)).Readable n := by
  refine Everywhere.of_parts rfl ?_
  cases hx : Binary64.ofDecimal negative mantissa e with
  | finite b m e' => exact Binary64.lt_of_ofDecimal hx
  | nan => trivial
  | infinite b => trivial

/-- Numbers fit. -/
theorem numeral_fits (cs : List Char) : Fits n cs (numeral cs) := by
  intro v rest h
  unfold numeral at h
  split at h
  next negative body hsign =>
  have hbody : body.length ≤ cs.length := by
    split at hsign <;> cases hsign <;> simp
  obtain ⟨hdigits, hwhole⟩ := wholeDigits_spec body
  -- sign, whole digits, fraction and exponent come off the front, one after the other
  generalize wholeDigits body = parts at *
  obtain ⟨whole, rest₁⟩ := parts
  simp only at h hdigits hwhole
  split at h
  · cases h
  · have hfraction := length_fractionDigits rest₁
    generalize fractionDigits rest₁ = parts at *
    obtain ⟨fraction, rest₂⟩ := parts
    simp only at h hfraction
    split at h
    · next e rest₃ he =>
      cases h
      have hexponent := length_exponent? he
      exact ⟨readable_ofDecimal _ _ _, by omega⟩
    · split at h
      · cases h
        exact ⟨readable_ofDecimal _ _ _, by omega⟩
      · next hnone =>
        split at h
        · cases h
        -- without fraction and exponent it is an integer, of no more digits than are allowed
        · next hfew =>
          cases h
          refine ⟨Everywhere.of_parts rfl ?_, by omega⟩
          have hempty : fraction = [] := by simpa using hnone
          have hlt := ofDigitChars_lt hdigits 0
          have hle : 10 ^ whole.length ≤ 10 ^ maxDigits :=
            Nat.pow_le_pow_right (by decide) (by omega)
          show Int.natAbs _ < 10 ^ maxDigits
          subst hempty
          rw [List.append_nil]
          split <;> omega

/-! ## 2. Strings -/

theorem length_flush_push (units : Units) (c : Char) :
    (units.push c).flush.length = units.flush.length + 1 := rfl

/-- One more unit is at most one more character. -/
theorem length_flush_pushUnit (units : Units) (u : Nat) :
    (units.pushUnit u).flush.length ≤ units.flush.length + 1 := by
  obtain ⟨done, pending⟩ := units
  unfold Units.pushUnit
  split
  · exact le_rfl
  · cases pending with
    | none => exact le_rfl
    | some high =>
      simp only
      split
      · simp [Units.flush]
      · exact le_rfl

/-- A string is no longer than its text. -/
theorem length_stringBody {start : List Char} {units : Units} {s : String}
    (h : stringBody start units cs = .ok (s, rest)) :
    s.length ≤ units.flush.length + cs.length ∧ rest.length ≤ cs.length := by
  -- a unit that is pending counts as a character, so the length never shrinks
  fun_induction stringBody start units cs with
  | case2 units after =>
    cases h
    rw [String.length_ofList, Units.chars, List.length_reverse]
    exact ⟨Nat.le_add_right _ _, Nat.le_succ _⟩
  | case5 units h₁ h₂ h₃ h₄ tail u _ _ _ ih =>
    have hrest := ih h
    have hunit := length_flush_pushUnit units u
    simp only [List.length_cons]
    omega
  | case8 units e after _ plain _ _ ih =>
    have hrest := ih h
    rw [length_flush_push] at hrest
    simp only [List.length_cons]
    omega
  | case11 units c after _ _ _ ih =>
    have hrest := ih h
    rw [length_flush_push] at hrest
    simp only [List.length_cons]
    omega
  | _ => cases h

/-! ## 3. Values -/

theorem length_skipBlanks (cs : List Char) : (skipBlanks cs).length ≤ cs.length :=
  (List.dropWhile_suffix _).length_le

theorem length_of_skipBlanks {c : Char} (h : skipBlanks cs = c :: rest) :
    rest.length ≤ cs.length := by
  have hle := length_skipBlanks cs
  rw [h, List.length_cons] at hle
  omega

theorem readable_put {members : Members} (h : (object members).Readable n) (key : String)
    (hv : v.Readable n) : (object (members.put key v)).Readable n := by
  refine .intro (nodup_put h.here key v) fun w hw => ?_
  rcases mem_of_mem_put hw with rfl | hw
  · exact hv
  · exact h.of_mem_parts hw

theorem readable_array {items : List Json} (h : ∀ w ∈ items, w.Readable n) :
    (array items).Readable n := .intro trivial h

theorem string_fits {start : List Char} {s : String} (h : stringBody start {} cs = .ok (s, rest))
    (hn : cs.length ≤ n) : (string s).Readable n ∧ rest.length ≤ cs.length := by
  obtain ⟨hs, hrest⟩ := length_stringBody h
  have hflush : (Units.flush {}).length = 0 := rfl
  exact ⟨Everywhere.of_parts rfl (show s.length ≤ n by omega), hrest⟩

/-- The functions of the reader fit at a bound, for texts of at most `n` characters. -/
structure FitAt (n bound : Nat) : Prop where
  value : ∀ cs, cs.length ≤ n → Fits n cs (value bound cs)
  members : ∀ done cs, cs.length ≤ n → (object done).Readable n → Fits n cs (members bound done cs)
  elements : ∀ done cs, cs.length ≤ n → (∀ w ∈ done, w.Readable n) →
    Fits n cs (elements bound done cs)

namespace FitAt

variable {bound : Nat}

/-- Values fit, if members and items do. -/
theorem value_succ (h : FitAt n bound) (hn : cs.length ≤ n) :
    Fits n cs (Reader.value (bound + 1) cs) := by
  intro v rest hv
  rw [Reader.value.eq_def] at hv
  simp only at hv
  -- by the first character: a string, an object, an array, or else a word or a number
  split at hv
  · next rest₁ =>
    rw [List.length_cons] at hn ⊢
    split at hv
    · next s rest₂ hs =>
      cases hv
      obtain ⟨hread, hrest⟩ := string_fits (n := n) hs (by omega)
      exact ⟨hread, by omega⟩
    · cases hv
  · next rest₁ =>
    have hle := length_skipBlanks rest₁
    rw [List.length_cons] at hn ⊢
    split at hv
    · next rest₂ hblank =>
      cases hv
      rw [hblank, List.length_cons] at hle
      exact ⟨.intro List.nodup_nil (List.forall_mem_nil _), by omega⟩
    · obtain ⟨hread, hrest⟩ :=
        h.members [] _ (by omega) (.intro List.nodup_nil (List.forall_mem_nil _)) v rest hv
      exact ⟨hread, by omega⟩
  · next rest₁ =>
    have hle := length_skipBlanks rest₁
    rw [List.length_cons] at hn ⊢
    split at hv
    · next rest₂ hblank =>
      cases hv
      rw [hblank, List.length_cons] at hle
      exact ⟨readable_array (List.forall_mem_nil _), by omega⟩
    · obtain ⟨hread, hrest⟩ := h.elements [] _ (by omega) (List.forall_mem_nil _) v rest hv
      exact ⟨hread, by omega⟩
  · split at hv
    · next result hword =>
      cases hv
      exact word?_fits hword
    · exact numeral_fits cs v rest hv

/-- Members fit, if values and the members after them do. -/
theorem members_succ (h : FitAt n bound) (hn : cs.length ≤ n) {done : Members}
    (hdone : (object done).Readable n) : Fits n cs (Reader.members (bound + 1) done cs) := by
  intro v rest hv
  rw [Reader.members.eq_def] at hv
  simp only at hv
  -- a key, a colon, a value, and then a brace or a comma: whatever else comes is refused
  split at hv
  · next rest₁ =>
    rw [List.length_cons] at hn ⊢
    split at hv
    · cases hv
    · next key rest₂ hkey =>
      have hrest₂ := (length_stringBody hkey).2
      split at hv
      · next rest₃ hcolon =>
        have hrest₃ := length_of_skipBlanks hcolon
        have hblank := length_skipBlanks rest₃
        split at hv
        · cases hv
        · next w rest₄ hw =>
          obtain ⟨hread, hrest₄⟩ := h.value _ (by omega) w rest₄ hw
          split at hv
          · next rest₅ hend =>
            have hrest₅ := length_of_skipBlanks hend
            cases hv
            exact ⟨readable_put hdone key hread, by omega⟩
          · next rest₅ hcomma =>
            have hrest₅ := length_of_skipBlanks hcomma
            have hblank' := length_skipBlanks rest₅
            obtain ⟨hread', hrest⟩ :=
              h.members _ _ (by omega) (readable_put hdone key hread) v rest hv
            exact ⟨hread', by omega⟩
          · cases hv
      · cases hv
  · cases hv

/-- Items fit, if values and the items after them do. -/
theorem elements_succ (h : FitAt n bound) (hn : cs.length ≤ n) {done : List Json}
    (hdone : ∀ w ∈ done, w.Readable n) : Fits n cs (Reader.elements (bound + 1) done cs) := by
  intro v rest hv
  rw [Reader.elements.eq_def] at hv
  simp only at hv
  split at hv
  · cases hv
  · next w rest₁ hw =>
    obtain ⟨hread, hrest₁⟩ := h.value _ hn w rest₁ hw
    have hall : ∀ w' ∈ w :: done, w'.Readable n := List.forall_mem_cons.mpr ⟨hread, hdone⟩
    -- a bracket ends the items, and a comma asks for another one
    split at hv
    · next rest₂ hend =>
      have hrest₂ := length_of_skipBlanks hend
      cases hv
      exact ⟨readable_array fun w' hw' => hall w' (List.mem_reverse.mp hw'), by omega⟩
    · next rest₂ hcomma =>
      have hrest₂ := length_of_skipBlanks hcomma
      have hblank := length_skipBlanks rest₂
      obtain ⟨hread', hrest⟩ := h.elements _ _ (by omega) hall v rest hv
      exact ⟨hread', by omega⟩
    · cases hv

end FitAt

/-- **Every function of the reader fits**, at every bound. -/
theorem fitAt (n bound : Nat) : FitAt n bound := by
  -- values, members and items call one another, each with a bound that is smaller by one
  induction bound with
  | zero =>
    constructor
    · intro cs _ v rest h
      rw [value] at h
      cases h
    · intro done cs _ _ v rest h
      rw [members] at h
      cases h
    · intro done cs _ _ v rest h
      rw [elements] at h
      cases h
  | succ bound ih =>
    constructor
    · exact fun cs hn => ih.value_succ hn
    · exact fun done cs hn hdone => ih.members_succ hn hdone
    · exact fun done cs hn hdone => ih.elements_succ hn hdone

/-- What is read off a text is readable. -/
theorem readable_parse (h : parse cs = .ok v) : v.Readable cs.length := by
  unfold parse at h
  split at h
  · cases h
  · next w rest hw =>
    obtain ⟨hread, -⟩ := (fitAt cs.length _).value _ (length_skipBlanks cs) w rest hw
    split at h
    · cases h
      exact hread
    · cases h

end Reader

/-! ## 4. Bodies -/

variable {bytes : Bytes} {cs : List Char}

/-- A text in UTF-8 has no more characters than bytes. -/
theorem length_decodeFrom {pos skip : Nat} {done : List Char}
    (h : Utf8.decodeFrom pos done skip bytes = .ok cs) : cs.length ≤ done.length + bytes.length := by
  -- a character has at least one byte
  fun_induction Utf8.decodeFrom pos done skip bytes with
  | case1 pos done =>
    cases h
    simp
  | case2 pos done skip head rest ih =>
    have hrest := ih h
    rw [List.length_cons]
    omega
  | case3 pos done lead rest c width _ ih =>
    have hrest := ih h
    simp only [List.length_cons] at hrest ⊢
    omega
  | case4 pos done lead rest fault width _ _ ih =>
    have hrest := ih h
    simp only [List.length_cons] at hrest ⊢
    omega
  | case5 => cases h

/-- A text in units of two bytes has no more characters than bytes. -/
theorem length_decode16 {order : Wide.ByteOrder} {pos : Nat} {units : Text.Surrogate.Units}
    (h : Wide.decode16 order pos units bytes = .ok cs) :
    cs.length ≤ units.flush.length + bytes.length := by
  fun_induction Wide.decode16 order pos units bytes with
  | case1 pos units =>
    cases h
    simp [Text.Surrogate.Units.chars]
  | case2 => cases h
  | case3 pos units a b rest ih =>
    have hrest := ih h
    have hunit := Reader.length_flush_pushUnit units (order.unit16 a b)
    simp only [List.length_cons]
    omega

/-- A text in units of four bytes has no more characters than bytes. -/
theorem length_decode32 {order : Wide.ByteOrder} {pos : Nat} {done : List Char}
    (h : Wide.decode32 order pos done bytes = .ok cs) : cs.length ≤ done.length + bytes.length := by
  fun_induction Wide.decode32 order pos done bytes with
  | case1 pos done =>
    cases h
    simp
  | case2 pos done a b c d rest u _ ih =>
    have hrest := ih h
    simp only [List.length_cons] at hrest ⊢
    omega
  | case3 => cases h
  | case4 => cases h

/-- The text of a body has no more characters than the body has bytes. -/
theorem length_decodeBytes (h : decodeBytes bytes = .ok cs) : cs.length ≤ bytes.length := by
  have h8 {rest : Bytes} (h : Utf8.decode rest = .ok cs) : cs.length ≤ rest.length :=
    (length_decodeFrom h).trans_eq (Nat.zero_add _)
  have h16 {order : Wide.ByteOrder} {pos : Nat} {rest : Bytes}
      (h : Wide.decode16 order pos {} rest = .ok cs) : cs.length ≤ rest.length :=
    (length_decode16 h).trans_eq (Nat.zero_add _)
  have h32 {order : Wide.ByteOrder} {pos : Nat} {rest : Bytes}
      (h : Wide.decode32 order pos [] rest = .ok cs) : cs.length ≤ rest.length :=
    (length_decode32 h).trans_eq (Nat.zero_add _)
  have hunmarked (h : decodeUnmarked bytes = .ok cs) : cs.length ≤ bytes.length := by
    unfold decodeUnmarked at h
    split at h
    · split at h
      · split at h
        · exact h32 h
        · exact h16 h
      · split at h
        · split at h
          · exact h32 h
          · exact h16 h
        · exact h8 h
    · split at h
      · exact h16 h
      · split at h
        · exact h16 h
        · exact h8 h
    · exact h8 h
  -- a byte-order mark is dropped
  have hdrop (n : Nat) : (bytes.drop n).length ≤ bytes.length := by
    rw [List.length_drop]
    omega
  unfold decodeBytes at h
  split at h
  · exact (h32 h).trans (hdrop 4)
  · split at h
    · exact (h32 h).trans (hdrop 4)
    · split at h
      · exact (h16 h).trans (hdrop 2)
      · split at h
        · exact (h16 h).trans (hdrop 2)
        · split at h
          · exact (h8 h).trans (hdrop 3)
          · exact hunmarked h

/-- **What is read from a body is readable**: its strings are no longer than the body. -/
theorem readable_ofBytes {v : Json} (h : Json.ofBytes bytes = .ok v) : v.Readable bytes.length := by
  unfold Json.ofBytes at h
  split at h
  · next cs hcs =>
    have hle := length_decodeBytes hcs
    unfold ofChars at h
    split at h
    · next w hw =>
      cases h
      refine (Reader.readable_parse hw).imp fun v hv => ?_
      cases v with
      | string s => exact hv.trans hle
      | _ => exact hv
    · cases h
  · cases h

end Json

end Workspace
