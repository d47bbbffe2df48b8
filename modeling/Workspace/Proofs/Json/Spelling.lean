/-
# What spells a JSON value

A value has many spellings: blanks may stand around every part, a character of a string may be
escaped, and a number may be written with an exponent.  `Spells` is the grammar of them.  It says
what may be written without saying how to read it, and it knows nothing of the reader beyond the
tables of its words and blanks.

`Spells.isPlain` says what the encoding of a spelling can be told by: it starts with an ASCII
character, and U+0000 does not occur in it.
-/
import Workspace.Json.Text
namespace Workspace.Json

open Text.Surrogate (isHigh isLow)

/-! ## 1. Strings -/

/-- The letters that stand for a character behind a backslash. -/
def escapeLetters : List (Char × Char) :=
  [('"', '"'), ('\\', '\\'), ('/', '/'), ('b', '\x08'), ('f', '\x0c'), ('n', '\n'), ('r', '\r'),
    ('t', '\t')]

/-- `SpellsText t cs`: between quotation marks, `t` spells the characters `cs`. -/
inductive SpellsText : List Char → List Char → Prop
  | nil : SpellsText [] []
  /-- A character stands for itself, unless it is a mark, a backslash or a control. -/
  | plain {c : Char} {t cs : List Char} : c ≠ '"' → c ≠ '\\' → 0x20 ≤ c.toNat →
      SpellsText t cs → SpellsText (c :: t) (c :: cs)
  | letter {l c : Char} {t cs : List Char} : (l, c) ∈ escapeLetters →
      SpellsText t cs → SpellsText ('\\' :: l :: t) (c :: cs)
  /-- Four hexadecimal digits stand for a character below U+10000. -/
  | unit {h₁ h₂ h₃ h₄ : Char} {u : Nat} {t cs : List Char} :
      Text.Hex.quad? h₁ h₂ h₃ h₄ = some u → isHigh u = false → isLow u = false →
      SpellsText t cs → SpellsText ('\\' :: 'u' :: h₁ :: h₂ :: h₃ :: h₄ :: t) (Char.ofNat u :: cs)
  /-- The two halves of a pair stand for a character from U+10000 on. -/
  | pair {h₁ h₂ h₃ h₄ l₁ l₂ l₃ l₄ : Char} {high low : Nat} {t cs : List Char} :
      Text.Hex.quad? h₁ h₂ h₃ h₄ = some high → isHigh high = true →
      Text.Hex.quad? l₁ l₂ l₃ l₄ = some low → isLow low = true → SpellsText t cs →
      SpellsText ('\\' :: 'u' :: h₁ :: h₂ :: h₃ :: h₄ ::
        '\\' :: 'u' :: l₁ :: l₂ :: l₃ :: l₄ :: t) (Text.Surrogate.join high low :: cs)

/-! ## 2. Numbers -/

/-- Decimal digits, at least one. -/
def IsDigits (ds : List Char) : Prop := ds ≠ [] ∧ ∀ d ∈ ds, d.isDigit = true

/-- The digits of a whole number: a zero leads only if it stands alone. -/
def IsWhole (ds : List Char) : Prop := IsDigits ds ∧ (ds.head? = some '0' → ds = ['0'])

/-- The number of some digits. -/
abbrev digitsValue (ds : List Char) : Nat := Nat.ofDigitChars 10 ds 0

/-- The sign of a number. -/
def signChars (negative : Bool) : List Char := if negative then ['-'] else []

/-- A natural number with a sign. -/
def signed (negative : Bool) (n : Nat) : Int := if negative then -(n : Int) else n

/-- The exponent of a number. -/
inductive SpellsExponent : List Char → Int → Prop
  | bare {mark : Char} {ds : List Char} : mark = 'e' ∨ mark = 'E' → IsDigits ds →
      SpellsExponent (mark :: ds) (digitsValue ds)
  | plus {mark : Char} {ds : List Char} : mark = 'e' ∨ mark = 'E' → IsDigits ds →
      SpellsExponent (mark :: '+' :: ds) (digitsValue ds)
  | minus {mark : Char} {ds : List Char} : mark = 'e' ∨ mark = 'E' → IsDigits ds →
      SpellsExponent (mark :: '-' :: ds) (-(digitsValue ds : Int))

/-! ## 3. Values -/

/-- What a piece of JSON text stands for: a value, one or more items of an array, or one or more
members of an object. -/
inductive Part
  | value (v : Json)
  | items (vs : List Json)
  | members (entries : Members)

/-- A run of white space. -/
def AllBlank (b : List Char) : Prop := ∀ c ∈ b, Reader.isBlank c = true

/-- `Spells t part`: the text `t` spells the part. -/
inductive Spells : List Char → Part → Prop
  | word {w : String} {v : Json} : (w, v) ∈ Reader.words → Spells w.toList (.value v)
  /-- An integer has a limited number of digits. -/
  | int {negative : Bool} {ds : List Char} : IsWhole ds → ds.length ≤ Reader.maxDigits →
      Spells (signChars negative ++ ds) (.value (.int (signed negative (digitsValue ds))))
  | decimal {negative : Bool} {ds fraction : List Char} : IsWhole ds → IsDigits fraction →
      Spells (signChars negative ++ (ds ++ '.' :: fraction))
        (.value (.number (.ofDecimal negative (digitsValue (ds ++ fraction)) (-fraction.length))))
  | scientific {negative : Bool} {ds t : List Char} {e : Int} : IsWhole ds → SpellsExponent t e →
      Spells (signChars negative ++ (ds ++ t))
        (.value (.number (.ofDecimal negative (digitsValue ds) e)))
  | decimalScientific {negative : Bool} {ds fraction t : List Char} {e : Int} :
      IsWhole ds → IsDigits fraction → SpellsExponent t e →
      Spells (signChars negative ++ (ds ++ '.' :: (fraction ++ t)))
        (.value (.number
          (.ofDecimal negative (digitsValue (ds ++ fraction)) (e - fraction.length))))
  | string {t cs : List Char} : SpellsText t cs →
      Spells ('"' :: (t ++ ['"'])) (.value (.string (String.ofList cs)))
  | emptyArray {b : List Char} : AllBlank b → Spells ('[' :: (b ++ [']'])) (.value (.array []))
  | array {t : List Char} {vs : List Json} : Spells t (.items vs) →
      Spells ('[' :: (t ++ [']'])) (.value (.array vs))
  | emptyObject {b : List Char} : AllBlank b →
      Spells ('\x7b' :: (b ++ ['\x7d'])) (.value (.object []))
  /-- Of two members with one key the last value counts, at the place of the first. -/
  | object {t : List Char} {entries : Members} : Spells t (.members entries) →
      Spells ('\x7b' :: (t ++ ['\x7d'])) (.value (.object (Members.putAll [] entries)))
  /-- Blanks may stand on both sides of everything. -/
  | padded {b t b' : List Char} {part : Part} : AllBlank b → Spells t part → AllBlank b' →
      Spells (b ++ (t ++ b')) part
  | lastItem {t : List Char} {v : Json} : Spells t (.value v) → Spells t (.items [v])
  | item {t t' : List Char} {v : Json} {vs : List Json} : Spells t (.value v) →
      Spells t' (.items vs) → Spells (t ++ ',' :: t') (.items (v :: vs))
  | lastMember {k cs b t : List Char} {v : Json} : SpellsText k cs → AllBlank b →
      Spells t (.value v) →
      Spells ('"' :: (k ++ '"' :: (b ++ ':' :: t))) (.members [(String.ofList cs, v)])
  | member {k cs b t t' : List Char} {v : Json} {entries : Members} : SpellsText k cs →
      AllBlank b → Spells t (.value v) → Spells t' (.members entries) →
      Spells ('"' :: (k ++ '"' :: (b ++ ':' :: (t ++ ',' :: t'))))
        (.members ((String.ofList cs, v) :: entries))

/-! ## 4. Spellings are plain -/

/-- A text that no encoding but UTF-8 can be mistaken for: it starts with an ASCII character, and
U+0000 does not occur in it. -/
structure IsPlain (t : List Char) : Prop where
  head : ∃ c t', t = c :: t' ∧ c.toNat < 128
  nul : '\x00' ∉ t

theorem IsPlain.cons {c : Char} {t : List Char} (hc : c.toNat < 128 ∧ c ≠ '\x00')
    (ht : '\x00' ∉ t) : IsPlain (c :: t) :=
  ⟨⟨c, t, rfl, hc.1⟩, fun h => (List.mem_cons.mp h).elim (fun e => hc.2 e.symm) ht⟩

theorem IsPlain.append {t t' : List Char} (h : IsPlain t) (h' : '\x00' ∉ t') :
    IsPlain (t ++ t') := by
  obtain ⟨c, rest, rfl, hc⟩ := h.head
  exact ⟨⟨c, rest ++ t', rfl, hc⟩, fun hmem => (List.mem_append.mp hmem).elim h.nul h'⟩

theorem ne_nul_of_value? {c : Char} {v : Nat} (h : Text.Hex.value? c = some v) : '\x00' ≠ c := by
  rintro rfl
  have hnone : Text.Hex.value? '\x00' = none := by decide
  rw [hnone] at h
  cases h

theorem nul_notMem_of_quad? {a b c d : Char} {u : Nat} (h : Text.Hex.quad? a b c d = some u) :
    '\x00' ∉ [a, b, c, d] := by
  simp only [Text.Hex.quad?, Option.bind_eq_bind, Option.bind_eq_some_iff] at h
  obtain ⟨_, ha, _, hb, _, hc, _, hd, -⟩ := h
  simp [ne_nul_of_value? ha, ne_nul_of_value? hb, ne_nul_of_value? hc, ne_nul_of_value? hd]

theorem ne_nul_of_mem_escapeLetters : ∀ entry ∈ escapeLetters, '\x00' ≠ entry.1 := by decide

theorem isPlain_word {w : String} {v : Json} (h : (w, v) ∈ Reader.words) : IsPlain w.toList := by
  simp only [Reader.words, List.mem_cons, List.not_mem_nil, or_false] at h
  rcases h with h | h | h | h | h | h <;> cases h <;> exact ⟨⟨_, _, rfl, by decide⟩, by decide⟩

theorem SpellsText.nul_notMem {t cs : List Char} (h : SpellsText t cs) : '\x00' ∉ t := by
  induction h with
  | nil => exact List.not_mem_nil
  | plain _ _ hcontrol _ ih =>
    rintro (_ | ⟨_, hmem⟩)
    · exact absurd hcontrol (by decide)
    · exact ih hmem
  | letter hl _ ih =>
    have := ne_nul_of_mem_escapeLetters _ hl
    simp_all
  | unit hu _ _ _ ih =>
    have := nul_notMem_of_quad? hu
    simp_all
  | pair hu _ hl _ _ ih =>
    have := nul_notMem_of_quad? hu
    have := nul_notMem_of_quad? hl
    simp_all

theorem plain_of_isDigit {d : Char} (h : d.isDigit = true) : d.toNat < 128 ∧ d ≠ '\x00' := by
  simp only [Char.isDigit, Bool.and_eq_true, decide_eq_true_eq] at h
  refine ⟨?_, ?_⟩
  · have hnine : d.toNat ≤ 57 := UInt32.le_iff_toNat_le.mp h.2
    omega
  · rintro rfl
    exact absurd h.1 (by decide)

theorem IsDigits.isPlain {ds : List Char} (h : IsDigits ds) : IsPlain ds := by
  obtain ⟨d, ds', rfl⟩ := List.exists_cons_of_ne_nil h.1
  exact .cons (plain_of_isDigit (h.2 d List.mem_cons_self)) fun hmem =>
    (plain_of_isDigit (h.2 _ (List.mem_cons_of_mem _ hmem))).2 rfl

theorem SpellsExponent.nul_notMem {t : List Char} {e : Int} (h : SpellsExponent t e) :
    '\x00' ∉ t := by
  cases h with
  | bare hmark hds => rcases hmark with rfl | rfl <;> simp [hds.isPlain.nul]
  | plus hmark hds => rcases hmark with rfl | rfl <;> simp [hds.isPlain.nul]
  | minus hmark hds => rcases hmark with rfl | rfl <;> simp [hds.isPlain.nul]

theorem AllBlank.nul_notMem {b : List Char} (h : AllBlank b) : '\x00' ∉ b :=
  fun hmem => absurd (h _ hmem) (by decide)

theorem isPlain_number {negative : Bool} {ds t : List Char} (hds : IsDigits ds)
    (ht : '\x00' ∉ t) : IsPlain (signChars negative ++ (ds ++ t)) := by
  cases negative with
  | true => exact .cons (by decide) (hds.isPlain.append ht).nul
  | false => exact hds.isPlain.append ht

/-- **Spellings are plain.** -/
theorem Spells.isPlain {t : List Char} {part : Part} (h : Spells t part) : IsPlain t := by
  -- what starts a spelling is a mark, a digit or a blank, and U+0000 is none of what can follow
  induction h with
  | word hw => exact isPlain_word hw
  | @int negative ds hds _ =>
    rw [← List.append_nil ds]
    exact isPlain_number hds.1 List.not_mem_nil
  | decimal hds hf => exact isPlain_number hds.1 (by simp [hf.isPlain.nul])
  | scientific hds ht => exact isPlain_number hds.1 ht.nul_notMem
  | decimalScientific hds hf ht =>
    exact isPlain_number hds.1 (by simp [hf.isPlain.nul, ht.nul_notMem])
  | string h => exact .cons (by decide) (by simp [h.nul_notMem])
  | emptyArray hb => exact .cons (by decide) (by simp [hb.nul_notMem])
  | array _ ih => exact .cons (by decide) (by simp [ih.nul])
  | emptyObject hb => exact .cons (by decide) (by simp [hb.nul_notMem])
  | object _ ih => exact .cons (by decide) (by simp [ih.nul])
  | @padded b t b' part hb _ hb' ih =>
    have ht := ih.append hb'.nul_notMem
    cases b with
    | nil => exact ht
    | cons c b =>
      have hc := hb c List.mem_cons_self
      refine .cons ?_ fun hmem => (List.mem_append.mp hmem).elim
        (fun h => hb.nul_notMem (List.mem_cons_of_mem _ h)) ht.nul
      simp only [Reader.isBlank, Bool.or_eq_true, beq_iff_eq] at hc
      rcases hc with ((rfl | rfl) | rfl) | rfl <;> decide
  | lastItem _ ih => exact ih
  | item _ _ ih ih' => exact ih.append (by simp [ih'.nul])
  | lastMember hk hb _ ih =>
    exact .cons (by decide) (by simp [hk.nul_notMem, hb.nul_notMem, ih.nul])
  | member hk hb _ _ ih ih' =>
    exact .cons (by decide) (by simp [hk.nul_notMem, hb.nul_notMem, ih.nul, ih'.nul])

end Workspace.Json
