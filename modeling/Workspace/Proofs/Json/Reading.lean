/-
# Every spelling is read

The reader reads every spelling of a value, as a string (`Spells.ofString`) and as a body in UTF-8
(`Spells.ofBytes`), and gives the value.

The proof is one induction over spellings (`Spells.reads`): each piece of text is read at its place,
with more text behind it, and the bound on the characters left always suffices.
-/
import Workspace.Proofs.Json.Spelling
namespace Workspace.Json

open Text.Surrogate (isHigh isLow)

/-! ## 1. Strings are read -/

theorem shortEscape?_of_mem : ∀ entry ∈ escapeLetters,
    Reader.shortEscape? entry.1 = some entry.2 ∧ entry.1 ≠ 'u' := by decide

section

variable (start : List Char) (rest : List Char)

theorem stringBody_unit {h₁ h₂ h₃ h₄ : Char} {u : Nat} (hu : Text.Hex.quad? h₁ h₂ h₃ h₄ = some u)
    (units : Text.Surrogate.Units) {tail : List Char} (ht : tail ≠ []) :
    Reader.stringBody start units ('\\' :: 'u' :: h₁ :: h₂ :: h₃ :: h₄ :: tail) =
      Reader.stringBody start (units.pushUnit u) tail := by
  rw [Reader.stringBody.eq_def]
  simp [hu, ht]

/-- **A spelled string is read**, up to its closing mark. -/
theorem SpellsText.stringBody {t cs : List Char} (h : SpellsText t cs) (done : List Char) :
    Reader.stringBody start ⟨done, none⟩ (t ++ '"' :: rest) =
      .ok (String.ofList (done.reverse ++ cs), rest) := by
  -- between two spelled characters no high half is pending
  induction h generalizing done with
  | nil =>
    rw [Reader.stringBody.eq_def]
    simp [Text.Surrogate.Units.chars, Text.Surrogate.Units.flush]
  | @plain c t cs hmark hslash hcontrol _ ih =>
    have hcontrol' : ¬ c.toNat < 0x20 := by omega
    rw [List.cons_append, Reader.stringBody.eq_def]
    simpa [hmark, hslash, hcontrol', Text.Surrogate.Units.push, Text.Surrogate.Units.flush] using
      ih (c :: done)
  | @letter l c t cs hl _ ih =>
    obtain ⟨hc, hu⟩ := shortEscape?_of_mem _ hl
    rw [List.cons_append, List.cons_append, Reader.stringBody.eq_def]
    simpa [hc, hu, Text.Surrogate.Units.push, Text.Surrogate.Units.flush] using ih (c :: done)
  | @unit h₁ h₂ h₃ h₄ u t cs hu hhigh hlow _ ih =>
    simp only [List.cons_append]
    rw [stringBody_unit _ hu _ (by simp)]
    simpa [Text.Surrogate.Units.pushUnit, hhigh, hlow, Text.Surrogate.Units.push,
      Text.Surrogate.Units.flush, Text.Surrogate.single] using ih (Char.ofNat u :: done)
  | @pair h₁ h₂ h₃ h₄ l₁ l₂ l₃ l₄ high low t cs hquad hhigh hquad' hlow _ ih =>
    have hnot : isHigh low = false := by
      simp only [isHigh, isLow, Bool.and_eq_true, Bool.and_eq_false_iff, decide_eq_true_eq,
        decide_eq_false_iff_not] at hlow ⊢
      omega
    simp only [List.cons_append]
    rw [stringBody_unit _ hquad _ (by simp), stringBody_unit _ hquad' _ (by simp)]
    simpa [Text.Surrogate.Units.pushUnit, hhigh, hnot, hlow, Text.Surrogate.Units.flush] using
      ih (Text.Surrogate.join high low :: done)

end

/-! ## 2. Blanks are skipped -/

section Blanks

open Reader (skipBlanks)

theorem skipBlanks_append {b : List Char} (hb : AllBlank b) (rest : List Char) :
    skipBlanks (b ++ rest) = skipBlanks rest := List.dropWhile_append_of_pos hb

theorem skipBlanks_cons {c : Char} (hc : Reader.isBlank c = false) (rest : List Char) :
    skipBlanks (c :: rest) = c :: rest := List.dropWhile_cons_of_neg (by simp [hc])

/-- After a number there may stand anything that does not carry it on. -/
def Delimited (rest : List Char) : Prop :=
  ∀ c, rest.head? = some c → c.isDigit = false ∧ c ≠ '.' ∧ c ≠ 'e' ∧ c ≠ 'E'

theorem delimited_nil : Delimited [] := fun _ h => nomatch h

theorem delimited_cons {c : Char} (hc : c = ',' ∨ c = ']' ∨ c = '\x7d') (rest : List Char) :
    Delimited (c :: rest) := by
  intro d hd
  cases hd
  rcases hc with rfl | rfl | rfl <;> decide

/-- A blank carries no number on. -/
theorem delimited_append {b rest : List Char} (hb : AllBlank b) (hr : Delimited rest) :
    Delimited (b ++ rest) := by
  cases b with
  | nil => exact hr
  | cons c b =>
    intro d hd
    cases hd
    have hc := hb c List.mem_cons_self
    simp only [Reader.isBlank, Bool.or_eq_true, beq_iff_eq] at hc
    rcases hc with ((rfl | rfl) | rfl) | rfl <;> decide

/-- What stands behind a value carries no number on, if the next mark does not. -/
theorem delimited_of_skipBlanks {tail rest : List Char} {c : Char}
    (h : skipBlanks tail = c :: rest) (hc : c = ',' ∨ c = ']' ∨ c = '\x7d') : Delimited tail := by
  have htail : tail = tail.takeWhile Reader.isBlank ++ c :: rest := by
    rw [← h]
    exact List.takeWhile_append_dropWhile.symm
  have hblank : AllBlank (tail.takeWhile Reader.isBlank) :=
    List.all_eq_true.mp List.all_takeWhile
  rw [htail]
  exact delimited_append hblank (delimited_cons hc rest)

end Blanks

/-! ## 3. Numbers are read -/

section Numbers

variable {negative : Bool} {ds : List Char}

/-- A text that does not start with a digit. -/
def NoDigit (rest : List Char) : Prop := ∀ c, rest.head? = some c → c.isDigit = false

theorem Delimited.noDigit {rest : List Char} (h : Delimited rest) : NoDigit rest :=
  fun c hc => (h c hc).1

theorem noDigit_cons {c : Char} (hc : c.isDigit = false) (rest : List Char) :
    NoDigit (c :: rest) := by
  intro d hd
  cases hd
  exact hc

theorem IsDigits.takeWhile (h : IsDigits ds) {rest : List Char} (hr : NoDigit rest) :
    (ds ++ rest).takeWhile Char.isDigit = ds ∧ (ds ++ rest).dropWhile Char.isDigit = rest := by
  rw [List.takeWhile_append_of_pos h.2, List.dropWhile_append_of_pos h.2]
  cases rest with
  | nil => simp
  | cons c rest => simp [hr c rfl]

/-- The digits of a whole number are cut off where they end. -/
theorem IsWhole.wholeDigits (h : IsWhole ds) {rest : List Char} (hr : NoDigit rest) :
    Reader.wholeDigits (ds ++ rest) = (ds, rest) := by
  by_cases hzero : ds.head? = some '0'
  · rw [h.2 hzero]
    rfl
  · obtain ⟨htake, hdrop⟩ := h.1.takeWhile hr
    cases ds with
    | nil => exact absurd rfl h.1.1
    | cons d ds =>
      have hd : d ≠ '0' := fun e => hzero (congrArg some e)
      unfold Reader.wholeDigits
      split
      · next heq => exact absurd (List.cons.inj heq).1 hd
      · rw [htake, hdrop]

/-- The digits of a fraction are cut off where they end. -/
theorem IsDigits.fractionDigits (h : IsDigits ds) {rest : List Char} (hr : NoDigit rest) :
    Reader.fractionDigits ('.' :: (ds ++ rest)) = (ds, rest) := by
  obtain ⟨htake, hdrop⟩ := h.takeWhile hr
  cases ds with
  | nil => exact absurd rfl h.1
  | cons d ds =>
    have hd := h.2 d List.mem_cons_self
    rw [List.cons_append] at htake hdrop ⊢
    rw [Reader.fractionDigits, if_pos hd, htake, hdrop]

/-- Without a point there is no fraction. -/
theorem fractionDigits_of_ne {rest : List Char} (h : rest.head? ≠ some '.') :
    Reader.fractionDigits rest = ([], rest) := by
  unfold Reader.fractionDigits
  split
  · exact absurd rfl h
  · rfl

theorem ne_sign_of_isDigit {d : Char} (h : d.isDigit = true) : d ≠ '-' ∧ d ≠ '+' := by
  constructor
  · rintro rfl
    exact absurd h (by decide)
  · rintro rfl
    exact absurd h (by decide)

/-- A spelled exponent is read up to its end. -/
theorem SpellsExponent.exponent? {t : List Char} {e : Int} (h : SpellsExponent t e)
    {rest : List Char} (hr : NoDigit rest) : Reader.exponent? (t ++ rest) = some (e, rest) := by
  cases h with
  | @bare mark ds hmark hds =>
    obtain ⟨htake, hdrop⟩ := hds.takeWhile hr
    obtain ⟨d, ds', rfl⟩ := List.exists_cons_of_ne_nil hds.1
    obtain ⟨hminus, hplus⟩ := ne_sign_of_isDigit (hds.2 d List.mem_cons_self)
    rw [List.cons_append] at htake hdrop
    simp [Reader.exponent?, hmark, hminus, hplus, htake, hdrop]
  | @plus mark ds hmark hds =>
    obtain ⟨htake, hdrop⟩ := hds.takeWhile hr
    simp [Reader.exponent?, hmark, htake, hdrop, hds.1]
  | @minus mark ds hmark hds =>
    obtain ⟨htake, hdrop⟩ := hds.takeWhile hr
    simp [Reader.exponent?, hmark, htake, hdrop, hds.1]

theorem SpellsExponent.exists_cons {t : List Char} {e : Int} (h : SpellsExponent t e) :
    ∃ mark t', t = mark :: t' ∧ (mark = 'e' ∨ mark = 'E') := by
  cases h with
  | bare hmark _ => exact ⟨_, _, rfl, hmark⟩
  | plus hmark _ => exact ⟨_, _, rfl, hmark⟩
  | minus hmark _ => exact ⟨_, _, rfl, hmark⟩

/-- Without a mark there is no exponent. -/
theorem Delimited.exponent? {rest : List Char} (h : Delimited rest) :
    Reader.exponent? rest = none := by
  cases rest with
  | nil => rfl
  | cons c rest =>
    obtain ⟨-, -, he, hE⟩ := h c rfl
    simp [Reader.exponent?, he, hE]

/-- A number is read by its parts: the sign and the whole digits come first, and the fraction and
the exponent are in what follows. -/
theorem IsWhole.numeral (h : IsWhole ds) {tail fraction rest : List Char} (ht : NoDigit tail)
    (hf : Reader.fractionDigits tail = (fraction, rest)) :
    Reader.numeral (signChars negative ++ (ds ++ tail)) =
      match Reader.exponent? rest with
      | some (e, rest) =>
        .ok (number (.ofDecimal negative (digitsValue (ds ++ fraction)) (e - fraction.length)), rest)
      | none =>
        if !fraction.isEmpty then
          .ok (number (.ofDecimal negative (digitsValue (ds ++ fraction)) (-fraction.length)), rest)
        else if Reader.maxDigits < ds.length then .error (.tooManyDigits ds.length)
        else .ok (int (signed negative (digitsValue (ds ++ fraction))), rest) := by
  have hempty : ds.isEmpty = false := by simpa using h.1.1
  have hwhole := h.wholeDigits ht
  -- the digits start with no sign, so a sign in front is that of the number
  cases negative with
  | true =>
    cases hexponent : Reader.exponent? rest <;>
      simp only [signChars, if_true, List.cons_append, List.nil_append, Reader.numeral, hwhole,
        hempty, hf, hexponent, signed, digitsValue, Bool.false_eq_true, if_false]
  | false =>
    obtain ⟨d, ds', rfl⟩ := List.exists_cons_of_ne_nil h.1.1
    obtain ⟨hminus, -⟩ := ne_sign_of_isDigit (h.1.2 d List.mem_cons_self)
    rw [List.cons_append] at hwhole
    cases hexponent : Reader.exponent? rest <;>
      simp [signChars, Reader.numeral, hminus, hwhole, hf, hexponent, signed, digitsValue]

end Numbers

/-! ## 4. Values are read -/

section Values

open Reader (skipBlanks)

/-- `Reads t part`: the reader takes the text for the part, whatever stands behind it.  Blanks in
front are skipped before a value is read, and those behind it are left; items and members are read
together with the mark that closes them. -/
def Reads (t : List Char) : Part → Prop
  | .value v => ∀ bound rest, t.length < bound → Delimited rest →
      ∃ rest', Reader.value bound (skipBlanks (t ++ rest)) = .ok (v, rest') ∧
        skipBlanks rest' = skipBlanks rest
  | .items vs => ∀ bound done tail rest, t.length + 1 < bound → skipBlanks tail = ']' :: rest →
      Reader.elements bound done (skipBlanks (t ++ tail)) = .ok (.array (done.reverse ++ vs), rest)
  | .members entries => ∀ bound done tail rest, t.length + 1 < bound →
      skipBlanks tail = '\x7d' :: rest →
      Reader.members bound done (skipBlanks (t ++ tail)) =
        .ok (.object (Members.putAll done entries), rest)

theorem Reads.word {w : String} {v : Json} (h : (w, v) ∈ Reader.words) :
    Reads w.toList (.value v) := by
  rintro (_ | bound) rest hbound -
  · exact absurd hbound (Nat.not_lt_zero _)
  · refine ⟨rest, ?_, rfl⟩
    simp only [Reader.words, List.mem_cons, List.not_mem_nil, or_false] at h
    rcases h with h | h | h | h | h | h <;> cases h <;> rfl

theorem length_of_mem_words : ∀ entry ∈ Reader.words,
    2 ≤ entry.1.toList.length ∧ entry.1.toList.any Char.isDigit = false := by
  decide +kernel

/-- No word starts with a digit, or with a sign before one. -/
theorem word?_number (negative : Bool) {d : Char} (hd : d.isDigit = true) (rest : List Char) :
    Reader.word? (signChars negative ++ d :: rest) = none := by
  rw [Reader.word?, List.findSome?_eq_none_iff]
  rintro ⟨word, v⟩ hentry
  obtain ⟨hlength, hdigits⟩ := length_of_mem_words _ hentry
  refine if_neg fun hprefix => ?_
  obtain ⟨z, hz⟩ := List.isPrefixOf_iff_prefix.mp hprefix
  have hmem : d ∈ word.toList := by
    generalize word.toList = w at *
    rcases w with _ | ⟨a, _ | ⟨b, w⟩⟩
    · simp at hlength
    · simp at hlength
    · cases negative <;> simp_all [signChars]
  exact List.any_eq_false.mp hdigits d hmem hd

/-- What starts with none of the opening marks is a word or a number. -/
theorem value_of_ne {c : Char} (hc : c ≠ '"' ∧ c ≠ '\x7b' ∧ c ≠ '[') (bound : Nat)
    (rest : List Char) :
    Reader.value (bound + 1) (c :: rest) =
      match Reader.word? (c :: rest) with
      | some result => .ok result
      | none => Reader.numeral (c :: rest) := by
  rw [Reader.value]
  all_goals first | rfl | simp [hc]

/-- A digit is neither an opening mark nor a blank. -/
theorem ne_mark_of_isDigit {d : Char} (h : d.isDigit = true) :
    (d ≠ '"' ∧ d ≠ '\x7b' ∧ d ≠ '[') ∧ Reader.isBlank d = false := by
  have hne : ∀ c, c.isDigit = false → d ≠ c := by
    rintro c hc rfl
    rw [hc] at h
    cases h
  refine ⟨⟨hne _ (by decide), hne _ (by decide), hne _ (by decide)⟩, ?_⟩
  simp [Reader.isBlank, hne ' ' (by decide), hne '\t' (by decide), hne '\n' (by decide),
    hne '\r' (by decide)]

/-- A numeral is read as a value. -/
theorem Reads.numeral {negative : Bool} {ds t : List Char} {v : Json} (hds : IsDigits ds)
    (h : ∀ rest, Delimited rest →
      Reader.numeral (signChars negative ++ (ds ++ (t ++ rest))) = .ok (v, rest)) :
    Reads (signChars negative ++ (ds ++ t)) (.value v) := by
  rintro (_ | bound) rest hbound hrest
  · exact absurd hbound (Nat.not_lt_zero _)
  · refine ⟨rest, ?_, rfl⟩
    -- its first character keeps a number from being taken for anything else
    obtain ⟨d, ds', rfl⟩ := List.exists_cons_of_ne_nil hds.1
    have hd := hds.2 d List.mem_cons_self
    have hnumeral := h rest hrest
    simp only [List.append_assoc, List.cons_append] at hnumeral ⊢
    have hword := word?_number negative hd (ds' ++ (t ++ rest))
    obtain ⟨hmark, hblank⟩ := ne_mark_of_isDigit hd
    cases negative with
    | true =>
      rw [signChars, if_pos rfl, List.singleton_append] at *
      rw [skipBlanks_cons (by decide), value_of_ne (by decide), hword, hnumeral]
    | false =>
      rw [signChars, if_neg Bool.false_ne_true, List.nil_append] at *
      rw [skipBlanks_cons hblank, value_of_ne hmark, hword, hnumeral]

section

variable {negative : Bool} {ds : List Char}

theorem Reads.int (hds : IsWhole ds) (hlength : ds.length ≤ Reader.maxDigits) :
    Reads (signChars negative ++ ds) (.value (.int (signed negative (digitsValue ds)))) := by
  rw [← List.append_nil ds]
  refine .numeral hds.1 fun rest hr => ?_
  have hpoint : rest.head? ≠ some '.' := fun h => (hr '.' h).2.1 rfl
  rw [List.nil_append, hds.numeral hr.noDigit (fractionDigits_of_ne hpoint), hr.exponent?]
  simp [Nat.not_lt.mpr hlength]

theorem Reads.decimal {fraction : List Char} (hds : IsWhole ds) (hf : IsDigits fraction) :
    Reads (signChars negative ++ (ds ++ '.' :: fraction))
      (.value (.number
        (.ofDecimal negative (digitsValue (ds ++ fraction)) (-fraction.length)))) := by
  refine .numeral hds.1 fun rest hr => ?_
  have hempty : fraction.isEmpty = false := by simpa using hf.1
  rw [List.cons_append, hds.numeral (noDigit_cons (by decide) _) (hf.fractionDigits hr.noDigit),
    hr.exponent?]
  simp [hempty]

/-- A number with an exponent is read. -/
theorem Reads.scientific {t : List Char} {e : Int} (hds : IsWhole ds) (ht : SpellsExponent t e) :
    Reads (signChars negative ++ (ds ++ t))
      (.value (.number (.ofDecimal negative (digitsValue ds) e))) := by
  refine .numeral hds.1 fun rest hr => ?_
  have hexponent := ht.exponent? hr.noDigit
  obtain ⟨mark, t', rfl, hmark⟩ := ht.exists_cons
  have hmark' : mark.isDigit = false ∧ mark ≠ '.' := by
    rcases hmark with rfl | rfl <;> decide
  have hpoint : (mark :: (t' ++ rest)).head? ≠ some '.' := fun h => hmark'.2 (Option.some.inj h)
  rw [List.cons_append] at hexponent ⊢
  rw [hds.numeral (noDigit_cons hmark'.1 _) (fractionDigits_of_ne hpoint), hexponent]
  simp

/-- A number with a fraction and an exponent is read. -/
theorem Reads.decimalScientific {fraction t : List Char} {e : Int} (hds : IsWhole ds)
    (hf : IsDigits fraction) (ht : SpellsExponent t e) :
    Reads (signChars negative ++ (ds ++ '.' :: (fraction ++ t)))
      (.value (.number
        (.ofDecimal negative (digitsValue (ds ++ fraction)) (e - fraction.length)))) := by
  refine .numeral hds.1 fun rest hr => ?_
  have hexponent := ht.exponent? hr.noDigit
  obtain ⟨mark, t', rfl, hmark⟩ := ht.exists_cons
  have hdigit : mark.isDigit = false := by rcases hmark with rfl | rfl <;> decide
  have hfraction : Reader.fractionDigits ('.' :: (fraction ++ (mark :: t' ++ rest))) = _ :=
    hf.fractionDigits (noDigit_cons hdigit _)
  rw [List.cons_append, List.append_assoc, hds.numeral (noDigit_cons (by decide) _) hfraction,
    hexponent]

end

theorem Reads.string {t cs : List Char} (h : SpellsText t cs) :
    Reads ('"' :: (t ++ ['"'])) (.value (.string (String.ofList cs))) := by
  rintro (_ | bound) rest hbound -
  · exact absurd hbound (Nat.not_lt_zero _)
  · refine ⟨rest, ?_, rfl⟩
    have hbody := h.stringBody ('"' :: (t ++ '"' :: rest)) rest []
    simp only [List.cons_append, List.append_assoc, List.nil_append] at hbody ⊢
    rw [skipBlanks_cons (by decide), Reader.value, hbody]
    rfl

theorem Reads.emptyArray {b : List Char} (hb : AllBlank b) :
    Reads ('[' :: (b ++ [']'])) (.value (.array [])) := by
  rintro (_ | bound) rest hbound -
  · exact absurd hbound (Nat.not_lt_zero _)
  · refine ⟨rest, ?_, rfl⟩
    rw [List.cons_append, List.append_assoc, skipBlanks_cons (by decide), Reader.value,
      skipBlanks_append hb, List.singleton_append, skipBlanks_cons (by decide)]
    rfl

theorem Reads.emptyObject {b : List Char} (hb : AllBlank b) :
    Reads ('\x7b' :: (b ++ ['\x7d'])) (.value (.object [])) := by
  rintro (_ | bound) rest hbound -
  · exact absurd hbound (Nat.not_lt_zero _)
  · refine ⟨rest, ?_, rfl⟩
    rw [List.cons_append, List.append_assoc, skipBlanks_cons (by decide), Reader.value,
      skipBlanks_append hb, List.singleton_append, skipBlanks_cons (by decide)]
    rfl

theorem elements_bracket (bound : Nat) (done : List Json) (cs : List Char)
    (result : Json × List Char) : Reader.elements bound done (']' :: cs) ≠ .ok result := by
  have hvalue (bound : Nat) :
      Reader.value bound (']' :: cs) = .error (.malformed .expectingValue (']' :: cs)) := by
    cases bound <;> rfl
  cases bound with
  | zero => simp [Reader.elements]
  | succ bound => simp [Reader.elements, hvalue]

theorem members_brace (bound : Nat) (done : Members) (cs : List Char)
    (result : Json × List Char) : Reader.members bound done ('\x7d' :: cs) ≠ .ok result := by
  cases bound <;> simp [Reader.members]

/-- An array is read, if its items are. -/
theorem Reads.array {t : List Char} {vs : List Json} (h : Reads t (.items vs)) :
    Reads ('[' :: (t ++ [']'])) (.value (.array vs)) := by
  rintro (_ | bound) rest hbound -
  · exact absurd hbound (Nat.not_lt_zero _)
  · refine ⟨rest, ?_, rfl⟩
    have hitems := h bound [] (']' :: rest) rest
      (by simp at hbound; omega) (skipBlanks_cons (by decide) _)
    rw [List.cons_append, List.append_assoc, skipBlanks_cons (by decide), Reader.value,
      List.singleton_append]
    split
    · next heq =>
      rw [heq] at hitems
      exact absurd hitems (elements_bracket bound [] _ _)
    · exact hitems

/-- An object is read, if its members are. -/
theorem Reads.object {t : List Char} {entries : Members} (h : Reads t (.members entries)) :
    Reads ('\x7b' :: (t ++ ['\x7d'])) (.value (.object (Members.putAll [] entries))) := by
  rintro (_ | bound) rest hbound -
  · exact absurd hbound (Nat.not_lt_zero _)
  · refine ⟨rest, ?_, rfl⟩
    have hmembers := h bound [] ('\x7d' :: rest) rest
      (by simp at hbound; omega) (skipBlanks_cons (by decide) _)
    rw [List.cons_append, List.append_assoc, skipBlanks_cons (by decide), Reader.value,
      List.singleton_append]
    split
    · next heq =>
      rw [heq] at hmembers
      exact absurd hmembers (members_brace bound [] _ _)
    · exact hmembers

/-- Blanks on both sides change nothing. -/
theorem Reads.padded {b t b' : List Char} {part : Part} (hb : AllBlank b) (h : Reads t part)
    (hb' : AllBlank b') : Reads (b ++ (t ++ b')) part := by
  -- blanks in front are skipped before anything is read, blanks behind it before the next mark
  cases part with
  | value v =>
    intro bound rest hbound hrest
    obtain ⟨rest', hvalue, hskip⟩ :=
      h bound (b' ++ rest) (by simp at hbound; omega) (delimited_append hb' hrest)
    refine ⟨rest', ?_, hskip.trans (skipBlanks_append hb' rest)⟩
    rwa [List.append_assoc, List.append_assoc, skipBlanks_append hb]
  | items vs =>
    intro bound done tail rest hbound htail
    rw [List.append_assoc, List.append_assoc, skipBlanks_append hb]
    exact h bound done _ rest (by simp at hbound; omega) ((skipBlanks_append hb' tail).trans htail)
  | members entries =>
    intro bound done tail rest hbound htail
    rw [List.append_assoc, List.append_assoc, skipBlanks_append hb]
    exact h bound done _ rest (by simp at hbound; omega) ((skipBlanks_append hb' tail).trans htail)

theorem Reads.lastItem {t : List Char} {v : Json} (h : Reads t (.value v)) :
    Reads t (.items [v]) := by
  rintro (_ | bound) done tail rest hbound htail
  · exact absurd hbound (Nat.not_lt_zero _)
  · obtain ⟨rest', hvalue, hskip⟩ := h bound tail (Nat.lt_of_succ_lt_succ hbound)
      (delimited_of_skipBlanks htail (.inr (.inl rfl)))
    rw [Reader.elements, hvalue]
    simp only [hskip, htail, List.reverse_cons]

/-- An item is read with the comma behind it, and then the others. -/
theorem Reads.item {t t' : List Char} {v : Json} {vs : List Json} (h : Reads t (.value v))
    (h' : Reads t' (.items vs)) : Reads (t ++ ',' :: t') (.items (v :: vs)) := by
  rintro (_ | bound) done tail rest hbound htail
  · exact absurd hbound (Nat.not_lt_zero _)
  · rw [List.length_append, List.length_cons] at hbound
    obtain ⟨rest', hvalue, hskip⟩ := h bound (',' :: (t' ++ tail)) (by omega)
      (delimited_cons (.inl rfl) _)
    have hitems := h' bound (v :: done) tail rest (by omega) htail
    rw [List.append_assoc, List.cons_append, Reader.elements, hvalue]
    simp only [hskip, skipBlanks_cons (c := ',') (by decide), hitems, List.reverse_cons,
      List.append_assoc, List.singleton_append]

section Members

variable {k cs b t rest rest' : List Char} {v : Json} (hk : SpellsText k cs) (hb : AllBlank b)
  {bound : Nat} (done : Members) (hvalue : Reader.value bound (skipBlanks t) = .ok (v, rest))
include hk hb hvalue

/-- A key is read with the colon and the value behind it, and a brace ends the members. -/
theorem members_last (hrest : skipBlanks rest = '\x7d' :: rest') :
    Reader.members (bound + 1) done ('"' :: (k ++ '"' :: (b ++ ':' :: t))) =
      .ok (.object (Members.put done (String.ofList cs) v), rest') := by
  have hbody := hk.stringBody ('"' :: (k ++ '"' :: (b ++ ':' :: t))) (b ++ ':' :: t) []
  rw [Reader.members, hbody]
  simp only [skipBlanks_append hb, skipBlanks_cons (c := ':') (by decide), List.reverse_nil,
    List.nil_append, hvalue, hrest]

/-- Behind a comma there is another member. -/
theorem members_next (hrest : skipBlanks rest = ',' :: rest') :
    Reader.members (bound + 1) done ('"' :: (k ++ '"' :: (b ++ ':' :: t))) =
      Reader.members bound (Members.put done (String.ofList cs) v) (skipBlanks rest') := by
  have hbody := hk.stringBody ('"' :: (k ++ '"' :: (b ++ ':' :: t))) (b ++ ':' :: t) []
  rw [Reader.members, hbody]
  simp only [skipBlanks_append hb, skipBlanks_cons (c := ':') (by decide), List.reverse_nil,
    List.nil_append, hvalue, hrest]

end Members

/-- The last member is read with the brace behind it. -/
theorem Reads.lastMember {k cs b t : List Char} {v : Json} (hk : SpellsText k cs)
    (hb : AllBlank b) (h : Reads t (.value v)) :
    Reads ('"' :: (k ++ '"' :: (b ++ ':' :: t))) (.members [(String.ofList cs, v)]) := by
  rintro (_ | bound) done tail rest hbound htail
  · exact absurd hbound (Nat.not_lt_zero _)
  · simp only [List.length_append, List.length_cons] at hbound
    obtain ⟨rest', hvalue, hskip⟩ := h bound tail (by omega)
      (delimited_of_skipBlanks htail (.inr (.inr rfl)))
    simp only [List.cons_append, List.append_assoc]
    rw [skipBlanks_cons (by decide), members_last hk hb done hvalue (hskip.trans htail)]
    rfl

/-- A member is read with the comma behind it, and then the others. -/
theorem Reads.member {k cs b t t' : List Char} {v : Json} {entries : Members}
    (hk : SpellsText k cs) (hb : AllBlank b) (h : Reads t (.value v))
    (h' : Reads t' (.members entries)) :
    Reads ('"' :: (k ++ '"' :: (b ++ ':' :: (t ++ ',' :: t'))))
      (.members ((String.ofList cs, v) :: entries)) := by
  rintro (_ | bound) done tail rest hbound htail
  · exact absurd hbound (Nat.not_lt_zero _)
  · simp only [List.length_append, List.length_cons] at hbound
    obtain ⟨rest', hvalue, hskip⟩ := h bound (',' :: (t' ++ tail)) (by omega)
      (delimited_cons (.inl rfl) _)
    have hmembers := h' bound (Members.put done (String.ofList cs) v) tail rest (by omega) htail
    simp only [List.cons_append, List.append_assoc]
    have hcomma : skipBlanks rest' = ',' :: (t' ++ tail) :=
      hskip.trans (skipBlanks_cons (by decide) _)
    rw [skipBlanks_cons (by decide), members_next hk hb done hvalue hcomma, hmembers]
    rfl

/-- **Every spelling is read.** -/
theorem Spells.reads {t : List Char} {part : Part} (h : Spells t part) : Reads t part := by
  -- one rule of reading for each rule of spelling
  induction h with
  | word hw => exact .word hw
  | int hds hlength => exact .int hds hlength
  | decimal hds hf => exact .decimal hds hf
  | scientific hds ht => exact .scientific hds ht
  | decimalScientific hds hf ht => exact .decimalScientific hds hf ht
  | string h => exact .string h
  | emptyArray hb => exact .emptyArray hb
  | array _ ih => exact ih.array
  | emptyObject hb => exact .emptyObject hb
  | object _ ih => exact ih.object
  | padded hb _ hb' ih => exact ih.padded hb hb'
  | lastItem _ ih => exact ih.lastItem
  | item _ _ ih ih' => exact ih.item ih'
  | lastMember hk hb _ ih => exact .lastMember hk hb ih
  | member hk hb _ _ ih ih' => exact .member hk hb ih ih'

/-- A spelling is read as a whole text. -/
theorem Spells.parse {t : List Char} {v : Json} (h : Spells t (.value v)) :
    Reader.parse t = .ok v := by
  obtain ⟨rest, hvalue, hskip⟩ := h.reads (t.length + 1) [] (Nat.lt_succ_self _) delimited_nil
  rw [List.append_nil] at hvalue
  rw [Reader.parse, hvalue]
  simp only [hskip]
  rfl

end Values

/-! ## 5. Spellings as strings and as bodies -/

/-- Only the character U+0000 has a zero byte. -/
theorem ne_zero_of_mem_encodeChar {c : Char} (h : c ≠ '\x00') {b : UInt8}
    (hb : b ∈ String.utf8EncodeChar c) : b ≠ 0 := by
  have hc : c.val.toNat ≠ 0 := fun e => h (Char.ext (UInt32.toNat_inj.mp e))
  have hbyte {n : Nat} (hn : n % 256 ≠ 0) : UInt8.ofNat n ≠ 0 := fun e => hn (by
    rw [← UInt8.toNat_ofNat', e]
    rfl)
  simp only [String.utf8EncodeChar] at hb
  -- each byte but a single one carries a mark in its upper bits
  repeat' split at hb
  all_goals simp only [List.mem_cons, List.not_mem_nil, or_false] at hb
  · subst hb
    exact hbyte (by omega)
  · rcases hb with rfl | rfl
    all_goals exact hbyte (by omega)
  · rcases hb with rfl | rfl | rfl
    all_goals exact hbyte (by omega)
  · rcases hb with rfl | rfl | rfl | rfl
    all_goals exact hbyte (by omega)

theorem ne_zero_of_mem_encode {cs : List Char} (h : '\x00' ∉ cs) :
    ∀ b ∈ Utf8.encode cs, b ≠ 0 := by
  intro b hb
  obtain ⟨c, hc, hbyte⟩ := List.mem_flatMap.mp hb
  exact ne_zero_of_mem_encodeChar (fun e => h (e ▸ hc)) hbyte

/-- A body without a zero byte at its start or behind that, and without a mark, is UTF-8. -/
theorem decodeUnmarked_eq {bytes : Bytes} (h : ∀ x ∈ bytes, x ≠ 0) :
    decodeUnmarked bytes = Utf8.decode bytes := by
  unfold decodeUnmarked
  split
  · rw [if_neg (h _ (by simp)), if_neg (h _ (by simp))]
  · rw [if_neg (h _ (by simp)), if_neg (h _ (by simp))]
  · rfl

/-- A body that starts with an ASCII character, and has no zero byte, is taken for UTF-8. -/
theorem decodeBytes_eq {b : UInt8} {rest : Bytes} (hb : b.toNat < 128)
    (h : ∀ x ∈ b :: rest, x ≠ 0) :
    decodeBytes (b :: rest) = Utf8.decode (b :: rest) := by
  -- no mark starts with an ASCII character but U+0000
  have hmark {m : UInt8} (tail : Bytes) (hm : m = 0 ∨ 128 ≤ m.toNat) :
      (m :: tail).isPrefixOf (b :: rest) = false := by
    have hne : m ≠ b := by
      rintro rfl
      rcases hm with hm | hm
      · exact h m List.mem_cons_self hm
      · omega
    rw [List.isPrefixOf, beq_false_of_ne hne, Bool.false_and]
  simp only [decodeBytes, hmark _ (.inl rfl), hmark (m := 0xFF) _ (.inr (by decide)),
    hmark (m := 0xFE) _ (.inr (by decide)), hmark (m := 0xEF) _ (.inr (by decide)),
    Bool.false_eq_true, if_false]
  exact decodeUnmarked_eq h

/-- The bytes of a plain text are decoded to it. -/
theorem IsPlain.decodeBytes {t : List Char} (h : IsPlain t) :
    decodeBytes (Utf8.encode t) = .ok t := by
  have hzero := ne_zero_of_mem_encode h.nul
  obtain ⟨c, t', rfl, hc⟩ := h.head
  have hbytes : Utf8.encode (c :: t') = UInt8.ofNat c.toNat :: Utf8.encode t' := by
    have hchar : String.utf8EncodeChar c = [UInt8.ofNat c.toNat] := by
      have hval : c.val.toNat ≤ 0x7f := Nat.le_of_lt_succ hc
      simp only [String.utf8EncodeChar, hval, if_true]
      rfl
    rw [Utf8.encode, List.flatMap_cons, hchar]
    rfl
  have hb : (UInt8.ofNat c.toNat).toNat < 128 := by
    rw [UInt8.toNat_ofNat']
    omega
  rw [hbytes] at hzero ⊢
  rw [decodeBytes_eq hb hzero, ← hbytes, Utf8.decode_encode]

theorem Spells.ofChars {t : List Char} {v : Json} (h : Spells t (.value v)) :
    Json.ofChars t = .ok v := by
  rw [Json.ofChars, h.parse]

/-- **A spelling is read as a string.** -/
theorem Spells.ofString {t : List Char} {v : Json} (h : Spells t (.value v)) :
    Json.ofString (String.ofList t) = .ok v := by
  have hbom : t.head? ≠ some '\uFEFF' := by
    obtain ⟨c, t', rfl, hc⟩ := h.isPlain.head
    rintro heq
    cases heq
    exact absurd hc (by decide)
  simp only [Json.ofString, String.toList_ofList, if_neg hbom, h.ofChars]

/-- **A spelling is read as a body** in UTF-8. -/
theorem Spells.ofBytes {t : List Char} {v : Json} (h : Spells t (.value v)) :
    Json.ofBytes (Utf8.encode t) = .ok v := by
  rw [Json.ofBytes, h.isPlain.decodeBytes]
  exact h.ofChars

/-- Every spelling of an object has a brace. -/
theorem Spells.brace_mem {t : List Char} {members : Members}
    (h : Spells t (.value (.object members))) : '\x7b' ∈ t := by
  generalize hpart : Part.value (.object members) = part at h
  induction h with
  | emptyObject _ => exact List.mem_cons_self
  | object _ _ => exact List.mem_cons_self
  | padded _ _ _ ih => exact List.mem_append_right _ (List.mem_append_left _ (ih hpart))
  | word hw =>
    cases hpart
    simp [Reader.words] at hw
  | _ => cases hpart

end Workspace.Json
