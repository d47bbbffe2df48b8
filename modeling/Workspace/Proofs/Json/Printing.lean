/-
# What is printed spells its value

Both printers write a spelling of the value that they are given (`Legible.compact`,
`Legible.indented`), so that the reader gives the value back.  Numbers with a fraction are an
exception: their notation is a number, but that it is the same number is not claimed here.  `reread`
is the value with each such number replaced by what its notation is read as; without such numbers it
is the value itself (`reread_eq_self`).

`Legible` is what this asks of a value: integers are not too long, numbers are rounded ones, and no
object has a key twice.
-/
import Workspace.Json.Writer
import Workspace.Proofs.Json.Reading
import Workspace.Proofs.Number.Digits
namespace Workspace

/-! ## 1. Legible values -/

/-- The number that the notation of a number is read as. -/
def Binary64.reread (x : Binary64) : Binary64 :=
  match Json.ofChars (x.chars Json.numberNames) with
  | .ok (.number y) => y
  | _ => x

namespace Json

/-- The values that a value is directly made of. -/
def parts : Json → List Json
  | array items => items
  | object members => members.map Prod.snd
  | _ => []

/-- `v.Everywhere p`: the value and all values within it satisfy `p`. -/
inductive Everywhere (p : Json → Prop) : Json → Prop
  | intro {v : Json} : p v → (∀ w ∈ v.parts, Everywhere p w) → Everywhere p v

theorem Everywhere.here {p : Json → Prop} {v : Json} (h : v.Everywhere p) : p v := by
  cases h with
  | intro hv _ => exact hv

theorem Everywhere.of_mem_parts {p : Json → Prop} {v w : Json} (h : v.Everywhere p)
    (hw : w ∈ v.parts) : w.Everywhere p := by
  cases h with
  | intro _ hparts => exact hparts w hw

theorem Everywhere.of_parts {p : Json → Prop} {v : Json} (hparts : v.parts = []) (hv : p v) :
    v.Everywhere p := .intro hv fun w hw => by rw [hparts] at hw; cases hw

theorem Everywhere.imp {p q : Json → Prop} (hpq : ∀ v, p v → q v) {v : Json}
    (h : v.Everywhere p) : v.Everywhere q := by
  induction h with
  | intro hv _ ih => exact .intro (hpq _ hv) ih

/-- A value whose own text can be read, whatever its parts are. -/
def IsLegible : Json → Prop
  | int n => n.natAbs < 10 ^ Reader.maxDigits
  | number (.finite _ m _) => m < 2 ^ 53
  | object members => (Members.keys members).Nodup
  | _ => True

/-- A value whose text can be read. -/
abbrev Legible (v : Json) : Prop := v.Everywhere IsLegible

mutual

/-- The value with each number replaced by the one that its notation is read as. -/
def reread : Json → Json
  | number x => number x.reread
  | array items => array (rereadItems items)
  | object members => object (rereadMembers members)
  | v => v

/-- The items with each number replaced. -/
def rereadItems : List Json → List Json
  | [] => []
  | v :: rest => reread v :: rereadItems rest

/-- The members with each number replaced. -/
def rereadMembers : List (String × Json) → List (String × Json)
  | [] => []
  | (k, v) :: rest => (k, reread v) :: rereadMembers rest

end

/-- The keys stay. -/
theorem keys_rereadMembers (members : Members) :
    Members.keys (rereadMembers members) = members.keys := by
  induction members with
  | nil => rfl
  | cons entry rest ih => exact congrArg (entry.1 :: ·) ih

/-- The value of a key is replaced as the members are. -/
theorem get?_rereadMembers (members : Members) (key : String) :
    Members.get? (rereadMembers members) key = (members.get? key).map reread := by
  induction members with
  | nil => rfl
  | cons entry rest ih =>
    obtain ⟨k, v⟩ := entry
    rw [rereadMembers, Members.get?, Members.get?, List.lookup_cons, List.lookup_cons]
    cases key == k with
    | true => rfl
    | false => exact ih

/-- A value that is no number with a fraction. -/
def IsNoNumber : Json → Prop
  | number _ => False
  | _ => True

/-- A value without such numbers is what its text is read as. -/
theorem reread_eq_self {v : Json} (h : v.Everywhere IsNoNumber) : v.reread = v := by
  -- only a number with a fraction is read as something else, and there is none
  induction h with
  | @intro v hv _ ih =>
    cases v with
    | null => rfl
    | bool b => rfl
    | int n => rfl
    | string s => rfl
    | number x => exact hv.elim
    | array items =>
      have hitems : ∀ items : List Json, (∀ w ∈ items, w.reread = w) →
          rereadItems items = items := by
        intro items hw
        induction items with
        | nil => rfl
        | cons w rest ih =>
          rw [rereadItems, hw w List.mem_cons_self, ih fun w' h => hw w' (List.mem_cons_of_mem _ h)]
      exact congrArg array (hitems items ih)
    | object members =>
      have hmembers : ∀ members : Members, (∀ w ∈ members.map Prod.snd, w.reread = w) →
          rereadMembers members = members := by
        intro members hw
        induction members with
        | nil => rfl
        | cons entry rest ih =>
          rw [rereadMembers, hw entry.2 List.mem_cons_self,
            ih fun w' h => hw w' (List.mem_cons_of_mem _ h)]
      exact congrArg object (hmembers members ih)

/-! ## 2. Objects -/

theorem nodup_put {members : Members} (h : members.keys.Nodup) (key : String) (v : Json) :
    (members.put key v).keys.Nodup := by
  rw [put_keys]
  split
  · exact h
  · next hnew =>
    refine List.nodup_append.mpr ⟨h, List.nodup_singleton _, fun a ha b hb e => ?_⟩
    rw [List.mem_singleton.mp hb] at e
    exact hnew (e ▸ ha)

/-- The parts of an object after a key was put: the old ones and the new value. -/
theorem mem_of_mem_put {members : Members} {key : String} {v w : Json}
    (h : w ∈ (members.put key v).map Prod.snd) : w = v ∨ w ∈ members.map Prod.snd := by
  induction members with
  | nil => exact .inl (List.mem_singleton.mp h)
  | cons entry others ih =>
    rw [Members.put] at h
    split at h
    · rcases List.mem_cons.mp h with rfl | h
      · exact .inl rfl
      · exact .inr (List.mem_cons_of_mem _ h)
    · rcases List.mem_cons.mp h with rfl | h
      · exact .inr List.mem_cons_self
      · exact (ih h).imp_right (List.mem_cons_of_mem _)

theorem put_of_notMem {members : Members} {key : String} (h : key ∉ members.keys) (v : Json) :
    members.put key v = members ++ [(key, v)] := by
  induction members with
  | nil => rfl
  | cons entry rest ih =>
    obtain ⟨k, w⟩ := entry
    rw [Members.keys, List.map_cons, List.mem_cons, not_or] at h
    rw [Members.put, if_neg fun e => h.1 e.symm, ih h.2, List.cons_append]

/-- Distinct keys are appended one after another. -/
theorem putAll_of_nodup {members updates : Members} (h : (members ++ updates).keys.Nodup) :
    members.putAll updates = members ++ updates := by
  induction updates generalizing members with
  | nil => exact (List.append_nil members).symm
  | cons entry rest ih =>
    have hnew : entry.1 ∉ members.keys := by
      intro hmem
      rw [Members.keys, List.map_append, List.map_cons] at h
      exact (List.nodup_append.mp h).2.2 _ hmem _ List.mem_cons_self rfl
    rw [Members.putAll, List.foldl_cons, put_of_notMem hnew]
    have hrest := @ih (members ++ [(entry.1, entry.2)]) (by simpa using h)
    rw [Members.putAll] at hrest
    rw [hrest, List.append_assoc]
    rfl

/-- Members with distinct keys are read as they are. -/
theorem putAll_nil {members : Members} (h : members.keys.Nodup) :
    Members.putAll [] members = members := putAll_of_nodup h

/-! ## 3. Strings -/

theorem quad?_digits {u : Nat} (h : u < 0x10000) :
    ∃ a b c d, Text.Hex.digits 4 u = [a, b, c, d] ∧ Text.Hex.quad? a b c d = some u := by
  refine ⟨Text.Hex.digit (u / 16 / 16 / 16 % 16), Text.Hex.digit (u / 16 / 16 % 16),
    Text.Hex.digit (u / 16 % 16), Text.Hex.digit (u % 16), rfl, ?_⟩
  have hdigit (n : Nat) : Text.Hex.value? (Text.Hex.digit (n % 16)) = some (n % 16) :=
    Text.Hex.value?_digit _ (Nat.mod_lt _ (by decide))
  simp only [Text.Hex.quad?, hdigit, Option.bind_eq_bind, Option.bind_some]
  exact congrArg some (by omega)

theorem mem_escapeLetters {c letter : Char} (h : shortEscape? c = some letter) :
    (letter, c) ∈ escapeLetters := by
  unfold shortEscape? at h
  split at h
  all_goals first | (cases h; decide) | cases h

/-- A character below U+10000 is no half of a pair. -/
theorem isHigh_toNat (c : Char) :
    Text.Surrogate.isHigh c.toNat = false ∧ Text.Surrogate.isLow c.toNat = false := by
  have hv : c.toNat < 0xD800 ∨ (0xDFFF < c.toNat ∧ c.toNat < 0x110000) := c.valid
  simp only [Text.Surrogate.isHigh, Text.Surrogate.isLow, Bool.and_eq_false_iff,
    decide_eq_false_iff_not]
  omega

variable {t cs : List Char}

/-- The escape of a character below U+10000 spells it. -/
theorem SpellsText.unitEscape {c : Char} (hc : c.toNat < 0x10000) (h : SpellsText t cs) :
    SpellsText (Json.unitEscape c.toNat ++ t) (c :: cs) := by
  obtain ⟨d₁, d₂, d₃, d₄, hdigits, hquad⟩ := quad?_digits hc
  obtain ⟨hhigh, hlow⟩ := isHigh_toNat c
  have hunit := SpellsText.unit hquad hhigh hlow h
  rw [Char.ofNat_toNat] at hunit
  rw [Json.unitEscape, hdigits]
  exact hunit

/-- The escapes of the halves of a character from U+10000 on spell it. -/
theorem SpellsText.pairEscape {c : Char} (hc : 0x10000 ≤ c.toNat) (h : SpellsText t cs) :
    SpellsText (Json.unitEscape (Text.Surrogate.split c).1 ++
      (Json.unitEscape (Text.Surrogate.split c).2 ++ t)) (c :: cs) := by
  have hv : c.toNat < 0xD800 ∨ (0xDFFF < c.toNat ∧ c.toNat < 0x110000) := c.valid
  have hsplit : (Text.Surrogate.split c).1 = 0xD800 + (c.toNat - 0x10000) / 1024 ∧
      (Text.Surrogate.split c).2 = 0xDC00 + (c.toNat - 0x10000) % 1024 := ⟨rfl, rfl⟩
  obtain ⟨d₁, d₂, d₃, d₄, hdigits, hquad⟩ :=
    quad?_digits (u := (Text.Surrogate.split c).1) (by omega)
  obtain ⟨e₁, e₂, e₃, e₄, hdigits', hquad'⟩ :=
    quad?_digits (u := (Text.Surrogate.split c).2) (by omega)
  have hhigh : Text.Surrogate.isHigh (Text.Surrogate.split c).1 = true := by
    simp only [Text.Surrogate.isHigh, Bool.and_eq_true, decide_eq_true_eq]
    omega
  have hlow : Text.Surrogate.isLow (Text.Surrogate.split c).2 = true := by
    simp only [Text.Surrogate.isLow, Bool.and_eq_true, decide_eq_true_eq]
    omega
  -- the halves carry ten bits each of what is above U+10000
  have hjoin : Text.Surrogate.join (Text.Surrogate.split c).1 (Text.Surrogate.split c).2 = c := by
    have hnumber : 0x10000 + ((Text.Surrogate.split c).1 - 0xD800) * 1024 +
        ((Text.Surrogate.split c).2 - 0xDC00) = c.toNat := by omega
    rw [Text.Surrogate.join, hnumber, Char.ofNat_toNat]
  have hpair := SpellsText.pair hquad hhigh hquad' hlow h
  rw [hjoin] at hpair
  rw [Json.unitEscape, Json.unitEscape, hdigits, hdigits']
  exact hpair

/-- What the compact form writes for a character spells it. -/
theorem SpellsText.escapeControls (c : Char) (h : SpellsText t cs) :
    SpellsText (Json.escapeControls c ++ t) (c :: cs) := by
  unfold Json.escapeControls
  split
  · next letter hletter => exact .letter (mem_escapeLetters hletter) h
  · next hnone =>
    split
    · exact h.unitEscape (by omega)
    · refine .plain ?_ ?_ (by omega) h
      · rintro rfl
        cases hnone
      · rintro rfl
        cases hnone

/-- What the indented form writes for a character spells it. -/
theorem SpellsText.escapeToAscii (c : Char) (h : SpellsText t cs) :
    SpellsText (Json.escapeToAscii c ++ t) (c :: cs) := by
  unfold Json.escapeToAscii
  -- a short escape, the character itself, one unit, or two
  split
  · next letter hletter => exact .letter (mem_escapeLetters hletter) h
  · next hnone =>
    split
    · next hprintable =>
      refine .plain ?_ ?_ hprintable.1 h
      · rintro rfl
        cases hnone
      · rintro rfl
        cases hnone
    · split
      · next hunit => exact h.unitEscape hunit
      · simp only [List.append_assoc]
        exact h.pairEscape (by omega)

theorem spellsText_flatMap {escape : Char → List Char}
    (hescape : ∀ c {t cs}, SpellsText t cs → SpellsText (escape c ++ t) (c :: cs)) (s : String) :
    SpellsText (s.toList.flatMap escape) s.toList := by
  induction s.toList with
  | nil => exact .nil
  | cons c cs ih => exact hescape c ih

/-! ## 4. Integers -/

/-- The digits of a positive number start with no zero. -/
theorem head?_toDigits {n : Nat} (h : 0 < n) : (Nat.toDigits 10 n).head? ≠ some '0' := by
  induction n using Nat.strongRecOn with
  | ind n ih =>
    by_cases hn : n < 10
    · have hdigit : ∀ d < 10, 0 < d → Nat.digitChar d ≠ '0' := by decide
      rw [Nat.toDigits_of_lt_base hn]
      exact fun e => hdigit n hn h (Option.some.inj e)
    · have hhead := ih (n / 10) (by omega) (by omega)
      rw [Nat.toDigits_of_base_le (by decide) (by omega), List.head?_append]
      cases hd : (Nat.toDigits 10 (n / 10)).head? with
      | none => exact absurd (List.head?_eq_none_iff.mp hd) Nat.toDigits_ne_nil
      | some d => rwa [hd] at hhead

theorem isDigits_zero : IsDigits ['0'] := ⟨List.cons_ne_nil _ _, List.forall_mem_singleton.mpr rfl⟩

theorem isDigits_toDigits (n : Nat) : IsDigits (Nat.toDigits 10 n) :=
  ⟨Nat.toDigits_ne_nil, fun _ h => Nat.isDigit_of_mem_toDigits (by decide) (by decide) h⟩

theorem isWhole_toDigits (n : Nat) : IsWhole (Nat.toDigits 10 n) := by
  refine ⟨isDigits_toDigits n, fun hzero => ?_⟩
  rcases Nat.eq_zero_or_pos n with rfl | hpos
  · rfl
  · exact absurd hzero (head?_toDigits hpos)

theorem digitsValue_toDigits (n : Nat) : digitsValue (Nat.toDigits 10 n) = n :=
  Nat.ofDigitChars_toDigits (by decide) (by decide)

/-- The digits of an integer spell it, if they are not too many. -/
theorem spells_intChars {n : Int} (h : n.natAbs < 10 ^ Reader.maxDigits) :
    Spells (intChars n) (.value (.int n)) := by
  have hlength {k : Nat} (hk : k < 10 ^ Reader.maxDigits) :
      (Nat.toDigits 10 k).length ≤ Reader.maxDigits :=
    (Nat.length_toDigits_le_iff (by decide) (by decide)).mpr hk
  cases n with
  | ofNat n =>
    have hspells := @Spells.int false _ (isWhole_toDigits n) (hlength h)
    rwa [digitsValue_toDigits] at hspells
  | negSucc n =>
    have hspells := @Spells.int true _ (isWhole_toDigits (n + 1)) (hlength h)
    rwa [digitsValue_toDigits] at hspells

/-! ## 5. Characters -/

section Characters

variable {p : Char → Prop}

/-- What holds of a mark and of all that is written for characters holds in a string. -/
theorem forall_mem_quoted (hmark : p '"') {escape : Char → List Char}
    (hescape : ∀ c, ∀ d ∈ escape c, p d) (s : String) : ∀ d ∈ quoted escape s, p d := by
  refine List.forall_mem_cons.mpr ⟨hmark, List.forall_mem_append.mpr ⟨?_, ?_⟩⟩
  · intro d hd
    obtain ⟨c, -, hd⟩ := List.mem_flatMap.mp hd
    exact hescape c d hd
  · exact List.forall_mem_singleton.mpr hmark

/-- What holds of the sign and of digits holds in an integer. -/
theorem forall_mem_intChars (hsign : p '-') (hdigit : ∀ d, d.isDigit = true → p d) (n : Int) :
    ∀ d ∈ intChars n, p d := by
  have hdigits (k : Nat) : ∀ d ∈ Nat.toDigits 10 k, p d :=
    fun d hd => hdigit d ((isDigits_toDigits k).2 d hd)
  cases n with
  | ofNat k => exact hdigits k
  | negSucc k => exact List.forall_mem_cons.mpr ⟨hsign, hdigits (k + 1)⟩

end Characters

/-! ## 6. Numbers with a fraction -/

section Notation

open Binary64 (zeros exponentPart layOut)

variable {ds : List Char}

theorem IsDigits.append (h : IsDigits ds) {ds' : List Char} (h' : ∀ d ∈ ds', d.isDigit = true) :
    IsDigits (ds ++ ds') :=
  ⟨List.append_ne_nil_of_left_ne_nil h.1 _,
    fun d hd => (List.mem_append.mp hd).elim (h.2 d) (h' d)⟩

theorem isDigit_of_mem_zeros {n : Nat} {d : Char} (h : d ∈ zeros n) : d.isDigit = true := by
  rw [List.eq_of_mem_replicate h]
  rfl

theorem IsDigits.isWhole (h : IsDigits ds) (hzero : ds.head? ≠ some '0') {ds' : List Char}
    (h' : ∀ d ∈ ds', d.isDigit = true) : IsWhole (ds ++ ds') := by
  refine ⟨h.append h', fun hhead => ?_⟩
  obtain ⟨d, rest, rfl⟩ := List.exists_cons_of_ne_nil h.1
  exact absurd hhead hzero

/-- The exponent part is an exponent. -/
theorem exists_spellsExponent (x : Int) : ∃ e, SpellsExponent (exponentPart x) e := by
  have hdigits : IsDigits (zeros (2 - (Nat.toDigits 10 x.natAbs).length) ++
      Nat.toDigits 10 x.natAbs) := by
    refine ⟨List.append_ne_nil_of_right_ne_nil _ Nat.toDigits_ne_nil, fun d hd => ?_⟩
    exact (List.mem_append.mp hd).elim isDigit_of_mem_zeros ((isDigits_toDigits _).2 d)
  unfold exponentPart
  simp only
  split
  · exact ⟨_, .minus (.inl rfl) hdigits⟩
  · exact ⟨_, .plus (.inl rfl) hdigits⟩

/-- **Digits that start with no zero are laid out as a number.** -/
theorem exists_spells_layOut (negative : Bool) (h : IsDigits ds) (hzero : ds.head? ≠ some '0')
    (point : Int) :
    ∃ y, Spells (signChars negative ++ layOut ds point) (.value (.number y)) := by
  have hall {n : Nat} : ∀ d ∈ zeros n, d.isDigit = true := fun _ => isDigit_of_mem_zeros
  unfold layOut
  split
  · split
    · -- the point stands before the digits
      have hfraction : IsDigits (zeros (-point).toNat ++ ds) :=
        ⟨List.append_ne_nil_of_right_ne_nil _ h.1,
          fun d hd => (List.mem_append.mp hd).elim (hall d) (h.2 d)⟩
      exact ⟨_, .decimal ⟨isDigits_zero, fun _ => rfl⟩ hfraction⟩
    · next hpositive =>
      simp only
      split
      · -- the point stands behind the digits
        rw [List.append_assoc, ← List.append_assoc]
        exact ⟨_, by
          rw [List.append_assoc, ← List.append_assoc ds]
          exact .decimal (h.isWhole hzero hall) isDigits_zero⟩
      · -- the point stands among the digits
        next hlength =>
        obtain ⟨d, rest, rfl⟩ := List.exists_cons_of_ne_nil h.1
        obtain ⟨n, hn⟩ : ∃ n, point.toNat = n + 1 := ⟨point.toNat - 1, by omega⟩
        have hwhole : IsWhole ((d :: rest).take point.toNat) := by
          refine ⟨⟨by simp [hn], fun c hc => h.2 c (List.mem_of_mem_take hc)⟩, fun hhead => ?_⟩
          rw [hn, List.take_succ_cons] at hhead
          exact absurd hhead hzero
        have hfraction : IsDigits ((d :: rest).drop point.toNat) :=
          ⟨fun e => by simp only [List.drop_eq_nil_iff] at e; omega,
            fun c hc => h.2 c (List.mem_of_mem_drop hc)⟩
        exact ⟨_, .decimal hwhole hfraction⟩
  · obtain ⟨e, hexponent⟩ := exists_spellsExponent (point - 1)
    split
    · exact absurd rfl h.1
    · next d =>
      have hwhole : IsWhole ([d] ++ []) := h.isWhole hzero fun _ hc => nomatch hc
      exact ⟨_, @Spells.scientific negative [d] _ _ hwhole hexponent⟩
    · next d rest hne =>
      have hd : IsDigits [d] := ⟨by simp, fun c hc => h.2 c (by simp_all)⟩
      have hwhole : IsWhole ([d] ++ []) := hd.isWhole hzero fun _ hc => nomatch hc
      have hfraction : IsDigits rest :=
        ⟨fun e => hne (by rw [e]), fun c hc => h.2 c (List.mem_cons_of_mem _ hc)⟩
      exact ⟨_, @Spells.decimalScientific negative [d] rest _ _ hwhole hfraction hexponent⟩

/-- The notation of a decimal with digits is a number: the zeros at its end are dropped, but the
first digit stays. -/
theorem exists_spells_decimal (negative : Bool) {d : Binary64.Decimal} (h : 0 < d.digits) :
    ∃ y, Spells (signChars negative ++ d.chars) (.value (.number y)) := by
  obtain ⟨run, hrun, hzeros⟩ := Text.exists_append_dropEndWhile (· == '0') (Nat.toDigits 10 d.digits)
  have hdigits := isDigits_toDigits d.digits
  have hhead := head?_toDigits h
  unfold Binary64.Decimal.chars
  simp only
  generalize Text.dropEndWhile (· == '0') (Nat.toDigits 10 d.digits) = kept at *
  rw [hrun] at hdigits hhead
  -- a positive number has a first digit other than zero, so not all of its digits are cut
  have hne : kept ≠ [] := by
    rintro rfl
    obtain ⟨c, rest, hc⟩ := List.exists_cons_of_ne_nil hdigits.1
    rw [List.nil_append] at hc hhead
    subst hc
    have hzero := hzeros c List.mem_cons_self
    rw [beq_iff_eq] at hzero
    exact hhead (congrArg some hzero)
  refine exists_spells_layOut negative ⟨hne, fun c hc => hdigits.2 c (List.mem_append_left _ hc)⟩ ?_ _
  obtain ⟨c, rest, rfl⟩ := List.exists_cons_of_ne_nil hne
  exact hhead

/-- **The notation of a rounded number is a number.** -/
theorem exists_spells_number {x : Binary64} (h : IsLegible (.number x)) :
    ∃ y, Spells (x.chars numberNames) (.value (.number y)) := by
  cases x with
  | nan => exact ⟨.nan, .word (w := "NaN") (by simp [Reader.words])⟩
  | infinite negative =>
    cases negative with
    | false => exact ⟨.infinite false, .word (w := "Infinity") (by simp [Reader.words])⟩
    | true => exact ⟨.infinite true, .word (w := "-Infinity") (by simp [Reader.words])⟩
  | finite negative m e =>
    have hsign : (if negative then ['-'] else []) = signChars negative := rfl
    rw [Binary64.chars, hsign]
    -- zero has no digit to start with
    by_cases hm : m = 0
    · rw [if_pos hm]
      exact ⟨_, @Spells.decimal negative ['0'] ['0']
        ⟨isDigits_zero, fun _ => rfl⟩ isDigits_zero⟩
    · rw [if_neg hm]
      exact exists_spells_decimal negative
        (Binary64.shortest_digits_pos (Nat.pos_of_ne_zero hm) h e)

theorem spells_number {x : Binary64} (h : IsLegible (.number x)) :
    Spells (x.chars numberNames) (.value (.number x.reread)) := by
  obtain ⟨y, hy⟩ := exists_spells_number h
  have hreread : x.reread = y := by rw [Binary64.reread, hy.ofChars]
  rw [hreread]
  exact hy

end Notation

/-! ## 7. The two printers -/

theorem spells_boolChars (b : Bool) : Spells (boolChars b) (.value (.bool b)) := by
  cases b with
  | false => exact .word (w := "false") (by simp [Reader.words])
  | true => exact .word (w := "true") (by simp [Reader.words])

section Compact

theorem spellsText_compact (s : String) :
    SpellsText (s.toList.flatMap escapeControls) s.toList :=
  spellsText_flatMap (fun c _ _ h => h.escapeControls c) s

/-- The items of an array in the compact form. -/
theorem spells_compactItems {items : List Json} (hne : items ≠ [])
    (h : ∀ v ∈ items, Spells v.compactChars (.value v.reread)) :
    Spells (compactItems items) (.items (rereadItems items)) := by
  induction items with
  | nil => exact absurd rfl hne
  | cons v rest ih =>
    have hv := h v List.mem_cons_self
    cases rest with
    | nil => exact .lastItem hv
    | cons w rest =>
      exact .item hv (ih (List.cons_ne_nil w rest) fun v hmem => h v (List.mem_cons_of_mem _ hmem))

/-- The members of an object in the compact form. -/
theorem spells_compactMembers {members : Members} (hne : members ≠ [])
    (h : ∀ v ∈ members.map Prod.snd, Spells v.compactChars (.value v.reread)) :
    Spells (compactMembers members) (.members (rereadMembers members)) := by
  have hblank : AllBlank [] := fun _ h => nomatch h
  -- the last member has no comma behind it
  induction members with
  | nil => exact absurd rfl hne
  | cons entry rest ih =>
    obtain ⟨k, v⟩ := entry
    have hv := h v List.mem_cons_self
    have hk := spellsText_compact k
    cases rest with
    | nil =>
      have hmember := Spells.lastMember hk hblank hv
      rw [String.ofList_toList] at hmember
      simpa [compactMembers, quoted, rereadMembers] using hmember
    | cons next rest =>
      have hrest := ih (List.cons_ne_nil next rest) fun v hmem => h v (List.mem_cons_of_mem _ hmem)
      have hmember := Spells.member hk hblank hv hrest
      rw [String.ofList_toList] at hmember
      simpa [compactMembers, quoted, rereadMembers] using hmember

/-- **The compact form spells the value.** -/
theorem Legible.compact {v : Json} (h : v.Legible) : Spells v.compactChars (.value v.reread) := by
  induction h with
  | @intro v hv _ ih =>
    cases v with
    | null => exact .word (w := "null") (by simp [Reader.words, reread])
    | bool b => exact spells_boolChars b
    | int n => exact spells_intChars hv
    | number x => exact spells_number hv
    | string s =>
      have hstring := Spells.string (spellsText_compact s)
      rwa [String.ofList_toList] at hstring
    | array items =>
      by_cases hne : items = []
      · subst hne
        exact .emptyArray (b := []) (List.forall_mem_nil _)
      · exact .array (spells_compactItems hne ih)
    | object members =>
      by_cases hne : members = []
      · subst hne
        exact .emptyObject (b := []) (List.forall_mem_nil _)
      · have hobject := Spells.object (spells_compactMembers hne ih)
        rwa [putAll_nil (by rwa [keys_rereadMembers])] at hobject

end Compact

section Indented

variable {level : Nat}

theorem allBlank_newline (level : Nat) : AllBlank (newline level) := by
  intro c hc
  rcases List.mem_cons.mp hc with rfl | hc
  · rfl
  · rw [List.eq_of_mem_replicate hc]
    rfl

theorem Spells.onNewLine {t : List Char} {part : Part} (h : Spells t part) (level : Nat) :
    Spells (newline level ++ t) part := by
  have hpadded := @Spells.padded _ t [] part (allBlank_newline level) h fun _ h => nomatch h
  rwa [List.append_nil] at hpadded

theorem Spells.beforeNewLine {t : List Char} {part : Part} (h : Spells t part) (level : Nat) :
    Spells (t ++ newline level) part :=
  Spells.padded (b := []) (fun _ h => nomatch h) h (allBlank_newline level)

theorem Spells.afterSpace {t : List Char} {part : Part} (h : Spells t part) :
    Spells (' ' :: t) part := by
  have hblank : AllBlank [' '] := by
    intro c hc
    rw [List.mem_singleton.mp hc]
    rfl
  have hpadded := @Spells.padded _ t [] part hblank h fun _ h => nomatch h
  rwa [List.append_nil] at hpadded

theorem spellsText_indented (s : String) :
    SpellsText (s.toList.flatMap escapeToAscii) s.toList :=
  spellsText_flatMap (fun c _ _ h => h.escapeToAscii c) s

/-- The items of an array in the indented form. -/
theorem spells_indentedItems {items : List Json} (hne : items ≠ [])
    (h : ∀ v ∈ items, Spells (v.indentedChars level) (.value v.reread)) :
    Spells (indentedItems level items) (.items (rereadItems items)) := by
  induction items with
  | nil => exact absurd rfl hne
  | cons v rest ih =>
    have hv := h v List.mem_cons_self
    cases rest with
    | nil => exact .onNewLine (.lastItem hv) level
    | cons w rest =>
      exact .onNewLine (.item hv (ih (List.cons_ne_nil w rest)
        fun v hmem => h v (List.mem_cons_of_mem _ hmem))) level

/-- The members of an object in the indented form. -/
theorem spells_indentedMembers {members : Members} (hne : members ≠ [])
    (h : ∀ v ∈ members.map Prod.snd, Spells (v.indentedChars level) (.value v.reread)) :
    Spells (indentedMembers level members) (.members (rereadMembers members)) := by
  have hblank : AllBlank [] := fun _ h => nomatch h
  induction members with
  | nil => exact absurd rfl hne
  | cons entry rest ih =>
    obtain ⟨k, v⟩ := entry
    have hv := (h v List.mem_cons_self).afterSpace
    have hk := spellsText_indented k
    cases rest with
    | nil =>
      have hmember := (Spells.lastMember hk hblank hv).onNewLine level
      rw [String.ofList_toList] at hmember
      simpa [indentedMembers, quoted, rereadMembers] using hmember
    | cons next rest =>
      have hrest := ih (List.cons_ne_nil next rest) fun v hmem => h v (List.mem_cons_of_mem _ hmem)
      have hmember := (Spells.member hk hblank hv hrest).onNewLine level
      rw [String.ofList_toList] at hmember
      simpa [indentedMembers, quoted, rereadMembers] using hmember

/-- **The indented form spells the value**, at any level. -/
theorem Legible.indented {v : Json} (h : v.Legible) (level : Nat) :
    Spells (v.indentedChars level) (.value v.reread) := by
  -- only an object needs its keys to be distinct: else later members would replace earlier ones
  induction h generalizing level with
  | @intro v hv _ ih =>
    cases v with
    | null => exact .word (w := "null") (by simp [Reader.words, reread])
    | bool b => exact spells_boolChars b
    | int n => exact spells_intChars hv
    | number x => exact spells_number hv
    | string s =>
      have hstring := Spells.string (spellsText_indented s)
      rwa [String.ofList_toList] at hstring
    | array items =>
      cases items with
      | nil => exact .emptyArray (b := []) (List.forall_mem_nil _)
      | cons v rest =>
        have hitems := @spells_indentedItems (level + 1) _ (List.cons_ne_nil v rest)
          fun w hw => ih w hw (level + 1)
        have harray := Spells.array (hitems.beforeNewLine level)
        rwa [List.append_assoc] at harray
    | object members =>
      cases members with
      | nil => exact .emptyObject (b := []) (List.forall_mem_nil _)
      | cons entry rest =>
        have hmembers := @spells_indentedMembers (level + 1) _ (List.cons_ne_nil entry rest)
          fun w hw => ih w hw (level + 1)
        have hobject := Spells.object (hmembers.beforeNewLine level)
        rw [putAll_nil (by rwa [keys_rereadMembers]), List.append_assoc] at hobject
        exact hobject

end Indented

end Json

end Workspace
