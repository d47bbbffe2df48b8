/-
# Which bodies cannot be read as text

A body that is not empty is read by the `Content-Type` header.  Nearly every codec replaces what it
cannot read, so that only these ways are left in which reading fails (`Response.Unreadable`): the
parameters of the header are refused; a label holds U+0000; or the codec knows no lossy reading, or
misses the mark in front of the units (`Charset.Refuses`).  `text_eq_error_iff` shows that there is no
other.
-/
import Workspace.Effect
namespace Workspace

/-! ## 1. Character sets -/

namespace Charset

/-- `charset.Refuses bytes fault`: the codec does not read the bytes, not even in part. -/
inductive Refuses : Charset → Bytes → Fault → Prop
  | unmarked16 {bytes : Bytes} : 2 ≤ bytes.length →
      (∀ order, ¬ Wide.ByteOrder.mark16 order <+: bytes) → Refuses .utf16 bytes (.unmarked 16)
  | unmarked32 {bytes : Bytes} : 4 ≤ bytes.length →
      (∀ order, ¬ Wide.ByteOrder.mark32 order <+: bytes) → Refuses .utf32 bytes (.unmarked 32)
  | bytewise {bytes : Bytes} : Refuses .bytewise bytes .bytewise
  | lettered {bytes : Bytes} : Refuses .lettered bytes .lettered
  | undefined {bytes : Bytes} : Refuses .undefined bytes .undefined
  | hostNames {bytes : Bytes} : Refuses .hostNames bytes .hostNames

/-- Units are refused if there is one, and no mark in front. -/
theorem decodeMarked_eq_error_iff {bits : Nat} {mark : Wide.ByteOrder → Bytes}
    {lossy : Wide.ByteOrder → Bytes → List Char} {bytes : Bytes} {fault : Fault} :
    decodeMarked bits mark lossy bytes = .error fault ↔
      (mark .little).length ≤ bytes.length ∧ (∀ order, ¬ mark order <+: bytes) ∧
        fault = .unmarked bits := by
  have hall : (∀ order, ¬ mark order <+: bytes) ↔
      ¬ mark .little <+: bytes ∧ ¬ mark .big <+: bytes :=
    ⟨fun h => ⟨h .little, h .big⟩, fun h order => by cases order <;> simp [h]⟩
  unfold decodeMarked
  simp only [List.isPrefixOf_iff_prefix, hall]
  split
  · next h => simp [h]
  · split
    · next h => simp [h]
    · split
      · next hlittle hbig hlength =>
        simp [hlittle, hbig, hlength, eq_comm]
      · next hlength => simp [hlength]

theorem decode_utf16 (bytes : Bytes) :
    decode .utf16 bytes =
      decodeMarked 16 Wide.ByteOrder.mark16 (fun o => Wide.lossy16 o {}) bytes := rfl

theorem decode_utf32 (bytes : Bytes) :
    decode .utf32 bytes = decodeMarked 32 Wide.ByteOrder.mark32 Wide.lossy32 bytes := rfl

/-- What a codec does not read. -/
theorem decode_eq_error_iff {charset : Charset} {bytes : Bytes} {fault : Fault} :
    charset.decode bytes = .error fault ↔ charset.Refuses bytes fault := by
  constructor
  · intro h
    -- the lossy codecs refuse nothing, the wide ones a missing mark, and the last four any body
    cases charset with
    | utf8 | latin1 | ascii => cases h
    | utf16 =>
      rw [decode_utf16] at h
      obtain ⟨hlength, hmark, rfl⟩ := decodeMarked_eq_error_iff.mp h
      exact .unmarked16 hlength hmark
    | utf32 =>
      rw [decode_utf32] at h
      obtain ⟨hlength, hmark, rfl⟩ := decodeMarked_eq_error_iff.mp h
      exact .unmarked32 hlength hmark
    | bytewise | lettered | undefined | hostNames =>
      cases h
      constructor
  · intro h
    cases h with
    | unmarked16 hlength hmark =>
      rw [decode_utf16]
      exact decodeMarked_eq_error_iff.mpr ⟨hlength, hmark, rfl⟩
    | unmarked32 hlength hmark =>
      rw [decode_utf32]
      exact decodeMarked_eq_error_iff.mpr ⟨hlength, hmark, rfl⟩
    | bytewise | lettered | undefined | hostNames => rfl

end Charset

/-! ## 2. Responses -/

namespace Http.Response

/-- `r.Names p`: the parameter of the header names the character set of the body, and the name of the
character set of the parameter itself, if there is one, holds no U+0000. -/
structure Names (r : Response) (p : Parameter) : Prop where
  named : r.charset? = .ok (some p)
  nul : hasNul (p.charset.getD "") = false

/-- `p.Plain`: nothing but its own text has a say in what the label in a parameter is. -/
def Plain (p : Parameter) : Prop :=
  (p.charset.getD "").isEmpty = true ∨ keepsLabels (p.charset.getD "") = true

/-- `r.Labelled label`: the header names the character set by a label in ASCII. -/
structure Labelled (r : Response) (label : String) : Prop where
  names : ∃ p, r.Names p ∧ (Plain p ∨ r.foreign = none) ∧ p.value = label
  ascii : (label.toList.any fun c => 128 ≤ c.toNat) = false

/-- `r.Outside`: the header names a codec that is none of this library, for the body or for its
label. -/
inductive Outside (r : Response) : Prop
  | body {label : String} : r.Labelled label → hasNul label = false → Charset.ofLabel? label = none →
      Outside r
  | label {p : Parameter} : r.Names p → ¬ Plain p → Outside r

/-- `r.Unreadable fault`: there is a body, and it cannot be read as text. -/
inductive Unreadable (r : Response) : ReadFault → Prop
  | header {refusal : Parameter.Refusal} : r.body ≠ [] → r.charset? = .error refusal →
      Unreadable r (.header refusal)
  | nulInCharset {p : Parameter} : r.body ≠ [] → r.charset? = .ok (some p) →
      hasNul (p.charset.getD "") = true → Unreadable r (.charset .nulInLabel)
  | nulInLabel {label : String} : r.body ≠ [] → r.Labelled label → hasNul label = true →
      Unreadable r (.charset .nulInLabel)
  | charset {label : String} {charset : Charset} {fault : Charset.Fault} : r.body ≠ [] →
      r.Labelled label → hasNul label = false → Charset.ofLabel? label = some charset →
      charset.Refuses r.body fault → Unreadable r (.charset fault)
  | foreign {fault : Charset.Fault} : r.body ≠ [] → r.Outside →
      r.foreign = some (.refused fault) → Unreadable r (.charset fault)

variable {r : Response}

/-- Reading in the character set with a label fails if the label is refused, or the body. -/
theorem textIn_eq_error_iff {label : String} {fault : Charset.Fault} :
    r.textIn label = .error fault ↔
      (label.toList.any fun c => 128 ≤ c.toNat) = false ∧
        (hasNul label = true ∧ fault = .nulInLabel ∨
          hasNul label = false ∧
            ((∃ charset, Charset.ofLabel? label = some charset ∧ charset.Refuses r.body fault) ∨
              Charset.ofLabel? label = none ∧ r.foreign = some (.refused fault))) := by
  unfold textIn
  -- a label that is not ASCII is looked up nowhere, and the body is read as UTF-8
  cases hascii : label.toList.any fun c => 128 ≤ c.toNat with
  | true => simp
  | false =>
    cases hnul : hasNul label with
    | true => simp [eq_comm]
    | false =>
      cases hcharset : Charset.ofLabel? label with
      | some charset => simp [map_eq_error_iff, Charset.decode_eq_error_iff]
      | none =>
        cases hforeign : r.foreign with
        | none => simp
        | some reading => cases reading <;> simp [Charset.Reading.toExcept]

/-- What fails in the character set with a label is unreadable. -/
theorem unreadable_of_textIn {p : Parameter} {fault : Charset.Fault} (hbody : r.body ≠ [])
    (hnames : r.Names p) (hplain : Plain p ∨ r.foreign = none)
    (h : r.textIn p.value = .error fault) : r.Unreadable (.charset fault) := by
  obtain ⟨hascii, h⟩ := textIn_eq_error_iff.mp h
  have hlabelled : r.Labelled p.value := ⟨⟨p, hnames, hplain, rfl⟩, hascii⟩
  rcases h with ⟨hnul, rfl⟩ | ⟨hnul, ⟨charset, hcharset, hrefuses⟩ | ⟨hcharset, hforeign⟩⟩
  · exact .nulInLabel hbody hlabelled hnul
  · exact .charset hbody hlabelled hnul hcharset hrefuses
  · exact .foreign hbody (.body hlabelled hnul hcharset) hforeign

/-- A label that is read as it is written decides. -/
theorem textBy_of_plain {p : Parameter} (hnul : hasNul (p.charset.getD "") = false)
    (hplain : Plain p ∨ r.foreign = none) : r.textBy p = r.textIn p.value := by
  unfold textBy
  simp only [hnul, Bool.false_eq_true, if_false]
  rcases hplain with hplain | hforeign
  · rw [if_pos (by simpa [Plain] using hplain)]
  · simp [hforeign]

theorem textBy_of_not_plain {p : Parameter} (hnul : hasNul (p.charset.getD "") = false)
    (hplain : ¬ Plain p) {reading : Charset.Reading} (hforeign : r.foreign = some reading) :
    r.textBy p = reading.toExcept := by
  unfold textBy
  simp only [hnul, Bool.false_eq_true, if_false, hforeign]
  rw [if_neg (by simpa [Plain] using hplain)]

theorem text_of_ne_nil (hbody : r.body ≠ []) :
    r.text =
      match r.charset? with
      | .error refusal => .error (.header refusal)
      | .ok none => .ok (String.ofList (Utf8.decodeLossy r.body))
      | .ok (some p) => (r.textBy p).mapError .charset :=
  if_neg (by simpa using hbody)

/-- What fails in the character set that a parameter names is unreadable. -/
theorem unreadable_of_textBy {p : Parameter} {fault : Charset.Fault} (hbody : r.body ≠ [])
    (hp : r.charset? = .ok (some p)) (h : r.textBy p = .error fault) :
    r.Unreadable (.charset fault) := by
  cases hnul : hasNul (p.charset.getD "") with
  | true =>
    rw [textBy, hnul] at h
    cases h
    exact .nulInCharset hbody hp hnul
  | false =>
    -- a label that is encoded itself is read by the codec that its parameter names
    by_cases hplain : Plain p ∨ r.foreign = none
    · rw [textBy_of_plain hnul hplain] at h
      exact unreadable_of_textIn hbody ⟨hp, hnul⟩ hplain h
    · obtain ⟨hplain, hforeign⟩ := not_or.mp hplain
      obtain ⟨reading, hreading⟩ := Option.ne_none_iff_exists'.mp hforeign
      rw [textBy_of_not_plain hnul hplain hreading] at h
      cases reading with
      | text s => cases h
      | refused fault' =>
        cases h
        exact .foreign hbody (.label ⟨hp, hnul⟩ hplain) hreading

/-- What is refused in the character set that the header names is no text. -/
theorem Labelled.text_eq_error {label : String} {fault : Charset.Fault} (h : r.Labelled label)
    (hbody : r.body ≠ []) (htext : r.textIn label = .error fault) :
    r.text = .error (.charset fault) := by
  obtain ⟨⟨p, ⟨hp, hnul⟩, hplain, rfl⟩, -⟩ := h
  simp only [text_of_ne_nil hbody, hp, textBy_of_plain hnul hplain, htext, mapError_error]

/-- **What cannot be read as text**, and nothing else, is unreadable. -/
theorem text_eq_error_iff {fault : ReadFault} : r.text = .error fault ↔ r.Unreadable fault := by
  constructor
  · intro h
    -- an empty body is the empty text, whatever the header says
    by_cases hbody : r.body = []
    · simp [text, hbody] at h
    · rw [text_of_ne_nil hbody] at h
      split at h
      · next refusal hrefusal =>
        cases h
        exact .header hbody hrefusal
      · cases h
      · next p hp =>
        obtain ⟨fault', hfault', rfl⟩ := mapError_eq_error_iff.mp h
        exact unreadable_of_textBy hbody hp hfault'
  · intro h
    cases h with
    | header hbody hrefusal => rw [text_of_ne_nil hbody, hrefusal]
    | nulInCharset hbody hp hnul =>
      simp only [text_of_ne_nil hbody, hp, textBy, hnul, if_true, mapError_error]
    | nulInLabel hbody hlabelled hnul =>
      exact hlabelled.text_eq_error hbody
        (textIn_eq_error_iff.mpr ⟨hlabelled.ascii, .inl ⟨hnul, rfl⟩⟩)
    | charset hbody hlabelled hnul hcharset hrefuses =>
      exact hlabelled.text_eq_error hbody (textIn_eq_error_iff.mpr
        ⟨hlabelled.ascii, .inr ⟨hnul, .inl ⟨_, hcharset, hrefuses⟩⟩⟩)
    | foreign hbody houtside hforeign =>
      cases houtside with
      | body hlabelled hnul hcharset =>
        exact hlabelled.text_eq_error hbody (textIn_eq_error_iff.mpr
          ⟨hlabelled.ascii, .inr ⟨hnul, .inr ⟨hcharset, hforeign⟩⟩⟩)
      | label hnames hplain =>
        obtain ⟨hp, hnul⟩ := hnames
        simp only [text_of_ne_nil hbody, hp, textBy_of_not_plain hnul hplain hforeign,
          Charset.Reading.toExcept, mapError_error]

end Http.Response

end Workspace
