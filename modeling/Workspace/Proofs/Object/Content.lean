/-
# A notebook and its content

Bytes that were encoded decode to themselves, and nothing decodes that is not nearly the encoding of
what comes out.

* `Base64.Spells` says how a text may differ from the encoding of its bytes: in the count of the
  padding, and in the last symbol, whose low bits need not all be used.
* `Base64.spells_of_decodeFrom` follows the decoder through a text.  The symbols of the open group
  belong to the text that is still to be judged, so a symbol that is read leaves that text as it is, a
  complete group is cut off together with its three bytes, and from the first padding on there is only
  padding (`Base64.decodeFrom_padded`).
* `Content.decode_strict` is the law for contents: what does not decode is a malformed body, and the
  content is the detail of the error.
-/
import Workspace.Object.Content
namespace Workspace

namespace Base64

/-! ## 1. What a text spells -/

/-- The characters that stand for six bits: the letters and digits of ASCII, plus and slash. -/
def isSymbol (c : Char) : Bool := c.isAlphanum || c == '+' || c == '/'

/-- A text without its padding. -/
def unpadded (cs : List Char) : List Char := cs.filter fun c => c ≠ '='

/-- `Padded cs`: symbols, and behind them only padding. -/
def Padded (cs : List Char) : Prop :=
  ∃ symbols padding, cs = symbols ++ padding ∧ (∀ c ∈ symbols, isSymbol c = true) ∧
    ∀ c ∈ padding, c = '='

/-- Two texts of the same length that differ at most in their last character. -/
def Near (xs ys : List Char) : Prop := xs.length = ys.length ∧ xs.dropLast = ys.dropLast

/-- `Spells cs bytes`: symbols and then padding, which without the padding are nearly the encoding of
the bytes. -/
structure Spells (cs : List Char) (bytes : Bytes) : Prop where
  padded : Padded cs
  near : Near (unpadded cs) (unpadded (encode bytes))

/-- Texts that are nearly the same stay so behind the same start. -/
theorem Near.append_left {xs ys : List Char} (h : Near xs ys) (start : List Char) :
    Near (start ++ xs) (start ++ ys) := by
  obtain ⟨hlength, hdrop⟩ := h
  refine ⟨by rw [List.length_append, List.length_append, hlength], ?_⟩
  by_cases hxs : xs = []
  · subst hxs
    rw [List.eq_nil_of_length_eq_zero hlength.symm]
  · have hys : ys ≠ [] := by
      rintro rfl
      exact hxs (List.eq_nil_of_length_eq_zero hlength)
    rw [List.dropLast_append_of_ne_nil hxs, List.dropLast_append_of_ne_nil hys, hdrop]

theorem Padded.cons {c : Char} {cs : List Char} (hc : isSymbol c = true) (h : Padded cs) :
    Padded (c :: cs) := by
  obtain ⟨symbols, padding, rfl, hsymbols, hpadding⟩ := h
  exact ⟨c :: symbols, padding, rfl, List.forall_mem_cons.mpr ⟨hc, hsymbols⟩, hpadding⟩

theorem unpadded_of_padding {cs : List Char} (h : ∀ c ∈ cs, c = '=') : unpadded cs = [] :=
  List.filter_eq_nil_iff.mpr fun c hc => by simp [h c hc]

theorem unpadded_cons {c : Char} (h : c ≠ '=') (cs : List Char) :
    unpadded (c :: cs) = c :: unpadded cs :=
  List.filter_cons_of_pos (decide_eq_true h)

/-! ## 2. Symbols and their values -/

/-- Only ASCII characters have a value. -/
theorem lt_of_value? {c : Char} {n : Nat} (h : value? c = some n) : c.toNat < 128 := by
  unfold value? at h
  simp only at h
  split at h
  · omega
  · split at h
    · omega
    · split at h
      · omega
      · split at h
        · next hc => subst hc; decide
        · split at h
          · next hc => subst hc; decide
          · cases h

/-- The characters with a value: they are symbols, and the value, which is below 64, gives them back. -/
theorem value?_table : ∀ k < 128, ∀ n ∈ value? (Char.ofNat k),
    isSymbol (Char.ofNat k) = true ∧ symbol n = Char.ofNat k ∧ n < 64 := by decide

theorem symbol_of_value? {c : Char} {n : Nat} (h : value? c = some n) :
    isSymbol c = true ∧ symbol n = c ∧ n < 64 := by
  have htable := value?_table c.toNat (lt_of_value? h) n
  rw [Char.ofNat_toNat] at htable
  exact htable h

/-- The values in a group. -/
def Group.values : Group → List Nat
  | .none => []
  | .one a => [a]
  | .two a b => [a, b]
  | .three a b c => [a, b, c]

/-- Four values are encoded as they were read. -/
theorem unpadded_encode_four {a b c d : Nat} (ha : a < 64) (hb : b < 64) (hc : c < 64) (hd : d < 64)
    (bytes : Bytes) :
    unpadded (encode ((Group.three a b c).bytes ++ UInt8.ofNat (c % 4 * 64 + d) :: bytes)) =
      [symbol a, symbol b, symbol c, symbol d] ++ unpadded (encode bytes) := by
  have h₁ : (a * 4 + b / 16) % 2 ^ 8 / 4 = a := by omega
  have h₂ : (a * 4 + b / 16) % 2 ^ 8 % 4 * 16 + (b % 16 * 16 + c / 4) % 2 ^ 8 / 16 = b := by omega
  have h₃ : (b % 16 * 16 + c / 4) % 2 ^ 8 % 16 * 4 + (c % 4 * 64 + d) % 2 ^ 8 / 64 = c := by omega
  have h₄ : (c % 4 * 64 + d) % 2 ^ 8 % 64 = d := by omega
  simp only [Group.bytes, List.cons_append, List.nil_append, encode, UInt8.toNat_ofNat', h₁, h₂, h₃, h₄,
    unpadded_cons (symbol_ne_pad _ ha), unpadded_cons (symbol_ne_pad _ hb),
    unpadded_cons (symbol_ne_pad _ hc), unpadded_cons (symbol_ne_pad _ hd)]

/-- The values of a group that padding may follow are nearly encoded as they were read: the last one
loses the bits that make up no byte. -/
theorem near_encode_group {group : Group} (hvalues : ∀ n ∈ group.values, n < 64)
    (hsize : group.size ≠ 1) :
    Near (group.values.map symbol) (unpadded (encode group.bytes)) := by
  -- bits of the last value that make no whole byte are lost, so only this value may differ
  cases group with
  | none => exact ⟨rfl, rfl⟩
  | one a => exact absurd rfl hsize
  | two a b =>
    simp only [Group.values, List.forall_mem_cons] at hvalues
    obtain ⟨ha, hb, -⟩ := hvalues
    have h₁ : (a * 4 + b / 16) % 2 ^ 8 / 4 = a := by omega
    have hlast : (a * 4 + b / 16) % 2 ^ 8 % 4 * 16 < 64 := by omega
    simp only [Group.bytes, encode, UInt8.toNat_ofNat', h₁, unpadded_cons (symbol_ne_pad _ ha),
      unpadded_cons (symbol_ne_pad _ hlast)]
    exact ⟨rfl, rfl⟩
  | three a b c =>
    simp only [Group.values, List.forall_mem_cons] at hvalues
    obtain ⟨ha, hb, hc, -⟩ := hvalues
    have h₁ : (a * 4 + b / 16) % 2 ^ 8 / 4 = a := by omega
    have h₂ : (a * 4 + b / 16) % 2 ^ 8 % 4 * 16 + (b % 16 * 16 + c / 4) % 2 ^ 8 / 16 = b := by omega
    have hlast : (b % 16 * 16 + c / 4) % 2 ^ 8 % 16 * 4 < 64 := by omega
    simp only [Group.bytes, encode, UInt8.toNat_ofNat', h₁, h₂, unpadded_cons (symbol_ne_pad _ ha),
      unpadded_cons (symbol_ne_pad _ hb), unpadded_cons (symbol_ne_pad _ hlast)]
    exact ⟨rfl, rfl⟩

/-! ## 3. The decoder -/

/-- **Behind padding there is only padding**, the open group gives its whole bytes, and it does not
hold a single value. -/
theorem decodeFrom_padded {done bytes : Bytes} {group : Group} {pads : Nat} {cs : List Char}
    (h : decodeFrom done group pads true cs = .ok bytes) :
    (∀ c ∈ cs, c = '=') ∧ bytes = done.reverse ++ group.bytes ∧ group.size ≠ 1 := by
  -- no symbol is read any more, so only the count of paddings varies
  induction cs generalizing pads with
  | nil =>
    cases group with
    | none =>
      cases h
      exact ⟨nofun, (List.append_nil _).symm, nofun⟩
    | _ => cases h
  | cons c rest ih =>
    unfold decodeFrom at h
    split at h
    · next hc =>
      rw [List.forall_mem_cons]
      split at h
      · obtain ⟨hrest, hbytes⟩ := ih h
        exact ⟨⟨hc, hrest⟩, hbytes⟩
      · split at h
        · obtain ⟨hrest, hbytes⟩ := ih h
          exact ⟨⟨hc, hrest⟩, hbytes⟩
        · split at h
          · next hempty =>
            cases h
            rw [List.isEmpty_iff.mp hempty]
            exact ⟨⟨hc, nofun⟩, rfl, by omega⟩
          · cases h
    · split at h <;> cases h

/-- Padding is read in the same way whether or not padding was read before. -/
theorem decodeFrom_pad (done : Bytes) (group : Group) (pads : Nat) (padded : Bool)
    (rest : List Char) :
    decodeFrom done group pads padded ('=' :: rest) = decodeFrom done group pads true ('=' :: rest) :=
  rfl

/-- **What was read spells what comes out.**  Behind the bytes of the complete groups stand those that
the values of the open group and the rest of the text spell. -/
theorem spells_of_decodeFrom {done bytes : Bytes} {group : Group} {cs : List Char}
    (hvalues : ∀ n ∈ group.values, n < 64) (h : decodeFrom done group 0 false cs = .ok bytes) :
    Padded cs ∧ ∃ tail, bytes = done.reverse ++ tail ∧
      Near (group.values.map symbol ++ unpadded cs) (unpadded (encode tail)) := by
  induction cs generalizing done group with
  | nil =>
    cases group with
    | none =>
      cases h
      exact ⟨⟨[], [], rfl, nofun, nofun⟩, [], (List.append_nil _).symm, rfl, rfl⟩
    | _ => cases h
  | cons c rest ih =>
    by_cases hc : c = '='
    · subst hc
      rw [decodeFrom_pad] at h
      obtain ⟨hpadding, hbytes, hsize⟩ := decodeFrom_padded h
      refine ⟨⟨[], '=' :: rest, rfl, nofun, hpadding⟩, group.bytes, hbytes, ?_⟩
      rw [unpadded_of_padding hpadding, List.append_nil]
      exact near_encode_group hvalues hsize
    · cases hv : value? c with
      | none => simp [decodeFrom, hc, hv] at h
      | some v =>
        obtain ⟨hsymbol, rfl, hlt⟩ := symbol_of_value? hv
        have hnext : ∀ n ∈ group.values ++ [v], n < 64 :=
          List.forall_mem_append.mpr ⟨hvalues, List.forall_mem_singleton.mpr hlt⟩
        rw [decodeFrom_symbol _ _ _ hlt] at h
        rw [unpadded_cons hc]
        cases group with
        | three a b c =>
          obtain ⟨hpadded, tail, rfl, hnear⟩ := ih (by simp [Group.values]) h
          simp only [Group.values, List.forall_mem_cons] at hvalues
          obtain ⟨ha, hb, hc, -⟩ := hvalues
          refine ⟨hpadded.cons hsymbol, (Group.three a b c).bytes ++ UInt8.ofNat (c % 4 * 64 + v) :: tail,
            by simp, ?_⟩
          rw [unpadded_encode_four ha hb hc hlt]
          exact hnear.append_left [symbol a, symbol b, symbol c, symbol v]
        | _ =>
          -- the symbol goes from the text to the open group
          obtain ⟨hpadded, hrest⟩ := ih (by exact hnext) h
          exact ⟨hpadded.cons hsymbol, hrest⟩

/-- A text that decodes spells its bytes. -/
theorem spells_of_decode {cs : List Char} {bytes : Bytes} (h : decode cs = .ok bytes) :
    Spells cs bytes := by
  unfold decode at h
  split at h
  · cases h
  · split at h
    · cases h
    · obtain ⟨hpadded, tail, rfl, hnear⟩ := spells_of_decodeFrom (by simp [Group.values]) h
      exact ⟨hpadded, hnear⟩

/-- The bits of the last symbol that make up no byte are lost. -/
example : decode "QR==".toList = .ok [65] ∧ encode [65] = "QQ==".toList := ⟨rfl, rfl⟩

end Base64

/-! ## 4. Contents -/

namespace Content

/-- **Contents are decoded strictly.**

* The content of bytes decodes to these bytes.
* Whatever a content holds, either it is a malformed body, which is all that the error tells besides
  its kind and its message, or the content spells the bytes that come out. -/
theorem decode_strict :
    (∀ bytes, decode (encode bytes) = .ok bytes) ∧
      ∀ content, (∃ message, decode content = .error (.malformed message (.string content.base64))) ∨
        ∃ bytes, decode content = .ok bytes ∧ Base64.Spells content.base64.toList bytes := by
  constructor
  · intro bytes
    simp only [decode, encode, String.toList_ofList, Base64.decode_encode]
  · intro content
    cases h : Base64.decode content.base64.toList with
    | error fault => exact .inl ⟨_, by rw [decode, h]⟩
    | ok bytes => exact .inr ⟨bytes, by rw [decode, h], Base64.spells_of_decode h⟩

end Content

end Workspace
