/-
# Reading a query back

`Form.decode?` reads form data by the rules of that format and knows nothing of `Form.encode`: the
pairs stand between `&`, a pair is cut at its first `=`, and in a text `+` is the space and a
percent sign with two hexadecimal digits a byte.

* `decode?_encode`: the pairs that were encoded read back, whatever characters they hold.
* `encode_inj`: so different lists of pairs have different encodings.
* `Http.Request.url_inj`: behind a URL, the query is what follows the last `?`, so that a request
  with a query shows both by its URL alone.
-/
import Workspace.Http.Message
namespace Workspace

namespace Form

/-! ## 1. Reading -/

/-- The bytes that a text in form data stands for; `none` if a percent sign stands without its two
digits, or if a character lies outside ASCII. -/
def decodeBytes? : List Char → Option Bytes
  | [] => some []
  | '+' :: rest => (decodeBytes? rest).map (0x20 :: ·)
  | '%' :: a :: b :: rest => do
    let high ← Text.Hex.value? a
    let low ← Text.Hex.value? b
    return UInt8.ofNat (high * 16 + low) :: (← decodeBytes? rest)
  | c :: rest =>
    if c = '%' ∨ 128 ≤ c.toNat then none
    else (decodeBytes? rest).map (UInt8.ofNat c.toNat :: ·)

/-- The text that a text in form data stands for, if its bytes are UTF-8. -/
def decodeText? (cs : List Char) : Option String := do
  let bytes ← decodeBytes? cs
  let text ← (Utf8.decode bytes).toOption
  return String.ofList text

/-- The pair that a piece of form data stands for: what is before the first `=`, and what is
after it. -/
def decodePair? (cs : List Char) : Option (String × String) :=
  match cs.dropWhile (· != '=') with
  | [] => none
  | _ :: value => do
    return (← decodeText? (cs.takeWhile (· != '=')), ← decodeText? value)

/-- The pairs that form data stands for, in order. -/
def decode? (q : String) : Option (List (String × String)) :=
  if q.isEmpty then some [] else (q.toList.splitOn '&').mapM decodePair?

/-! ## 2. Bytes -/

theorem plain_of_isUnreserved : ∀ n < 256, isUnreserved (UInt8.ofNat n) = true →
    n < 128 ∧ (Char.ofNat n).toNat = n ∧ Char.ofNat n ≠ '+' ∧ Char.ofNat n ≠ '%' := by
  decide +kernel

/-- No mark that divides a URL or its query occurs in the encoding of a byte. -/
theorem ne_mark_of_mem_encodeByte : ∀ n < 256, ∀ c ∈ encodeByte (UInt8.ofNat n),
    c ≠ '&' ∧ c ≠ '=' ∧ c ≠ '?' := by
  have hall : ∀ n < 256, (encodeByte (UInt8.ofNat n)).all
      (fun c => c != '&' && c != '=' && c != '?') = true := by
    decide +kernel
  intro n hn c hc
  have hmark := List.all_eq_true.mp (hall n hn) c hc
  simpa only [Bool.and_eq_true, bne_iff_ne, and_assoc] using hmark

theorem decodeBytes?_plain {c : Char} (hplus : c ≠ '+') (hpercent : c ≠ '%') (hc : c.toNat < 128)
    (rest : List Char) :
    decodeBytes? (c :: rest) = (decodeBytes? rest).map (UInt8.ofNat c.toNat :: ·) := by
  rw [decodeBytes?, if_neg]
  · rintro (h | h)
    · exact hpercent h
    · omega
  · exact hplus
  · exact fun _ _ _ h _ => hpercent h

/-- An encoded byte reads back, and reading goes on behind it. -/
theorem decodeBytes?_encodeByte (b : UInt8) (rest : List Char) :
    decodeBytes? (encodeByte b ++ rest) = (decodeBytes? rest).map (b :: ·) := by
  have hb : b.toNat < 256 := b.toNat_lt
  unfold encodeByte
  -- a character that stands for itself, the blank, and a percent sign with two digits
  split
  · next h =>
    obtain ⟨hn, hc, hplus, hpercent⟩ :=
      plain_of_isUnreserved b.toNat hb (by rwa [UInt8.ofNat_toNat])
    rw [List.singleton_append, decodeBytes?_plain hplus hpercent (by rwa [hc]), hc,
      UInt8.ofNat_toNat]
  · split
    · next h =>
      subst h
      rfl
    · have hhigh := Text.Hex.value?_upperDigit (b.toNat / 16) (by omega)
      have hlow := Text.Hex.value?_upperDigit (b.toNat % 16) (by omega)
      have hvalue : b.toNat / 16 * 16 + b.toNat % 16 = b.toNat := by omega
      simp only [Text.Hex.upperDigits, List.cons_append, List.nil_append, decodeBytes?, hhigh, hlow,
        Option.bind_eq_bind, Option.bind_some, hvalue, UInt8.ofNat_toNat]
      cases decodeBytes? rest <;> rfl

theorem decodeBytes?_flatMap (bytes : Bytes) :
    decodeBytes? (bytes.flatMap encodeByte) = some bytes := by
  induction bytes with
  | nil => rfl
  | cons b bytes ih => rw [List.flatMap_cons, decodeBytes?_encodeByte, ih, Option.map_some]

/-! ## 3. Texts, pairs and lists of pairs -/

theorem decodeText?_encodeText (cs : List Char) :
    decodeText? (encodeText cs) = some (String.ofList cs) := by
  simp [decodeText?, encodeText, decodeBytes?_flatMap, Utf8.decode_encode, Except.toOption]

theorem ne_mark_of_mem_encodeText {cs : List Char} {c : Char} (h : c ∈ encodeText cs) :
    c ≠ '&' ∧ c ≠ '=' ∧ c ≠ '?' := by
  obtain ⟨b, -, hb⟩ := List.mem_flatMap.mp h
  exact ne_mark_of_mem_encodeByte b.toNat b.toNat_lt c (by rwa [UInt8.ofNat_toNat])

/-- The marks between and around pairs do not occur within one. -/
theorem ne_mark_of_mem_encodePair {pair : String × String} {c : Char} (h : c ∈ encodePair pair) :
    c ≠ '&' ∧ c ≠ '?' := by
  rcases List.mem_append.mp h with h | h
  · exact ⟨(ne_mark_of_mem_encodeText h).1, (ne_mark_of_mem_encodeText h).2.2⟩
  · rcases List.mem_cons.mp h with rfl | h
    · exact ⟨by decide, by decide⟩
    · exact ⟨(ne_mark_of_mem_encodeText h).1, (ne_mark_of_mem_encodeText h).2.2⟩

/-- An encoded pair reads back: the first `=` is the one between its texts. -/
theorem decodePair?_encodePair (pair : String × String) :
    decodePair? (encodePair pair) = some pair := by
  have hkey : ∀ c ∈ encodeText pair.1.toList, (c != '=') = true := fun c h =>
    bne_iff_ne.mpr (ne_mark_of_mem_encodeText h).2.1
  rw [decodePair?, encodePair, List.dropWhile_append_of_pos hkey, List.takeWhile_append_of_pos hkey]
  simp [decodeText?_encodeText]

/-- The encoding of several pairs has `&` between them. -/
theorem encodeChars_eq (pairs : List (String × String)) :
    encodeChars pairs = ['&'].intercalate (pairs.map encodePair) := by
  induction pairs with
  | nil => rfl
  | cons pair rest ih =>
    cases rest with
    | nil => simp [encodeChars, List.intercalate]
    | cons next rest =>
      rw [encodeChars, ih]
      · simp [List.intercalate_cons_cons]
      · exact fun h => by cases h

/-- The encoding of no pair is empty, since it holds `=`. -/
theorem encode_ne_empty {pairs : List (String × String)} (h : pairs ≠ []) :
    (encode pairs).isEmpty = false := by
  have hne : encodeChars pairs ≠ [] := by
    cases pairs with
    | nil => exact absurd rfl h
    | cons pair rest => cases rest <;> simp [encodeChars, encodePair]
  rw [encode, Bool.eq_false_iff]
  simpa using hne

/-- **A query loses nothing.**  The pairs that were encoded read back, in order. -/
theorem decode?_encode (pairs : List (String × String)) : decode? (encode pairs) = some pairs := by
  by_cases h : pairs = []
  · subst h; rfl
  · have hamp : ∀ cs ∈ pairs.map encodePair, '&' ∉ cs := by
      intro cs hcs hmem
      obtain ⟨pair, -, rfl⟩ := List.mem_map.mp hcs
      exact (ne_mark_of_mem_encodePair hmem).1 rfl
    rw [decode?, encode_ne_empty h, if_neg Bool.false_ne_true, encode, String.toList_ofList,
      encodeChars_eq, List.splitOn_intercalate '&' hamp (by simpa using h), List.mapM_map]
    have hread : decodePair? ∘ encodePair = pure := funext decodePair?_encodePair
    rw [hread, List.mapM_pure, List.map_id']
    rfl

theorem encode_inj {pairs pairs' : List (String × String)} (h : encode pairs = encode pairs') :
    pairs = pairs' := by
  have hread := congrArg decode? h
  rwa [decode?_encode, decode?_encode, Option.some_inj] at hread

/-- The mark before a query does not occur in it. -/
theorem question_notMem_encode (pairs : List (String × String)) : '?' ∉ (encode pairs).toList := by
  rw [encode, String.toList_ofList]
  induction pairs with
  | nil => exact List.not_mem_nil
  | cons pair rest ih =>
    cases rest with
    | nil => exact fun h => (ne_mark_of_mem_encodePair h).2 rfl
    | cons next rest =>
      intro h
      rcases List.mem_append.mp h with h | h
      · exact (ne_mark_of_mem_encodePair h).2 rfl
      · exact ih (List.mem_of_ne_of_mem (by decide) h)

end Form

/-! ## 4. URLs -/

/-- What stands behind the last occurrence of a character shows the parts. -/
theorem append_cons_inj_of_notMem {α : Type} {x : α} {as as' bs bs' : List α} (hb : x ∉ bs)
    (hb' : x ∉ bs') (h : as ++ x :: bs = as' ++ x :: bs') : as = as' ∧ bs = bs' := by
  rcases List.append_eq_append_iff.mp h with ⟨cs, rfl, hcs⟩ | ⟨cs, rfl, hcs⟩
  · cases cs with
    | nil => exact ⟨by simp, (List.cons.inj hcs).2⟩
    | cons c cs => exact absurd (by rw [(List.cons.inj hcs).2]; simp) hb
  · cases cs with
    | nil => exact ⟨by simp, (List.cons.inj hcs).2.symm⟩
    | cons c cs => exact absurd (by rw [(List.cons.inj hcs).2]; simp) hb'

namespace Http.Request

theorem url_of_query {r : Request} (h : r.query ≠ []) :
    r.url = r.base ++ "?" ++ Form.encode r.query := by
  rw [url, if_neg (by simpa using h)]

/-- **The URL shows the query.**  Two requests with a query and with one URL have one query. -/
theorem url_inj {r r' : Request} (hr : r.query ≠ []) (hr' : r'.query ≠ [])
    (h : r.url = r'.url) : r.base = r'.base ∧ r.query = r'.query := by
  rw [url_of_query hr, url_of_query hr'] at h
  have hchars := congrArg String.toList h
  simp only [String.toList_append, List.append_assoc] at hchars
  obtain ⟨hbase, hquery⟩ := append_cons_inj_of_notMem (Form.question_notMem_encode r.query)
    (Form.question_notMem_encode r'.query) hchars
  exact ⟨String.toList_inj.mp hbase, Form.encode_inj (String.toList_inj.mp hquery)⟩

end Http.Request

end Workspace
