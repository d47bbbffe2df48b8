/-
# The indented form says all there is to say

The indented form of a value is ASCII, whatever its strings hold (`isAscii_indentedChars`), and it
is read as the value itself (`ofString_printout`).  This asks three things of the value: no number
with a fraction, integers that are not too long, and objects with distinct keys.  The last one is
part of what an object is in the program, and `distinct_putAll` says that it is kept when members
are put.
-/
import Workspace.Proofs.Json.Printing
namespace Workspace.Json

/-! ## 1. ASCII -/

/-- An ASCII character. -/
abbrev IsAscii (c : Char) : Prop := c.toNat < 128

theorem isAscii_unitEscape (u : Nat) : ∀ d ∈ unitEscape u, IsAscii d := by
  have hhex : ∀ d < 16, IsAscii (Text.Hex.digit d) := by decide
  exact List.forall_mem_cons.mpr ⟨by decide, List.forall_mem_cons.mpr
    ⟨by decide, Text.Hex.forall_mem_digits hhex 4 u⟩⟩

/-- What the indented form writes for a character is ASCII. -/
theorem isAscii_escapeToAscii (c : Char) : ∀ d ∈ escapeToAscii c, IsAscii d := by
  have hletters : ∀ entry ∈ escapeLetters, IsAscii entry.1 := by decide
  unfold escapeToAscii
  split
  · next letter hletter =>
    exact List.forall_mem_cons.mpr ⟨by decide,
      List.forall_mem_singleton.mpr (hletters _ (mem_escapeLetters hletter))⟩
  · split
    · next hplain => exact List.forall_mem_singleton.mpr (hplain.2.trans (by decide))
    · split
      · exact isAscii_unitEscape c.toNat
      · exact List.forall_mem_append.mpr ⟨isAscii_unitEscape _, isAscii_unitEscape _⟩

theorem isAscii_quoted (s : String) : ∀ d ∈ quoted escapeToAscii s, IsAscii d :=
  forall_mem_quoted (by decide) isAscii_escapeToAscii s

theorem isAscii_newline (level : Nat) : ∀ d ∈ newline level, IsAscii d := by
  refine List.forall_mem_cons.mpr ⟨by decide, fun d hd => ?_⟩
  rw [List.eq_of_mem_replicate hd]
  decide

section Indented

variable {level : Nat}

/-- The items of an array are ASCII, if each of them is. -/
theorem isAscii_indentedItems {items : List Json}
    (h : ∀ v ∈ items, ∀ d ∈ v.indentedChars level, IsAscii d) :
    ∀ d ∈ indentedItems level items, IsAscii d := by
  induction items with
  | nil => exact fun _ h => nomatch h
  | cons v rest ih =>
    have hv := h v List.mem_cons_self
    cases rest with
    | nil => exact List.forall_mem_append.mpr ⟨isAscii_newline level, hv⟩
    | cons w rest =>
      have hrest := ih fun v hmem => h v (List.mem_cons_of_mem _ hmem)
      exact List.forall_mem_append.mpr ⟨isAscii_newline level, List.forall_mem_append.mpr
        ⟨hv, List.forall_mem_cons.mpr ⟨by decide, hrest⟩⟩⟩

/-- The members of an object are ASCII, if their values are. -/
theorem isAscii_indentedMembers {entries : Members}
    (h : ∀ v ∈ entries.map Prod.snd, ∀ d ∈ v.indentedChars level, IsAscii d) :
    ∀ d ∈ indentedMembers level entries, IsAscii d := by
  have hcolon : IsAscii ':' := by decide
  have hspace : IsAscii ' ' := by decide
  have hcomma : IsAscii ',' := by decide
  induction entries with
  | nil => exact fun _ h => nomatch h
  | cons entry rest ih =>
    obtain ⟨k, v⟩ := entry
    have hk := isAscii_quoted k
    have hv := h v List.mem_cons_self
    cases rest with
    | nil =>
      exact List.forall_mem_append.mpr ⟨isAscii_newline level, List.forall_mem_append.mpr
        ⟨hk, List.forall_mem_cons.mpr ⟨hcolon, List.forall_mem_cons.mpr ⟨hspace, hv⟩⟩⟩⟩
    | cons next rest =>
      have hrest := ih fun v hmem => h v (List.mem_cons_of_mem _ hmem)
      exact List.forall_mem_append.mpr ⟨isAscii_newline level, List.forall_mem_append.mpr
        ⟨hk, List.forall_mem_cons.mpr ⟨hcolon, List.forall_mem_cons.mpr ⟨hspace,
          List.forall_mem_append.mpr ⟨hv, List.forall_mem_cons.mpr ⟨hcomma, hrest⟩⟩⟩⟩⟩⟩

/-- **The indented form is ASCII**, whatever the strings hold. -/
theorem isAscii_indentedChars {v : Json} (h : v.Everywhere IsNoNumber) (level : Nat) :
    ∀ d ∈ v.indentedChars level, IsAscii d := by
  have hword {w : String} (hw : w.toList.all (fun d => d.toNat < 128) = true) :
      ∀ d ∈ w.toList, IsAscii d :=
    fun d hd => of_decide_eq_true (List.all_eq_true.mp hw d hd)
  have hbracket {l r : Char} {t : List Char} (hl : IsAscii l) (hr : IsAscii r) (level : Nat)
      (ht : ∀ d ∈ t, IsAscii d) : ∀ d ∈ l :: (t ++ (newline level ++ [r])), IsAscii d :=
    List.forall_mem_cons.mpr ⟨hl, List.forall_mem_append.mpr ⟨ht, List.forall_mem_append.mpr
      ⟨isAscii_newline level, List.forall_mem_singleton.mpr hr⟩⟩⟩
  -- parts stand one level deeper
  induction h generalizing level with
  | @intro v hv _ ih =>
    cases v with
    | null => exact hword (w := "null") (by decide)
    | bool b =>
      cases b with
      | false => exact hword (w := "false") (by decide)
      | true => exact hword (w := "true") (by decide)
    | int n => exact forall_mem_intChars (by decide) (fun d hd => (plain_of_isDigit hd).1) n
    | number x => exact hv.elim
    | string s => exact isAscii_quoted s
    | array items =>
      cases items with
      | nil => exact hword (w := "[]") (by decide)
      | cons v rest =>
        exact hbracket (by decide) (by decide) level
          (isAscii_indentedItems fun w hw => ih w hw (level + 1))
    | object members =>
      cases members with
      | nil => exact hword (w := "\x7b\x7d") (by decide)
      | cons entry rest =>
        exact hbracket (by decide) (by decide) level
          (isAscii_indentedMembers fun w hw => ih w hw (level + 1))

end Indented

/-! ## 2. Distinct keys -/

/-- A value that, if it is an object, has each key once. -/
def HasDistinctKeys : Json → Prop
  | object members => (Members.keys members).Nodup
  | _ => True

/-- A value whose objects have each key once. -/
abbrev Distinct (v : Json) : Prop := v.Everywhere HasDistinctKeys

theorem Legible.distinct {v : Json} (h : v.Legible) : v.Distinct := by
  refine h.imp fun v hv => ?_
  cases v <;> first | exact hv | trivial

/-- An object keeps its keys distinct when members are put, whatever their keys are. -/
theorem distinct_putAll {members updates : Members} (h : (object members).Distinct)
    (hupdates : ∀ v ∈ updates.map Prod.snd, v.Distinct) :
    (object (members.putAll updates)).Distinct := by
  induction updates generalizing members with
  | nil => exact h
  | cons entry rest ih =>
    have hput : (object (members.put entry.1 entry.2)).Distinct := by
      refine .intro (nodup_put h.here _ _) fun w hw => ?_
      rcases mem_of_mem_put hw with rfl | hw
      · exact hupdates _ List.mem_cons_self
      · exact h.of_mem_parts hw
    exact ih hput fun v hv => hupdates v (List.mem_cons_of_mem _ hv)

/-! ## 3. There and back -/

/-- A value that, if it is an integer, is not too long. -/
def IsShort : Json → Prop
  | int n => n.natAbs < 10 ^ Reader.maxDigits
  | _ => True

/-- A value without fractions is legible, if its keys are distinct and its integers are short. -/
theorem legible_of_distinct {v : Json} (hkeys : v.Distinct) (hnumber : v.Everywhere IsNoNumber)
    (hshort : v.Everywhere IsShort) : v.Legible := by
  induction hkeys with
  | @intro v hv _ ih =>
    refine .intro ?_ fun w hw => ih w hw (hnumber.of_mem_parts hw) (hshort.of_mem_parts hw)
    cases v with
    | int n => exact hshort.here
    | number x => exact hnumber.here.elim
    | object members => exact hv
    | _ => trivial

/-- The indented form on lines of its own is read as the indented form is. -/
theorem ofString_line {v : Json} (h : v.Legible) :
    Json.ofString (v.indented ++ "\n") = .ok v.reread := by
  have hblank : AllBlank ['\n'] := by
    intro c hc
    rw [List.mem_singleton.mp hc]
    rfl
  have hread := (Spells.padded (b := []) (fun _ h => nomatch h) (h.indented 0) hblank).ofString
  rwa [List.nil_append, String.ofList_append] at hread

/-- **The indented form on lines of its own is read as the value.** -/
theorem ofString_printout {v : Json} (h : v.Legible) (hnumber : v.Everywhere IsNoNumber) :
    Json.ofString (v.indented ++ "\n") = .ok v := by
  rw [ofString_line h, reread_eq_self hnumber]

end Workspace.Json
