/-
# White space at the edges of a text

Host names, error texts and numbers are read with the white space around them removed.  This
file holds the class of blank characters and the few cuts at the edges of a text that the rest
of the library makes.

* `isBlank` is the white space of the Unicode standard, together with the four separators
  U+001C to U+001F that its bidirectional classes count as white space.
* `trim` removes blanks on both sides; `trimEnd` and `trimStart` remove one given character
  from one side (`trimEnd '/'` is how a trailing slash is dropped everywhere).
-/
namespace Workspace.Text

/-! ## 1. The class of blanks -/

/-- A blank character: ASCII white space and separators, the two Latin-1 blanks, and the space,
line and paragraph separators of Unicode. -/
def isBlank (c : Char) : Bool :=
  let n := c.toNat
  (9 ≤ n && n ≤ 13) || (28 ≤ n && n ≤ 32) || n == 0x85 || n == 0xA0 || n == 0x1680 ||
    (0x2000 ≤ n && n ≤ 0x200A) || n == 0x2028 || n == 0x2029 || n == 0x202F || n == 0x205F ||
    n == 0x3000

/-- A byte that is ASCII white space: space, tab, line feed, vertical tab, form feed or carriage
return. -/
def isBlankByte (b : UInt8) : Bool := (9 ≤ b && b ≤ 13) || b == 32

/-! ## 2. Cuts at the edges -/

/-- The list without the longest run at its end whose members all satisfy `p`. -/
def dropEndWhile {α : Type} (p : α → Bool) (xs : List α) : List α :=
  (xs.reverse.dropWhile p).reverse

/-- The characters of a text without the blanks at its two ends. -/
def trimChars (cs : List Char) : List Char := dropEndWhile isBlank (cs.dropWhile isBlank)

/-- The text without the blanks at its two ends. -/
def trim (s : String) : String := String.ofList (trimChars s.toList)

/-- The text without the run of `c` at its end. -/
def trimEnd (c : Char) (s : String) : String := String.ofList (dropEndWhile (· == c) s.toList)

/-- The text without the run of `c` at its start. -/
def trimStart (c : Char) (s : String) : String := String.ofList (s.toList.dropWhile (· == c))

/-! ## 3. What a cut leaves -/

/-- A list is its kept part followed by a run that satisfies `p`. -/
theorem exists_append_dropEndWhile {α : Type} (p : α → Bool) (xs : List α) :
    ∃ run, xs = dropEndWhile p xs ++ run ∧ ∀ x ∈ run, p x = true := by
  refine ⟨(xs.reverse.takeWhile p).reverse, ?_, ?_⟩
  · have h := congrArg List.reverse (List.takeWhile_append_dropWhile (p := p) (l := xs.reverse))
    rw [List.reverse_append, List.reverse_reverse] at h
    exact h.symm
  · intro x hx
    exact List.all_eq_true.1 (List.all_takeWhile (p := p) (l := xs.reverse)) x
      (List.mem_reverse.1 hx)

theorem dropEndWhile_append_singleton {α : Type} {p : α → Bool} (xs : List α) {x : α}
    (h : p x = false) : dropEndWhile p (xs ++ [x]) = xs ++ [x] := by
  simp [dropEndWhile, h]

/-- A run at the end that satisfies `p` makes no difference to what is kept. -/
theorem dropEndWhile_append_of_forall {α : Type} {p : α → Bool} (xs : List α) {run : List α}
    (h : ∀ x ∈ run, p x = true) : dropEndWhile p (xs ++ run) = dropEndWhile p xs := by
  have hrun : ∀ x ∈ run.reverse, p x = true := fun x hx => h x (List.mem_reverse.mp hx)
  rw [dropEndWhile, dropEndWhile, List.reverse_append, List.dropWhile_append_of_pos hrun]

theorem dropEndWhile_ne_singleton {α : Type} {p : α → Bool} (xs : List α) {x : α}
    (h : p x = true) : dropEndWhile p xs ≠ [x] := by
  intro hx
  have hkept : xs.reverse.dropWhile p = [x] := List.reverse_eq_iff.mp hx
  have hhead := List.head?_dropWhile_not p xs.reverse
  rw [hkept] at hhead
  simp [h] at hhead

end Workspace.Text
