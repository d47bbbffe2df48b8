/-
# Surrogate pairs

A character above U+FFFF is written in units of sixteen bits as a pair of surrogates.  `split`
gives the pair of a character and `join` the character of a pair; a half without its partner is
no character and stands as U+FFFD.
-/
namespace Workspace.Text.Surrogate

/-- The character that stands for what is none. -/
def replacement : Char := '\uFFFD'

/-- The first half of a pair. -/
def isHigh (u : Nat) : Bool := 0xD800 ≤ u && u ≤ 0xDBFF

/-- The second half of a pair. -/
def isLow (u : Nat) : Bool := 0xDC00 ≤ u && u ≤ 0xDFFF

/-- The character of a pair. -/
def join (high low : Nat) : Char := Char.ofNat (0x10000 + (high - 0xD800) * 1024 + (low - 0xDC00))

/-- The character of a unit that is no half of a pair. -/
def single (u : Nat) : Char := if isHigh u || isLow u then replacement else Char.ofNat u

/-- The two halves of a character above U+FFFF. -/
def split (c : Char) : Nat × Nat :=
  let n := c.toNat - 0x10000
  (0xD800 + n / 1024, 0xDC00 + n % 1024)

/-- Units read one at a time: the characters so far, the last one first, and perhaps a first half
that waits for its partner. -/
structure Units where
  done : List Char := []
  pending : Option Nat := none

/-- The characters when no partner comes any more. -/
def Units.flush (s : Units) : List Char :=
  match s.pending with
  | some _ => replacement :: s.done
  | none => s.done

/-- Read one more character that is not a unit of a pair. -/
def Units.push (s : Units) (c : Char) : Units := ⟨c :: s.flush, none⟩

/-- Read one more unit. -/
def Units.pushUnit (s : Units) (u : Nat) : Units :=
  if isHigh u then ⟨s.flush, some u⟩
  else
    match s.pending with
    | some high => if isLow u then ⟨join high u :: s.done, none⟩ else s.push (single u)
    | none => s.push (single u)

/-- The characters read, in order. -/
def Units.chars (s : Units) : List Char := s.flush.reverse

end Workspace.Text.Surrogate
