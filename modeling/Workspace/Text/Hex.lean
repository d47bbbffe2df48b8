/-
# Hexadecimal digits

Escapes and percent signs carry hexadecimal digits: `digits` writes a number with a fixed count
of lower-case digits, `upperDigits` with upper-case ones, and `value?` reads one digit of either
case.  Reading a written digit gives it back (`value?_digit`, `value?_upperDigit`).
-/
namespace Workspace.Text.Hex

/-- The lower-case digit of a value below sixteen. -/
def digit (n : Nat) : Char := Nat.digitChar n

/-- The upper-case digit of a value below sixteen. -/
def upperDigit (n : Nat) : Char := (digit n).toUpper

/-- The last `width` hexadecimal digits of a number, in lower case. -/
def digits : Nat → Nat → List Char
  | 0, _ => []
  | width + 1, n => digits width (n / 16) ++ [digit (n % 16)]

/-- The two hexadecimal digits of a byte, in upper case. -/
def upperDigits (b : UInt8) : List Char :=
  [upperDigit (b.toNat / 16), upperDigit (b.toNat % 16)]

/-- The value of a hexadecimal digit, `none` for any other character. -/
def value? (c : Char) : Option Nat :=
  let n := c.toNat
  if 48 ≤ n ∧ n ≤ 57 then some (n - 48)
  else if 97 ≤ n ∧ n ≤ 102 then some (n - 87)
  else if 65 ≤ n ∧ n ≤ 70 then some (n - 55)
  else none

/-- Four digits as one number. -/
def quad? (a b c d : Char) : Option Nat := do
  return (((← value? a) * 16 + (← value? b)) * 16 + (← value? c)) * 16 + (← value? d)

theorem value?_digit : ∀ n, n < 16 → value? (digit n) = some n := by decide

theorem value?_upperDigit : ∀ n, n < 16 → value? (upperDigit n) = some n := by decide

theorem length_digits (width n : Nat) : (digits width n).length = width := by
  induction width generalizing n with
  | zero => rfl
  | succ width ih => simp [digits, ih]

theorem forall_mem_digits {p : Char → Prop} (h : ∀ d < 16, p (digit d)) (width n : Nat) :
    ∀ c ∈ digits width n, p c := by
  induction width generalizing n with
  | zero => exact fun _ hc => nomatch hc
  | succ width ih =>
    exact List.forall_mem_append.mpr
      ⟨ih (n / 16), List.forall_mem_singleton.mpr (h _ (Nat.mod_lt _ (by decide)))⟩

end Workspace.Text.Hex
