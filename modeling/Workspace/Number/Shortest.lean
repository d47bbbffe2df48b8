/-
# The shortest decimal that reads back

A number is written with the fewest digits from which it can be read again, and of the decimals
with that many digits the one nearest to it; an exact tie goes to the even last digit.

For each count of digits the two neighbours of the value on that decimal grid are tried, in
exact arithmetic: a grid has a point that reads back only if one of the two does.
-/
import Workspace.Number.Binary64
namespace Workspace.Binary64

/-- A decimal `digits * 10 ^ exponent`. -/
structure Decimal where
  digits : Nat
  exponent : Int
  deriving DecidableEq, Repr

/-- The length of the run of powers of ten up to `n`: the count of its decimal digits. -/
def digitCount (n : Nat) : Nat := (Nat.toDigits 10 n).length

/-- The exponent `k` with `10 ^ k ≤ num / den < 10 ^ (k + 1)`, for positive `num` and `den`. -/
def floorLog10 (num den : Nat) : Int :=
  if den ≤ num then (digitCount (num / den) : Int) - 1
  else -(digitCount ((den + num - 1) / num - 1) : Int)

/-- The decimals `c * 10 ^ g` measured against the values `m * 2 ^ e`: for the pair `A`, `B` that
`scale e g` is, `c * 10 ^ g` is `c * A / B` quarters of the last place of such a value. -/
def scale (e g : Int) : Nat × Nat :=
  let q := e - 2
  (Nat.pow 10 g.toNat * Nat.pow 2 (-q).toNat, Nat.pow 2 q.toNat * Nat.pow 10 (-g).toNat)

/-- Does the decimal `c * 10 ^ g` round to `m * 2 ^ e`?  It lies within half a place of it, where
the place below a power of two is half as wide, and the ends count if the mantissa is even. -/
def readsBack (m : Nat) (e g : Int) (c : Nat) : Bool :=
  let (a, b) := scale e g
  let below := if m = Nat.pow 2 52 ∧ minExponent < e then 1 else 2
  if m % 2 = 0 then (4 * m - below) * b ≤ c * a && c * a ≤ (4 * m + 2) * b
  else (4 * m - below) * b < c * a && c * a < (4 * m + 2) * b

/-- The neighbour of the value on the grid `10 ^ g` that reads back and is nearest to it. -/
def neighbour? (m : Nat) (e g : Int) : Option Nat :=
  let (a, b) := scale e g
  let low := 4 * m * b / a
  let high := low + 1
  match readsBack m e g low, readsBack m e g high with
  | true, true =>
    let down := 4 * m * b - low * a
    let up := high * a - 4 * m * b
    if down < up then some low else if up < down then some high else some (low + low % 2)
  | true, false => some low
  | false, true => some high
  | false, false => none

/-- Try the grids from `count` digits on; the value has its first digit at `10 ^ k`. -/
def search (m : Nat) (e k : Int) : (tries count : Nat) → Decimal
  | 0, count => ⟨(neighbour? m e (k + 1 - count)).getD 0, k + 1 - count⟩
  | tries + 1, count =>
    match neighbour? m e (k + 1 - count) with
    | some digits => ⟨digits, k + 1 - count⟩
    | none => search m e k tries (count + 1)

/-- The shortest decimal for `m * 2 ^ e` with a positive mantissa. -/
def shortest (m : Nat) (e : Int) : Decimal :=
  let (num, den) := scaled m 1 e
  search m e (floorLog10 num den) 16 1

end Workspace.Binary64
