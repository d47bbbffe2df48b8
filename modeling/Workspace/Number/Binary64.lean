/-
# Numbers of double precision

A number with a fraction or an exponent is kept as the nearest binary64 value, in exact
arithmetic: a value is a mantissa times a power of two.  No operation of the library computes
with such numbers, so reading (`ofDecimal`) and writing are all there is to say about them.

`ofDecimal` rounds to the nearest value, a tie to the even mantissa; what lies above the largest
finite value becomes infinite, and what lies below half the smallest becomes zero.
-/
namespace Workspace

/-- A binary64 value; `finite negative m e` is `m * 2 ^ e`, with the sign kept also for zero. -/
inductive Binary64
  | nan
  | infinite (negative : Bool)
  | finite (negative : Bool) (mantissa : Nat) (exponent : Int)
  deriving DecidableEq, Repr, Inhabited

namespace Binary64

/-- The exponent of the smallest values. -/
def minExponent : Int := -1074

/-- The largest exponent of a finite value. -/
def maxExponent : Int := 971

/-- Zero, of either sign. -/
def isZero : Binary64 → Bool
  | finite _ m _ => m == 0
  | _ => false

/-- Neither infinite nor not a number. -/
def isFinite : Binary64 → Bool
  | finite .. => true
  | _ => false

/-- Finite and greater than zero. -/
def isPositive : Binary64 → Bool
  | finite negative m _ => !negative && m != 0
  | _ => false

/-! ## 1. Rounding a quotient -/

/-- The quotient `num / den` rounded to the nearest natural number, a tie to the even one. -/
def roundDiv (num den : Nat) : Nat :=
  let q := num / den
  let twice := 2 * (num % den)
  if twice < den then q else if den < twice then q + 1 else q + q % 2

/-- `num * 2 ^ e / den` as a quotient of natural numbers. -/
def scaled (num den : Nat) (e : Int) : Nat × Nat :=
  if 0 ≤ e then (num * Nat.pow 2 e.toNat, den) else (num, den * Nat.pow 2 (-e).toNat)

/-- The exponent `l` with `2 ^ l ≤ num / den < 2 ^ (l + 1)`, for positive `num` and `den`. -/
def floorLog2 (num den : Nat) : Int :=
  let l : Int := (num.log2 : Int) - den.log2
  let (n, d) := scaled num den (-l)
  if d ≤ n then l else l - 1

/-- The value nearest to the positive quotient `num / den`. -/
def ofQuotient (negative : Bool) (num den : Nat) : Binary64 :=
  let e := max (floorLog2 num den - 52) minExponent
  let (n, d) := scaled num den (-e)
  let m := roundDiv n d
  let (m, e) := if m = Nat.pow 2 53 then (Nat.pow 2 52, e + 1) else (m, e)
  if maxExponent < e then infinite negative else finite negative m e

/-- The value nearest to `digits * 10 ^ exponent`. -/
def ofDecimal (negative : Bool) (digits : Nat) (exponent : Int) : Binary64 :=
  if digits = 0 then finite negative 0 minExponent
  else if 400 < exponent then infinite negative
  else if exponent + (digits.log2 + 1) < -400 then finite negative 0 minExponent
  else if 0 ≤ exponent then ofQuotient negative (digits * Nat.pow 10 exponent.toNat) 1
  else ofQuotient negative digits (Nat.pow 10 (-exponent).toNat)

end Binary64

end Workspace
