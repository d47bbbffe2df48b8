/-
# Seventeen digits are enough

The shortest decimal of a number is searched for among those with one to seventeen digits.  The
search succeeds for every value with a mantissa below `2 ^ 53` (`shortest_digits_pos`): with
seventeen digits the points of the decimal grid lie closer together than two neighbouring values, so
that one of the two points around a value reads back as the value.

All values that rounding gives have such a mantissa (`lt_of_ofDecimal`).
-/
import Mathlib.Algebra.Order.Field.Power
import Mathlib.Algebra.Order.Field.Rat
import Mathlib.Tactic.Linarith
import Mathlib.Tactic.Positivity
import Mathlib.Tactic.FieldSimp
import Mathlib.Tactic.Ring
import Mathlib.Tactic.NormNum
import Workspace.Number.Shortest
namespace Workspace.Binary64

/-! ## 1. Powers with an exponent of either sign -/

theorem pow_toNat {b : ℚ} (hb : b ≠ 0) (x : Int) : b ^ x.toNat = b ^ x * b ^ (-x).toNat := by
  rw [← zpow_natCast, ← zpow_natCast, ← zpow_add₀ hb]
  congr 1
  omega

/-- The quotient that `scaled` gives is the one it was given, times a power of two. -/
theorem scaled_eq (num den : Nat) (e : Int) :
    ((scaled num den e).1 : ℚ) * den = num * 2 ^ e * (scaled num den e).2 := by
  unfold scaled
  simp only [Nat.pow_eq]
  split
  · next he =>
    obtain ⟨n, rfl⟩ := Int.eq_ofNat_of_zero_le he
    simp
  · next he =>
    have h := pow_toNat (b := 2) two_ne_zero e
    rw [Int.toNat_of_nonpos (by omega), pow_zero] at h
    calc (num : ℚ) * den = num * den * 1 := (mul_one _).symm
      _ = num * den * (2 ^ e * 2 ^ (-e).toNat) := by rw [h]
      _ = num * 2 ^ e * ((den * 2 ^ (-e).toNat : Nat) : ℚ) := by push_cast; ring

theorem scaled_pos (num : Nat) {den : Nat} (hden : 0 < den) (e : Int) : 0 < (scaled num den e).2 := by
  unfold scaled
  split
  · exact hden
  · exact Nat.mul_pos hden (Nat.pow_pos two_pos)

/-! ## 2. Rounding -/

/-- The binary exponent of a quotient is not too small. -/
theorem lt_two_pow_floorLog2 {num den : Nat} (hden : 0 < den) :
    (num : ℚ) < 2 ^ (floorLog2 num den + 1) * den := by
  have h := scaled_eq num den (-((num.log2 : Int) - den.log2))
  have hpos := scaled_pos num hden (-((num.log2 : Int) - den.log2))
  unfold floorLog2
  simp only
  generalize scaled num den (-((num.log2 : Int) - den.log2)) = p at *
  split
  · -- the first guess is read off the binary lengths, and it is never too small
    have hnum : (num : ℚ) < 2 ^ (num.log2 + 1) := by exact_mod_cast Nat.lt_log2_self
    have hlog : (2 : ℚ) ^ den.log2 ≤ den := by exact_mod_cast Nat.log2_self_le hden.ne'
    calc (num : ℚ) < 2 ^ (num.log2 + 1) := hnum
      _ = 2 ^ ((num.log2 : Int) - den.log2 + 1) * 2 ^ den.log2 := by
          rw [← zpow_natCast, ← zpow_natCast, ← zpow_add₀ two_ne_zero]
          congr 1
          push_cast
          ring
      _ ≤ _ := by gcongr
  -- else the guess was too large by one, as the comparison says
  · next hlt =>
    have hden' : (0 : ℚ) < den := by exact_mod_cast hden
    have hpos' : (0 : ℚ) < p.2 := by exact_mod_cast hpos
    have hlt' : (p.1 : ℚ) < p.2 := by exact_mod_cast not_le.mp hlt
    have hsmall : (num : ℚ) * 2 ^ (-((num.log2 : Int) - den.log2)) < den := by
      have hmul : (p.1 : ℚ) * den < p.2 * den := mul_lt_mul_of_pos_right hlt' hden'
      rw [h, mul_comm (p.2 : ℚ)] at hmul
      exact lt_of_mul_lt_mul_right hmul hpos'.le
    rw [zpow_neg, ← div_eq_mul_inv, div_lt_iff₀ (by positivity)] at hsmall
    rwa [sub_add_cancel, mul_comm]

/-- A quotient below a natural number is rounded to no more than it. -/
theorem roundDiv_le {num den bound : Nat} (hden : 0 < den) (h : num < bound * den) :
    roundDiv num den ≤ bound := by
  have hq : num / den < bound := (Nat.div_lt_iff_lt_mul hden).mpr h
  unfold roundDiv
  simp only
  split
  · omega
  · split
    · omega
    · omega

/-- **The mantissa of a rounded value** has at most 53 binary digits. -/
theorem lt_of_ofQuotient {negative negative' : Bool} {num den m : Nat} {e : Int} (hden : 0 < den)
    (h : ofQuotient negative num den = finite negative' m e) : m < 2 ^ 53 := by
  unfold ofQuotient at h
  simp only at h
  generalize hx : max (floorLog2 num den - 52) minExponent = x at h
  have hle : floorLog2 num den + 1 ≤ 53 + x := by omega
  -- in units of the last place the quotient lies below `2 ^ 53`
  have hround : roundDiv (scaled num den (-x)).1 (scaled num den (-x)).2 ≤ 2 ^ 53 := by
    have hpos := scaled_pos num hden (-x)
    refine roundDiv_le hpos ?_
    have hden' : (0 : ℚ) < den := by exact_mod_cast hden
    have hpos' : (0 : ℚ) < (scaled num den (-x)).2 := by exact_mod_cast hpos
    have hnum : (num : ℚ) * 2 ^ (-x) < 2 ^ 53 * den := by
      calc (num : ℚ) * 2 ^ (-x) < 2 ^ (floorLog2 num den + 1) * den * 2 ^ (-x) :=
            mul_lt_mul_of_pos_right (lt_two_pow_floorLog2 hden) (by positivity)
        _ ≤ 2 ^ (53 + x) * den * 2 ^ (-x) := by
            gcongr
            exact one_le_two
        _ = 2 ^ (53 + x) * 2 ^ (-x) * den := by ring
        _ = 2 ^ 53 * den := by
            rw [← zpow_add₀ two_ne_zero, add_neg_cancel_right]
            norm_cast
    have hcast : ((scaled num den (-x)).1 : ℚ) < ((2 ^ 53 * (scaled num den (-x)).2 : Nat) : ℚ) := by
      push_cast
      have hmul := mul_lt_mul_of_pos_right hnum hpos'
      rw [← scaled_eq, mul_right_comm] at hmul
      exact lt_of_mul_lt_mul_right hmul hden'.le
    exact_mod_cast hcast
  split at h
  · split at h
    · cases h
    · cases h
      exact Nat.pow_lt_pow_right (by decide) (by decide)
  · next hne =>
    split at h
    · cases h
    · cases h
      exact lt_of_le_of_ne hround hne

/-- The mantissa of a decimal that was read has at most 53 binary digits. -/
theorem lt_of_ofDecimal {negative negative' : Bool} {digits m : Nat} {exponent e : Int}
    (h : ofDecimal negative digits exponent = finite negative' m e) : m < 2 ^ 53 := by
  unfold ofDecimal at h
  split at h
  · cases h
    decide
  · split at h
    · cases h
    · split at h
      · cases h
        decide
      · split at h
        · exact lt_of_ofQuotient one_pos h
        · exact lt_of_ofQuotient (Nat.pow_pos (by decide)) h

/-! ## 3. The decimal grid -/

/-- A number with a count of decimal digits is not below the power of ten of that length. -/
theorem pow_digitCount_le {n : Nat} (h : 0 < n) : 10 ^ (digitCount n - 1) ≤ n := by
  rcases Nat.eq_zero_or_pos (digitCount n - 1) with hzero | hpos
  · rw [hzero]
    exact h
  · rw [← not_lt, ← Nat.length_toDigits_le_iff (by decide) hpos]
    unfold digitCount at hpos ⊢
    omega

/-- A number lies below the power of ten of its count of digits. -/
theorem lt_pow_digitCount (n : Nat) : n < 10 ^ digitCount n :=
  (Nat.length_toDigits_le_iff (by decide) Nat.length_toDigits_pos).mp le_rfl

/-- The decimal exponent of a quotient is not too large. -/
theorem ten_pow_floorLog10_le {num den : Nat} (hnum : 0 < num) (hden : 0 < den) :
    (10 : ℚ) ^ floorLog10 num den * den ≤ num := by
  unfold floorLog10
  split
  · next hle =>
    have hq : 0 < num / den := Nat.div_pos hle hden
    have hcount : 1 ≤ digitCount (num / den) := Nat.length_toDigits_pos
    have hpow : (10 : ℚ) ^ ((digitCount (num / den) : Int) - 1) =
        ((10 ^ (digitCount (num / den) - 1) : Nat) : ℚ) := by
      rw [Nat.cast_pow, ← zpow_natCast]
      push_cast [Nat.cast_sub hcount]
      rfl
    rw [hpow]
    have hmul : 10 ^ (digitCount (num / den) - 1) * den ≤ num :=
      (Nat.mul_le_mul_right den (pow_digitCount_le hq)).trans (Nat.div_mul_le_self num den)
    exact_mod_cast hmul
  · next hlt =>
    -- the ceiling of `den / num` is bounded by a power of ten
    have hceil : den ≤ num * 10 ^ digitCount ((den + num - 1) / num - 1) := by
      have h := lt_pow_digitCount ((den + num - 1) / num - 1)
      have hle : (den + num - 1) / num ≤ 10 ^ digitCount ((den + num - 1) / num - 1) := by omega
      have hup : den ≤ num * ((den + num - 1) / num) := by
        have hdiv := Nat.div_add_mod (den + num - 1) num
        have hmod := Nat.mod_lt (den + num - 1) hnum
        omega
      exact hup.trans (Nat.mul_le_mul_left num hle)
    rw [zpow_neg, zpow_natCast, inv_mul_le_iff₀ (by positivity), mul_comm]
    exact_mod_cast hceil

theorem scale_pos (e g : Int) : 0 < (scale e g).1 ∧ 0 < (scale e g).2 :=
  ⟨Nat.mul_pos (Nat.pow_pos (by decide)) (Nat.pow_pos (by decide)),
    Nat.mul_pos (Nat.pow_pos (by decide)) (Nat.pow_pos (by decide))⟩

/-- The scale is the quotient of the two units. -/
theorem scale_eq (e g : Int) :
    ((scale e g).1 : ℚ) * 2 ^ e = 4 * 10 ^ g * (scale e g).2 := by
  have hten := pow_toNat (b := 10) (by norm_num) g
  have htwo := pow_toNat (b := 2) two_ne_zero (e - 2)
  have hfour : (2 : ℚ) ^ e = 4 * 2 ^ (e - 2) := by
    rw [zpow_sub₀ two_ne_zero]
    norm_num
    ring
  simp only [scale, Nat.pow_eq]
  push_cast
  rw [hfour, hten, htwo]
  ring

/-- **With seventeen digits the grid is fine enough**: measured in quarters of the last place, its
points lie closer together than `2 ^ 55 / 10 ^ 16`. -/
theorem ten_pow_mul_scale_le {m : Nat} (hm : 0 < m) (e : Int) :
    10 ^ 16 * (scale e (floorLog10 (scaled m 1 e).1 (scaled m 1 e).2 - 16)).1 ≤
      4 * m * (scale e (floorLog10 (scaled m 1 e).1 (scaled m 1 e).2 - 16)).2 := by
  have hpos := scaled_pos m one_pos e
  have hvalue := scaled_eq m 1 e
  -- the power of ten below the value, cut by sixteen places, is the distance of the points
  have hnum : 0 < (scaled m 1 e).1 := by
    have h : (0 : ℚ) < (scaled m 1 e).1 := by
      have hpos' : (0 : ℚ) < (scaled m 1 e).2 := by exact_mod_cast hpos
      have hm' : (0 : ℚ) < m := by exact_mod_cast hm
      rw [Nat.cast_one, mul_one] at hvalue
      rw [hvalue]
      positivity
    exact_mod_cast h
  have hlog := ten_pow_floorLog10_le hnum hpos
  generalize floorLog10 (scaled m 1 e).1 (scaled m 1 e).2 = k at *
  have hpos' : (0 : ℚ) < (scaled m 1 e).2 := by exact_mod_cast hpos
  have hten : (10 : ℚ) ^ k ≤ m * 2 ^ e := by
    rw [Nat.cast_one, mul_one] at hvalue
    rw [hvalue] at hlog
    exact le_of_mul_le_mul_right hlog hpos'
  have hsplit : (10 : ℚ) ^ k = 10 ^ 16 * 10 ^ (k - 16) := by
    rw [zpow_sub₀ (by norm_num)]
    norm_num
    ring
  have hscale : (10 ^ 16 * (scale e (k - 16)).1 : ℚ) * 2 ^ e ≤
      4 * m * (scale e (k - 16)).2 * 2 ^ e := by
    calc (10 ^ 16 * (scale e (k - 16)).1 : ℚ) * 2 ^ e
        = 4 * (10 ^ 16 * 10 ^ (k - 16)) * (scale e (k - 16)).2 := by
          rw [mul_assoc, scale_eq]
          ring
      _ = 4 * 10 ^ k * (scale e (k - 16)).2 := by rw [hsplit]
      _ ≤ 4 * (m * 2 ^ e) * (scale e (k - 16)).2 := by gcongr
      _ = 4 * m * (scale e (k - 16)).2 * 2 ^ e := by ring
  have hcancel := le_of_mul_le_mul_right hscale (by positivity)
  exact_mod_cast hcancel

/-! ## 4. One of the two neighbours reads back -/

section Neighbour

variable {m : Nat} {e g : Int}

/-- What lies strictly between the ends of the interval reads back, whether the ends count or
not. -/
theorem readsBack_of_lt {c : Nat}
    (hlow : (4 * m - (if m = Nat.pow 2 52 ∧ minExponent < e then 1 else 2)) * (scale e g).2 <
      c * (scale e g).1)
    (hhigh : c * (scale e g).1 < (4 * m + 2) * (scale e g).2) : readsBack m e g c = true := by
  unfold readsBack
  simp only
  split
  · simp [hlow.le, hhigh.le]
  · simp [hlow, hhigh]

/-- Zero does not read back as a positive value. -/
theorem readsBack_zero (hm : 0 < m) : readsBack m e g 0 = false := by
  have hb := (scale_pos e g).2
  have hpos : 0 < (4 * m - (if m = Nat.pow 2 52 ∧ minExponent < e then 1 else 2)) *
      (scale e g).2 := by
    refine Nat.mul_pos ?_ hb
    split <;> omega
  unfold readsBack
  simp only [Nat.zero_mul]
  split
  · simp [Nat.not_le.mpr hpos]
  · simp

/-- If the grid is fine enough, one of the two points around the value reads back. -/
theorem readsBack_low_or_high (hm : 0 < m) (hbound : m < 2 ^ 53)
    (hgrid : 10 ^ 16 * (scale e g).1 ≤ 4 * m * (scale e g).2) :
    readsBack m e g (4 * m * (scale e g).2 / (scale e g).1) = true ∨
      readsBack m e g (4 * m * (scale e g).2 / (scale e g).1 + 1) = true := by
  obtain ⟨ha, hb⟩ := scale_pos e g
  have hlow := readsBack_of_lt (m := m) (e := e) (g := g)
    (c := 4 * m * (scale e g).2 / (scale e g).1)
  have hhigh := readsBack_of_lt (m := m) (e := e) (g := g)
    (c := 4 * m * (scale e g).2 / (scale e g).1 + 1)
  have hdiv := Nat.div_add_mod (4 * m * (scale e g).2) (scale e g).1
  have hmod := Nat.mod_lt (4 * m * (scale e g).2) ha
  -- from here on it is a matter of natural numbers with remainder
  generalize (scale e g).1 = a at *
  generalize (scale e g).2 = b at *
  generalize 4 * m * b / a = c at *
  generalize 4 * m * b % a = r at *
  rw [Nat.sub_mul, Nat.add_mul, Nat.mul_comm c] at hlow
  rw [Nat.sub_mul, Nat.add_mul, Nat.add_mul, Nat.mul_comm c] at hhigh
  by_cases hpower : m = Nat.pow 2 52 ∧ minExponent < e
  · -- below a power of two a place is half as wide, but the value is small for its exponent
    have hvalue : 4 * m * b = 2 ^ 54 * b := congrArg (· * b) (by rw [hpower.1]; rfl)
    rw [if_pos hpower] at hlow hhigh
    by_cases hr : r < b
    · exact .inl (hlow (by omega) (by omega))
    · exact .inr (hhigh (by omega) (by omega))
  · have hvalue : 4 * m * b ≤ 2 ^ 55 * b := Nat.mul_le_mul_right b (by omega)
    rw [if_neg hpower] at hlow hhigh
    by_cases hr : r < 2 * b
    · exact .inl (hlow (by omega) (by omega))
    · exact .inr (hhigh (by omega) (by omega))

/-- A neighbour that reads back is positive. -/
theorem neighbour?_pos (hm : 0 < m) {c : Nat} (h : neighbour? m e g = some c) : 0 < c := by
  have hzero := readsBack_zero (e := e) (g := g) hm
  unfold neighbour? at h
  simp only at h
  generalize hlow : 4 * m * (scale e g).2 / (scale e g).1 = low at h
  -- zero never reads back as a positive number
  have hpos : readsBack m e g low = true → 0 < low := by
    intro hback
    refine Nat.pos_of_ne_zero fun h0 => ?_
    rw [h0, hzero] at hback
    cases hback
  split at h
  · next hback _ =>
    have := hpos hback
    repeat' split at h
    all_goals cases h; omega
  · next hback _ =>
    cases h
    exact hpos hback
  · cases h
    omega
  · cases h

/-- If the grid is fine enough, there is a neighbour that reads back. -/
theorem exists_neighbour (hm : 0 < m) (hbound : m < 2 ^ 53)
    (hgrid : 10 ^ 16 * (scale e g).1 ≤ 4 * m * (scale e g).2) : ∃ c, neighbour? m e g = some c := by
  have h := readsBack_low_or_high hm hbound hgrid
  unfold neighbour?
  simp only
  split
  · repeat' split
    all_goals exact ⟨_, rfl⟩
  · exact ⟨_, rfl⟩
  · exact ⟨_, rfl⟩
  · next hlow hhigh => simp [hlow, hhigh] at h

end Neighbour

/-- A search that comes to a grid which is fine enough finds positive digits. -/
theorem search_digits_pos {m : Nat} (hm : 0 < m) {e k : Int} {tries count : Nat}
    (h : ∃ c, neighbour? m e (k + 1 - (count + tries : Nat)) = some c) :
    0 < (search m e k tries count).digits := by
  induction tries generalizing count with
  | zero =>
    obtain ⟨c, hc⟩ := h
    rw [Nat.add_zero] at hc
    simp only [search, hc, Option.getD_some]
    exact neighbour?_pos hm hc
  | succ tries ih =>
    unfold search
    split
    · next hc => exact neighbour?_pos hm hc
    · exact ih (by rwa [Nat.add_right_comm, Nat.add_assoc])

/-- **The shortest decimal has digits**: the search ends with one that reads back. -/
theorem shortest_digits_pos {m : Nat} (hm : 0 < m) (hbound : m < 2 ^ 53) (e : Int) :
    0 < (shortest m e).digits := by
  have hgrid := ten_pow_mul_scale_le hm e
  unfold shortest
  simp only
  generalize floorLog10 (scaled m 1 e).1 (scaled m 1 e).2 = k at *
  have hexponent : k + 1 - (1 + 16 : Nat) = k - 16 := by omega
  refine search_digits_pos hm ?_
  rw [hexponent]
  exact exists_neighbour hm hbound hgrid

end Workspace.Binary64
