import Mathlib.Algebra.Order.Field.Power
import Mathlib.Algebra.Order.Floor.Semifield
import Mathlib.Data.Rat.Floor
import Mathlib.Tactic.FieldSimp
import Mathlib.Tactic.Linarith
import Mathlib.Tactic.Positivity
import Mathlib.Tactic.Ring
import Revalidation.Number.Double

/-!
# Rounding to double precision

A quotient is rounded to a double such that no double is nearer to it.  Most of what is needed of
rounding follows from that alone: it keeps the order, and it leaves whole numbers of up to 53 bits as
they are.
-/

namespace Revalidation.Magnitude

def value (x : Magnitude) : ℚ := x.significand * 2 ^ x.exponent

/-- The magnitude of a double, were there no largest double. -/
def IsDouble (x : Magnitude) : Prop := x.significand ≤ 2 ^ 53 ∧ -1074 ≤ x.exponent

/-- The magnitude is a double, and no double is nearer to the number. -/
structure Rounds (q : ℚ) (x : Magnitude) : Prop where
  isDouble : x.IsDouble
  nearest : ∀ y : Magnitude, y.IsDouble → |x.value - q| ≤ |y.value - q|

variable {num den : Nat} {p q : ℚ} {x y : Magnitude}

/-! ## Whole numbers -/

theorem roundQuotient_bounds (num : Nat) (hden : 0 < den) :
    2 * num ≤ 2 * (roundQuotient num den * den) + den ∧
      2 * (roundQuotient num den * den) ≤ 2 * num + den := by
  have hsplit : num / den * den + num % den = num := Nat.div_add_mod' num den
  have hmod : num % den < den := Nat.mod_lt num hden
  have hup : (num / den + 1) * den = num / den * den + den := Nat.succ_mul _ _
  unfold roundQuotient
  dsimp only
  split <;> omega

theorem abs_roundQuotient_sub_le (hden : 0 < den) :
    |(roundQuotient num den : ℚ) - num / den| ≤ 1 / 2 := by
  obtain ⟨hlower, hupper⟩ := roundQuotient_bounds num hden
  have hpos : (0 : ℚ) < den := Nat.cast_pos.mpr hden
  have hlower' : (2 * num : ℚ) ≤ 2 * (roundQuotient num den * den) + den := by exact_mod_cast hlower
  have hupper' : 2 * (roundQuotient num den * den : ℚ) ≤ 2 * num + den := by exact_mod_cast hupper
  rw [abs_le]
  constructor
  · have : (num / den : ℚ) ≤ roundQuotient num den + 1 / 2 := by
      rw [div_le_iff₀ hpos]
      linarith
    linarith
  · have : (roundQuotient num den : ℚ) - 1 / 2 ≤ num / den := by
      rw [le_div_iff₀ hpos]
      linarith
    linarith

theorem abs_sub_le_abs_sub {m : Nat} (hhalf : |(m : ℚ) - q| ≤ 1 / 2) (k : Nat) :
    |(m : ℚ) - q| ≤ |(k : ℚ) - q| := by
  by_cases hk : m = k
  · rw [hk]
  · have hone : (1 : ℚ) ≤ |(m : ℚ) - k| := by
      have hdiff : (m : ℤ) - k ≠ 0 := sub_ne_zero.mpr (Int.ofNat_inj.not.mpr hk)
      exact_mod_cast Int.one_le_abs hdiff
    have htriangle : |(m : ℚ) - k| ≤ |(m : ℚ) - q| + |(k : ℚ) - q| := by
      rw [abs_sub_comm (k : ℚ) q]
      exact abs_sub_le _ _ _
    linarith

/-! ## The exponent -/

theorem scale_pos (hden : 0 < den) (e : ℤ) : 0 < (scale num den e).2 := by
  unfold scale
  split
  · exact Nat.mul_pos hden (Nat.pow_pos (by omega))
  · exact hden

theorem scale_div (num den : Nat) (e : ℤ) :
    ((scale num den e).1 : ℚ) / (scale num den e).2 = num / den / 2 ^ e := by
  unfold scale
  split
  · rename_i he
    obtain ⟨k, rfl⟩ := Int.eq_ofNat_of_zero_le he
    simp [div_div]
  · rename_i he
    obtain ⟨k, hk⟩ := Int.eq_ofNat_of_zero_le (by omega : 0 ≤ -e)
    have hek : e = -(k : ℤ) := by omega
    simp [hek]
    ring

theorem two_zpow_log2_le {n : Nat} (hn : n ≠ 0) : (2 : ℚ) ^ (n.log2 : ℤ) ≤ n := by
  rw [zpow_natCast]
  exact_mod_cast Nat.log2_self_le hn

theorem lt_two_zpow_log2 (n : Nat) : (n : ℚ) < 2 ^ (n.log2 + 1 : ℤ) := by
  have h : n < 2 ^ (n.log2 + 1) := Nat.lt_log2_self
  exact_mod_cast h

theorem log2_bounds (hnum : 0 < num) (hden : 0 < den) :
    2 ^ 51 * 2 ^ ((num.log2 : ℤ) - den.log2 - 52) < (num / den : ℚ) ∧
      (num / den : ℚ) < 2 ^ 53 * 2 ^ ((num.log2 : ℤ) - den.log2 - 52) := by
  have hpos : (0 : ℚ) < den := Nat.cast_pos.mpr hden
  set guess : ℤ := (num.log2 : ℤ) - den.log2 - 52 with hguess
  constructor
  · rw [lt_div_iff₀ hpos]
    calc (2 : ℚ) ^ 51 * 2 ^ guess * den
        < 2 ^ 51 * 2 ^ guess * 2 ^ (den.log2 + 1 : ℤ) := by
          gcongr
          exact lt_two_zpow_log2 den
      _ = 2 ^ (num.log2 : ℤ) := by
          rw [← zpow_natCast, ← zpow_add₀ two_ne_zero, ← zpow_add₀ two_ne_zero]
          congr 1
          push_cast
          omega
      _ ≤ num := two_zpow_log2_le hnum.ne'
  · rw [div_lt_iff₀ hpos]
    calc (num : ℚ) < 2 ^ (num.log2 + 1 : ℤ) := lt_two_zpow_log2 num
      _ = 2 ^ 53 * 2 ^ guess * 2 ^ (den.log2 : ℤ) := by
          rw [← zpow_natCast, ← zpow_add₀ two_ne_zero, ← zpow_add₀ two_ne_zero]
          congr 1
          push_cast
          omega
      _ ≤ 2 ^ 53 * 2 ^ guess * den := by
          gcongr
          exact two_zpow_log2_le hden.ne'

theorem scale_lt_iff (num : Nat) (hden : 0 < den) (m : Nat) (e : ℤ) :
    (scale num den e).1 < m * (scale num den e).2 ↔ (num / den : ℚ) < m * 2 ^ e := by
  have hscale : (0 : ℚ) < (scale num den e).2 := Nat.cast_pos.mpr (scale_pos hden e)
  rw [← div_lt_iff₀ (by positivity), ← scale_div, div_lt_iff₀ hscale]
  exact_mod_cast Iff.rfl

/-- At the exponent of a quotient its significand has 53 bits, unless that exponent is the smallest. -/
theorem exists_exponentFor (hnum : 0 < num) (hden : 0 < den) :
    ∃ e : ℤ, exponentFor num den = max (-1074) e ∧
      2 ^ 52 * 2 ^ e ≤ (num / den : ℚ) ∧ (num / den : ℚ) < 2 ^ 53 * 2 ^ e := by
  obtain ⟨hlower, hupper⟩ := log2_bounds hnum hden
  set guess : ℤ := (num.log2 : ℤ) - den.log2 - 52 with hguess
  have hexponent : exponentFor num den =
      max (-1074) (if (num / den : ℚ) < 2 ^ 52 * 2 ^ guess then guess - 1 else guess) := by
    have hscaled := scale_lt_iff num hden (Nat.pow 2 52) guess
    rw [Nat.pow_eq, Nat.cast_pow, Nat.cast_ofNat] at hscaled
    simp only [exponentFor, Nat.pow_eq, ← hscaled]
    rfl
  rw [hexponent]
  split
  · refine ⟨guess - 1, rfl, ?_, ?_⟩
    · rw [zpow_sub_one₀ two_ne_zero]
      linarith
    · rw [zpow_sub_one₀ two_ne_zero]
      linarith
  · rename_i hless
    exact ⟨guess, rfl, not_lt.mp hless, hupper⟩

/-! ## The nearest double -/

theorem nearest_pos (hnum : 0 < num) :
    nearest num den =
      ⟨roundQuotient (scale num den (exponentFor num den)).1 (scale num den (exponentFor num den)).2,
        exponentFor num den⟩ := by
  rw [nearest, if_neg hnum.ne']

theorem abs_significand_sub_le (hnum : 0 < num) (hden : 0 < den) :
    |((nearest num den).significand : ℚ) - num / den / 2 ^ (nearest num den).exponent| ≤ 1 / 2 := by
  rw [nearest_pos hnum, ← scale_div]
  exact abs_roundQuotient_sub_le (scale_pos hden _)

theorem abs_value_sub (x : Magnitude) (q : ℚ) :
    |x.value - q| = |(x.significand : ℚ) - q / 2 ^ x.exponent| * 2 ^ x.exponent := by
  have hulp : (0 : ℚ) < 2 ^ x.exponent := by positivity
  rw [value, ← abs_of_pos hulp, ← abs_mul, abs_of_pos hulp, sub_mul, div_mul_cancel₀ _ hulp.ne']

theorem isDouble_of_close (hexponent : -1074 ≤ x.exponent) (hupper : q ≤ 2 ^ 53 * 2 ^ x.exponent)
    (hclose : |(x.significand : ℚ) - q / 2 ^ x.exponent| ≤ 1 / 2) : x.IsDouble := by
  have hscaled : q / 2 ^ x.exponent ≤ 2 ^ 53 := (div_le_iff₀ (by positivity)).mpr hupper
  have hless : (x.significand : ℚ) < 2 ^ 53 + 1 := by
    linarith [(abs_le.mp hclose).2]
  exact ⟨Nat.lt_succ_iff.mp (by exact_mod_cast hless), hexponent⟩

theorem isDouble_nearest (hden : 0 < den) : (nearest num den).IsDouble := by
  rcases Nat.eq_zero_or_pos num with rfl | hnum
  · exact ⟨Nat.zero_le _, (by decide : (-1074 : ℤ) ≤ 0)⟩
  obtain ⟨e, hexponent, -, hupper⟩ := exists_exponentFor hnum hden
  have hsame : (nearest num den).exponent = max (-1074) e := by rw [nearest_pos hnum, hexponent]
  refine isDouble_of_close ?_ ?_ (abs_significand_sub_le hnum hden)
  · rw [hsame]
    exact le_max_left _ _
  · calc (num / den : ℚ) ≤ 2 ^ 53 * 2 ^ e := hupper.le
      _ ≤ 2 ^ 53 * 2 ^ (nearest num den).exponent := by
          gcongr
          · norm_num
          · rw [hsame]
            exact le_max_right _ _

theorem abs_value_nearest_sub_le (hnum : 0 < num) (hden : 0 < den)
    (hexponent : y.exponent = (nearest num den).exponent) :
    |(nearest num den).value - num / den| ≤ |y.value - num / den| := by
  rw [abs_value_sub, abs_value_sub, hexponent]
  refine mul_le_mul_of_nonneg_right ?_ (by positivity)
  exact abs_sub_le_abs_sub (abs_significand_sub_le hnum hden) y.significand

theorem exists_value_eq {e : ℤ} (he : e ≤ y.exponent) :
    ∃ z : Magnitude, z.exponent = e ∧ z.value = y.value := by
  refine ⟨⟨y.significand * 2 ^ (y.exponent - e).toNat, e⟩, rfl, ?_⟩
  have hshift : (2 : ℚ) ^ (y.exponent - e).toNat * 2 ^ e = 2 ^ y.exponent := by
    rw [← zpow_natCast, ← zpow_add₀ two_ne_zero]
    congr 1
    omega
  simp only [value, Nat.cast_mul, Nat.cast_pow, Nat.cast_ofNat]
  rw [mul_assoc, hshift]

theorem IsDouble.value_le {e : ℤ} (hy : y.IsDouble) (hlt : y.exponent < e) :
    y.value ≤ 2 ^ 52 * 2 ^ e := by
  calc y.value ≤ 2 ^ 53 * 2 ^ (e - 1) := by
        unfold value
        gcongr
        · exact_mod_cast hy.1
        · norm_num
        · omega
    _ = 2 ^ 52 * 2 ^ e := by
        rw [zpow_sub_one₀ two_ne_zero]
        ring

theorem rounds_nearest (num : Nat) (hden : 0 < den) : Rounds (num / den) (nearest num den) := by
  refine ⟨isDouble_nearest hden, fun y hy => ?_⟩
  rcases Nat.eq_zero_or_pos num with rfl | hnum
  · have hzero : (nearest 0 den).value = 0 := by simp [nearest, value]
    rw [hzero]
    simp
  obtain ⟨e, hexponent, hlower, -⟩ := exists_exponentFor hnum hden
  have hsame : (nearest num den).exponent = max (-1074) e := by rw [nearest_pos hnum, hexponent]
  by_cases hcoarse : (nearest num den).exponent ≤ y.exponent
  · obtain ⟨z, hz, hvalue⟩ := exists_value_eq hcoarse
    rw [← hvalue]
    exact abs_value_nearest_sub_le hnum hden hz
  -- With a smaller exponent, no number lies beyond the least one of the quotient's own binade.
  · have hbinade : (nearest num den).exponent = e := by
      have := hy.2
      omega
    have hbelow : y.value ≤ 2 ^ 52 * 2 ^ e := hy.value_le (by omega)
    have hbound : (⟨2 ^ 52, e⟩ : Magnitude).value = 2 ^ 52 * 2 ^ e := by
      simp only [value, Nat.cast_pow, Nat.cast_ofNat]
    have hnear := abs_value_nearest_sub_le (y := ⟨2 ^ 52, e⟩) hnum hden hbinade.symm
    rw [hbound] at hnear
    calc |(nearest num den).value - num / den|
        ≤ |(2 ^ 52 * 2 ^ e : ℚ) - num / den| := hnear
      _ = (num / den : ℚ) - 2 ^ 52 * 2 ^ e := by
          rw [abs_sub_comm]
          exact abs_of_nonneg (sub_nonneg.mpr hlower)
      _ ≤ num / den - y.value := sub_le_sub_left hbelow _
      _ ≤ |y.value - num / den| := by
          rw [abs_sub_comm]
          exact le_abs_self _

/-! ## What rounding keeps -/

theorem Rounds.mono (hx : Rounds p x) (hy : Rounds q y) (hpq : p < q) : x.value ≤ y.value := by
  by_contra! hlt
  have hp := hx.nearest y hy.isDouble
  have hq := hy.nearest x hx.isDouble
  rw [← sq_le_sq] at hp hq
  nlinarith [mul_pos (sub_pos.mpr hlt) (sub_pos.mpr hpq)]

theorem Rounds.value_eq (hx : Rounds y.value x) (hy : y.IsDouble) : x.value = y.value := by
  have hnear := hx.nearest y hy
  rw [sub_self, abs_zero] at hnear
  exact sub_eq_zero.mp (abs_nonpos_iff.mp hnear)

theorem nearest_mono {num' : Nat} (hden : 0 < den) (hle : num ≤ num') :
    (nearest num den).value ≤ (nearest num' den).value := by
  rcases hle.eq_or_lt with rfl | hlt
  · exact le_rfl
  · refine (rounds_nearest num hden).mono (rounds_nearest num' hden) ?_
    gcongr

theorem value_nearest_mul {n : Nat} (hden : 0 < den) (hn : n ≤ 2 ^ 53) :
    (nearest (n * den) den).value = n := by
  have hvalue : (⟨n, 0⟩ : Magnitude).value = n := by simp [value]
  have hquotient : ((n * den : Nat) / den : ℚ) = (⟨n, 0⟩ : Magnitude).value := by
    rw [hvalue, Nat.cast_mul, mul_div_cancel_right₀ _ (Nat.cast_ne_zero.mpr hden.ne')]
  have hrounds := rounds_nearest (n * den) hden
  rw [hquotient] at hrounds
  rw [hrounds.value_eq ⟨hn, (by decide : (-1074 : ℤ) ≤ 0)⟩, hvalue]

/-- Rounding moves a quotient by at most half the distance between doubles of its size. -/
theorem abs_nearest_sub_le {e : ℤ} (hden : 0 < den) (he : -1074 ≤ e)
    (hupper : (num / den : ℚ) ≤ 2 ^ 53 * 2 ^ e) :
    |(nearest num den).value - num / den| ≤ 2 ^ e / 2 := by
  set y : Magnitude := ⟨roundQuotient (scale num den e).1 (scale num den e).2, e⟩ with hy
  have hclose : |(y.significand : ℚ) - num / den / 2 ^ y.exponent| ≤ 1 / 2 := by
    rw [← scale_div]
    exact abs_roundQuotient_sub_le (scale_pos hden e)
  calc |(nearest num den).value - num / den|
      ≤ |y.value - num / den| :=
        (rounds_nearest num hden).nearest y (isDouble_of_close he hupper hclose)
    _ = |(y.significand : ℚ) - num / den / 2 ^ y.exponent| * 2 ^ e := abs_value_sub y _
    _ ≤ 1 / 2 * 2 ^ e := by gcongr
    _ = 2 ^ e / 2 := by ring

/-! ## The whole part -/

theorem truncate_eq_floor (x : Magnitude) : x.truncate = ⌊x.value⌋₊ := by
  unfold truncate value
  split
  · rename_i he
    obtain ⟨k, hk⟩ := Int.eq_ofNat_of_zero_le he
    rw [hk]
    simp only [Int.toNat_natCast, zpow_natCast, Nat.pow_eq]
    exact_mod_cast (Nat.floor_natCast (R := ℚ) (x.significand * 2 ^ k)).symm
  · rename_i he
    obtain ⟨k, hk⟩ := Int.eq_ofNat_of_zero_le (by omega : 0 ≤ -x.exponent)
    have hexponent : x.exponent = -(k : ℤ) := by omega
    rw [hexponent, zpow_neg, zpow_natCast, ← div_eq_mul_inv]
    simp only [neg_neg, Int.toNat_natCast, Nat.pow_eq]
    have hfloor := Nat.floor_div_natCast (x.significand : ℚ) (2 ^ k)
    rw [Nat.floor_natCast, Nat.cast_pow, Nat.cast_ofNat] at hfloor
    exact hfloor.symm

end Revalidation.Magnitude
