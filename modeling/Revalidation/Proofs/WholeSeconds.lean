import Mathlib.Data.Int.Order.Basic
import Revalidation.Duration
import Revalidation.Proofs.Rounding

/-!
# Spans in whole seconds

The fraction of a second is dropped only after rounding.  Rounding can take a span to the next second,
but not past it, and not where doubles lie close enough together to tell the last microsecond of a
second from the next second.
-/

namespace Revalidation

open Magnitude

def wholeSeconds (n : Nat) : Nat := (nearest n 1000000).truncate

variable {m n : Nat}

/-! ## Microseconds -/

theorem wholeSeconds_eq_floor (n : Nat) : wholeSeconds n = ⌊(nearest n 1000000).value⌋₊ :=
  truncate_eq_floor _

theorem wholeSeconds_mono (hle : m ≤ n) : wholeSeconds m ≤ wholeSeconds n := by
  rw [wholeSeconds_eq_floor, wholeSeconds_eq_floor]
  exact Nat.floor_le_floor (nearest_mono (by omega) hle)

theorem wholeSeconds_mul (hn : n ≤ 2 ^ 53) : wholeSeconds (n * 1000000) = n := by
  rw [wholeSeconds_eq_floor, value_nearest_mul (by omega) hn, Nat.floor_natCast]

/-- Two whole numbers of seconds with a span between them have its whole seconds between them. -/
theorem wholeSeconds_bounds (hn : n < 2 ^ 53 * 1000000) :
    n / 1000000 ≤ wholeSeconds n ∧ wholeSeconds n ≤ n / 1000000 + 1 := by
  have hquotient : n / 1000000 < 2 ^ 53 := by omega
  constructor
  · calc n / 1000000 = wholeSeconds (n / 1000000 * 1000000) := (wholeSeconds_mul hquotient.le).symm
      _ ≤ wholeSeconds n := wholeSeconds_mono (Nat.div_mul_le_self n 1000000)
  · calc wholeSeconds n ≤ wholeSeconds ((n / 1000000 + 1) * 1000000) := wholeSeconds_mono (by omega)
      _ = n / 1000000 + 1 := wholeSeconds_mul hquotient

/-- Doubles below `2 ^ 34` are at most `2 ^ -19` apart, and half of that is less than a microsecond. -/
theorem value_nearest_lt (hn : n < 2 ^ 34 * 1000000) :
    (nearest n 1000000).value < (n + 1) / 1000000 := by
  have hupper : (n / (1000000 : Nat) : ℚ) ≤ 2 ^ 53 * 2 ^ (-19 : ℤ) := by
    have hn' : (n : ℚ) < 2 ^ 34 * 1000000 := by exact_mod_cast hn
    rw [div_le_iff₀ (by norm_num)]
    norm_num at hn' ⊢
    linarith
  have hclose := (abs_le.mp (abs_nearest_sub_le (by omega) (by omega) hupper)).2
  norm_num at hclose
  linarith

theorem wholeSeconds_exact (hn : n < 2 ^ 34 * 1000000) : wholeSeconds n = n / 1000000 := by
  have hlower := (wholeSeconds_bounds (by omega : n < 2 ^ 53 * 1000000)).1
  have hnext : (n + 1 : ℚ) / 1000000 ≤ (n / 1000000 + 1 : Nat) := by
    have hle : n + 1 ≤ (n / 1000000 + 1) * 1000000 := by omega
    rw [div_le_iff₀ (by norm_num)]
    exact_mod_cast hle
  have hupper : wholeSeconds n < n / 1000000 + 1 := by
    rw [wholeSeconds_eq_floor, Nat.floor_lt' (by omega)]
    exact (value_nearest_lt hn).trans_le hnext
  omega

/-! ## Spans -/

namespace Span

variable {a b span : Span}

theorem toSeconds_of_nonneg (hspan : 0 ≤ span.microseconds) :
    span.toSeconds = wholeSeconds span.microseconds.natAbs := by
  rw [toSeconds, if_neg (by omega)]
  rfl

theorem toSeconds_of_nonpos (hspan : span.microseconds ≤ 0) :
    span.toSeconds = -wholeSeconds span.microseconds.natAbs := by
  by_cases hzero : span.microseconds = 0
  · have hnone : wholeSeconds 0 = 0 := wholeSeconds_mul (by omega : 0 ≤ 2 ^ 53)
    rw [toSeconds_of_nonneg hzero.ge, hzero, Int.natAbs_zero, hnone]
    rfl
  · rw [toSeconds, if_pos (by omega)]
    rfl

theorem toSeconds_mono (hle : a.microseconds ≤ b.microseconds) : a.toSeconds ≤ b.toSeconds := by
  rcases le_total 0 a.microseconds with ha | ha
  · rw [toSeconds_of_nonneg ha, toSeconds_of_nonneg (ha.trans hle)]
    exact_mod_cast wholeSeconds_mono (by omega)
  rcases le_total 0 b.microseconds with hb | hb
  · rw [toSeconds_of_nonpos ha, toSeconds_of_nonneg hb]
    omega
  · have hmono := wholeSeconds_mono (by omega : b.microseconds.natAbs ≤ a.microseconds.natAbs)
    rw [toSeconds_of_nonpos ha, toSeconds_of_nonpos hb]
    omega

theorem toSeconds_neg (hneg : b.microseconds = -a.microseconds) : b.toSeconds = -a.toSeconds := by
  have hsize : b.microseconds.natAbs = a.microseconds.natAbs := by omega
  rcases le_total 0 a.microseconds with ha | ha
  · rw [toSeconds_of_nonpos (by omega : b.microseconds ≤ 0), toSeconds_of_nonneg ha, hsize]
  · rw [toSeconds_of_nonneg (by omega : 0 ≤ b.microseconds), toSeconds_of_nonpos ha, hsize, neg_neg]

theorem tdiv_of_nonneg {t : Int} (ht : 0 ≤ t) : t.tdiv 1000000 = (t.natAbs / 1000000 : Nat) := by
  obtain ⟨k, rfl⟩ := Int.eq_ofNat_of_zero_le ht
  rfl

theorem tdiv_of_nonpos {t : Int} (ht : t ≤ 0) : t.tdiv 1000000 = -(t.natAbs / 1000000 : Nat) := by
  rw [← Int.natAbs_neg, ← tdiv_of_nonneg (by omega : 0 ≤ -t), Int.neg_tdiv, neg_neg]

theorem natAbs_microseconds_lt (span : Span) : span.microseconds.natAbs < 2 ^ 53 * 1000000 := by
  have hlower := span.lower_le
  have hupper := span.lt_upper
  omega

theorem toSeconds_cases (span : Span) :
    span.toSeconds = span.microseconds.tdiv 1000000 ∨
      span.toSeconds = span.microseconds.tdiv 1000000 + span.microseconds.sign := by
  obtain ⟨hlower, hupper⟩ := wholeSeconds_bounds span.natAbs_microseconds_lt
  rcases lt_trichotomy span.microseconds 0 with hneg | hzero | hpos
  · rw [toSeconds_of_nonpos hneg.le, tdiv_of_nonpos hneg.le, Int.sign_eq_neg_one_of_neg hneg]
    omega
  · left
    rw [toSeconds_of_nonneg hzero.ge, hzero, Int.natAbs_zero, wholeSeconds_exact (by omega)]
    rfl
  · rw [toSeconds_of_nonneg hpos.le, tdiv_of_nonneg hpos.le, Int.sign_eq_one_of_pos hpos]
    omega

theorem toSeconds_exact (hshort : |span.microseconds| < 2 ^ 34 * 1000000) :
    span.toSeconds = span.microseconds.tdiv 1000000 := by
  rw [Int.abs_eq_natAbs] at hshort
  have hexact := wholeSeconds_exact (by omega : span.microseconds.natAbs < 2 ^ 34 * 1000000)
  rcases le_total 0 span.microseconds with hspan | hspan
  · rw [toSeconds_of_nonneg hspan, tdiv_of_nonneg hspan, hexact]
  · rw [toSeconds_of_nonpos hspan, tdiv_of_nonpos hspan, hexact]

/-- Spans become whole seconds in their order and alike on both sides of zero: the seconds truncated
toward zero, or the next whole number away from it.  Spans of less than `2 ^ 34` seconds are truncated, and
the first span that is not lies in the second after that. -/
theorem toSeconds_truncates :
    (∀ a b : Span, a.microseconds ≤ b.microseconds → a.toSeconds ≤ b.toSeconds) ∧
    (∀ a b : Span, b.microseconds = -a.microseconds → b.toSeconds = -a.toSeconds) ∧
    (∀ span : Span, let t := span.microseconds
      (Duration.span span).toSeconds = .ok span.toSeconds ∧
      (span.toSeconds = t.tdiv 1000000 ∨ span.toSeconds = t.tdiv 1000000 + t.sign) ∧
      (|t| < 2 ^ 34 * 1000000 → span.toSeconds = t.tdiv 1000000)) ∧
    ∃ span : Span, |span.microseconds| < (2 ^ 34 + 1) * 1000000 ∧
      span.toSeconds ≠ span.microseconds.tdiv 1000000 := by
  refine ⟨fun a b => toSeconds_mono, fun a b => toSeconds_neg, fun span => ?_, ?_⟩
  · exact ⟨rfl, span.toSeconds_cases, toSeconds_exact⟩
  · exact ⟨⟨17179869184999999, by decide, by decide⟩, by decide, by decide⟩

theorem toSeconds_truncates_last_microsecond :
    let span : Span := ⟨17179869183999999, by decide, by decide⟩
    let opposite : Span := ⟨-17179869183999999, by decide, by decide⟩
    |span.microseconds| < 2 ^ 34 * 1000000 ∧ span.toSeconds = 17179869183 ∧
      opposite.microseconds ≤ span.microseconds ∧ opposite.toSeconds ≤ span.toSeconds ∧
      opposite.microseconds = -span.microseconds ∧ opposite.toSeconds = -17179869183 := by
  intro span opposite
  have hshort : |span.microseconds| < 2 ^ 34 * 1000000 := by decide
  have hle : opposite.microseconds ≤ span.microseconds := by decide
  have hneg : opposite.microseconds = -span.microseconds := by decide
  obtain ⟨hmono, hodd, htruncates, -⟩ := toSeconds_truncates
  have hseconds : span.toSeconds = 17179869183 := (htruncates span).2.2 hshort
  refine ⟨hshort, hseconds, hle, hmono _ _ hle, hneg, ?_⟩
  rw [hodd span opposite hneg, hseconds]

end Span
end Revalidation
