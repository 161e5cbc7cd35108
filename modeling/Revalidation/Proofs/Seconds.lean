import Revalidation.CacheControl.Parser
import Revalidation.Proofs.Numerals

/-!
# Numbers of seconds

An argument stands for a number of seconds exactly if it is a numeral of a number that is not negative.
A number beyond the largest that is kept is taken for that one.
-/

namespace Revalidation.CacheControl

open Integer

variable {text : String} {m n : Nat}

theorem parseSeconds_eq_some_iff :
    parseSeconds text = some m ↔ ∃ n : Nat, Numeral text.toList n ∧ m = min n 2147483647 := by
  unfold parseSeconds
  constructor
  · intro hparse
    split at hparse
    · rename_i value hread
      split at hparse
      · rename_i hvalue
        obtain ⟨n, rfl⟩ := Int.eq_ofNat_of_zero_le hvalue
        cases hparse
        exact ⟨n, read_eq_ok_iff.mp hread, rfl⟩
      · cases hparse
    · cases hparse
  · rintro ⟨n, hnumeral, rfl⟩
    rw [read_eq_ok_iff.mpr hnumeral]
    rfl

theorem parseSeconds_le (hparse : parseSeconds text = some m) : m ≤ maxSeconds := by
  obtain ⟨n, -, rfl⟩ := parseSeconds_eq_some_iff.mp hparse
  exact Nat.min_le_right _ _

theorem parseSeconds_toString (hlength : (toString n).length ≤ 4300) :
    parseSeconds (toString n) = some (min n 2147483647) :=
  parseSeconds_eq_some_iff.mpr ⟨n, read_eq_ok_iff.mp (read_toString hlength), rfl⟩

theorem parseSeconds_eq_none_iff :
    parseSeconds text = none ↔ ∀ n : Nat, ¬Numeral text.toList n := by
  rw [Option.eq_none_iff_forall_ne_some]
  constructor
  · intro hnone n hnumeral
    exact hnone _ (parseSeconds_eq_some_iff.mpr ⟨n, hnumeral, rfl⟩)
  · intro hnumeral m hparse
    obtain ⟨n, hn, -⟩ := parseSeconds_eq_some_iff.mp hparse
    exact hnumeral n hn

/-- The seconds of an argument are those of its numeral, up to the largest number that is kept, and an
argument that is no numeral, or one of a negative number, has none.  Hence the text of every number has its
seconds, also with zeros before it and in the digits of any script, as long as it has at most 4300
digits. -/
theorem parseSeconds_numeral :
    (∀ text : String,
      (∀ m, parseSeconds text = some m ↔ ∃ n : Nat, Numeral text.toList n ∧ m = min n 2147483647) ∧
      (parseSeconds text = none ↔ ∀ n : Nat, ¬Numeral text.toList n)) ∧
    ∀ n : Nat,
      ((toString n).length ≤ 4300 → parseSeconds (toString n) = some (min n 2147483647)) ∧
      ∀ k, ∀ first ∈ Text.digitZeros, k + (toString n).length ≤ 4300 →
        parseSeconds (String.ofList
          ((List.replicate k '0' ++ (toString n).toList).map (Text.inScript first))) =
            some (min n 2147483647) := by
  refine ⟨fun text => ⟨fun m => parseSeconds_eq_some_iff, parseSeconds_eq_none_iff⟩, ?_⟩
  refine fun n => ⟨parseSeconds_toString, fun k first hfirst hlength => ?_⟩
  refine parseSeconds_eq_some_iff.mpr ⟨n, ?_, rfl⟩
  rw [String.toList_ofList, toList_toString]
  apply numeral_padded hfirst
  rwa [← toList_toString]

theorem parseSeconds_numeral_arabic :
    (toString 60).length ≤ 4300 ∧ parseSeconds "60" = some 60 ∧ 0x0660 ∈ Text.digitZeros ∧
      2 + (toString 60).length ≤ 4300 ∧ parseSeconds "٠٠٦٠" = some 60 := by
  obtain ⟨hplain, hscripts⟩ := parseSeconds_numeral.2 60
  have hlength : 2 + (toString 60).length ≤ 4300 := by decide
  exact ⟨by decide, hplain (by decide), by decide, hlength, hscripts 2 0x0660 (by decide) hlength⟩

end Revalidation.CacheControl
