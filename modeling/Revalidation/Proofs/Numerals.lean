import Mathlib.Data.List.Forall2
import Mathlib.Data.List.TakeWhile
import Mathlib.Data.Nat.Digits.Defs
import Revalidation.Number.Integer

/-!
# Numerals

A numeral is an optional sign and decimal digits of any scripts, with at most a single low line between
two of them, and blanks on both sides of the whole.  The numerals of up to 4300 digits are the texts that
are read as integers, each as the integer that it stands for.
-/

namespace Revalidation

namespace Text

def IsDigit (c : Char) (d : Nat) : Prop := d < 10 ∧ ∃ first ∈ digitZeros, c.toNat = first + d

def inScript (first : Nat) (c : Char) : Char := Char.ofNat (first + (c.toNat - '0'.toNat))

variable {c other : Char} {d first : Nat}

/-! ## Digits -/

theorem digitZeros_apart : ∀ first ∈ digitZeros, ∀ other ∈ digitZeros,
    first = other ∨ first + 10 ≤ other ∨ other + 10 ≤ first := by
  decide +kernel

theorem toNat_ofNat_digit : ∀ first ∈ digitZeros, ∀ d < 10, (Char.ofNat (first + d)).toNat = first + d := by
  decide +kernel

theorem isBlank_digit : ∀ first ∈ digitZeros, ∀ d < 10, isBlank (Char.ofNat (first + d)) = false := by
  decide +kernel

theorem find?_digitZeros_eq_some_iff {n : Nat} :
    (digitZeros.find? fun first => first ≤ n && n < first + 10) = some first ↔
      first ∈ digitZeros ∧ first ≤ n ∧ n < first + 10 := by
  have hholds (found : Nat) : (found ≤ n && n < found + 10) = true ↔ found ≤ n ∧ n < found + 10 := by
    rw [Bool.and_eq_true, decide_eq_true_eq, decide_eq_true_eq]
  constructor
  · intro hfind
    have hrange := List.find?_some hfind
    exact ⟨List.mem_of_find?_eq_some hfind, (hholds first).mp hrange⟩
  · rintro ⟨hfirst, hrange⟩
    cases hfind : digitZeros.find? fun first => first ≤ n && n < first + 10 with
    | none =>
        exact absurd ((hholds first).mpr hrange) (List.find?_eq_none.mp hfind first hfirst)
    | some found =>
        have hrange' := List.find?_some hfind
        have hfound := (hholds found).mp hrange'
        have hapart := digitZeros_apart found (List.mem_of_find?_eq_some hfind) first hfirst
        rw [Option.some.injEq]
        omega

theorem digitValue?_eq_some_iff : digitValue? c = some d ↔ IsDigit c d := by
  rw [digitValue?, Option.map_eq_some_iff]
  constructor
  · rintro ⟨first, hfind, rfl⟩
    obtain ⟨hfirst, hrange⟩ := find?_digitZeros_eq_some_iff.mp hfind
    exact ⟨by omega, first, hfirst, by omega⟩
  · rintro ⟨hd, first, hfirst, hc⟩
    exact ⟨first, find?_digitZeros_eq_some_iff.mpr ⟨hfirst, by omega⟩, by omega⟩

theorem IsDigit.isBlank (hdigit : IsDigit c d) : isBlank c = false := by
  obtain ⟨hd, first, hfirst, hc⟩ := hdigit
  rw [← Char.ofNat_toNat c, hc]
  exact isBlank_digit first hfirst d hd

theorem IsDigit.ne (hdigit : IsDigit c d) (hother : digitValue? other = none) : c ≠ other := by
  rintro rfl
  rw [digitValue?_eq_some_iff.mpr hdigit] at hother
  cases hother

theorem isDigit_inScript (hfirst : first ∈ digitZeros) (hc : c.isDigit = true) :
    IsDigit (inScript first c) (c.toNat - 48) := by
  obtain ⟨hlower, hupper⟩ : 48 ≤ c.toNat ∧ c.toNat ≤ 57 := Char.isDigit_iff_toNat.mp hc
  have hd : c.toNat - 48 < 10 := by omega
  exact ⟨hd, first, hfirst, toNat_ofNat_digit first hfirst _ hd⟩

theorem inScript_ascii (hc : c.isDigit = true) : inScript 48 c = c := by
  obtain ⟨hlower, hupper⟩ : 48 ≤ c.toNat ∧ c.toNat ≤ 57 := Char.isDigit_iff_toNat.mp hc
  have hsame : 48 + (c.toNat - 48) = c.toNat := by omega
  show Char.ofNat (48 + (c.toNat - 48)) = c
  rw [hsame, Char.ofNat_toNat]

end Text

namespace Integer

open Text

/-- A run of digits with these values, the most significant first, with at most a single low line between
two of them. -/
inductive WritesDigits : List Char → List Nat → Prop where
  | last {c d} : IsDigit c d → WritesDigits [c] [d]
  | next {c d run ds} : IsDigit c d → WritesDigits run ds → WritesDigits (c :: run) (d :: ds)
  | spaced {c d run ds} : IsDigit c d → WritesDigits run ds → WritesDigits (c :: '_' :: run) (d :: ds)

inductive WritesSign : List Char → Bool → Prop where
  | missing : WritesSign [] false
  | plus : WritesSign ['+'] false
  | minus : WritesSign ['-'] true

def signed (negative : Bool) (m : Nat) : Int := if negative then -(m : Int) else m

def Numeral (text : List Char) (n : Int) : Prop :=
  ∃ before sign run after negative ds,
    text = before ++ (sign ++ (run ++ after)) ∧ (∀ c ∈ before, isBlank c = true) ∧
      WritesSign sign negative ∧ WritesDigits run ds ∧ ds.length ≤ 4300 ∧
      (∀ c ∈ after, isBlank c = true) ∧ n = signed negative (Nat.ofDigits 10 ds.reverse)

variable {c : Char} {d m : Nat} {n : Int} {text run after sign : List Char} {ds : List Nat} {negative : Bool}

theorem ofDigits_eq (ds : List Nat) : ofDigits ds = Nat.ofDigits 10 ds.reverse := by
  rw [ofDigits, Nat.ofDigits_eq_foldr, List.foldr_reverse]
  simp only [Nat.cast_id, Nat.add_comm]

/-! ## Runs of digits -/

theorem isDigitOrBreak_iff : isDigitOrBreak c = true ↔ c = '_' ∨ ∃ d, IsDigit c d := by
  simp only [isDigitOrBreak, Bool.or_eq_true, Option.isSome_iff_exists, digitValue?_eq_some_iff, beq_iff_eq]
  exact or_comm

theorem isDigitOrBreak_of_isBlank (hblank : isBlank c = true) : isDigitOrBreak c = false := by
  rw [← Bool.not_eq_true, isDigitOrBreak_iff]
  rintro (rfl | ⟨d, hdigit⟩)
  · cases hblank
  · rw [hdigit.isBlank] at hblank
    cases hblank

theorem digitValue?_break : digitValue? '_' = none := by decide

theorem wellSpacedFrom_digit (hdigit : IsDigit c d) (afterDigit : Bool) (run : List Char) :
    wellSpacedFrom afterDigit (c :: run) = wellSpacedFrom true run := by
  rw [wellSpacedFrom, if_neg (hdigit.ne digitValue?_break)]

theorem filterMap_digit (hdigit : IsDigit c d) (run : List Char) :
    (c :: run).filterMap digitValue? = d :: run.filterMap digitValue? :=
  List.filterMap_cons_some (digitValue?_eq_some_iff.mpr hdigit)

theorem isDigitOrBreak_of_isDigit (hdigit : IsDigit c d) : isDigitOrBreak c = true :=
  isDigitOrBreak_iff.mpr (.inr ⟨d, hdigit⟩)

theorem WritesDigits.digitsOrBreaks (hrun : WritesDigits run ds) :
    ∀ c ∈ run, isDigitOrBreak c = true := by
  induction hrun with
  | last hdigit =>
      rw [List.forall_mem_singleton]
      exact isDigitOrBreak_of_isDigit hdigit
  | next hdigit _ ih =>
      rw [List.forall_mem_cons]
      exact ⟨isDigitOrBreak_of_isDigit hdigit, ih⟩
  | spaced hdigit _ ih =>
      rw [List.forall_mem_cons, List.forall_mem_cons]
      exact ⟨isDigitOrBreak_of_isDigit hdigit, isDigitOrBreak_iff.mpr (.inl rfl), ih⟩

theorem WritesDigits.filterMap (hrun : WritesDigits run ds) : run.filterMap digitValue? = ds := by
  induction hrun with
  | last hdigit => rw [filterMap_digit hdigit, List.filterMap_nil]
  | next hdigit _ ih => rw [filterMap_digit hdigit, ih]
  | spaced hdigit _ ih => rw [filterMap_digit hdigit, List.filterMap_cons_none digitValue?_break, ih]

theorem WritesDigits.wellSpaced (hrun : WritesDigits run ds) : wellSpaced run = true := by
  suffices hafter : ∀ afterDigit, wellSpacedFrom afterDigit run = true from hafter false
  induction hrun with
  | last hdigit =>
      intro afterDigit
      rw [wellSpacedFrom_digit hdigit, wellSpacedFrom]
  | next hdigit _ ih =>
      intro afterDigit
      rw [wellSpacedFrom_digit hdigit, ih]
  | spaced hdigit _ ih =>
      intro afterDigit
      rw [wellSpacedFrom_digit hdigit, wellSpacedFrom, if_pos rfl, ih]
      rfl

/-- Both states of the check are followed at once: after a digit, what is left has to go on with it. -/
theorem writesDigits_of_wellSpacedFrom (hrun : ∀ c ∈ run, isDigitOrBreak c = true) :
    (wellSpacedFrom false run = true → WritesDigits run (run.filterMap digitValue?)) ∧
      ∀ c d, IsDigit c d → wellSpacedFrom true run = true →
        WritesDigits (c :: run) (d :: run.filterMap digitValue?) := by
  induction run with
  | nil =>
      constructor
      · intro hspaced
        cases hspaced
      · intro c d hdigit _
        exact .last hdigit
  | cons next run ih =>
      rw [List.forall_mem_cons, isDigitOrBreak_iff] at hrun
      obtain ⟨hfirst, hlater⟩ := ih hrun.2
      obtain rfl | ⟨value, hnext⟩ := hrun.1
      · rw [List.filterMap_cons_none digitValue?_break]
        constructor
        · intro hspaced
          cases hspaced
        · intro c d hdigit hspaced
          rw [wellSpacedFrom, if_pos rfl, Bool.true_and] at hspaced
          exact .spaced hdigit (hfirst hspaced)
      · rw [filterMap_digit hnext]
        constructor
        · intro hspaced
          rw [wellSpacedFrom_digit hnext] at hspaced
          exact hlater next value hnext hspaced
        · intro c d hdigit hspaced
          rw [wellSpacedFrom_digit hnext] at hspaced
          exact .next hdigit (hlater next value hnext hspaced)

/-! ## Reading -/

theorem takeWhile_run (hrun : WritesDigits run ds) (hafter : ∀ c ∈ after, isBlank c = true) :
    (run ++ after).takeWhile isDigitOrBreak = run ∧ (run ++ after).dropWhile isDigitOrBreak = after := by
  have hstop : after.takeWhile isDigitOrBreak = [] ∧ after.dropWhile isDigitOrBreak = after := by
    cases after with
    | nil => exact ⟨rfl, rfl⟩
    | cons c after =>
        have hc := isDigitOrBreak_of_isBlank (hafter c List.mem_cons_self)
        exact ⟨List.takeWhile_cons_of_neg (by simp [hc]), List.dropWhile_cons_of_neg (by simp [hc])⟩
  rw [List.takeWhile_append_of_pos hrun.digitsOrBreaks, List.dropWhile_append_of_pos hrun.digitsOrBreaks,
    hstop.1, hstop.2, List.append_nil]
  exact ⟨rfl, rfl⟩

theorem readMagnitude_eq_ok_iff : readMagnitude text = .ok m ↔
    ∃ run after ds, text = run ++ after ∧ WritesDigits run ds ∧ ds.length ≤ 4300 ∧
      (∀ c ∈ after, isBlank c = true) ∧ m = Nat.ofDigits 10 ds.reverse := by
  constructor
  · intro hread
    unfold readMagnitude at hread
    dsimp only at hread
    split at hread
    · cases hread
    split at hread
    · cases hread
    split at hread
    · rename_i hspaced hfew hblank
      have hrun : ∀ c ∈ text.takeWhile isDigitOrBreak, isDigitOrBreak c = true :=
        fun c hc => List.mem_takeWhile_imp hc
      rw [Bool.not_eq_true', Bool.not_eq_false] at hspaced
      have hdigits := (writesDigits_of_wellSpacedFrom hrun).1 hspaced
      cases hread
      exact ⟨_, _, _, List.takeWhile_append_dropWhile.symm, hdigits, Nat.le_of_not_lt hfew,
        List.all_eq_true.mp hblank, ofDigits_eq _⟩
    · cases hread
  · rintro ⟨run, after, ds, rfl, hrun, hfew, hafter, rfl⟩
    obtain ⟨htake, hdrop⟩ := takeWhile_run hrun hafter
    have hcount : ¬maxDigits < ds.length := Nat.not_lt.mpr hfew
    rw [readMagnitude, htake, hdrop, hrun.filterMap, List.all_eq_true.mpr hafter, hrun.wellSpaced,
      ofDigits_eq, if_neg hcount]
    rfl

theorem splitSign_append (hsign : WritesSign sign negative) (hrun : WritesDigits run ds)
    (after : List Char) : splitSign (sign ++ (run ++ after)) = (negative, run ++ after) := by
  cases hsign with
  | plus => rfl
  | minus => rfl
  | missing =>
      have hplain {c : Char} {d : Nat} (hdigit : IsDigit c d) (rest : List Char) :
          splitSign (c :: rest) = (false, c :: rest) := by
        unfold splitSign
        split
        · rename_i heq
          cases heq
          exact absurd rfl (hdigit.ne (by decide))
        · rename_i heq
          cases heq
          exact absurd rfl (hdigit.ne (by decide))
        · rfl
      cases hrun with
      | last hdigit => exact hplain hdigit _
      | next hdigit _ => exact hplain hdigit _
      | spaced hdigit _ => exact hplain hdigit _

theorem exists_sign (text : List Char) :
    ∃ sign, WritesSign sign (splitSign text).1 ∧ text = sign ++ (splitSign text).2 := by
  unfold splitSign
  split
  · exact ⟨_, .minus, rfl⟩
  · exact ⟨_, .plus, rfl⟩
  · exact ⟨_, .missing, rfl⟩

theorem dropWhile_isBlank {before : List Char} (hbefore : ∀ c ∈ before, isBlank c = true)
    (hsign : WritesSign sign negative) (hrun : WritesDigits run ds) (after : List Char) :
    (before ++ (sign ++ (run ++ after))).dropWhile isBlank = sign ++ (run ++ after) := by
  rw [List.dropWhile_append_of_pos hbefore]
  cases hsign with
  | plus => rfl
  | minus => rfl
  | missing =>
      cases hrun with
      | last hdigit => exact List.dropWhile_cons_of_neg (by simp [hdigit.isBlank])
      | next hdigit _ => exact List.dropWhile_cons_of_neg (by simp [hdigit.isBlank])
      | spaced hdigit _ => exact List.dropWhile_cons_of_neg (by simp [hdigit.isBlank])

/-- A text is read as an integer exactly if it is a numeral of that integer. -/
theorem read_eq_ok_iff {s : String} : read s = .ok n ↔ Numeral s.toList n := by
  constructor
  · intro hread
    obtain ⟨sign, hsign, hsplit⟩ := exists_sign (s.toList.dropWhile isBlank)
    cases hmagnitude : readMagnitude (splitSign (s.toList.dropWhile isBlank)).2 with
    | error cause =>
        simp only [read, hmagnitude] at hread
        cases hread
    | ok m =>
        simp only [read, hmagnitude] at hread
        cases hread
        obtain ⟨run, after, ds, htext, hrun, hfew, hafter, rfl⟩ := readMagnitude_eq_ok_iff.mp hmagnitude
        refine ⟨s.toList.takeWhile isBlank, sign, run, after, _, ds, ?_, ?_, hsign, hrun, hfew, hafter, rfl⟩
        · rw [← htext, ← hsplit, List.takeWhile_append_dropWhile]
        · exact fun c hc => List.mem_takeWhile_imp hc
  · rintro ⟨before, sign, run, after, negative, ds, htext, hbefore, hsign, hrun, hfew, hafter, rfl⟩
    have hmagnitude : readMagnitude (run ++ after) = .ok (Nat.ofDigits 10 ds.reverse) :=
      readMagnitude_eq_ok_iff.mpr ⟨run, after, ds, rfl, hrun, hfew, hafter, rfl⟩
    rw [read, htext, dropWhile_isBlank hbefore hsign hrun, splitSign_append hsign hrun]
    dsimp only
    rw [hmagnitude]
    rfl

/-! ## Plain numbers -/

theorem numeral_digits (hne : text ≠ []) (hdigits : List.Forall₂ IsDigit text ds)
    (hfew : ds.length ≤ 4300) : Numeral text (Nat.ofDigits 10 ds.reverse : Nat) := by
  have hrun : WritesDigits text ds := by
    induction hdigits with
    | nil => contradiction
    | cons hdigit hdigits ih =>
        cases hdigits with
        | nil => exact .last hdigit
        | cons => exact .next hdigit (ih (List.cons_ne_nil _ _) (Nat.le_of_succ_le hfew))
  refine ⟨[], [], text, [], false, ds, ?_, ?_, .missing, hrun, hfew, ?_, rfl⟩
  · rw [List.append_nil, List.nil_append, List.nil_append]
  · exact List.forall_mem_nil _
  · exact List.forall_mem_nil _

theorem ofDigits_padded (k n : Nat) :
    ofDigits ((List.replicate k '0' ++ Nat.toDigits 10 n).map (·.toNat - 48)) = n := by
  induction k with
  | zero =>
      rw [List.replicate_zero, List.nil_append, ofDigits, List.foldl_map]
      calc _ = Nat.ofDigitChars 10 (Nat.toDigits 10 n) 0 := Nat.ofDigitChars_eq_foldl.symm
        _ = n := Nat.ofDigitChars_ten_toDigits
  | succ k ih => exact ih

theorem isDigit_padded {k n : Nat} (hc : c ∈ List.replicate k '0' ++ Nat.toDigits 10 n) :
    c.isDigit = true := by
  rcases List.mem_append.mp hc with hzero | hdigit
  · rw [List.eq_of_mem_replicate hzero]
    rfl
  · exact Nat.isDigit_of_mem_toDigits (by omega) (by omega) hdigit

/-- The text of a number is one of its numerals, with zeros before it and in every script. -/
theorem numeral_padded {k n first : Nat} (hfirst : first ∈ digitZeros)
    (hlength : k + (Nat.toDigits 10 n).length ≤ 4300) :
    Numeral ((List.replicate k '0' ++ Nat.toDigits 10 n).map (inScript first)) n := by
  set digits := List.replicate k '0' ++ Nat.toDigits 10 n with hdigits
  have hvalues : List.Forall₂ IsDigit (digits.map (inScript first)) (digits.map (·.toNat - 48)) := by
    rw [List.forall₂_map_left_iff, List.forall₂_map_right_iff, List.forall₂_same]
    exact fun c hc => isDigit_inScript hfirst (isDigit_padded hc)
  have hne : digits.map (inScript first) ≠ [] := by
    rw [Ne, List.map_eq_nil_iff, List.append_eq_nil_iff]
    exact fun h => Nat.toDigits_ne_nil h.2
  have hfew : (digits.map (·.toNat - 48)).length ≤ 4300 := by
    rwa [List.length_map, List.length_append, List.length_replicate]
  have hnumeral := numeral_digits hne hvalues hfew
  rwa [← ofDigits_eq, ofDigits_padded] at hnumeral

theorem toList_toString (n : Nat) : (toString n).toList = Nat.toDigits 10 n := by
  rw [Nat.toString_eq_ofList_toDigits, String.toList_ofList]

theorem toList_toString_ofNat (k : Nat) : (toString (Int.ofNat k)).toList = Nat.toDigits 10 k :=
  toList_toString k

theorem toList_toString_negSucc (k : Nat) :
    (toString (Int.negSucc k)).toList = '-' :: Nat.toDigits 10 (k + 1) := by
  show ("-" ++ Nat.repr (k + 1)).toList = _
  rw [String.toList_append, Nat.toList_repr]
  rfl

/-- A number is read back from its text, unless that is too long. -/
theorem read_toString {n : Nat} (hlength : (toString n).toList.length ≤ maxDigits) :
    read (toString n) = .ok n := by
  have hplain : (Nat.toDigits 10 n).map (inScript 48) = Nat.toDigits 10 n :=
    (List.map_congr_left fun c hc =>
      inScript_ascii (Nat.isDigit_of_mem_toDigits (by omega) (by omega) hc)).trans (List.map_id _)
  have hnumeral : Numeral ((List.replicate 0 '0' ++ Nat.toDigits 10 n).map (inScript 48)) n := by
    apply numeral_padded (by decide)
    rwa [Nat.zero_add, ← toList_toString]
  rw [read_eq_ok_iff, toList_toString]
  rwa [List.replicate_zero, List.nil_append, hplain] at hnumeral

theorem toDigits_injective : Function.Injective (Nat.toDigits 10) := by
  intro j k h
  calc j = Nat.ofDigitChars 10 (Nat.toDigits 10 j) 0 := Nat.ofDigitChars_ten_toDigits.symm
    _ = Nat.ofDigitChars 10 (Nat.toDigits 10 k) 0 := by rw [h]
    _ = k := Nat.ofDigitChars_ten_toDigits

theorem toDigits_ne_minus (j : Nat) (text : List Char) : Nat.toDigits 10 j ≠ '-' :: text := by
  intro h
  have hminus : '-' ∈ Nat.toDigits 10 j := h ▸ List.mem_cons_self
  cases Nat.isDigit_of_mem_toDigits (by omega) (by omega) hminus

theorem toString_injective : Function.Injective (toString : Int → String) := by
  intro m n h
  have htext := congrArg String.toList h
  cases m with
  | ofNat j =>
      rw [toList_toString_ofNat] at htext
      cases n with
      | ofNat k =>
          rw [toList_toString_ofNat] at htext
          rw [toDigits_injective htext]
      | negSucc k =>
          rw [toList_toString_negSucc] at htext
          exact absurd htext (toDigits_ne_minus j _)
  | negSucc j =>
      rw [toList_toString_negSucc] at htext
      cases n with
      | ofNat k =>
          rw [toList_toString_ofNat] at htext
          exact absurd htext.symm (toDigits_ne_minus k _)
      | negSucc k =>
          rw [toList_toString_negSucc, List.cons.injEq] at htext
          rw [Nat.succ.inj (toDigits_injective htext.2)]

end Integer
end Revalidation
