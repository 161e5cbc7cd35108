import Revalidation.Proofs.Latin1

/-!
# Lower-casing twice

A text in lower case is its own lower-case form.  The table of simple mappings is the reason: no form
that one of its runs gives is a code point that a run maps, and none is one of the two letters that
have forms of their own.
-/

namespace Revalidation.Text

namespace CaseRun

def firstForm (run : CaseRun) : Nat := (run.first + run.offset).toNat

def lastForm (run : CaseRun) : Nat := (run.last + run.offset).toNat

/-- No form that the run gives is mapped by the other: the forms lie before the other run, after it, or
on the points between those that it maps. -/
def avoids (run other : CaseRun) : Bool :=
  Nat.blt run.lastForm other.first || Nat.blt other.last run.firstForm ||
    (other.step == 2 && (run.step == 2 || run.first == run.last) &&
      (run.firstForm + other.first) % 2 == 1)

def misses (run : CaseRun) (n : Nat) : Bool := run.lastForm < n || n < run.firstForm

def staysValid (run : CaseRun) : Bool :=
  0 ≤ run.first + run.offset && (run.lastForm < 0xD800 ||
    (0xDFFF < run.firstForm && run.lastForm < 0x110000))

variable {run other : CaseRun} {n : Nat}

theorem maps_iff : run.maps n = true ↔ run.first ≤ n ∧ n ≤ run.last ∧ (n - run.first) % run.step = 0 := by
  simp [maps, and_assoc]

theorem form_bounds (hmaps : run.maps n = true) :
    run.firstForm ≤ (n + run.offset).toNat ∧ (n + run.offset).toNat ≤ run.lastForm := by
  obtain ⟨hfirst, hlast, -⟩ := maps_iff.mp hmaps
  unfold firstForm lastForm
  omega

theorem not_maps_of_avoids (hvalid : run.staysValid = true) (h : run.avoids other = true)
    (hmaps : run.maps n = true) : other.maps (n + run.offset).toNat = false := by
  obtain ⟨hfirst, hlast, hstep⟩ := maps_iff.mp hmaps
  obtain ⟨hlow, hhigh⟩ := form_bounds hmaps
  rw [Bool.eq_false_iff, ne_eq, maps_iff]
  rintro ⟨hotherFirst, hotherLast, hotherStep⟩
  simp only [staysValid, Bool.and_eq_true, decide_eq_true_eq] at hvalid
  simp only [avoids, Bool.or_eq_true, Bool.and_eq_true, Nat.blt_eq, beq_iff_eq] at h
  obtain (hbefore | hafter) | ⟨⟨htwo, hpoints⟩, hodd⟩ := h
  · omega
  · omega
  · -- The other run takes every second code point, and the forms lie on those in between.
    rw [htwo] at hotherStep
    rw [firstForm] at hodd
    obtain htwo | hsingle := hpoints
    · rw [htwo] at hstep
      omega
    · omega

theorem ne_of_misses {m : Nat} (h : run.misses m = true) (hmaps : run.maps n = true) :
    (n + run.offset).toNat ≠ m := by
  obtain ⟨hlow, hhigh⟩ := form_bounds hmaps
  simp only [misses, Bool.or_eq_true, decide_eq_true_eq] at h
  omega

theorem isValidChar_of_staysValid (hvalid : run.staysValid = true) (hmaps : run.maps n = true) :
    (n + run.offset).toNat.isValidChar := by
  obtain ⟨hlow, hhigh⟩ := form_bounds hmaps
  simp only [staysValid, Bool.or_eq_true, Bool.and_eq_true, decide_eq_true_eq] at hvalid
  unfold Nat.isValidChar
  omega

end CaseRun

/-! ## The table -/

theorem caseRuns_avoid : ∀ run ∈ caseRuns, ∀ other ∈ caseRuns, run.avoids other = true := by
  have hall : caseRuns.all (fun run => caseRuns.all run.avoids) = true := by decide +kernel
  simpa only [List.all_eq_true] using hall

theorem caseRuns_miss : ∀ run ∈ caseRuns, run.misses 0x130 = true ∧ run.misses 0x3A3 = true := by
  decide +kernel

theorem caseRuns_valid : ∀ run ∈ caseRuns, run.staysValid = true := by decide +kernel

theorem lowerCode_cases (n : Nat) :
    lowerCode n = n ∨
      ∃ run ∈ caseRuns, run.maps n = true ∧ lowerCode n = (n + run.offset).toNat := by
  unfold lowerCode
  split
  · next run hfind =>
    have hmaps := List.find?_some hfind
    exact .inr ⟨run, List.mem_of_find?_eq_some hfind, hmaps, rfl⟩
  · exact .inl rfl

theorem lowerCode_of_unmapped {n : Nat} (h : ∀ run ∈ caseRuns, run.maps n = false) :
    lowerCode n = n := by
  obtain hsame | ⟨run, hrun, hmaps, -⟩ := lowerCode_cases n
  · exact hsame
  · rw [h run hrun] at hmaps
    cases hmaps

theorem lowerCode_lowerCode (n : Nat) : lowerCode (lowerCode n) = lowerCode n := by
  obtain hsame | ⟨run, hrun, hmaps, hform⟩ := lowerCode_cases n
  · rw [hsame, hsame]
  · rw [hform]
    exact lowerCode_of_unmapped fun other hother =>
      CaseRun.not_maps_of_avoids (caseRuns_valid run hrun) (caseRuns_avoid run hrun other hother) hmaps

theorem isValidChar_lowerCode {n : Nat} (h : n.isValidChar) : (lowerCode n).isValidChar := by
  obtain hsame | ⟨run, hrun, hmaps, hform⟩ := lowerCode_cases n
  · rwa [hsame]
  · rw [hform]
    exact CaseRun.isValidChar_of_staysValid (caseRuns_valid run hrun) hmaps

theorem lowerCode_ne {n : Nat} (hdotted : n ≠ 0x130) (hsigma : n ≠ 0x3A3) :
    lowerCode n ≠ 0x130 ∧ lowerCode n ≠ 0x3A3 := by
  obtain hsame | ⟨run, hrun, hmaps, hform⟩ := lowerCode_cases n
  · rw [hsame]
    exact ⟨hdotted, hsigma⟩
  · rw [hform]
    obtain ⟨hmissesDotted, hmissesSigma⟩ := caseRuns_miss run hrun
    exact ⟨CaseRun.ne_of_misses hmissesDotted hmaps,
      CaseRun.ne_of_misses hmissesSigma hmaps⟩

/-! ## Characters -/

theorem lowerChar_eq_lowerCode {c : Char} (hdotted : c.toNat ≠ 0x130) :
    lowerChar c = [Char.ofNat (lowerCode c.toNat)] := by
  by_cases hbyte : c.toNat < 256
  · rw [lowerChar_eq hbyte, lowerCode_eq hbyte]
  · rw [lowerChar, if_neg hdotted, if_neg (by omega)]

def IsLowered (c : Char) : Prop := c ≠ 'Σ' ∧ lowerChar c = [c]

instance (c : Char) : Decidable (IsLowered c) := inferInstanceAs (Decidable (_ ∧ _))

theorem isLowered_of_mem_lowerChar {c d : Char} (hsigma : c ≠ 'Σ') (hd : d ∈ lowerChar c) :
    IsLowered d := by
  by_cases hdotted : c.toNat = 0x130
  · rw [lowerChar, if_pos hdotted] at hd
    -- Only here the form is two characters, a letter and a mark.
    have hletter : IsLowered 'i' := by decide +kernel
    have hmark : IsLowered (Char.ofNat 0x307) := by decide +kernel
    rw [List.mem_cons, List.mem_singleton] at hd
    obtain rfl | rfl := hd
    · exact hletter
    · exact hmark
  · rw [lowerChar_eq_lowerCode hdotted, List.mem_singleton] at hd
    have hvalid : (lowerCode c.toNat).isValidChar := isValidChar_lowerCode c.valid
    have hcode : d.toNat = lowerCode c.toNat := by
      rw [hd, Char.ofNat, dif_pos hvalid]
      rfl
    have hsigmaCode : c.toNat ≠ 0x3A3 := fun h => hsigma (by rw [← Char.ofNat_toNat c, h])
    obtain ⟨hdDotted, hdSigma⟩ := lowerCode_ne hdotted hsigmaCode
    refine ⟨?_, ?_⟩
    · rintro rfl
      exact hdSigma hcode.symm
    · rw [lowerChar_eq_lowerCode (by rwa [hcode]), hcode, lowerCode_lowerCode, ← hcode,
        Char.ofNat_toNat]

theorem isLowered_lowerSigma (before after : List Char) : IsLowered (lowerSigma before after) := by
  unfold lowerSigma
  split <;> decide +kernel

/-! ## Texts -/

theorem isLowered_of_mem_lowerAfter {before text : List Char} {d : Char}
    (hd : d ∈ lowerAfter before text) : IsLowered d := by
  induction text generalizing before with
  | nil => cases hd
  | cons c rest ih =>
      rw [lowerAfter, List.mem_append] at hd
      obtain hd | hd := hd
      · split at hd
        · rw [List.mem_singleton.mp hd]
          exact isLowered_lowerSigma before rest
        · next hsigma => exact isLowered_of_mem_lowerChar hsigma hd
      · exact ih hd

theorem lowerAfter_of_isLowered {before text : List Char} (h : ∀ c ∈ text, IsLowered c) :
    lowerAfter before text = text := by
  induction text generalizing before with
  | nil => rfl
  | cons c rest ih =>
      obtain ⟨hsigma, hsame⟩ := h c List.mem_cons_self
      rw [lowerAfter, if_neg hsigma, hsame, ih fun d hd => h d (List.mem_cons_of_mem c hd)]
      rfl

theorem lower_lower (s : String) : lower (lower s) = lower s := by
  have hsame : lowerAfter [] (lower s).toList = (lower s).toList := by
    refine lowerAfter_of_isLowered fun c hc => ?_
    rw [lower, String.toList_ofList] at hc
    exact isLowered_of_mem_lowerAfter hc
  rw [lower, hsame, String.ofList_toList]

end Revalidation.Text
