import Mathlib.Data.List.Basic
import Revalidation.Generator.Line

/-!
# Substitutions that are of use

A substitution is of use on a line if it changes what the substitutions before it have made of the line.
The book that is kept over some lines tells which ones were of use on one of them.
-/

namespace Revalidation.Generator

def Changes (i : Nat) (line : String) : Prop :=
  ∃ s ∈ substitutions[i]?,
    let before := (convertWith (substitutions.take i) line).1
    s.apply before ≠ before

theorem getElem?_convertWith (ss : List Substitution) (line : String) (i : Nat) :
    (convertWith ss line).2[i]? =
      ss[i]?.map fun s => s.apply (convertWith (ss.take i) line).1 != (convertWith (ss.take i) line).1 := by
  induction ss generalizing line i with
  | nil => rfl
  | cons s ss ih =>
      cases i with
      | zero => rfl
      | succ i => exact ih (s.apply line) i

theorem length_usedIn (line : String) : (usedIn line).length = substitutions.length := by
  have hlength (ss : List Substitution) (line : String) : (convertWith ss line).2.length = ss.length := by
    induction ss generalizing line with
    | nil => rfl
    | cons s ss ih => exact congrArg Nat.succ (ih (s.apply line))
  exact hlength substitutions line

theorem usedIn_iff {line : String} {i : Nat} : (usedIn line)[i]? = some true ↔ Changes i line := by
  rw [usedIn, getElem?_convertWith, Option.map_eq_some_iff]
  simp only [bne_iff_ne, Changes, Option.mem_def]

/-! ## The book -/

variable {used : List Bool} {line : String} {i : Nat}

theorem length_addUsed (hlength : used.length = substitutions.length) :
    (addUsed used line).length = substitutions.length := by
  rw [addUsed, List.length_zipWith, hlength, length_usedIn, Nat.min_self]

theorem getElem?_addUsed (hlength : used.length = substitutions.length) :
    (addUsed used line)[i]? = some true ↔ used[i]? = some true ∨ Changes i line := by
  rw [← usedIn_iff, addUsed, List.getElem?_zipWith]
  by_cases hi : i < substitutions.length
  · have hused : i < used.length := by rwa [hlength]
    have hline : i < (usedIn line).length := by rwa [length_usedIn]
    rw [List.getElem?_eq_getElem hused, List.getElem?_eq_getElem hline]
    simp
  · have hused : used.length ≤ i := by rw [hlength]; exact Nat.le_of_not_lt hi
    have hline : (usedIn line).length ≤ i := by rw [length_usedIn]; exact Nat.le_of_not_lt hi
    rw [List.getElem?_eq_none hused, List.getElem?_eq_none hline]
    simp

theorem foldl_addUsed (lines : List String) (hlength : used.length = substitutions.length) :
    (lines.foldl addUsed used).length = substitutions.length ∧
      ((lines.foldl addUsed used)[i]? = some true ↔
        used[i]? = some true ∨ ∃ line ∈ lines, Changes i line) := by
  induction lines generalizing used with
  | nil => simp [hlength]
  | cons line lines ih =>
      have hnext : (addUsed used line).length = substitutions.length := length_addUsed hlength
      obtain ⟨hend, hbook⟩ := ih hnext
      refine ⟨hend, hbook.trans ?_⟩
      rw [getElem?_addUsed hlength, List.exists_mem_cons_iff, or_assoc]

theorem unused_eq_nil_iff (hlength : used.length = substitutions.length) :
    unused used = [] ↔ ∀ i < substitutions.length, used[i]? = some true := by
  have hsecond : (substitutions.zip used).map Prod.snd = used := List.map_snd_zip (Nat.le_of_eq hlength)
  calc unused used = []
      ↔ ∀ entry ∈ substitutions.zip used, entry.2 = true := by
        rw [unused, List.map_eq_nil_iff, List.filter_eq_nil_iff]
        simp
    _ ↔ ∀ b ∈ used, b = true := by
        rw [← List.forall_mem_map (P := fun b => b = true), hsecond]
    _ ↔ ∀ i < substitutions.length, used[i]? = some true := by
        rw [List.forall_mem_iff_getElem, ← hlength]
        refine forall₂_congr fun i hi => ?_
        rw [List.getElem?_eq_getElem hi, Option.some_inj]

/-- After some lines no substitution is left exactly if each has changed one of them. -/
theorem unused_foldl_addUsed (lines : List String) :
    unused (lines.foldl addUsed noneUsed) = [] ↔
      ∀ i < substitutions.length, ∃ line ∈ lines, Changes i line := by
  have hlength : noneUsed.length = substitutions.length := by rfl
  have hnone (i : Nat) : ¬noneUsed[i]? = some true := by
    rw [noneUsed, List.getElem?_map]
    cases substitutions[i]? <;> simp
  rw [unused_eq_nil_iff (foldl_addUsed (i := 0) lines hlength).1]
  refine forall₂_congr fun i _ => ?_
  rw [(foldl_addUsed lines hlength).2, or_iff_right (hnone i)]

end Revalidation.Generator
