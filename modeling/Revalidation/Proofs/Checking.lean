import Mathlib.Data.List.Basic
import Revalidation.Proofs.Jobs

/-!
# What a check of a file finds

A check goes through the lines of both files side by side and ends with the shorter of the two lists.  So
it finds the first line that is not as expected, but no line that is missing and none that is left over
at the end.
-/

namespace Revalidation.Generator

open Job

variable {source target : String} {s : Session}

/-! ## Side by side -/

theorem outcome_checkLines_append (before lines found : List String) (s : Session) :
    (checkLines source target (before ++ lines) (before.map convert ++ found)).outcome s =
      (checkLines source target lines found).outcome
        { s with used := before.foldl addUsed s.used } := by
  induction before generalizing s with
  | nil => rfl
  | cons line before ih =>
      rw [List.cons_append, List.map_cons, List.cons_append, checkLines,
        outcome_bind_ok (outcome_convertLine line s), if_neg (not_not_intro rfl)]
      exact ih { s with used := addUsed s.used line }

theorem outcome_checkLines_done {lines found : List String} (hdone : lines = [] ∨ found = []) :
    (checkLines source target lines found).outcome s = (.ok (), s) := by
  obtain rfl | rfl := hdone
  · rfl
  · cases lines <;> rfl

theorem outcome_checkLines_mismatch {line actual : String} (lines rest : List String)
    (hdiffers : actual ≠ convert line) :
    (checkLines source target (line :: lines) (actual :: rest)).outcome s =
      (.error .mismatch,
        { s with
          used := addUsed s.used line
          output := s.output ++ mismatchReport source target line (convert line) actual }) := by
  rw [checkLines, outcome_bind_ok (outcome_convertLine line s), if_pos hdiffers,
    outcome_bind_ok (outcome_forM_print _ _)]
  rfl

/-- Two lists of lines agree up to where one of them ends or the first line differs. -/
theorem exists_agreement (lines found : List String) :
    ∃ before after rest, lines = before ++ after ∧ found = before.map convert ++ rest ∧
      ((after = [] ∨ rest = []) ∨ ∃ line after' actual rest',
        after = line :: after' ∧ rest = actual :: rest' ∧ actual ≠ convert line) := by
  induction lines generalizing found with
  | nil => exact ⟨[], [], found, rfl, rfl, .inl (.inl rfl)⟩
  | cons line lines ih =>
      cases found with
      | nil => exact ⟨[], line :: lines, [], rfl, rfl, .inl (.inr rfl)⟩
      | cons actual found =>
          by_cases hsame : actual = convert line
          · obtain ⟨before, after, rest, rfl, rfl, hend⟩ := ih found
            exact ⟨line :: before, after, rest, rfl, by rw [hsame]; rfl, hend⟩
          · exact ⟨[], line :: lines, actual :: found, rfl, rfl,
              .inr ⟨line, lines, actual, found, rfl, rfl, hsame⟩⟩

/-! ## Whole files -/

theorem outcome_checkFile {text actual : String} (hsource : s.tree.read source = .ok text)
    (htarget : s.tree.read target = .ok actual) :
    (checkFile source target).outcome s =
      (checkLines source target (Text.readLines text) (Text.readLines actual)).outcome s := by
  rw [checkFile, outcome_bind_ok (outcome_read hsource), outcome_bind_ok (outcome_read htarget)]

/-- A check against the first of the expected lines passes, and notes what these lines use. -/
theorem outcome_checkFile_start {text actual : String} (hsource : s.tree.read source = .ok text)
    (htarget : s.tree.read target = .ok actual)
    (hstart : Text.readLines actual <+: (Text.readLines text).map convert) :
    (checkFile source target).outcome s =
      (.ok (), { s with
        used := ((Text.readLines text).take (Text.readLines actual).length).foldl addUsed s.used }) := by
  let lines := Text.readLines text
  let found := Text.readLines actual
  have hfound : found = (lines.take found.length).map convert := by
    rw [List.map_take]
    exact List.prefix_iff_eq_take.mp hstart
  have hchecked := @outcome_checkLines_append source target
    (lines.take found.length) (lines.drop found.length) [] s
  rw [List.take_append_drop, List.append_nil, ← hfound, outcome_checkLines_done (.inr rfl)] at hchecked
  rw [outcome_checkFile hsource htarget, hchecked]

/-- A check of two files that can be read ends without a report exactly if the lines of one of them are
the first of the other's, the source converted.  Hence it is exact for files of the same number of lines
only.  It reports the first line that differs, and it writes no file. -/
theorem checkFile_passes_iff {text actual : String} (hsource : s.tree.read source = .ok text)
    (htarget : s.tree.read target = .ok actual) :
    let lines := Text.readLines text
    let expected := lines.map convert
    let found := Text.readLines actual
    let result := (checkFile source target).outcome s
    (result.1 = .ok () ↔ found <+: expected ∨ expected <+: found) ∧
    (found = expected ↔ result.1 = .ok () ∧ found.length = expected.length) ∧
    result.2.tree = s.tree ∧
    (result.1 = .ok () → result.2.output = s.output) ∧
    (result.1 ≠ .ok () → result.1 = .error .mismatch ∧
      ∃ before line after wrong rest, lines = before ++ line :: after ∧
        found = before.map convert ++ wrong :: rest ∧ wrong ≠ convert line ∧
        result.2.output = s.output ++ mismatchReport source target line (convert line) wrong) := by
  intro lines expected found result
  have hresult : result = (checkLines source target lines found).outcome s :=
    outcome_checkFile hsource htarget
  have hexact (hstart : found <+: expected ∨ expected <+: found) :
      found = expected ↔ found.length = expected.length := by
    refine ⟨congrArg List.length, fun hlength => ?_⟩
    exact hstart.elim (·.eq_of_length hlength) fun hp => (hp.eq_of_length hlength.symm).symm
  obtain ⟨before, after, rest, hlines, hfound, hend⟩ := exists_agreement lines found
  have hexpected : expected = before.map convert ++ after.map convert := by
    rw [← List.map_append, ← hlines]
  rw [hlines, hfound, outcome_checkLines_append] at hresult
  -- Behind the lines that agree one of the two files ends, or the next lines differ.
  obtain hdone | ⟨line, after', wrong, rest', rfl, rfl, hdiffers⟩ := hend
  · have hstart : found <+: expected ∨ expected <+: found := by
      rw [hfound, hexpected, List.prefix_append_right_inj, List.prefix_append_right_inj]
      obtain rfl | rfl := hdone
      · exact .inr List.nil_prefix
      · exact .inl List.nil_prefix
    rw [outcome_checkLines_done hdone] at hresult
    rw [hresult]
    exact ⟨iff_of_true rfl hstart, (hexact hstart).trans (and_iff_right rfl).symm, rfl,
      fun _ => rfl, fun hfails => absurd rfl hfails⟩
  · have hno : ¬(found <+: expected ∨ expected <+: found) := by
      rw [hfound, hexpected, List.map_cons, List.prefix_append_right_inj,
        List.prefix_append_right_inj, List.cons_prefix_cons, List.cons_prefix_cons]
      rintro (⟨hsame, -⟩ | ⟨hsame, -⟩)
      · exact hdiffers hsame
      · exact hdiffers hsame.symm
    have hne : found ≠ expected := fun hsame => hno (.inl (hsame ▸ List.prefix_rfl))
    rw [outcome_checkLines_mismatch after' rest' hdiffers] at hresult
    rw [hresult]
    refine ⟨iff_of_false (by simp) hno, iff_of_false hne (by simp), rfl, by simp, fun _ => ⟨rfl, ?_⟩⟩
    exact ⟨before, line, after', wrong, rest', hlines, hfound, hdiffers, rfl⟩

theorem checkFile_passes_iff_shorter :
    let tree : FileTree := { files := [(["a.py"], "await f()\r\ng()\n"), (["b.py"], "f()\n")] }
    tree.read "a.py" = .ok "await f()\r\ng()\n" ∧ tree.read "b.py" = .ok "f()\n" ∧
      ((checkFile "a.py" "b.py").outcome { tree := tree }).1 = .ok () ∧
      Text.readLines "f()\n" ≠ (Text.readLines "await f()\r\ng()\n").map convert := by
  intro tree
  have hsource : tree.read "a.py" = .ok "await f()\r\ng()\n" := by rfl
  have htarget : tree.read "b.py" = .ok "f()\n" := by rfl
  obtain ⟨hpasses, hexact, -⟩ := checkFile_passes_iff (s := { tree := tree }) hsource htarget
  have hstart : Text.readLines "f()\n" <+: (Text.readLines "await f()\r\ng()\n").map convert := by
    decide +kernel
  refine ⟨hsource, htarget, hpasses.mpr (.inl hstart), fun hsame => ?_⟩
  exact absurd (hexact.mp hsame).2 (by decide +kernel)

end Revalidation.Generator
