import Mathlib.Data.List.Basic
import Revalidation.Generator.Run

/-!
# Line ends of generated files

A substitution neither takes a line feed away nor brings one in.  So the lines that are written for a
file are the lines that are read back, but for a last line without a line feed of which nothing is left.
-/

namespace Revalidation

namespace Text

variable {c : Char} {chars body tail : List Char}

/-! ## Reading lines -/

theorem normaliseNewlines_of_not_mem (hplain : '\r' ∉ chars) : normaliseNewlines chars = chars := by
  fun_induction normaliseNewlines chars with
  | case1 => rfl
  | case2 | case3 => exact absurd List.mem_cons_self hplain
  | case4 c rest _ _ ih => rw [ih fun hrest => hplain (List.mem_cons_of_mem c hrest)]

theorem not_mem_normaliseNewlines (chars : List Char) : '\r' ∉ normaliseNewlines chars := by
  fun_induction normaliseNewlines chars with
  | case1 => exact List.not_mem_nil
  | case2 rest ih | case3 rest _ ih => simpa using ih
  | case4 c rest _ hreturn ih =>
      rw [List.mem_cons]
      rintro (rfl | hrest)
      · exact hreturn rfl
      · exact ih hrest

def EndsInNewline (text : String) : Prop := ∀ c ∈ text.toList.getLast?, c = '\n' ∨ c = '\r'

instance (text : String) : Decidable (EndsInNewline text) :=
  decidable_of_iff (text.toList.getLast?.all fun c => c = '\n' ∨ c = '\r') (by
    unfold EndsInNewline
    cases text.toList.getLast? <;> simp)

theorem normaliseNewlines_eq_nil : normaliseNewlines chars = [] ↔ chars = [] := by
  fun_cases normaliseNewlines chars <;> simp

theorem getLast?_normaliseNewlines (hend : ∀ c ∈ chars.getLast?, c = '\n' ∨ c = '\r') :
    ∀ c ∈ (normaliseNewlines chars).getLast?, c = '\n' := by
  have hrest (d : Char) (rest : List Char) (h : ∀ c ∈ (d :: rest).getLast?, c = '\n' ∨ c = '\r') :
      ∀ c ∈ rest.getLast?, c = '\n' ∨ c = '\r' := by
    intro c hc
    rw [Option.mem_def] at hc
    exact h c (by rw [List.getLast?_cons, hc]; rfl)
  -- The last character is that of the rest, unless nothing is left of the rest.
  have hlast (d : Char) (rest : List Char) (hd : rest = [] → d = '\n')
      (ih : ∀ c ∈ rest.getLast?, c = '\n') : ∀ c ∈ (d :: rest).getLast?, c = '\n' := by
    rw [List.getLast?_cons]
    rintro c ⟨⟩
    cases hc : rest.getLast? with
    | none => exact hd (List.getLast?_eq_none_iff.mp hc)
    | some c => exact ih c hc
  fun_induction normaliseNewlines chars with
  | case1 => simp
  | case2 rest ih => exact hlast _ _ (fun _ => rfl) (ih (hrest _ _ (hrest _ _ hend)))
  | case3 rest _ ih => exact hlast _ _ (fun _ => rfl) (ih (hrest _ _ hend))
  | case4 c rest _ hreturn ih =>
      refine hlast _ _ (fun hnil => ?_) (ih (hrest _ _ hend))
      obtain rfl := normaliseNewlines_eq_nil.mp hnil
      exact (hend c rfl).resolve_right hreturn

theorem splitLines_append_newline (hbody : '\n' ∉ body) (rest : List Char) :
    splitLines (body ++ '\n' :: rest) = (body ++ ['\n']) :: splitLines rest := by
  induction body with
  | nil => simp [splitLines]
  | cons c body ih =>
      rw [List.mem_cons, not_or] at hbody
      simp [splitLines, Ne.symm hbody.1, ih hbody.2]

theorem splitLines_of_not_mem (htail : '\n' ∉ tail) (hne : tail ≠ []) : splitLines tail = [tail] := by
  induction tail with
  | nil => contradiction
  | cons c tail ih =>
      rw [List.mem_cons, not_or] at htail
      cases tail with
      | nil => simp [splitLines, Ne.symm htail.1]
      | cons d tail =>
          rw [splitLines, if_neg (Ne.symm htail.1), ih htail.2 (List.cons_ne_nil d tail)]

theorem flatten_splitLines (chars : List Char) : (splitLines chars).flatten = chars := by
  induction chars with
  | nil => rfl
  | cons c chars ih =>
      rw [splitLines]
      split
      · rw [List.flatten_cons, ih]
        rfl
      · split <;> simp_all

theorem flatMap_readLines (text : String) :
    (readLines text).flatMap String.toList = normaliseNewlines text.toList := by
  have hchars : (fun chars : List Char => (String.ofList chars).toList) = id :=
    funext fun chars => String.toList_ofList
  rw [readLines, List.flatMap_map, hchars, List.flatMap_id, flatten_splitLines]

/-- A text is cut into lines that end in their only line feed, and what comes after the last of them. -/
theorem exists_bodies (chars : List Char) :
    ∃ (bodies : List (List Char)) (tail : List Char), (∀ body ∈ bodies, '\n' ∉ body) ∧
      '\n' ∉ tail ∧ chars = (bodies.map (· ++ ['\n'])).flatten ++ tail := by
  induction chars with
  | nil => exact ⟨[], [], by simp, List.not_mem_nil, rfl⟩
  | cons c chars ih =>
      obtain ⟨bodies, tail, hbodies, htail, rfl⟩ := ih
      by_cases hc : c = '\n'
      · refine ⟨[] :: bodies, tail, ?_, htail, by rw [hc]; rfl⟩
        exact List.forall_mem_cons.mpr ⟨List.not_mem_nil, hbodies⟩
      · have hkeeps {text : List Char} (htext : '\n' ∉ text) : '\n' ∉ c :: text := by
          rw [List.mem_cons, not_or]
          exact ⟨Ne.symm hc, htext⟩
        cases bodies with
        | nil => exact ⟨[], c :: tail, by simp, hkeeps htail, rfl⟩
        | cons body bodies =>
            rw [List.forall_mem_cons] at hbodies
            exact ⟨(c :: body) :: bodies, tail,
              List.forall_mem_cons.mpr ⟨hkeeps hbodies.1, hbodies.2⟩, htail, rfl⟩

theorem splitLines_bodies {bodies : List (List Char)} (hbodies : ∀ body ∈ bodies, '\n' ∉ body)
    (htail : '\n' ∉ tail) :
    splitLines ((bodies.map (· ++ ['\n'])).flatten ++ tail) =
      bodies.map (· ++ ['\n']) ++ if tail = [] then [] else [tail] := by
  induction bodies with
  | nil =>
      by_cases hnil : tail = []
      · rw [hnil]
        rfl
      · rw [if_neg hnil]
        exact splitLines_of_not_mem htail hnil
  | cons body bodies ih =>
      rw [List.forall_mem_cons] at hbodies
      rw [List.map_cons, List.flatten_cons, List.append_assoc, List.append_assoc,
        List.singleton_append, splitLines_append_newline hbodies.1, ih hbodies.2]
      rfl

end Text

namespace Substitution

/-- The substitution leaves line ends as they are: it replaces no line feed and brings none in, nor a
carriage return. -/
structure KeepsLines (s : Substitution) : Prop where
  phrase : '\n' ∉ s.phrase.toList
  replacement : '\n' ∉ s.replacement.toList
  plain : '\r' ∉ s.replacement.toList

variable {phrase replacement text body : List Char} {before : Option Char} {skip : Nat}

theorem mem_replaceFrom {c : Char} (hc : c ∈ replaceFrom phrase replacement skip before text) :
    c ∈ replacement ∨ c ∈ text := by
  induction text generalizing skip before with
  | nil => exact absurd hc List.not_mem_nil
  | cons d text ih =>
      have htext {skip : Nat} (hrest : c ∈ replaceFrom phrase replacement skip (some d) text) :
          c ∈ replacement ∨ c ∈ d :: text :=
        (ih hrest).imp_right (List.mem_cons_of_mem d)
      cases skip with
      | succ n => exact htext hc
      | zero =>
          rw [replaceFrom] at hc
          split at hc
          · exact (List.mem_append.mp hc).elim .inl htext
          · obtain rfl | hrest := List.mem_cons.mp hc
            · exact .inr List.mem_cons_self
            · exact htext hrest

theorem accepts_newline {expected : Char} (hexpected : expected ≠ '\n') :
    accepts expected '\n' = false := by
  unfold accepts
  split
  · rfl
  · simpa using Ne.symm hexpected

theorem length_le_of_matchesFrom {last : Char} {rest : List Char} (hphrase : '\n' ∉ phrase)
    (hmatches : matchesFrom last phrase (body ++ '\n' :: rest) = true) :
    phrase.length ≤ body.length := by
  induction phrase generalizing last body with
  | nil => exact Nat.zero_le _
  | cons expected phrase ih =>
      rw [List.mem_cons, not_or] at hphrase
      cases body with
      | nil =>
          rw [List.nil_append, matchesFrom, accepts_newline (Ne.symm hphrase.1)] at hmatches
          cases hmatches
      | cons c body =>
          rw [List.cons_append, matchesFrom, Bool.and_eq_true] at hmatches
          exact Nat.succ_le_succ (ih hphrase.2 hmatches.2)

/-- What is made of a line is a line. -/
theorem exists_replaceFrom_line (hphrase : '\n' ∉ phrase) (hreplacement : '\n' ∉ replacement)
    (hbody : '\n' ∉ body) (hskip : skip ≤ body.length) (before : Option Char) :
    ∃ out, '\n' ∉ out ∧
      replaceFrom phrase replacement skip before (body ++ ['\n']) = out ++ ['\n'] := by
  induction body generalizing skip before with
  | nil =>
      obtain rfl : skip = 0 := Nat.le_zero.mp hskip
      have hmatches : matchesAt before phrase ['\n'] = false := by
        cases phrase with
        | nil => rfl
        | cons expected phrase =>
            have hexpected := accepts_newline fun h => hphrase (h ▸ List.mem_cons_self)
            simp [matchesAt, hexpected]
      exact ⟨[], List.not_mem_nil, by simp [replaceFrom, hmatches]⟩
  | cons c body ih =>
      rw [List.mem_cons, not_or] at hbody
      cases skip with
      | succ n => exact ih hbody.2 (Nat.le_of_succ_le_succ hskip) (some c)
      | zero =>
          rw [List.cons_append, replaceFrom]
          split
          · next hmatches =>
            have hlength : phrase.length - 1 ≤ body.length := by
              cases phrase with
              | nil => exact Nat.zero_le _
              | cons expected phrase =>
                  simp only [matchesAt, Bool.and_eq_true] at hmatches
                  rw [List.mem_cons, not_or] at hphrase
                  exact length_le_of_matchesFrom hphrase.2 hmatches.2
            obtain ⟨out, hout, hreplace⟩ := ih hbody.2 hlength (some c)
            refine ⟨replacement ++ out, ?_, by rw [hreplace, List.append_assoc]⟩
            rw [List.mem_append, not_or]
            exact ⟨hreplacement, hout⟩
          · obtain ⟨out, hout, hreplace⟩ := ih hbody.2 (Nat.zero_le _) (some c)
            refine ⟨c :: out, ?_, by rw [hreplace, List.cons_append]⟩
            rw [List.mem_cons, not_or]
            exact ⟨hbody.1, hout⟩

end Substitution

namespace Generator

open Text

/-! ## Conversion of lines -/

theorem keepsLines : ∀ s ∈ substitutions, s.KeepsLines := by
  simp only [substitutions, List.forall_mem_cons]
  refine ⟨?_, ?_, ?_, ?_, ?_, ?_, ?_, ?_, ?_, ?_, nofun⟩ <;> exact ⟨by decide, by decide, by decide⟩

section

variable {ss : List Substitution} {body : List Char}

theorem exists_convertWith_line (hss : ∀ s ∈ ss, s.KeepsLines) (hbody : '\n' ∉ body) :
    ∃ out, '\n' ∉ out ∧
      (convertWith ss (String.ofList (body ++ ['\n']))).1 = String.ofList (out ++ ['\n']) := by
  induction ss generalizing body with
  | nil => exact ⟨body, hbody, rfl⟩
  | cons s ss ih =>
      rw [List.forall_mem_cons] at hss
      obtain ⟨out, hout, hreplace⟩ := Substitution.exists_replaceFrom_line hss.1.phrase
        hss.1.replacement hbody (Nat.zero_le _) none
      have happly : s.apply (String.ofList (body ++ ['\n'])) = String.ofList (out ++ ['\n']) := by
        rw [Substitution.apply, String.toList_ofList, hreplace]
      rw [convertWith, happly]
      exact ih hss.2 hout

theorem mem_convertWith {c : Char} {line : String} (hc : c ∈ (convertWith ss line).1.toList) :
    c ∈ line.toList ∨ ∃ s ∈ ss, c ∈ s.replacement.toList := by
  induction ss generalizing line with
  | nil => exact .inl hc
  | cons s ss ih =>
      rcases ih hc with hchanged | ⟨other, hother, hmem⟩
      · rw [Substitution.apply, String.toList_ofList] at hchanged
        rcases Substitution.mem_replaceFrom hchanged with hmem | hmem
        · exact .inr ⟨s, List.mem_cons_self, hmem⟩
        · exact .inl hmem
      · exact .inr ⟨other, List.mem_cons_of_mem s hother, hmem⟩

end

theorem exists_convert_line {body : List Char} (hbody : '\n' ∉ body) :
    ∃ out, '\n' ∉ out ∧ convert (String.ofList (body ++ ['\n'])) = String.ofList (out ++ ['\n']) :=
  exists_convertWith_line keepsLines hbody

theorem not_mem_convert {line : String} (hline : '\n' ∉ line.toList) :
    '\n' ∉ (convert line).toList := by
  intro hmem
  rcases mem_convertWith hmem with hmem | ⟨s, hs, hmem⟩
  · exact hline hmem
  · exact (keepsLines s hs).replacement hmem

theorem convert_plain {line : String} (hline : '\r' ∉ line.toList) : '\r' ∉ (convert line).toList := by
  intro hmem
  rcases mem_convertWith hmem with hmem | ⟨s, hs, hmem⟩
  · exact hline hmem
  · exact (keepsLines s hs).plain hmem

/-! ## Generated texts -/

def regenerated (text : String) : String := String.join ((readLines text).map convert)

def lastLine (tail : String) : List String := if tail = "" then [] else [tail]

theorem readLines_bodies {text : String} {bodies : List (List Char)} {tail : String}
    (hbodies : ∀ body ∈ bodies, '\n' ∉ body) (htail : '\n' ∉ tail.toList)
    (htext : normaliseNewlines text.toList =
      (bodies.map (· ++ ['\n'])).flatten ++ tail.toList) :
    readLines text = (bodies.map fun body => String.ofList (body ++ ['\n'])) ++ lastLine tail := by
  rw [readLines, htext, splitLines_bodies hbodies htail, List.map_append, List.map_map]
  congr 1
  unfold lastLine
  by_cases hnil : tail = ""
  · simp [hnil]
  · rw [if_neg hnil, if_neg (by simpa using hnil), List.map_singleton, String.ofList_toList]

theorem exists_outs {bodies : List (List Char)} (hbodies : ∀ body ∈ bodies, '\n' ∉ body) :
    ∃ outs : List (List Char), (∀ out ∈ outs, '\n' ∉ out) ∧
      (bodies.map fun body => convert (String.ofList (body ++ ['\n']))) =
        outs.map fun out => String.ofList (out ++ ['\n']) := by
  induction bodies with
  | nil => exact ⟨[], by simp, by simp only [List.map_nil]⟩
  | cons body bodies ih =>
      rw [List.forall_mem_cons] at hbodies
      obtain ⟨out, hout, hconvert⟩ := exists_convert_line hbodies.1
      obtain ⟨outs, houts, hrest⟩ := ih hbodies.2
      refine ⟨out :: outs, List.forall_mem_cons.mpr ⟨hout, houts⟩, ?_⟩
      rw [List.map_cons, List.map_cons, hconvert, hrest]

theorem plain_of_mem_readLines {text line : String} (hline : line ∈ readLines text) :
    '\r' ∉ line.toList := by
  intro hmem
  have hflat : '\r' ∈ (readLines text).flatMap String.toList := List.mem_flatMap.mpr ⟨line, hline, hmem⟩
  rw [flatMap_readLines] at hflat
  exact not_mem_normaliseNewlines _ hflat

theorem regenerated_plain (text : String) : '\r' ∉ (regenerated text).toList := by
  rw [regenerated, String.toList_join, List.mem_flatMap]
  rintro ⟨line, hline, hmem⟩
  obtain ⟨source, hsource, rfl⟩ := List.mem_map.mp hline
  exact convert_plain (plain_of_mem_readLines hsource) hmem

/-- The lines of a generated text are those of the source, converted, but for a last line without a line
feed: that one is missing if nothing is left of it. -/
theorem readLines_regenerated (text : String) :
    ∃ lines tail, '\n' ∉ tail.toList ∧ readLines text = lines ++ lastLine tail ∧
      readLines (regenerated text) = lines.map convert ++ lastLine (convert tail) := by
  obtain ⟨bodies, tail, hbodies, htail, htext⟩ := exists_bodies (normaliseNewlines text.toList)
  obtain ⟨outs, houts, hconvert⟩ := exists_outs hbodies
  have htail' : '\n' ∉ (String.ofList tail).toList := by rwa [String.toList_ofList]
  have hlines := readLines_bodies hbodies htail' (by rw [htext, String.toList_ofList])
  refine ⟨_, String.ofList tail, htail', hlines, ?_⟩
  have hlast : ((lastLine (String.ofList tail)).map convert).flatMap String.toList =
      (convert (String.ofList tail)).toList := by
    unfold lastLine
    split
    · next hnil => rw [hnil]; decide
    · simp
  have hout : normaliseNewlines (regenerated text).toList =
      (outs.map (· ++ ['\n'])).flatten ++ (convert (String.ofList tail)).toList := by
    rw [normaliseNewlines_of_not_mem (regenerated_plain text), regenerated, String.toList_join, hlines,
      List.map_append, List.flatMap_append, hlast, List.map_map]
    congr 1
    simp only [Function.comp_def, hconvert, List.flatMap_map, String.toList_ofList]
    rfl
  rw [readLines_bodies houts (not_mem_convert htail') hout, List.map_map, ← hconvert]
  rfl

theorem readLines_regenerated_start (text : String) :
    readLines (regenerated text) <+: (readLines text).map convert := by
  obtain ⟨lines, tail, -, hlines, hout⟩ := readLines_regenerated text
  rw [hlines, hout, List.map_append, List.prefix_append_right_inj]
  unfold lastLine
  by_cases hnone : convert tail = ""
  · simp [hnone]
  · have hsome : tail ≠ "" := by
      rintro rfl
      exact hnone (by decide)
    rw [if_neg hnone, if_neg hsome]
    exact List.prefix_rfl

/-- A text that ends in a line end is generated line for line. -/
theorem readLines_regenerated_eq {text : String} (hend : EndsInNewline text) :
    readLines (regenerated text) = (readLines text).map convert := by
  obtain ⟨lines, tail, htail, hlines, hout⟩ := readLines_regenerated text
  have hnil : tail = "" := by
    by_contra hne
    have htext : normaliseNewlines text.toList = lines.flatMap String.toList ++ tail.toList := by
      rw [← flatMap_readLines, hlines, List.flatMap_append, lastLine, if_neg hne,
        List.flatMap_singleton]
    have hchars : tail.toList ≠ [] := by simpa using hne
    have hlast : (normaliseNewlines text.toList).getLast? = some (tail.toList.getLast hchars) := by
      rw [htext, List.getLast?_append_of_ne_nil _ hchars, List.getLast?_eq_some_getLast hchars]
    have hnewline := getLast?_normaliseNewlines hend _ hlast
    exact htail (hnewline ▸ List.getLast_mem hchars)
  have hempty : lastLine (convert "") = (lastLine "").map convert := by decide
  rw [hlines, hout, hnil, List.map_append, hempty]

end Generator

end Revalidation
