import Revalidation.Proofs.Checking
import Revalidation.Proofs.LineEnds
import Revalidation.Proofs.Usage
import Revalidation.Proofs.Walking

/-!
# Generating and checking

After a run has written the generated files, a check finds them as they should be.  It converts the same
lines, except for a last line without a line feed of which nothing was left, so that the book of the
substitutions comes out the same if every source file ends in a line end.
-/

namespace Revalidation.Generator

open Job

def textAt (tree : FileTree) (path : Path) : String := (tree.file? path).getD ""

theorem IsSourceFile.textAt_eq {tree : FileTree} {source path : Path} {text : String}
    (hsource : IsSourceFile tree source path text) : textAt tree path = text := by
  rw [textAt, hsource.text]
  rfl

structure Workable (tree : FileTree) (task : Path × Path) : Prop where
  source : tree.Holds task.1 ∧ task.1 ≠ []
  text : tree.file? task.1 = some (textAt tree task.1)
  apart : ¬Generated task.1
  target : tree.Holds task.2 ∧ task.2 ≠ []
  free : tree.isDirectory task.2 = false
  generated : Generated task.2.dropLast

variable {original tree : FileTree} {task : Path × Path} {s : Session}

theorem mem_tasks_iff (hformed : original.WellFormed) : task ∈ tasks original ↔
    ∃ pair ∈ codeDirectories, IsSourceFile original (Path.names pair.1) task.1 (textAt original task.1) ∧
      task.2 = moved (Path.names pair.1) (Path.names pair.2) task.1 := by
  rw [tasks, List.mem_flatMap]
  refine exists_congr fun pair => and_congr_right fun hpair => ?_
  rw [mem_tasksBelow, mem_sourceFiles_iff hformed (paired pair hpair)]
  refine and_congr_left' ⟨?_, fun hsource => ⟨_, hsource⟩⟩
  rintro ⟨text, hsource⟩
  exact hsource.textAt_eq.symm ▸ hsource

theorem mem_tasks (hformed : original.WellFormed) {pair : String × String} (hpair : pair ∈ codeDirectories)
    {path : Path} {text : String} (hsource : IsSourceFile original (Path.names pair.1) path text) :
    (path, moved (Path.names pair.1) (Path.names pair.2) path) ∈ tasks original :=
  (mem_tasks_iff hformed).mpr ⟨pair, hpair, hsource.textAt_eq.symm ▸ hsource, rfl⟩

theorem workable (hformed : original.WellFormed)
    (hmirrors : ∀ pair ∈ codeDirectories, Mirrors original (Path.names pair.1) (Path.names pair.2))
    (htask : task ∈ tasks original) : Workable original task := by
  obtain ⟨pair, hpair, hsource, hplace⟩ := (mem_tasks_iff hformed).mp htask
  have hpaired := paired pair hpair
  have hpath := (mem_sourceFiles_iff hformed hpaired).mpr ⟨_, hsource⟩
  obtain ⟨htarget, hfree⟩ := holds_moved hformed (hmirrors pair hpair) hpaired hpath
  obtain ⟨directory, -, ⟨rest, rfl⟩, name, -, -, hname, -⟩ := mem_sourceFiles.mp hpath
  have hmoved : task.2 = Path.names pair.2 ++ rest ++ [name] := by
    rw [hplace, hname, List.append_assoc, moved_append, List.append_assoc]
  rw [← hplace] at htarget hfree
  exact {
    source := ⟨hformed.files _ (mem_files_of_file? hsource.text), by rw [hname]; simp⟩
    text := hsource.text
    apart := not_generated hpair hsource.below
    target := ⟨htarget, by rw [hmoved]; simp⟩
    free := hfree
    generated := ⟨pair, hpair, by rw [hmoved, List.dropLast_concat]; exact List.prefix_append _ _⟩ }

theorem targets_apart : ∀ pair ∈ codeDirectories, ∀ other ∈ codeDirectories,
    (Path.names pair.2).length = (Path.names other.2).length ∧
      (Path.names pair.2 = Path.names other.2 → Path.names pair.1 = Path.names other.1) := by
  decide

theorem source_unique (hformed : original.WellFormed) {other : Path × Path} (htask : task ∈ tasks original)
    (hother : other ∈ tasks original) (hplace : task.2 = other.2) : task.1 = other.1 := by
  obtain ⟨pair, hpair, hsource, htarget⟩ := (mem_tasks_iff hformed).mp htask
  obtain ⟨pair', hpair', hsource', htarget'⟩ := (mem_tasks_iff hformed).mp hother
  obtain ⟨rest, hrest⟩ := hsource.below
  obtain ⟨rest', hrest'⟩ := hsource'.below
  obtain ⟨hlength, hroots⟩ := targets_apart pair hpair pair' hpair'
  -- The directories of generated code have paths of one length, so that the two places split alike.
  rw [htarget, htarget', ← hrest, ← hrest', moved_append, moved_append] at hplace
  obtain ⟨hsame, rfl⟩ := List.append_inj hplace hlength
  rw [← hrest, ← hrest', hroots hsame]

/-! ## One file -/

def generateStep (original : FileTree) (s : Session) (task : Path × Path) : Session :=
  { tree := (s.tree.put task.2 "").put task.2 (regenerated (textAt original task.1))
    used := (Text.readLines (textAt original task.1)).foldl addUsed s.used
    output := s.output ++ [announcement task] }

def checkStep (original : FileTree) (s : Session) (task : Path × Path) : Session :=
  let text := textAt original task.1
  { s with
    used := ((Text.readLines text).take (Text.readLines (regenerated text)).length).foldl addUsed s.used
    output := s.output ++ [announcement task] }

theorem checkStep_tree (s : Session) (task : Path × Path) : (checkStep original s task).tree = s.tree := by
  simp only [checkStep]

theorem read_source (hworkable : Workable original task) (hkeeps : Keeps original tree) :
    tree.read (Path.text task.1) = .ok (textAt original task.1) :=
  FileTree.read_text hworkable.source.2 (hworkable.source.1.congr hkeeps.directories)
    ((hkeeps.files _ hworkable.apart).trans hworkable.text)

theorem write_target (hworkable : Workable original task) (hkeeps : Keeps original tree)
    (content : String) :
    tree.write (Path.text task.2) content = .ok (tree.put task.2 content) :=
  FileTree.write_text hworkable.target.2 (hworkable.target.1.congr hkeeps.directories)
    ((FileTree.isDirectory_congr hkeeps.directories _).trans hworkable.free) content

theorem outcome_work_generate (hworkable : Workable original task) (hkeeps : Keeps original s.tree) :
    (work false task).outcome (announced s task) = (.ok (), generateStep original s task) := by
  have hemptied := hkeeps.put hworkable.generated ""
  let t : Session := { announced s task with tree := s.tree.put task.2 "" }
  let lines := Text.readLines (textAt original task.1)
  have hfirst : (read (Path.text task.1)).outcome (announced s task) =
      (.ok (textAt original task.1), announced s task) :=
    outcome_read (read_source hworkable hkeeps)
  have hempty : (write (Path.text task.2) "").outcome (announced s task) = (.ok (), t) :=
    outcome_write (write_target hworkable hkeeps "")
  have hsecond : (read (Path.text task.1)).outcome t = (.ok (textAt original task.1), t) :=
    outcome_read (read_source hworkable hemptied)
  have hwrite : (write (Path.text task.2) (regenerated (textAt original task.1))).outcome
      { t with used := lines.foldl addUsed t.used } = (.ok (), generateStep original s task) :=
    outcome_write (write_target hworkable hemptied _)
  calc (work false task).outcome (announced s task)
      = (convertFile (Path.text task.1) (Path.text task.2)).outcome (announced s task) := rfl
    _ = (.ok (), generateStep original s task) := by
        rw [convertFile, outcome_bind_ok (outcome_discard hfirst), outcome_bind_ok hempty,
          outcome_bind_ok hsecond, outcome_bind_ok (outcome_mapM_convertLine lines t)]
        exact hwrite

theorem outcome_work_check (hworkable : Workable original task) (hkeeps : Keeps original s.tree)
    (hplace : s.tree.file? task.2 = some (regenerated (textAt original task.1))) :
    (work true task).outcome (announced s task) = (.ok (), checkStep original s task) := by
  have hread : s.tree.read (Path.text task.2) = .ok (regenerated (textAt original task.1)) :=
    FileTree.read_text hworkable.target.2 (hworkable.target.1.congr hkeeps.directories) hplace
  exact outcome_checkFile_start (s := announced s task) (read_source hworkable hkeeps) hread
    (readLines_regenerated_start _)

/-! ## All files -/

theorem file?_foldl_generateStep {files : List (Path × Path)} {place : Path} {content : String}
    (hsame : ∀ task ∈ files, task.2 = place → regenerated (textAt original task.1) = content)
    (hthere : s.tree.file? place = some content ∨ ∃ task ∈ files, task.2 = place) :
    (files.foldl (generateStep original) s).tree.file? place = some content := by
  induction files generalizing s with
  | nil => simpa using hthere
  | cons task files ih =>
      rw [List.forall_mem_cons] at hsame
      refine ih hsame.2 ?_
      -- The text at the place is there after this file or comes from a later one.
      by_cases hplace : task.2 = place
      · left
        rw [generateStep, hsame.1 hplace, hplace]
        exact FileTree.file?_put_self
      · refine hthere.imp (fun hfile => ?_) fun hlater => ?_
        · rw [generateStep, FileTree.file?_put_ne (Ne.symm hplace), FileTree.file?_put_ne (Ne.symm hplace)]
          exact hfile
        · simpa [hplace] using hlater

def sourceLines (original : FileTree) (files : List (Path × Path)) : List String :=
  files.flatMap fun task => Text.readLines (textAt original task.1)

theorem sourceLines_cons (task : Path × Path) (files : List (Path × Path)) :
    sourceLines original (task :: files) =
      Text.readLines (textAt original task.1) ++ sourceLines original files :=
  List.flatMap_cons

theorem used_foldl_generateStep (files : List (Path × Path)) (s : Session) :
    (files.foldl (generateStep original) s).used =
      (sourceLines original files).foldl addUsed s.used := by
  induction files generalizing s with
  | nil => rfl
  | cons task files ih =>
      rw [List.foldl_cons, ih, sourceLines_cons, List.foldl_append]
      rfl

theorem used_foldl_checkStep {files : List (Path × Path)}
    (hends : ∀ task ∈ files, Text.EndsInNewline (textAt original task.1)) (s : Session) :
    (files.foldl (checkStep original) s).used =
      (sourceLines original files).foldl addUsed s.used := by
  induction files generalizing s with
  | nil => rfl
  | cons task files ih =>
      rw [List.forall_mem_cons] at hends
      have hall : (Text.readLines (textAt original task.1)).take
          (Text.readLines (regenerated (textAt original task.1))).length =
            Text.readLines (textAt original task.1) := by
        rw [readLines_regenerated_eq hends.1, List.length_map, List.take_length]
      rw [List.foldl_cons, ih hends.2, sourceLines_cons, List.foldl_append, checkStep, hall]

/-! ## Two runs -/

theorem concluded_result (s : Session) :
    (concluded s).1 = .ok () ∨ ∃ rest, (concluded s).1 = .error (.unused rest) := by
  unfold concluded
  split
  · exact .inl rfl
  · exact .inr ⟨_, rfl⟩

theorem concluded_tree (s : Session) : (concluded s).2.tree = s.tree := by
  unfold concluded
  split <;> rfl

theorem exitStatus_concluded (s : Session) :
    exitStatus (concluded s).1 = if unused s.used = [] then 0 else 1 := by
  unfold concluded
  by_cases hnone : unused s.used = []
  · rw [if_pos hnone, if_pos (by rw [hnone]; rfl)]
    rfl
  · rw [if_neg hnone, if_neg (by simpa using hnone)]
    rfl

section

variable (hformed : original.WellFormed)
  (hmirrors : ∀ pair ∈ codeDirectories, Mirrors original (Path.names pair.1) (Path.names pair.2))
include hformed

theorem file?_generated (htask : task ∈ tasks original) :
    let generated := (tasks original).foldl (generateStep original) { tree := original }
    generated.tree.file? task.2 = some (regenerated (textAt original task.1)) := by
  refine file?_foldl_generateStep (fun other hother hplace => ?_) (.inr ⟨task, htask, rfl⟩)
  rw [source_unique hformed hother htask hplace]

include hmirrors

theorem outcome_generate {arguments : List String} (hgenerate : "--check" ∉ arguments) :
    let generated := (tasks original).foldl (generateStep original) { tree := original }
    (runAll arguments).outcome { tree := original } = concluded generated ∧
      Keeps original generated.tree := by
  have hfalse : arguments.contains "--check" = false := by simpa using hgenerate
  refine outcome_runAll hformed hmirrors (fun s (hs : Keeps original s.tree) => hs) ?_
    (Keeps.refl original)
  intro task htask s hs
  have hworkable := workable hformed hmirrors htask
  rw [hfalse]
  exact ⟨outcome_work_generate hworkable hs,
    (hs.put hworkable.generated _).put hworkable.generated _⟩

theorem outcome_check {arguments : List String} (hcheck : "--check" ∈ arguments) {tree : FileTree}
    (hkeeps : Keeps original tree)
    (hfiles : ∀ task ∈ tasks original,
      tree.file? task.2 = some (regenerated (textAt original task.1))) :
    let checked := (tasks original).foldl (checkStep original) { tree := tree }
    (runAll arguments).outcome { tree := tree } = concluded checked ∧ checked.tree = tree := by
  have htrue : arguments.contains "--check" = true := by simpa using hcheck
  refine outcome_runAll hformed hmirrors (fun s (hs : s.tree = tree) => hs ▸ hkeeps) ?_ rfl
  intro task htask s hs
  have hworkable := workable hformed hmirrors htask
  rw [htrue]
  exact ⟨outcome_work_check hworkable (by rw [hs]; exact hkeeps) (by rw [hs]; exact hfiles task htask),
    (checkStep_tree s task).trans hs⟩

end

def IsSource (tree : FileTree) (path : Path) (text : String) : Prop :=
  ∃ pair ∈ codeDirectories, IsSourceFile tree (Path.names pair.1) path text

theorem forall_tasks_iff (hformed : original.WellFormed) {p : String → Prop} :
    (∀ task ∈ tasks original, p (textAt original task.1)) ↔ ∀ path text, IsSource original path text → p text := by
  constructor
  · rintro hall path text ⟨pair, hpair, hsource⟩
    exact hsource.textAt_eq ▸ hall _ (mem_tasks hformed hpair hsource)
  · intro hall task htask
    obtain ⟨pair, hpair, hsource, -⟩ := (mem_tasks_iff hformed).mp htask
    exact hall task.1 _ ⟨pair, hpair, hsource⟩

/-- In a tree in which the directories of generated code mirror those of the sources, a run writes the
generated form of every source file.  A check after it finds nothing wrong and leaves the tree alone.  If
every source file ends in a line end, both runs end alike, and they fail exactly if some substitution
changes no line of a source file. -/
theorem check_after_generate {tree : FileTree} (hformed : tree.WellFormed)
    (hmirrors : ∀ pair ∈ codeDirectories, Mirrors tree (Path.names pair.1) (Path.names pair.2))
    {generating checking : List String} (hgenerate : "--check" ∉ generating)
    (hcheck : "--check" ∈ checking) :
    let first := (runAll generating).outcome { tree := tree }
    let second := (runAll checking).outcome { tree := first.2.tree }
    (first.1 = .ok () ∨ ∃ rest, first.1 = .error (.unused rest)) ∧
    (∀ pair ∈ codeDirectories, ∀ path text, IsSourceFile tree (Path.names pair.1) path text →
      first.2.tree.read (Path.text (moved (Path.names pair.1) (Path.names pair.2) path)) =
        .ok (regenerated text)) ∧
    (second.1 = .ok () ∨ ∃ rest, second.1 = .error (.unused rest)) ∧
    second.2.tree = first.2.tree ∧
    ((∀ path text, IsSource tree path text → Text.EndsInNewline text) →
      exitStatus second.1 = exitStatus first.1 ∧
      (exitStatus first.1 = 1 ↔ ∃ i < substitutions.length,
        ∀ path text, IsSource tree path text → ∀ line ∈ Text.readLines text, ¬Changes i line)) := by
  intro first second
  let generated := (tasks tree).foldl (generateStep tree) { tree := tree }
  let checked := (tasks tree).foldl (checkStep tree) { tree := generated.tree }
  obtain ⟨hgenerated, hkeeps⟩ := outcome_generate hformed hmirrors hgenerate
  have hfirst : first = concluded generated := hgenerated
  have htree : first.2.tree = generated.tree := by rw [hfirst, concluded_tree]
  obtain ⟨hchecked, hsame⟩ := outcome_check hformed hmirrors hcheck hkeeps
    fun task htask => file?_generated hformed htask
  have hsecond : second = concluded checked := by rw [← hchecked, ← htree]
  refine ⟨hfirst ▸ concluded_result _, ?_, hsecond ▸ concluded_result _, ?_, ?_⟩
  · intro pair hpair path text hsource
    have htask := mem_tasks hformed hpair hsource
    obtain ⟨hholds, hne⟩ := (workable hformed hmirrors htask).target
    rw [htree, ← hsource.textAt_eq]
    exact FileTree.read_text hne (hholds.congr hkeeps.directories) (file?_generated hformed htask)
  · rw [hsecond, concluded_tree, htree]
    exact hsame
  · intro hends
    have hbook : generated.used = (sourceLines tree (tasks tree)).foldl addUsed noneUsed :=
      used_foldl_generateStep (tasks tree) { tree := tree }
    have hused : checked.used = generated.used := by
      rw [hbook]
      exact used_foldl_checkStep ((forall_tasks_iff hformed).mpr hends) { tree := generated.tree }
    rw [hsecond, hfirst, exitStatus_concluded, exitStatus_concluded, hused, hbook]
    refine ⟨rfl, ?_⟩
    have hlines (i : Nat) : (∀ line ∈ sourceLines tree (tasks tree), ¬Changes i line) ↔
        ∀ path text, IsSource tree path text → ∀ line ∈ Text.readLines text, ¬Changes i line := by
      rw [← forall_tasks_iff hformed, sourceLines, List.forall_mem_flatMap]
    have hfails (p : Prop) [Decidable p] : (if p then 0 else 1) = 1 ↔ ¬p := by
      split <;> simp_all
    rw [hfails, unused_foldl_addUsed]
    simp only [← hlines, not_forall, not_exists, not_and, exists_prop]

theorem check_after_generate_nested :
    let tree : FileTree := {
      directories := [[], ["etagger"], ["etagger", "_async"], ["etagger", "_async", "x"],
        ["etagger", "_sync"], ["etagger", "_sync", "x"]]
      files := [(["etagger", "_async", "x", "a.py"], "async def f():\r\n    await g()\r"),
        (["etagger", "_sync", "x", "a.py"], "old\nold\nold\n")] }
    let first := (runAll []).outcome { tree := tree }
    let second := (runAll ["--check"]).outcome { tree := first.2.tree }
    tree.WellFormed ∧
    (∀ pair ∈ codeDirectories, Mirrors tree (Path.names pair.1) (Path.names pair.2)) ∧
    (∀ path text, IsSource tree path text → Text.EndsInNewline text) ∧
    first.2.tree.read "etagger/_sync/x/a.py" = .ok "def f():\n    g()\n" ∧
    second.2.tree = first.2.tree ∧ exitStatus second.1 = exitStatus first.1 := by
  intro tree first second
  have hformed : tree.WellFormed := by decide +kernel
  have hmirrors : ∀ pair ∈ codeDirectories,
      Mirrors tree (Path.names pair.1) (Path.names pair.2) := by
    decide +kernel
  have hends : ∀ path text, IsSource tree path text → Text.EndsInNewline text := by
    rintro path text ⟨pair, -, hsource⟩
    have hfiles : ∀ file ∈ tree.files, Text.EndsInNewline file.2 := by decide +kernel
    exact hfiles _ (mem_files_of_file? hsource.text)
  have hgenerate : "--check" ∉ ([] : List String) := by decide
  have hcheck : "--check" ∈ ["--check"] := by decide
  obtain ⟨-, hwritten, -, htree, hstatus⟩ :=
    check_after_generate hformed hmirrors hgenerate hcheck
  refine ⟨hformed, hmirrors, hends, ?_, htree, (hstatus hends).1⟩
  have hsource : IsSourceFile tree (Path.names "etagger/_async")
      ["etagger", "_async", "x", "a.py"] "async def f():\r\n    await g()\r" :=
    ⟨by decide +kernel, by decide +kernel, by decide +kernel⟩
  have hpath : Path.text (moved (Path.names "etagger/_async") (Path.names "etagger/_sync")
      ["etagger", "_async", "x", "a.py"]) = "etagger/_sync/x/a.py" := by
    decide +kernel
  have htext : regenerated "async def f():\r\n    await g()\r" = "def f():\n    g()\n" := by
    decide +kernel
  have h := hwritten ("etagger/_async", "etagger/_sync") (by decide) _ _ hsource
  rwa [hpath, htext] at h

end Revalidation.Generator
