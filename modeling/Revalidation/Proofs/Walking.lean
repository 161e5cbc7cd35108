import Revalidation.Proofs.Jobs
import Revalidation.Proofs.SourceFiles

/-!
# The files that a run comes to

A run lists the source files while it goes and works on each with the place where its generated file
belongs.  As long as the tree differs from the one it started with in generated files only, these are
the files of that tree, so that a whole run is one loop over them.
-/

namespace Revalidation.Generator

open Job

/-- The source files that a directory itself holds, each with the place of what is made of it. -/
def tasksIn (tree : FileTree) (pair : String × String) (directory : Path) : List (Path × Path) :=
  ((tree.filesIn directory).filter isSource).map fun name =>
    (directory ++ [name], moved (Path.names pair.1) (Path.names pair.2) (directory ++ [name]))

def tasksBelow (tree : FileTree) (pair : String × String) : List (Path × Path) :=
  (directoriesBelow tree (Path.names pair.1)).flatMap (tasksIn tree pair)

def tasks (tree : FileTree) : List (Path × Path) := codeDirectories.flatMap (tasksBelow tree)

def announcement (task : Path × Path) : String := Path.text task.1 ++ " -> " ++ Path.text task.2

def work (checkOnly : Bool) (task : Path × Path) : Job Unit :=
  if checkOnly then checkFile (Path.text task.1) (Path.text task.2)
  else convertFile (Path.text task.1) (Path.text task.2)

def concluded (s : Session) : Except Stop Unit × Session :=
  if (unused s.used).isEmpty then (.ok (), s)
  else (.error (.unused (unused s.used)),
    { s with output := s.output ++ ["This SUBS was not used"] })

variable {tree : FileTree} {source target : String} {checkOnly : Bool}

/-! ## One directory -/

theorem directoriesUnder_text {root : Path} (hformed : ∀ path ∈ tree.directories, tree.Holds path)
    (hnames : ∀ name ∈ root, Path.IsName name) (hne : root ≠ []) :
    ∃ place, tree.directoriesUnder (Path.text root) = (place, directoriesBelow tree root) ∧
      (directoriesBelow tree root ≠ [] → place = root) := by
  cases hresolve : tree.resolve (Path.text root) with
  | ok place =>
      have hplace := FileTree.eq_of_resolve_text hnames hne hresolve
      refine ⟨root, ?_, fun _ => rfl⟩
      rw [FileTree.directoriesUnder, hresolve, hplace]
      rfl
  | error fault =>
      have hnone : directoriesBelow tree root = [] := by
        rw [List.eq_nil_iff_forall_not_mem]
        intro directory hdirectory
        obtain ⟨hmem, rest, rfl⟩ := mem_directoriesBelow.mp hdirectory
        have hok := FileTree.resolve_text hne (FileTree.Holds.of_append hne (hformed _ hmem))
        rw [hok] at hresolve
        cases hresolve
      refine ⟨[], ?_, fun hsome => absurd hnone hsome⟩
      rw [FileTree.directoriesUnder, hresolve, hnone]

theorem written : ∀ pair ∈ codeDirectories,
    (Path.leadingSlashes pair.1 = "" ∧ Path.text (Path.names pair.1) = pair.1) ∧
      Path.leadingSlashes pair.2 = "" := by
  decide

section

variable {original : FileTree} {pair : String × String} {directory : Path} {task : Path × Path}

theorem mem_tasksBelow : task ∈ tasksBelow original pair ↔
    task.1 ∈ sourceFiles original (Path.names pair.1) ∧
      task.2 = moved (Path.names pair.1) (Path.names pair.2) task.1 := by
  obtain ⟨path, place⟩ := task
  simp only [tasksBelow, tasksIn, sourceFiles, List.mem_flatMap, List.mem_map, Prod.mk.injEq]
  constructor
  · rintro ⟨directory, hdirectory, name, hname, rfl, rfl⟩
    exact ⟨⟨directory, hdirectory, name, hname, rfl⟩, rfl⟩
  · rintro ⟨⟨directory, hdirectory, name, hname, rfl⟩, rfl⟩
    exact ⟨directory, hdirectory, name, hname, rfl, rfl⟩

def announced (s : Session) (task : Path × Path) : Session :=
  { s with output := s.output ++ [announcement task] }

variable (hformed : original.WellFormed)
  (hmirrors : ∀ pair ∈ codeDirectories, Mirrors original (Path.names pair.1) (Path.names pair.2))

section

include hformed hmirrors

theorem outcome_processFile (hpair : pair ∈ codeDirectories) {place : Path} {name : String}
    (htask : task ∈ tasksBelow original pair) (hplace : task.1 = Path.names pair.1 ++ (place ++ [name]))
    (s : Session) :
    (processFile pair.1 pair.2 checkOnly place name).outcome s =
      (work checkOnly task).outcome (announced s task) := by
  obtain ⟨path, target⟩ := task
  rw [mem_tasksBelow] at htask
  dsimp only at htask hplace
  obtain ⟨hpath, rfl⟩ := htask
  subst hplace
  have hpaired := paired pair hpair
  obtain ⟨⟨hslash, -⟩, hslash'⟩ := written pair hpair
  obtain ⟨_, hsource⟩ := (mem_sourceFiles_iff hformed hpaired).mp hpath
  have hholds := hformed.files _ (mem_files_of_file? hsource.text)
  have hmoved := (holds_moved hformed (hmirrors pair hpair) hpaired hpath).1
  rw [moved_append] at hmoved ⊢
  rw [processFile, Path.below_eq hslash hholds.names (by simp),
    Path.below_eq hslash' hmoved.names (by simp), outcome_bind_ok (outcome_print _ s)]
  rfl

end

/-! ## Loops -/

variable {holds : Session → Prop} {step : Session → Path × Path → Session}
  (hkeeps : ∀ s, holds s → Keeps original s.tree)
  (hstep : ∀ task ∈ tasks original, ∀ s, holds s →
    (work checkOnly task).outcome (announced s task) = (.ok (), step s task) ∧ holds (step s task))
include hformed hmirrors hkeeps hstep

theorem outcome_processPlace (hpair : pair ∈ codeDirectories)
    (hdirectory : directory ∈ directoriesBelow original (Path.names pair.1)) {s : Session} (hs : holds s) :
    (processPlace pair.1 pair.2 checkOnly (Path.names pair.1) directory).outcome s =
        (.ok (), (tasksIn original pair directory).foldl step s) ∧
      holds ((tasksIn original pair directory).foldl step s) := by
  have hbelow := (mem_directoriesBelow.mp hdirectory).2
  have hnames := (hkeeps s hs).names directory (not_generated hpair hbelow)
  rw [processPlace, outcome_bind_ok (outcome_get s), hnames, tasksIn, List.foldl_map]
  refine outcome_forM (fun name hname t ht => ?_) hs
  have hin : (directory ++ [name], moved (Path.names pair.1) (Path.names pair.2) (directory ++ [name])) ∈
      tasksIn original pair directory := List.mem_map_of_mem hname
  have hfile := List.mem_flatMap.mpr ⟨directory, hdirectory, hin⟩
  have hsplit : directory ++ [name] =
      Path.names pair.1 ++ (directory.drop (Path.names pair.1).length ++ [name]) := by
    rw [← List.append_assoc, List.prefix_iff_eq_append.mp hbelow]
  rw [outcome_processFile hformed hmirrors hpair hfile hsplit]
  exact hstep _ (List.mem_flatMap.mpr ⟨pair, hpair, hfile⟩) t ht

theorem outcome_processDirectory (hpair : pair ∈ codeDirectories) {s : Session} (hs : holds s) :
    (processDirectory pair.1 pair.2 checkOnly).outcome s =
        (.ok (), (tasksBelow original pair).foldl step s) ∧
      holds ((tasksBelow original pair).foldl step s) := by
  have hpaired := paired pair hpair
  have hsame := (hkeeps s hs).directories
  -- Writing brings no directory in, so that the list is that of the tree at the start.
  have hthere : ∀ path ∈ s.tree.directories, s.tree.Holds path := fun path hpath =>
    (hformed.directories path (hsame ▸ hpath)).congr hsame
  have hdirectories : directoriesBelow s.tree (Path.names pair.1) =
      directoriesBelow original (Path.names pair.1) := by
    rw [directoriesBelow, hsame, directoriesBelow]
  obtain ⟨root, hunder, hroot⟩ :=
    directoriesUnder_text hthere hpaired.sourceNames hpaired.nonempty.1
  rw [(written pair hpair).1.2, hdirectories] at hunder
  rw [hdirectories] at hroot
  rw [processDirectory, outcome_bind_ok (outcome_get s), hunder, tasksBelow, List.foldl_flatMap]
  refine outcome_forM (fun directory hdirectory t ht => ?_) hs
  rw [hroot (List.ne_nil_of_mem hdirectory)]
  exact outcome_processPlace hformed hmirrors hkeeps hstep hpair hdirectory ht

end

/-- A whole run is a loop over the source files of the tree, and ends with the book. -/
theorem outcome_runAll {original : FileTree} (hformed : original.WellFormed)
    (hmirrors : ∀ pair ∈ codeDirectories, Mirrors original (Path.names pair.1) (Path.names pair.2))
    {arguments : List String} {holds : Session → Prop} {step : Session → Path × Path → Session}
    (hkeeps : ∀ s, holds s → Keeps original s.tree)
    (hstep : ∀ task ∈ tasks original, ∀ s, holds s →
      (work (arguments.contains "--check") task).outcome (announced s task) = (.ok (), step s task) ∧
        holds (step s task))
    {s : Session} (hs : holds s) :
    (runAll arguments).outcome s = concluded ((tasks original).foldl step s) ∧
      holds ((tasks original).foldl step s) := by
  have hloop := outcome_forM (fun pair (hpair : pair ∈ codeDirectories) t ht =>
    outcome_processDirectory hformed hmirrors hkeeps hstep hpair ht) hs
  rw [← List.foldl_flatMap, ← tasks] at hloop
  refine ⟨?_, hloop.2⟩
  rw [runAll, outcome_bind_ok hloop.1, outcome_bind_ok (outcome_get _), concluded]
  dsimp only
  cases (unused ((tasks original).foldl step s).used).isEmpty with
  | true => rfl
  | false => rfl

end Revalidation.Generator
