import Revalidation.Generator.Run
import Revalidation.Proofs.FilePlaces

/-!
# Source files and what is made of them

The source files of a tree lie below two directories, and each has a place in a directory of generated
code.  If those directories mirror the others, every source file can be read and every generated file
written.  Generated files lie apart from the source files, so that writing them changes no source file
and brings none in.
-/

namespace Revalidation

namespace FileTree

/-- Every path of the tree can lie in it. -/
structure WellFormed (tree : FileTree) : Prop where
  directories : ∀ path ∈ tree.directories, tree.Holds path
  files : ∀ file ∈ tree.files, tree.Holds file.1

instance (tree : FileTree) : Decidable tree.WellFormed :=
  decidable_of_iff
    ((∀ path ∈ tree.directories, tree.Holds path) ∧ ∀ file ∈ tree.files, tree.Holds file.1)
    ⟨fun ⟨h₁, h₂⟩ => ⟨h₁, h₂⟩, fun ⟨h₁, h₂⟩ => ⟨h₁, h₂⟩⟩

end FileTree

namespace Generator

def moved (source target path : Path) : Path := target ++ path.drop source.length

def IsSourcePath (path : Path) : Prop := ∃ name ∈ path.getLast?, isSource name = true

instance (path : Path) : Decidable (IsSourcePath path) :=
  decidable_of_iff (path.getLast?.any isSource = true) (by
    unfold IsSourcePath
    cases path.getLast? <;> simp)

/-- The target has a directory for each one below the source, and none where a file is to be made. -/
structure Mirrors (tree : FileTree) (source target : Path) : Prop where
  directories : ∀ path ∈ tree.directories, source <+: path → moved source target path ∈ tree.directories
  files : ∀ file ∈ tree.files, source <+: file.1 → IsSourcePath file.1 →
    tree.isDirectory (moved source target file.1) = false

instance (tree : FileTree) (source target : Path) : Decidable (Mirrors tree source target) :=
  decidable_of_iff
    ((∀ path ∈ tree.directories, source <+: path → moved source target path ∈ tree.directories) ∧
      ∀ file ∈ tree.files, source <+: file.1 → IsSourcePath file.1 →
        tree.isDirectory (moved source target file.1) = false)
    ⟨fun ⟨h₁, h₂⟩ => ⟨h₁, h₂⟩, fun ⟨h₁, h₂⟩ => ⟨h₁, h₂⟩⟩

/-- A source file below a directory, with its text. -/
structure IsSourceFile (tree : FileTree) (source path : Path) (text : String) : Prop where
  below : source <+: path
  named : IsSourcePath path
  text : tree.file? path = some text

def directoriesBelow (tree : FileTree) (source : Path) : List Path :=
  (tree.directories.filter source.isPrefixOf).mergeSort Path.comesFirst

def sourceFiles (tree : FileTree) (source : Path) : List Path :=
  (directoriesBelow tree source).flatMap fun directory =>
    ((tree.filesIn directory).filter isSource).map fun name => directory ++ [name]

variable {tree : FileTree} {source target path directory : Path} {name : String}

theorem mem_directoriesBelow :
    directory ∈ directoriesBelow tree source ↔ directory ∈ tree.directories ∧ source <+: directory := by
  rw [directoriesBelow, List.mem_mergeSort, List.mem_filter, List.isPrefixOf_iff_prefix]

theorem mem_filesIn :
    name ∈ tree.filesIn directory ↔ ∃ text, (directory ++ [name], text) ∈ tree.files := by
  rw [FileTree.filesIn, List.mem_mergeSort, List.mem_filterMap]
  constructor
  · rintro ⟨⟨path, text⟩, hfile, hname⟩
    dsimp only at hname
    split at hname
    · next hdirectory =>
      obtain ⟨above, rfl⟩ := List.getLast?_eq_some_iff.mp hname
      rw [List.dropLast_concat] at hdirectory
      exact ⟨text, hdirectory ▸ hfile⟩
    · cases hname
  · rintro ⟨text, hfile⟩
    exact ⟨_, hfile, by simp⟩

theorem mem_sourceFiles : path ∈ sourceFiles tree source ↔
    ∃ directory ∈ tree.directories, source <+: directory ∧
      ∃ name text, isSource name = true ∧ path = directory ++ [name] ∧ (path, text) ∈ tree.files := by
  simp only [sourceFiles, List.mem_flatMap, mem_directoriesBelow, List.mem_map, List.mem_filter,
    mem_filesIn]
  constructor
  · rintro ⟨directory, ⟨hdirectory, hbelow⟩, name, ⟨⟨text, hfile⟩, hname⟩, rfl⟩
    exact ⟨directory, hdirectory, hbelow, name, text, hname, rfl, hfile⟩
  · rintro ⟨directory, hdirectory, hbelow, name, text, hname, rfl, hfile⟩
    exact ⟨directory, ⟨hdirectory, hbelow⟩, name, ⟨⟨text, hfile⟩, hname⟩, rfl⟩

theorem mem_files_of_file? {text : String} (hfile : tree.file? path = some text) :
    (path, text) ∈ tree.files := by
  obtain ⟨⟨place, content⟩, hfind, rfl⟩ := Option.map_eq_some_iff.mp hfile
  have hplace : place = path := by simpa using List.find?_some hfind
  exact hplace ▸ List.mem_of_find?_eq_some hfind

theorem isSome_file? {text : String} (hfile : (path, text) ∈ tree.files) :
    (tree.file? path).isSome = true := by
  rw [FileTree.file?, Option.isSome_map, List.find?_isSome]
  exact ⟨_, hfile, by simp⟩

/-! ## The two pairs of directories -/

structure Paired (source target : Path) : Prop where
  sourceNames : ∀ name ∈ source, Path.IsName name
  targetNames : ∀ name ∈ target, Path.IsName name
  nonempty : source ≠ [] ∧ target ≠ []
  shorter : (Path.text target).utf8ByteSize ≤ (Path.text source).utf8ByteSize
  notSource : ¬IsSourcePath source

theorem moved_append (source target rest : Path) : moved source target (source ++ rest) = target ++ rest := by
  rw [moved, List.drop_left]

/-- The paths of the source files are those of the files that have a source file's name. -/
theorem mem_sourceFiles_iff (hformed : tree.WellFormed) (hpaired : Paired source target) :
    path ∈ sourceFiles tree source ↔ ∃ text, IsSourceFile tree source path text := by
  rw [mem_sourceFiles]
  constructor
  · rintro ⟨directory, hdirectory, hbelow, name, text, hname, rfl, hfile⟩
    obtain ⟨content, hcontent⟩ := Option.isSome_iff_exists.mp (isSome_file? hfile)
    exact ⟨content, hbelow.trans (List.prefix_append _ _), ⟨name, by simp, hname⟩, hcontent⟩
  · rintro ⟨text, hbelow, ⟨name, hlast, hname⟩, hfile⟩
    obtain ⟨directory, rfl⟩ := List.getLast?_eq_some_iff.mp hlast
    have hmem := mem_files_of_file? hfile
    have hholds := hformed.files _ hmem
    have hdirectory : source <+: directory := by
      obtain hwhole | hbelow := List.prefix_concat_iff.mp hbelow
      · exact absurd ⟨name, hwhole ▸ hlast, hname⟩ hpaired.notSource
      · exact hbelow
    have hthere : tree.isDirectory directory = true := by
      simpa using hholds.above directory.length (by simp)
    have hinside : Path.isAbove directory = false := by
      obtain ⟨first, hfirst⟩ := List.exists_mem_of_ne_nil source hpaired.nonempty.1
      have hproper := (hpaired.sourceNames first hfirst).proper.2
      rw [Path.isAbove, List.all_eq_false]
      exact ⟨first, hdirectory.mem hfirst, by simpa using hproper⟩
    rw [FileTree.isDirectory, hinside, Bool.false_or, List.contains_iff_mem] at hthere
    exact ⟨directory, hthere, hdirectory, name, text, hname, rfl, hmem⟩

/-! ## Where generated files go -/

theorem holds_concat (hholds : tree.Holds directory) (hdirectory : tree.isDirectory directory = true)
    (hname : Path.IsName name)
    (hshort : (Path.text (directory ++ [name])).utf8ByteSize ≤ Path.maxSize) :
    tree.Holds (directory ++ [name]) where
  names := by
    rw [List.forall_mem_append, List.forall_mem_singleton]
    exact ⟨hholds.names, hname⟩
  short := hshort
  above n hn := by
    rw [List.length_append, List.length_singleton, Nat.lt_succ_iff] at hn
    rw [List.take_append_of_le_length hn]
    obtain hlt | rfl := Nat.lt_or_eq_of_le hn
    · exact hholds.above n hlt
    · rwa [List.take_length]

/-- What is made of a source file has a place in the tree. -/
theorem holds_moved (hformed : tree.WellFormed) (hmirrors : Mirrors tree source target)
    (hpaired : Paired source target) (hpath : path ∈ sourceFiles tree source) :
    tree.Holds (moved source target path) ∧ tree.isDirectory (moved source target path) = false := by
  obtain ⟨directory, hdirectory, hbelow, name, text, hname, rfl, hfile⟩ := mem_sourceFiles.mp hpath
  have hholds := hformed.files _ hfile
  have hfree := hmirrors.files _ hfile (hbelow.trans (List.prefix_append _ _)) ⟨name, by simp, hname⟩
  have hmirror := hmirrors.directories _ hdirectory hbelow
  obtain ⟨place, rfl⟩ := hbelow
  rw [List.append_assoc, moved_append, ← List.append_assoc] at hfree ⊢
  rw [moved_append] at hmirror
  refine ⟨holds_concat (hformed.directories _ hmirror) ?_ (hholds.names name (by simp)) ?_, hfree⟩
  · rw [FileTree.isDirectory, List.contains_iff_mem.mpr hmirror, Bool.or_true]
  · -- The path becomes no longer than the one of the source file.
    have hshort := hholds.short
    have hne : place ++ [name] ≠ [] := by simp
    rw [List.append_assoc, Path.text_append hpaired.nonempty.1 hne, String.utf8ByteSize_append,
      String.utf8ByteSize_append] at hshort
    rw [List.append_assoc, Path.text_append hpaired.nonempty.2 hne, String.utf8ByteSize_append,
      String.utf8ByteSize_append]
    have hshorter := hpaired.shorter
    omega

/-! ## What generating leaves alone -/

theorem paired : ∀ pair ∈ codeDirectories, Paired (Path.names pair.1) (Path.names pair.2) := by
  simp only [codeDirectories, List.forall_mem_cons]
  refine ⟨?_, ?_, nofun⟩
  · exact ⟨by decide, by decide, by decide, by decide, by decide⟩
  · exact ⟨by decide, by decide, by decide, by decide, by decide⟩

theorem apart : ∀ pair ∈ codeDirectories, ∀ other ∈ codeDirectories,
    (Path.names pair.1).length = (Path.names other.2).length ∧ Path.names pair.1 ≠ Path.names other.2 := by
  decide

def Generated (path : Path) : Prop := ∃ pair ∈ codeDirectories, Path.names pair.2 <+: path

theorem not_generated {pair : String × String} (hpair : pair ∈ codeDirectories)
    (hbelow : Path.names pair.1 <+: path) : ¬Generated path := by
  rintro ⟨other, hother, hstart⟩
  obtain ⟨hlength, hne⟩ := apart pair hpair other hother
  have hsame := List.prefix_of_prefix_length_le hbelow hstart (Nat.le_of_eq hlength)
  exact hne (hsame.eq_of_length hlength)

structure Keeps (original tree : FileTree) : Prop where
  directories : tree.directories = original.directories
  files : ∀ path, ¬Generated path → tree.file? path = original.file? path
  names : ∀ directory, ¬Generated directory → tree.filesIn directory = original.filesIn directory

theorem Keeps.refl (tree : FileTree) : Keeps tree tree := ⟨rfl, fun _ _ => rfl, fun _ _ => rfl⟩

theorem Keeps.put {original : FileTree} (hkeeps : Keeps original tree) (hpath : Generated path.dropLast)
    (content : String) : Keeps original (tree.put path content) where
  directories := FileTree.directories_put.trans hkeeps.directories
  files other hother := by
    have hne : other ≠ path := by
      rintro rfl
      obtain ⟨pair, hpair, hstart⟩ := hpath
      exact hother ⟨pair, hpair, hstart.trans (List.dropLast_prefix _)⟩
    rw [FileTree.file?_put_ne hne]
    exact hkeeps.files other hother
  names directory hdirectory := by
    have hne : path.dropLast ≠ directory := by
      rintro rfl
      exact hdirectory hpath
    rw [FileTree.filesIn_put hne]
    exact hkeeps.names directory hdirectory

end Generator

end Revalidation
