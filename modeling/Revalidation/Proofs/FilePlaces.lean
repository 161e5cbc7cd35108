import Mathlib.Data.List.Basic
import Revalidation.Generator.FileTree

/-!
# Places in a tree of files

A path that lies in a tree can be written down, and what is written leads back to it: reading gives the
text of the file there, and writing replaces it.  Whether a written path leads somewhere depends on the
directories of a tree only, and writing leaves those alone.
-/

namespace Revalidation

namespace Path

structure IsName (name : String) : Prop where
  nonempty : name ≠ ""
  plain : '/' ∉ name.toList
  proper : name ≠ "." ∧ name ≠ ".."
  short : name.utf8ByteSize ≤ maxNameSize

instance (name : String) : Decidable (IsName name) :=
  decidable_of_iff
    (name ≠ "" ∧ '/' ∉ name.toList ∧ (name ≠ "." ∧ name ≠ "..") ∧ name.utf8ByteSize ≤ maxNameSize)
    ⟨fun ⟨h₁, h₂, h₃, h₄⟩ => ⟨h₁, h₂, h₃, h₄⟩, fun ⟨h₁, h₂, h₃, h₄⟩ => ⟨h₁, h₂, h₃, h₄⟩⟩

variable {path : Path}

theorem toList_text (hne : path ≠ []) : (text path).toList = ['/'].intercalate (path.map String.toList) := by
  have hempty : path.isEmpty = false := by simpa using hne
  rw [text, hempty, if_neg Bool.false_ne_true, String.toList_intercalate]
  rfl

theorem names_text (hnames : ∀ name ∈ path, IsName name) (hne : path ≠ []) : names (text path) = path := by
  have hsplit : (text path).toList.splitOn '/' = path.map String.toList := by
    rw [toList_text hne]
    refine List.splitOn_intercalate '/' ?_ (by simpa using hne)
    intro chars hchars
    obtain ⟨name, hname, rfl⟩ := List.mem_map.mp hchars
    exact (hnames name hname).plain
  rw [names, hsplit, List.map_map, List.filter_eq_self.mpr]
  · simp [Function.comp_def]
  · intro name hname
    simp only [List.mem_map, Function.comp_apply, String.ofList_toList, exists_eq_right] at hname
    simpa using (hnames name hname).nonempty

theorem text_append {above : Path} (habove : above ≠ []) (hne : path ≠ []) :
    text (above ++ path) = text above ++ "/" ++ text path := by
  have hempty {p : Path} (hp : p ≠ []) : text p = "/".intercalate p := by
    have hp' : p.isEmpty = false := by simpa using hp
    rw [text, hp', if_neg Bool.false_ne_true]
  rw [hempty (by simp [habove]), hempty habove, hempty hne, String.intercalate_append_of_ne_nil habove hne]

theorem exists_toList_cons {name : String} (hname : IsName name) :
    ∃ c rest, c ≠ '/' ∧ name.toList = c :: rest := by
  cases hchars : name.toList with
  | nil => exact absurd (by simpa using hchars) hname.nonempty
  | cons c rest =>
      refine ⟨c, rest, ?_, rfl⟩
      rintro rfl
      exact hname.plain (hchars ▸ List.mem_cons_self)

theorem exists_toList_text (hnames : ∀ name ∈ path, IsName name) (hne : path ≠ []) :
    ∃ c rest, c ≠ '/' ∧ (text path).toList = c :: rest := by
  cases path with
  | nil => contradiction
  | cons name path =>
      obtain ⟨c, rest, hc, hname⟩ := exists_toList_cons (hnames name List.mem_cons_self)
      rw [toList_text hne]
      cases path with
      | nil => exact ⟨c, rest, hc, by simpa using hname⟩
      | cons next path =>
          refine ⟨c, rest ++ ['/'] ++ ['/'].intercalate ((next :: path).map String.toList), hc, ?_⟩
          rw [List.map_cons, List.map_cons, List.intercalate_cons_cons, hname]
          simp

theorem leadingSlashes_text (hnames : ∀ name ∈ path, IsName name) (hne : path ≠ []) :
    leadingSlashes (text path) = "" := by
  obtain ⟨c, rest, hc, htext⟩ := exists_toList_text hnames hne
  rw [leadingSlashes, htext, List.takeWhile_cons_of_neg (by simpa using hc)]
  rfl

theorem start_text (hnames : ∀ name ∈ path, IsName name) (hne : path ≠ []) : start (text path) = [] := by
  rw [start, leadingSlashes_text hnames hne, if_pos rfl]

theorem text_ne_empty (hnames : ∀ name ∈ path, IsName name) (hne : path ≠ []) : text path ≠ "" := by
  obtain ⟨c, rest, -, htext⟩ := exists_toList_text hnames hne
  intro hempty
  rw [hempty] at htext
  cases htext

theorem text_singleton (name : String) : text [name] = name := by
  simp [text]

theorem endsInSlash_text (hnames : ∀ name ∈ path, IsName name) (hne : path ≠ []) :
    endsInSlash (text path) = false := by
  obtain ⟨above, name, rfl⟩ : ∃ above name, path = above ++ [name] :=
    ⟨path.dropLast, path.getLast hne, (List.dropLast_concat_getLast hne).symm⟩
  have hname := hnames name (by simp)
  have hchars : name.toList ≠ [] := by simpa using hname.nonempty
  have hlast : (text (above ++ [name])).toList.getLast? = some (name.toList.getLast hchars) := by
    rw [← List.getLast?_eq_some_getLast hchars]
    by_cases habove : above = []
    · rw [habove, List.nil_append, text_singleton]
    · rw [text_append habove (by simp), text_singleton, String.toList_append,
        List.getLast?_append_of_ne_nil _ hchars]
  have hslash : name.toList.getLast hchars ≠ '/' := fun hlast =>
    hname.plain (hlast ▸ List.getLast_mem hchars)
  rw [endsInSlash, hlast]
  simpa using hslash

theorem foldl_names {f : Path → String → Path} (hf : ∀ done name, IsName name → f done name = name :: done)
    (hnames : ∀ name ∈ path, IsName name) (done : Path) : path.foldl f done = path.reverse ++ done := by
  induction path generalizing done with
  | nil => rfl
  | cons name path ih =>
      rw [List.forall_mem_cons] at hnames
      rw [List.foldl_cons, hf done name hnames.1, ih hnames.2, List.reverse_cons, List.append_assoc]
      rfl

theorem normalise_of_names (hnames : ∀ name ∈ path, IsName name) : normalise path = path := by
  rw [normalise, foldl_names ?_ hnames, List.append_nil, List.reverse_reverse]
  intro done name hname
  obtain ⟨hdot, hdots⟩ := hname.proper
  rw [if_neg hdot]
  cases done with
  | nil => rfl
  | cons last rest => exact if_neg fun h => hdots h.1

theorem below_eq {directory : String} {place : Path} (hslash : leadingSlashes directory = "")
    (hnames : ∀ name ∈ names directory ++ place, IsName name) (hne : names directory ++ place ≠ []) :
    below directory place = text (names directory ++ place) := by
  have hempty : (names directory ++ place).isEmpty = false := by simpa using hne
  rw [below, hslash, normalise_of_names hnames, text, hempty]
  rfl

end Path

namespace FileTree

variable {tree : FileTree} {path : Path} {content : String}

/-! ## Following names -/

/-- The path can lie in the tree: it has names that can be written, and every directory on the way is
there. -/
structure Holds (tree : FileTree) (path : Path) : Prop where
  names : ∀ name ∈ path, Path.IsName name
  short : (Path.text path).utf8ByteSize ≤ Path.maxSize
  above : ∀ n < path.length, tree.isDirectory (path.take n) = true

instance (tree : FileTree) (path : Path) : Decidable (tree.Holds path) :=
  decidable_of_iff
    ((∀ name ∈ path, Path.IsName name) ∧ (Path.text path).utf8ByteSize ≤ Path.maxSize ∧
      ∀ n < path.length, tree.isDirectory (path.take n) = true)
    ⟨fun ⟨h₁, h₂, h₃⟩ => ⟨h₁, h₂, h₃⟩, fun ⟨h₁, h₂, h₃⟩ => ⟨h₁, h₂, h₃⟩⟩

theorem enter_eq {here : Path} {name : String} (hname : Path.IsName name)
    (hhere : tree.isDirectory here = true) : tree.enter here name = .ok (here ++ [name]) := by
  rw [enter, if_pos hhere, if_neg hname.proper.1, if_neg hname.proper.2,
    if_neg (Nat.not_lt.mpr hname.short)]

theorem foldlM_enter {here rest : Path} (hnames : ∀ name ∈ rest, Path.IsName name)
    (hdirectories : ∀ n < rest.length, tree.isDirectory (here ++ rest.take n) = true) :
    rest.foldlM tree.enter here = .ok (here ++ rest) := by
  induction rest generalizing here with
  | nil => rw [List.append_nil]; rfl
  | cons name rest ih =>
      rw [List.forall_mem_cons] at hnames
      have hhere : tree.isDirectory here = true := by simpa using hdirectories 0 (Nat.succ_pos _)
      have hnext (n : Nat) (hn : n < rest.length) :
          tree.isDirectory (here ++ [name] ++ rest.take n) = true := by
        simpa using hdirectories (n + 1) (Nat.succ_lt_succ hn)
      have hrest := ih hnames.2 hnext
      rw [List.append_assoc, List.singleton_append] at hrest
      rw [List.foldlM_cons, enter_eq hnames.1 hhere]
      exact hrest

theorem follow_text {above rest : Path} (hne : above ++ rest ≠ []) (hholds : tree.Holds (above ++ rest)) :
    tree.follow (Path.text (above ++ rest)) above = .ok above := by
  have hway (n : Nat) (hn : n < above.length) : tree.isDirectory ([] ++ above.take n) = true := by
    have htake := hholds.above n (by rw [List.length_append]; omega)
    rwa [List.take_append_of_le_length (Nat.le_of_lt hn)] at htake
  rw [follow, if_neg (Path.text_ne_empty hholds.names hne), if_neg (Nat.not_lt.mpr hholds.short),
    Path.start_text hholds.names hne,
    foldlM_enter (fun name hname => hholds.names name (List.mem_append_left rest hname)) hway,
    List.nil_append]

theorem resolve_text (hne : path ≠ []) (hholds : tree.Holds path) :
    tree.resolve (Path.text path) = .ok path := by
  have hfollow : tree.follow (Path.text (path ++ [])) path = .ok path :=
    follow_text (by simpa using hne) (by simpa using hholds)
  rw [resolve, Path.names_text hholds.names hne, Path.endsInSlash_text hholds.names hne,
    if_neg Bool.false_ne_true, List.append_nil]
  rwa [List.append_nil] at hfollow

theorem eq_of_foldlM_enter {here rest : Path} (hnames : ∀ name ∈ rest, Path.IsName name)
    (hok : rest.foldlM tree.enter here = .ok path) : path = here ++ rest := by
  induction rest generalizing here with
  | nil => exact (List.append_nil here).symm ▸ (Except.ok.inj hok).symm
  | cons name rest ih =>
      rw [List.forall_mem_cons] at hnames
      rw [List.foldlM_cons] at hok
      by_cases hhere : tree.isDirectory here = true
      · rw [enter_eq hnames.1 hhere] at hok
        rw [ih hnames.2 hok, List.append_assoc]
        rfl
      · rw [enter, if_neg hhere] at hok
        split at hok <;> cases hok

/-- What is written for a path leads along it or nowhere. -/
theorem eq_of_resolve_text {place : Path} (hnames : ∀ name ∈ path, Path.IsName name) (hne : path ≠ [])
    (hok : tree.resolve (Path.text path) = .ok place) : place = path := by
  rw [resolve, Path.names_text hnames hne, Path.endsInSlash_text hnames hne, if_neg Bool.false_ne_true,
    List.append_nil, follow, if_neg (Path.text_ne_empty hnames hne), Path.start_text hnames hne] at hok
  split at hok
  · cases hok
  · exact eq_of_foldlM_enter hnames hok

theorem Holds.of_append {above rest : Path} (habove : above ≠ []) (hholds : tree.Holds (above ++ rest)) :
    tree.Holds above where
  names name hname := hholds.names name (List.mem_append_left rest hname)
  short := by
    by_cases hrest : rest = []
    · simpa [hrest] using hholds.short
    · have hshort := hholds.short
      rw [Path.text_append habove hrest, String.utf8ByteSize_append, String.utf8ByteSize_append] at hshort
      omega
  above n hn := by
    have htake := hholds.above n (by rw [List.length_append]; omega)
    rwa [List.take_append_of_le_length (Nat.le_of_lt hn)] at htake

theorem read_text (hne : path ≠ []) (hholds : tree.Holds path) (hfile : tree.file? path = some content) :
    tree.read (Path.text path) = .ok content := by
  rw [read, resolve_text hne hholds]
  simp [bind, Except.bind, hfile]

theorem write_text (hne : path ≠ []) (hholds : tree.Holds path) (hfree : tree.isDirectory path = false)
    (content : String) : tree.write (Path.text path) content = .ok (tree.put path content) := by
  obtain ⟨above, name, rfl⟩ : ∃ above name, path = above ++ [name] :=
    ⟨path.dropLast, path.getLast hne, (List.dropLast_concat_getLast hne).symm⟩
  have hname := hholds.names name (by simp)
  have habove : tree.isDirectory above = true := by simpa using hholds.above above.length (by simp)
  have hslash := Path.endsInSlash_text hholds.names hne
  rw [write]
  simp only [Path.names_text hholds.names hne, List.dropLast_concat, List.getLast?_concat,
    follow_text hne hholds, Option.toList_some, List.foldlM_cons, List.foldlM_nil, enter_eq hname habove,
    bind, Except.bind, pure, Except.pure, hslash, hfree, Bool.or_false, if_neg Bool.false_ne_true]

/-! ## Replacing a file -/

variable {other : Path}

@[simp] theorem directories_put : (tree.put path content).directories = tree.directories := by
  unfold put
  split <;> rfl

theorem isDirectory_congr {tree' : FileTree} (hsame : tree'.directories = tree.directories) (path : Path) :
    tree'.isDirectory path = tree.isDirectory path := by
  rw [isDirectory, isDirectory, hsame]

theorem Holds.congr {tree' : FileTree} (hsame : tree'.directories = tree.directories)
    (hholds : tree.Holds path) : tree'.Holds path where
  names := hholds.names
  short := hholds.short
  above n hn := (isDirectory_congr hsame _).trans (hholds.above n hn)

theorem file?_put_self : (tree.put path content).file? path = some content := by
  obtain ⟨directories, files⟩ := tree
  unfold put
  split
  · next hsome =>
    induction files with
    | nil => simp [file?] at hsome
    | cons entry files ih =>
        obtain ⟨p, text⟩ := entry
        by_cases hp : p = path
        · simp [file?, hp]
        · have hrest : (file? ⟨directories, files⟩ path).isSome = true := by
            simpa [file?, hp] using hsome
          simpa [file?, hp] using ih hrest
  · next hnone =>
    simp only [file?, Option.isSome_map, Bool.not_eq_true, Option.isSome_eq_false_iff,
      Option.isNone_iff_eq_none] at hnone
    simp [file?, List.find?_append, hnone]

theorem file?_put_ne (hne : other ≠ path) : (tree.put path content).file? other = tree.file? other := by
  obtain ⟨directories, files⟩ := tree
  unfold put
  split
  · next hsome =>
    clear hsome
    induction files with
    | nil => rfl
    | cons entry files ih =>
        obtain ⟨p, text⟩ := entry
        by_cases hp : p = other
        · simp [file?, hp, hne]
        · have hkeeps : (if p = path then (p, content) else (p, text)).1 = p := by split <;> rfl
          simpa [file?, hp, hkeeps] using ih
  · simp [file?, List.find?_append, hne.symm]

theorem filesIn_put (hne : path.dropLast ≠ other) :
    (tree.put path content).filesIn other = tree.filesIn other := by
  unfold put filesIn
  congr 1
  split
  · rw [List.filterMap_map]
    congr 1
    funext ⟨p, text⟩
    dsimp only [Function.comp_apply]
    by_cases hp : p = path
    · rw [if_pos hp]
    · rw [if_neg hp]
  · rw [List.filterMap_append]
    simp [hne]

end FileTree

end Revalidation
