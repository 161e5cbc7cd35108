import Revalidation.Text.Lines

/-!
# Trees of text files

A tree of directories and text files, and written paths that lead into it.  What lies outside the tree
is not known, except that there is a directory above each other one.
-/

namespace Revalidation

inductive PathFault where
  | notFound
  | isDirectory
  | notDirectory
  /-- The path or one of its names has more bytes than a file system takes. -/
  | tooLong
  deriving DecidableEq, Repr

/-- The names on the way from the root of a tree.  Two dots at the beginning lead out of it. -/
abbrev Path := List String

namespace Path

def names (path : String) : List String :=
  ((path.toList.splitOn '/').map String.ofList).filter (· ≠ "")

/-- The slashes that a written path begins with: at most one, unless there are exactly two. -/
def leadingSlashes (path : String) : String :=
  match (path.toList.takeWhile (· = '/')).length with
  | 0 => ""
  | 2 => "//"
  | _ => "/"

def endsInSlash (path : String) : Bool := path.toList.getLast? == some '/'

/-- Drops single dots, and each name that is followed by two dots together with the dots.  Dots that
would lead beyond the beginning are kept. -/
def normalise (names : List String) : Path :=
  (names.foldl (fun done name =>
    if name = "." then done
    else match done with
      | last :: rest => if name = ".." ∧ last ≠ ".." then rest else name :: done
      | [] => [name]) []).reverse

/-- The shortest writing of a path to a place below a written directory.  At the beginning of a path with
a leading slash two dots lead nowhere. -/
def below (directory : String) (place : Path) : String :=
  let names := normalise (names directory ++ place)
  match leadingSlashes directory with
  | "" => "/".intercalate names
  | slashes => slashes ++ "/".intercalate (names.dropWhile (· = ".."))

def text (path : Path) : String := if path.isEmpty then "." else "/".intercalate path

/-- Whether a path comes no later than another in the order of a listing: names are compared one after
another, and a directory comes before what is in it. -/
def comesFirst : Path → Path → Bool
  | [], _ => true
  | _ :: _, [] => false
  | a :: p, b :: q => if a = b then comesFirst p q else decide (a ≤ b)

def isAbove (path : Path) : Bool := path.all (· = "..")

def parent (path : Path) : Path := if path.isAbove then path ++ [".."] else path.dropLast

/-- Where a written path begins.  One that begins with a slash begins outside the tree. -/
def start (path : String) : Path := if leadingSlashes path = "" then [] else [".."]

def maxNameSize : Nat := 255

def maxSize : Nat := 4095

end Path

structure FileTree where
  directories : List Path := [[]]
  files : List (Path × String) := []
  deriving DecidableEq, Repr

namespace FileTree

def file? (tree : FileTree) (path : Path) : Option String :=
  (tree.files.find? (·.1 == path)).map Prod.snd

def isDirectory (tree : FileTree) (path : Path) : Bool :=
  path.isAbove || tree.directories.contains path

def addDirectory (tree : FileTree) (path : Path) : FileTree :=
  ((List.range (path.length + 1)).map path.take).foldl (fun tree d =>
    if tree.isDirectory d then tree
    else { tree with directories := tree.directories ++ [d] }) tree

def put (tree : FileTree) (path : Path) (text : String) : FileTree :=
  if (tree.file? path).isSome then
    { tree with files := tree.files.map fun (p, t) => if p = path then (p, text) else (p, t) }
  else { tree with files := tree.files ++ [(path, text)] }

def ofFiles (files : List (String × String)) (directories : List String) : FileTree :=
  let tree := directories.foldl (fun tree d => tree.addDirectory (Path.normalise (Path.names d))) {}
  files.foldl (fun tree (path, text) =>
    let path := Path.normalise (Path.names path)
    (tree.addDirectory path.dropLast).put path text) tree

def ownFiles (tree : FileTree) : List (Path × String) :=
  tree.files.filter fun (path, _) => path.head? != some ".."

def enter (tree : FileTree) (here : Path) (name : String) : Except PathFault Path :=
  if tree.isDirectory here then
    if name = "." then .ok here
    else if name = ".." then .ok here.parent
    else if Path.maxNameSize < name.utf8ByteSize then .error .tooLong
    else .ok (here ++ [name])
  else if (tree.file? here).isSome then .error .notDirectory
  else .error .notFound

def follow (tree : FileTree) (path : String) (names : List String) : Except PathFault Path :=
  if path = "" then .error .notFound
  else if Path.maxSize < path.utf8ByteSize then .error .tooLong
  else names.foldlM tree.enter (Path.start path)

/-- Where a written path leads to.  A slash at its end asks for a directory, as a dot after it would. -/
def resolve (tree : FileTree) (path : String) : Except PathFault Path :=
  tree.follow path (Path.names path ++ if Path.endsInSlash path then ["."] else [])

/-- The text of the file that a written path leads to. -/
def read (tree : FileTree) (path : String) : Except PathFault String := do
  let place ← tree.resolve path
  match tree.file? place with
  | some text => .ok text
  | none => .error (if tree.isDirectory place then .isDirectory else .notFound)

/-- Replaces the text of the file that a written path leads to, or makes the file.  A slash at the end
names a directory, whether there is one or not. -/
def write (tree : FileTree) (path text : String) : Except PathFault FileTree := do
  let names := Path.names path
  let above ← tree.follow path names.dropLast
  let place ← names.getLast?.toList.foldlM tree.enter above
  if Path.endsInSlash path || tree.isDirectory place then .error .isDirectory
  else .ok (tree.put place text)

/-- The directories from a written path downward, each before those in it; none if it does not lead to a
directory. -/
def directoriesUnder (tree : FileTree) (path : String) : Path × List Path :=
  match tree.resolve path with
  | .ok root => (root, (tree.directories.filter root.isPrefixOf).mergeSort Path.comesFirst)
  | .error _ => ([], [])

def filesIn (tree : FileTree) (directory : Path) : List String :=
  (tree.files.filterMap fun (path, _) =>
    if path.dropLast = directory then path.getLast? else none).mergeSort fun a b => decide (a ≤ b)

end FileTree
end Revalidation
