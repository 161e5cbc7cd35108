import Revalidation.Generator.Report

/-!
# Command line of the generator

Converts the asynchronous code below the current directory to its synchronous form, or checks with
`--check` that the synchronous code is up to date.
-/

namespace Revalidation.CommandLine

/-- The source files below a directory, as paths from the root, with all directories on the way. -/
partial def load (tree : FileTree) (path : Path) : IO FileTree := do
  let root ← IO.currentDir
  let directory := path.foldl (fun here name => here / name) root
  if !(← directory.isDir) then return tree
  let mut tree := tree.addDirectory path
  for entry in ← directory.readDir do
    if ← entry.path.isDir then tree ← load tree (path ++ [entry.fileName])
    else if Generator.isSource entry.fileName then
      tree := tree.put (path ++ [entry.fileName]) (← IO.FS.readFile entry.path)
  return tree

def loadAll : IO FileTree := do
  let mut tree : FileTree := {}
  for (source, target) in Generator.codeDirectories do
    tree ← load tree (Path.names source)
    tree ← load tree (Path.names target)
  return tree

def save (before after : FileTree) : IO Unit := do
  for (path, text) in after.files do
    if before.file? path ≠ some text then IO.FS.writeFile (Path.text path) text

def run (arguments : List String) : IO UInt32 := do
  let tree ← loadAll
  let (result, session) := (Generator.runAll arguments).run.run { tree := tree }
  save tree session.tree
  (Generator.printed result session).forM fun line => IO.println line
  if let some report := Generator.pathReport result then IO.eprintln report
  return UInt32.ofNat (Generator.exitStatus result)

end Revalidation.CommandLine

def main (arguments : List String) : IO UInt32 := Revalidation.CommandLine.run arguments
