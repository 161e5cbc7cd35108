import Revalidation.Generator.FileTree
import Revalidation.Generator.Line
import Revalidation.Text.Literal

/-!
# Running the generator

The generator converts a file, or every file of a directory, to its synchronous form, or checks that
the synchronous form is up to date.  It keeps book of the substitutions that were of use, and the whole
run fails if some never were.
-/

namespace Revalidation.Generator

structure Session where
  tree : FileTree
  used : List Bool := noneUsed
  /-- What has been printed, line by line. -/
  output : List String := []
  deriving DecidableEq, Repr

inductive Stop where
  /-- A line is not up to date. -/
  | mismatch
  /-- Some substitutions were never of use. -/
  | unused (substitutions : List Substitution)
  | path (fault : PathFault)
  deriving DecidableEq, Repr

abbrev Job (α : Type) := ExceptT Stop (StateM Session) α

namespace Job

def print (line : String) : Job Unit := modify fun s => { s with output := s.output ++ [line] }

def read (path : String) : Job String := do
  match (← get).tree.read path with
  | .ok text => return text
  | .error fault => throw (.path fault)

def write (path text : String) : Job Unit := do
  match (← get).tree.write path text with
  | .ok tree => modify fun s => { s with tree := tree }
  | .error fault => throw (.path fault)

def convertLine (line : String) : Job String := do
  modify fun s => { s with used := addUsed s.used line }
  return convert line

end Job

/-- Writes the synchronous form of a file to another one.  That one is emptied before the first is
read, which matters if they are the same. -/
def convertFile (source target : String) : Job Unit := do
  discard (Job.read source)
  Job.write target ""
  let lines ← (Text.readLines (← Job.read source)).mapM Job.convertLine
  Job.write target (String.join lines)

def mismatchReport (source target line expected actual : String) : List String :=
  [s!"unasync mismatch between {Text.literal source} and {Text.literal target}",
    s!"Async code:         {Text.literal line}",
    s!"Expected sync code: {Text.literal expected}",
    s!"Actual sync code:   {Text.literal actual}"]

/-- Checks lines against those of the synchronous code, as far as there are both. -/
def checkLines (source target : String) : List String → List String → Job Unit
  | line :: lines, actual :: rest => do
    let expected ← Job.convertLine line
    if actual ≠ expected then
      (mismatchReport source target line expected actual).forM Job.print
      throw .mismatch
    checkLines source target lines rest
  | _, _ => return

def checkFile (source target : String) : Job Unit := do
  let text ← Job.read source
  let actual ← Job.read target
  checkLines source target (Text.readLines text) (Text.readLines actual)

def sourceEnding : String := ".py"

def isSource (name : String) : Bool := sourceEnding.toList.isSuffixOf name.toList

def processFile (source target : String) (checkOnly : Bool) (place : Path) (name : String) :
    Job Unit := do
  let source := Path.below source (place ++ [name])
  let target := Path.below target (place ++ [name])
  Job.print (source ++ " -> " ++ target)
  if checkOnly then checkFile source target else convertFile source target

def processPlace (source target : String) (checkOnly : Bool) (root directory : Path) :
    Job Unit := do
  let names := (← get).tree.filesIn directory
  (names.filter isSource).forM
    (processFile source target checkOnly (directory.drop root.length))

/-- Converts or checks every source file of a directory and those in it.  A directory that does not
exist has none. -/
def processDirectory (source target : String) (checkOnly : Bool) : Job Unit := do
  let (root, directories) := (← get).tree.directoriesUnder source
  directories.forM (processPlace source target checkOnly root)

def codeDirectories : List (String × String) :=
  [("etagger/_async", "etagger/_sync"), ("tests/_async", "tests/_sync")]

def runAll (arguments : List String) : Job Unit := do
  let checkOnly := arguments.contains "--check"
  codeDirectories.forM fun (source, target) => processDirectory source target checkOnly
  let rest := unused (← get).used
  if !rest.isEmpty then
    Job.print "This SUBS was not used"
    throw (.unused rest)

end Revalidation.Generator
