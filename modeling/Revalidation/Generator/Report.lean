import Revalidation.Generator.Run

/-!
# Reports of the generator

The listing of substitutions that were never of use, and the exit status of a run.
-/

namespace Revalidation.Generator

def substitutionText (s : Substitution) : String :=
  "(" ++ Text.literal s.phrase ++ ", " ++ Text.literal s.replacement ++ ")"

def pageWidth : Nat := 80

/-- The listing of substitutions: on one line if the page is wide enough, and otherwise one to a
line. -/
def listing (substitutions : List Substitution) : String :=
  let texts := substitutions.map substitutionText
  let flat := "[" ++ ", ".intercalate texts ++ "]"
  if flat.length ≤ pageWidth then flat else "[" ++ ",\n ".intercalate texts ++ "]"

def printed (result : Except Stop Unit) (session : Session) : List String :=
  match result with
  | .error (.unused rest) => session.output ++ [listing rest]
  | _ => session.output

def exitStatus (result : Except Stop Unit) : Nat :=
  match result with
  | .ok _ => 0
  | .error _ => 1

def pathReport (result : Except Stop Unit) : Option String :=
  match result with
  | .error (.path .notFound) => some "FileNotFoundError"
  | .error (.path .isDirectory) => some "IsADirectoryError"
  | .error (.path .notDirectory) => some "NotADirectoryError"
  | .error (.path .tooLong) => some "OSError"
  | _ => none

end Revalidation.Generator
