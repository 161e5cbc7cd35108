import Revalidation.Text.Lower

/-!
# Elements of a Cache-Control field

A received field is read one character at a time into elements, each a name and perhaps an argument,
which is a token or a quoted string.  Nothing is refused: characters that can start no element are
skipped, and reading ends without a further element inside a quoted string that is never closed.
-/

namespace Revalidation

/-- An element of a received field.  Names are in lower case and arguments unquoted. -/
structure Element where
  name : String
  argument : Option String
  deriving DecidableEq, Repr

namespace Element

def isTokenChar (c : Char) : Bool :=
  c.isAlphanum || "!#$%&'*+-.^_`|~".toList.contains c

def isSpacing (c : Char) : Bool := c = ' ' || c = '\t'

/-- What has been read of the current element.  Names and arguments are kept with the last character
first. -/
inductive Progress where
  | between
  | inName (name : List Char)
  | afterName (name : List Char)
  | afterEquals (name : List Char)
  | inToken (name argument : List Char)
  | inQuotes (name argument : List Char)
  | afterBackslash (name argument : List Char)
  deriving DecidableEq, Repr

/-- The element with the given name and argument, both with the last character first. -/
def ofReversed (name : List Char) (argument : Option (List Char)) : Element :=
  ⟨Text.lower (String.ofList name.reverse), argument.map fun a => String.ofList a.reverse⟩

namespace Progress

def start (c : Char) : Progress := if isTokenChar c then inName [c] else between

/-- The progress after a character that follows a name: only spacing and an equals sign go on with the
same element. -/
def stepAfterName (name : List Char) (c : Char) : Progress × Option Element :=
  if isSpacing c then (afterName name, none)
  else if c = '=' then (afterEquals name, none)
  else (start c, some (ofReversed name none))

def step : Progress → Char → Progress × Option Element
  | between, c => (start c, none)
  | inName name, c =>
    if isTokenChar c then (inName (c :: name), none) else stepAfterName name c
  | afterName name, c => stepAfterName name c
  | afterEquals name, c =>
    if isSpacing c then (afterEquals name, none)
    else if c = '"' then (inQuotes name [], none)
    else if c = ',' then (between, some (ofReversed name (some [])))
    else (inToken name [c], none)
  | inToken name argument, c =>
    if isSpacing c || c = ',' then (between, some (ofReversed name (some argument)))
    else (inToken name (c :: argument), none)
  | inQuotes name argument, c =>
    if c = '"' then (between, some (ofReversed name (some argument)))
    else if c = '\\' then (afterBackslash name argument, none)
    else (inQuotes name (c :: argument), none)
  | afterBackslash name argument, c => (inQuotes name (c :: argument), none)

def finish : Progress → Option Element
  | between => none
  | inName name => some (ofReversed name none)
  | afterName name => some (ofReversed name none)
  | afterEquals name => some (ofReversed name (some []))
  | inToken name argument => some (ofReversed name (some argument))
  | inQuotes _ _ => none
  | afterBackslash _ _ => none

def isClosed : Progress → Bool
  | inQuotes _ _ => false
  | afterBackslash _ _ => false
  | _ => true

def run (progress : Progress) (text : List Char) : Progress :=
  text.foldl (fun p c => (p.step c).1) progress

def elements : Progress → List Char → List Element
  | progress, [] => progress.finish.toList
  | progress, c :: rest =>
    (progress.step c).2.toList ++ elements (progress.step c).1 rest

end Progress

def readAll (value : String) : List Element := Progress.between.elements value.toList

/-- Whether a field is read to its end, that is, leaves no quoted string open. -/
def isComplete (value : String) : Bool := (Progress.between.run value.toList).isClosed

end Element
end Revalidation
