/-!
# Lines of a text

A text read from a file has its line ends normalised to line feeds and is then cut after each of
them.  Joining the lines gives the normalised text back.
-/

namespace Revalidation.Text

/-- Replaces a carriage return, with a line feed right after it or not, by a line feed. -/
def normaliseNewlines : List Char → List Char
  | [] => []
  | '\r' :: '\n' :: rest => '\n' :: normaliseNewlines rest
  | '\r' :: rest => '\n' :: normaliseNewlines rest
  | c :: rest => c :: normaliseNewlines rest

/-- Cuts a text after each line feed; the last line has none if the text does not end in one. -/
def splitLines : List Char → List (List Char)
  | [] => []
  | c :: rest =>
    if c = '\n' then [c] :: splitLines rest
    else match splitLines rest with
      | [] => [[c]]
      | line :: lines => (c :: line) :: lines

def readLines (s : String) : List String :=
  (splitLines (normaliseNewlines s.toList)).map String.ofList

end Revalidation.Text
