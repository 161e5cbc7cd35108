/-!
# Quoted strings in header fields

A quoted string ends at the first double quote that is not escaped.  A backslash escapes whatever
character follows it.
-/

namespace Revalidation.QuotedString

/-- Reads the inside of a quoted string up to its closing quote: the text without backslashes, and the
number of characters read, the quote included.  None if the quote is missing. -/
def readInside : List Char → Option (List Char × Nat)
  | [] => none
  | '"' :: _ => some ([], 1)
  | ['\\'] => none
  | '\\' :: c :: rest => (readInside rest).map fun (text, count) => (c :: text, count + 2)
  | c :: rest => (readInside rest).map fun (text, count) => (c :: text, count + 1)

/-- Reads the quoted string that a text begins with: the number of characters it takes and its text.
The first character is taken for the opening quote. -/
def unquote (raw : String) : Option (Nat × String) :=
  (readInside (raw.toList.drop 1)).map fun (text, count) => (count + 1, String.ofList text)

end Revalidation.QuotedString
