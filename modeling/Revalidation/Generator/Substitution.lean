import Revalidation.Text.WordChar

/-!
# Word substitutions

A substitution replaces a phrase wherever it stands by itself: at either end it must meet a word
boundary or the end of the text.  The occurrences are searched from left to right and do not overlap,
and boundaries are those of the text before the substitution.
-/

namespace Revalidation

/-- A phrase and what takes its place.  A full stop in the phrase stands for any character on the
line. -/
structure Substitution where
  phrase : String
  replacement : String
  deriving DecidableEq, Repr

namespace Substitution

def accepts (expected c : Char) : Bool := if expected = '.' then c != '\n' else c == expected

def isBoundary (a b : Char) : Bool := Text.isWordChar a != Text.isWordChar b

/-- Whether a phrase may end after the character `last` and before the rest of the text.  A line feed
at the very end counts as the end. -/
def mayEnd (last : Char) : List Char → Bool
  | [] => true
  | c :: rest => (c = '\n' && rest.isEmpty) || isBoundary last c

/-- Whether a phrase begins with a character of the text and goes on with the text after it up to an
allowed end. -/
def matchesFrom (last : Char) : List Char → List Char → Bool
  | [], text => mayEnd last text
  | _ :: _, [] => false
  | expected :: phrase, c :: text => accepts expected c && matchesFrom c phrase text

/-- Whether a phrase stands by itself at the beginning of a text that follows the character
`before`, if there is one. -/
def matchesAt (before : Option Char) : List Char → List Char → Bool
  | expected :: phrase, c :: text =>
    (match before with
      | none => true
      | some b => isBoundary b c)
    && accepts expected c && matchesFrom c phrase text
  | _, _ => false

/-- Replaces the phrase in a text that follows `before`, after passing over `skip` characters of an
occurrence that was replaced already. -/
def replaceFrom (phrase replacement : List Char) (skip : Nat) (before : Option Char) :
    List Char → List Char
  | [] => []
  | c :: text =>
    match skip with
    | n + 1 => replaceFrom phrase replacement n (some c) text
    | 0 =>
      if matchesAt before phrase (c :: text) then
        replacement ++ replaceFrom phrase replacement (phrase.length - 1) (some c) text
      else c :: replaceFrom phrase replacement 0 (some c) text

def apply (s : Substitution) (text : String) : String :=
  String.ofList (replaceFrom s.phrase.toList s.replacement.toList 0 none text.toList)

end Substitution
end Revalidation
