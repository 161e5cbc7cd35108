import Revalidation.Text.Blank
import Revalidation.Text.Digit

/-!
# Integers in texts

An integer is written with an optional sign and decimal digits of any scripts, with at most a single
low line between two digits and blanks around the whole.  Very long numbers are refused, so that
reading a hostile header costs little.
-/

namespace Revalidation

inductive IntegerFault where
  | malformed
  /-- The digits are well-formed but there are too many of them. -/
  | tooManyDigits (count : Nat)
  deriving DecidableEq, Repr

namespace Integer

def maxDigits : Nat := 4300

def isDigitOrBreak (c : Char) : Bool := (Text.digitValue? c).isSome || c == '_'

/-- Whether the rest of a run, right after a digit or not, has its low lines between digits only, one
at a time. -/
def wellSpacedFrom (afterDigit : Bool) : List Char → Bool
  | [] => afterDigit
  | c :: rest => if c = '_' then afterDigit && wellSpacedFrom false rest else wellSpacedFrom true rest

/-- Whether a run of digits and low lines begins and ends with a digit and never has two low lines
side by side. -/
def wellSpaced (run : List Char) : Bool := wellSpacedFrom false run

def ofDigits (digits : List Nat) : Nat := digits.foldl (fun value d => 10 * value + d) 0

def splitSign : List Char → Bool × List Char
  | '-' :: rest => (true, rest)
  | '+' :: rest => (false, rest)
  | text => (false, text)

def readMagnitude (text : List Char) : Except IntegerFault Nat :=
  let run := text.takeWhile isDigitOrBreak
  let digits := run.filterMap Text.digitValue?
  if !wellSpaced run then .error .malformed
  else if maxDigits < digits.length then .error (.tooManyDigits digits.length)
  else if (text.dropWhile isDigitOrBreak).all Text.isBlank then .ok (ofDigits digits)
  else .error .malformed

def read (s : String) : Except IntegerFault Int :=
  let (negative, text) := splitSign (s.toList.dropWhile Text.isBlank)
  (readMagnitude text).map fun n => if negative then -(n : Int) else n

end Integer
end Revalidation
