import Revalidation.Number.Double

/-!
# Decimal fractions in texts

A decimal text with an optional sign, point and exponent, read as the nearest double.
-/

namespace Revalidation

/-- A number in double precision.  The sign of an infinity is not kept. -/
inductive Double where
  | nan
  | infinite
  | finite (negative : Bool) (magnitude : Magnitude)
  deriving DecidableEq, Repr

namespace Double

/-- The double nearest to `digits * 10 ^ exponent`.  Numbers far beyond the range of doubles are
settled by their size alone, without computing the power. -/
def ofScientific (negative : Bool) (digits : Nat) (exponent : Int) : Double :=
  let order : Int := exponent + (Nat.toDigits 10 digits).length
  if digits = 0 ∨ order < -330 then .finite negative ⟨0, 0⟩
  else if 310 < order then .infinite
  else
    let magnitude :=
      if 0 ≤ exponent then Magnitude.nearest (digits * Nat.pow 10 exponent.toNat) 1
      else Magnitude.nearest digits (Nat.pow 10 (-exponent).toNat)
    if magnitude.isInfinite then .infinite else .finite negative magnitude

private def natOf (digits : List Char) : Nat :=
  digits.foldl (fun value c => 10 * value + (c.toNat - '0'.toNat)) 0

private def readExponent : List Char → Option Int
  | '-' :: digits => if digits.isEmpty || !digits.all Char.isDigit then none else some (-(natOf digits : Int))
  | '+' :: digits => if digits.isEmpty || !digits.all Char.isDigit then none else some (natOf digits)
  | digits => if digits.isEmpty || !digits.all Char.isDigit then none else some (natOf digits)

private def readUnsigned (negative : Bool) (text : List Char) : Option Double := do
  let whole := text.takeWhile Char.isDigit
  let afterWhole := text.dropWhile Char.isDigit
  let (fraction, rest) := match afterWhole with
    | '.' :: more => (more.takeWhile Char.isDigit, more.dropWhile Char.isDigit)
    | _ => ([], afterWhole)
  if whole.isEmpty && fraction.isEmpty then none
  let exponent ← match rest with
    | [] => some 0
    | c :: more => if c = 'e' || c = 'E' then readExponent more else none
  some (ofScientific negative (natOf (whole ++ fraction)) (exponent - fraction.length))

def read (s : String) : Option Double :=
  let (negative, text) := match s.toList with
    | '-' :: rest => (true, rest)
    | '+' :: rest => (false, rest)
    | text => (false, text)
  match String.ofList (text.map Char.toLower) with
  | "nan" => some .nan
  | "inf" | "infinity" => some .infinite
  | _ => readUnsigned negative text

end Double
end Revalidation
