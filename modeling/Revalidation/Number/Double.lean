/-!
# Double precision

The numbers with a significand of 53 bits, kept exactly.  A quotient is rounded to the nearest of
them, and to the one with the even significand when two are equally near.
-/

namespace Revalidation

structure Magnitude where
  significand : Nat
  exponent : Int
  deriving DecidableEq, Repr

namespace Magnitude

/-- The nearest whole number to a quotient, the even one of two equally near. -/
def roundQuotient (num den : Nat) : Nat :=
  let q := num / den
  let r := num % den
  if den < 2 * r ∨ (2 * r = den ∧ q % 2 = 1) then q + 1 else q

def scale (num den : Nat) (exponent : Int) : Nat × Nat :=
  if 0 ≤ exponent then (num, den * Nat.pow 2 exponent.toNat)
  else (num * Nat.pow 2 (-exponent).toNat, den)

/-- The exponent at which a positive quotient has a significand of 53 bits, or the smallest one. -/
def exponentFor (num den : Nat) : Int :=
  let guess : Int := (num.log2 : Int) - den.log2 - 52
  let (n, d) := scale num den guess
  max (-1074) (if n < Nat.pow 2 52 * d then guess - 1 else guess)

/-- The double nearest to a quotient, were there no largest double. -/
def nearest (num den : Nat) : Magnitude :=
  if num = 0 then ⟨0, 0⟩
  else
    let exponent := exponentFor num den
    let (n, d) := scale num den exponent
    ⟨roundQuotient n d, exponent⟩

def isInfinite (x : Magnitude) : Bool :=
  971 < x.exponent || (x.exponent == 971 && Nat.pow 2 53 ≤ x.significand)

def truncate (x : Magnitude) : Nat :=
  if 0 ≤ x.exponent then x.significand * Nat.pow 2 x.exponent.toNat
  else x.significand / Nat.pow 2 (-x.exponent).toNat

end Magnitude
end Revalidation
