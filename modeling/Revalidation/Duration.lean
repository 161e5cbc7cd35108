import Revalidation.Fault
import Revalidation.Number.Decimal

/-!
# Durations

A duration is a whole number of seconds, a number in double precision, or a span of time in
microseconds.  Durations are used as whole seconds, with any fraction dropped.
-/

namespace Revalidation

/-- A signed span of time, of less than a thousand million days either way. -/
structure Span where
  microseconds : Int
  lower_le : -86399999913600000000 ≤ microseconds
  lt_upper : microseconds < 86400000000000000000

namespace Span

def dayLength : Int := 86400000000

/-- The span of the given days, seconds and microseconds, which may be of any size and sign as long
as the whole is in range. -/
def ofParts (days seconds microseconds : Int) : Except Fault Span :=
  let total := days * dayLength + seconds * 1000000 + microseconds
  if h : -86399999913600000000 ≤ total ∧ total < 86400000000000000000 then
    .ok ⟨total, h.1, h.2⟩
  else .error (.spanOutOfRange (Int.fdiv total dayLength))

/-- The span in whole seconds.  The number of seconds is first rounded to double precision, so a
very long span may gain a fraction of a second before the rest is dropped. -/
def toSeconds (span : Span) : Int :=
  let whole : Int := (Magnitude.nearest span.microseconds.natAbs 1000000).truncate
  if span.microseconds < 0 then -whole else whole

end Span

inductive Duration where
  | seconds (n : Int)
  | float (x : Double)
  | span (s : Span)

namespace Duration

/-- The duration in whole seconds, rounded toward zero.  What is no number has none. -/
def toSeconds : Duration → Except Fault Int
  | seconds n => .ok n
  | float .nan => .error .nanDuration
  | float .infinite => .error .infiniteDuration
  | float (.finite negative magnitude) =>
    .ok (if negative then -(magnitude.truncate : Int) else magnitude.truncate)
  | span s => .ok s.toSeconds

end Duration
end Revalidation
