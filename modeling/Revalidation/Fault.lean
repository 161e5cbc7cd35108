import Revalidation.Number.Integer
import Revalidation.Text.Charset

/-!
# Faults

Everything that can stop an operation, by cause.  A fault that an application or handler raises by
itself carries its own text; the text of all others is fixed by the cause.
-/

namespace Revalidation

inductive CallStyle where
  | sync
  | async
  deriving DecidableEq, Repr

/-- The kinds of fault that applications and handlers raise by themselves.  The last three are no
errors: something outside asks the operation to stop. -/
inductive RaisedKind where
  | value
  | runtime
  | os
  | key
  | cancelled
  | interrupt
  | exit
  deriving DecidableEq, Repr

def RaisedKind.isError : RaisedKind → Bool
  | cancelled | interrupt | exit => false
  | _ => true

inductive Fault where
  /-- Raised by an application or a handler. -/
  | raised (kind : RaisedKind) (text : String)
  /-- A sink refused a write. -/
  | sinkFailed
  /-- The server refused a message. -/
  | sendFailed
  /-- The server refused to start the response. -/
  | startFailed
  /-- The application's iterable could not be closed. -/
  | closeFailed
  /-- A header or a message field is missing. -/
  | missingKey (key : String)
  /-- A header was to be taken from an empty collection. -/
  | noHeaders
  /-- No layer of the response buffers the body. -/
  | bufferNotFound (style : CallStyle)
  | encoding (cause : EncodingFault)
  | integer (text : String) (cause : IntegerFault)
  /-- A value of the named type carries no exchange context. -/
  | noContext (typeName : String)
  | nanDuration
  | infiniteDuration
  /-- A time span of more whole days than a span can have. -/
  | spanOutOfRange (days : Int)
  /-- Directives were given both as a value and one by one. -/
  | directivesTwice
  /-- An application wrote before it started its response. -/
  | noWriter
  deriving DecidableEq, Repr

def Fault.isError : Fault → Bool
  | raised kind _ => kind.isError
  | _ => true

def CallStyle.bufferName : CallStyle → String
  | .sync => "ContentCachingResponse"
  | .async => "AsyncContentCachingResponse"

/-- The report of a text that is no integer.  Of a long text only the beginning is shown. -/
def IntegerFault.message (text : String) : IntegerFault → String
  | .malformed =>
    let shown := String.ofList ((Text.literal text).toList.take 200)
    s!"invalid literal for int() with base 10: {shown}"
  | .tooManyDigits count =>
    s!"Exceeds the limit ({Integer.maxDigits} digits) for integer string conversion: value has {count} digits; use sys.set_int_max_str_digits() to increase the limit"

/-- The report of a number of days that a span cannot have.  Numbers that do not fit into 32 bits are
not shown. -/
def spanReport (days : Int) : String :=
  if -2147483648 ≤ days ∧ days ≤ 2147483647 then
    s!"days={days}; must have magnitude <= 999999999"
  else "Python int too large to convert to C int"

def Fault.message : Fault → String
  | raised .key text => Text.literal text
  | raised _ text => text
  | sinkFailed => "sink failed"
  | sendFailed => "send failed"
  | startFailed => "start failed"
  | closeFailed => "close failed"
  | missingKey key => Text.literal key
  | noHeaders => ""
  | bufferNotFound style => s!"{style.bufferName} not found"
  | encoding cause => cause.message
  | integer text cause => cause.message text
  | noContext typeName => s!"Cannot find an exchange context on {Text.literal typeName}"
  | nanDuration => "cannot convert float NaN to integer"
  | infiniteDuration => "cannot convert float infinity to integer"
  | spanOutOfRange days => spanReport days
  | directivesTwice =>
    "Pass either a CacheControl value or directive keyword arguments, not both."
  | noWriter => "'NoneType' object is not callable"

end Revalidation
