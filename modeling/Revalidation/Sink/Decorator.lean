import Revalidation.Context.Basic
import Revalidation.Text.Charset
import Revalidation.Text.Lower

/-!
# Decorators

The layers that can lie around a transport.  A forwarding layer passes everything on.  A buffer holds
the status, the body and the content length back until they are copied to the layer below.
-/

namespace Revalidation

/-- A layer that keeps the body in memory. -/
structure Buffer where
  /-- Writes bypass the buffer when caching is disabled for the exchange. -/
  forRequest : Bool
  content : Bytes := []
  status : Option Int := none
  /-- The body has been copied to the layer below, and later writes go straight there. -/
  copied : Bool := false
  /-- The content length the handler gave. -/
  contentLength : Option String := none
  deriving DecidableEq, Repr

inductive Decorator where
  | forward
  | buffer (buffer : Buffer)
  deriving DecidableEq, Repr

namespace Buffer

/-- Whether writes go straight to the layer below. -/
def forwarding (b : Buffer) (context : Context) : Bool :=
  b.copied || (b.forRequest && context.cachingDisabled)

/-- Whether a header is held back: only the content length is, as long as the body is. -/
def holds (b : Buffer) (context : Context) (name : String) : Bool :=
  !b.forwarding context && Text.lower name == "content-length"

end Buffer
end Revalidation
