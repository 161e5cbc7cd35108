/-!
# Exchange contexts

The flags that one exchange shares between the application, the filter and the response buffer.
-/

namespace Revalidation

structure Context where
  /-- Writes bypass the response buffer, and no entity tag is made. -/
  cachingDisabled : Bool := false
  /-- The handler suspended the exchange, and evaluation is left to a later dispatch. -/
  asyncStarted : Bool := false
  /-- The current dispatch goes on with an exchange that was suspended before. -/
  asyncDispatch : Bool := false
  deriving DecidableEq, Repr

namespace Context

inductive Change where
  | disableCaching
  | startAsync
  | beginAsyncDispatch
  deriving DecidableEq, Repr

def apply (context : Context) : Change → Context
  | .disableCaching => { context with cachingDisabled := true }
  | .startAsync => { context with asyncStarted := true }
  | .beginAsyncDispatch => { context with asyncStarted := false, asyncDispatch := true }

def flagText (flag : Bool) : String := if flag then "True" else "False"

def display (context : Context) : String :=
  s!"ExchangeContext(content_caching_disabled={flagText context.cachingDisabled}, async_started={flagText context.asyncStarted}, async_dispatch={flagText context.asyncDispatch})"

end Context
end Revalidation
