import Revalidation.Filter.Basic
import Revalidation.Sink.Response

/-!
# Dispatching an exchange through a filter

The handler runs on a buffered response.  Afterwards the filter tags the buffered body, and either
drops it because the request names the same tag or copies it to the layer below.
-/

namespace Revalidation

def notModifiedStatus : Int := 304

namespace EtagFilter

/-- Tags the response at a buffer that is not committed: sends nothing but the status if the request
names the same tag, and the body otherwise. -/
def applyTag (filter : EtagFilter) (request : Request) (i : Nat) (below : Response) :
    Action Unit := do
  let response : Response := i :: below
  let tag := filter.tag ((← get).content response)
  modify (·.setHeader below "ETag" tag)
  let received := request.headers.get? "If-None-Match"
  if some tag = received then
    Action.log (.notModified tag)
    modify (·.setStatus below notModifiedStatus)
    modify (·.resetBuffer response)
  else
    Action.log (.modified tag received)
    response.copyBody true

def evaluate (filter : EtagFilter) (request : Request) (i : Nat) (below : Response) :
    Action Unit := do
  let response : Response := i :: below
  let x ← get
  let status := x.status response
  if x.transport.committed then
    Action.log (.alreadyCommitted request.url)
    response.copyBody true
  else if !filter.isEligible request.method status (x.lookup response "Cache-Control") then
    Action.log (.notEligible status request.url)
    response.copyBody true
  else filter.applyTag request i below

def update (filter : EtagFilter) (style : CallStyle) (request : Request) (response : Response) :
    Action Unit := do
  match (← get).findBuffer response with
  | some (i :: below) => filter.evaluate request i below
  | _ => throw (.bufferNotFound style)

/-- The response that the handler gets: the given one within a new buffer, unless it is a buffer
already or the exchange is resumed after a suspension. -/
def prepare (request : Request) (response : Response) : Action Response := do
  let x ← get
  if !x.context.asyncDispatch && !x.isBuffer response then
    Action.log (.buffering request.method request.url)
    let (buffered, x) := (← get).decorate (.buffer { forRequest := true }) response
    set x
    return buffered
  else
    Action.log (.alreadyBuffered request.method request.url)
    return response

/-- Runs a handler for an exchange and evaluates its response, unless the handler suspended the
exchange or disabled caching. -/
def dispatch {α : Type} (filter : EtagFilter) (style : CallStyle) (request : Request)
    (response : Response) (handler : Response → Action α) : Action α := do
  let prepared ← prepare request response
  let result ← handler prepared
  let x ← get
  if x.context.asyncStarted then
    Action.log (.deferred request.url)
  else if x.context.cachingDisabled then
    Action.log (.cachingDisabled request.url)
  else filter.update style request prepared
  return result

end EtagFilter
end Revalidation
