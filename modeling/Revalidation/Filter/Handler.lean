import Revalidation.Filter.Dispatch
import Revalidation.Sink.Call

/-!
# Handlers

A handler is a script of steps on the response it was given.  Steps can dispatch the same exchange
again, with handlers of their own.
-/

namespace Revalidation

inductive Wrapping where
  | none
  | forward
  /-- A buffer that takes no notice of disabled caching. -/
  | buffer
  deriving DecidableEq, Repr

inductive Question where
  | status
  | committed
  | content
  deriving DecidableEq, Repr

inductive HandlerStep where
  | call (call : Call)
  /-- A call on the transport itself. -/
  | callTransport (call : Call)
  | changeContext (change : Context.Change)
  /-- Keeps the response for later. -/
  | save
  | ask (question : Question)
  /-- Dispatches the exchange again on the same response. -/
  | dispatch (wrapping : Wrapping) (steps : List HandlerStep)
  | fail (kind : RaisedKind) (text : String)
  /-- Takes a step and catches its fault. -/
  | attempt (step : HandlerStep)

namespace Handler

/-- Notes the answer to a question about a response.  Only a buffer has content to show. -/
def ask (response : Response) (question : Question) : Action Unit := do
  let x ← get
  match question with
  | .status => Action.note (.observed (.status (x.status response)))
  | .committed => Action.note (.observed (.committed x.transport.committed))
  | .content =>
    if x.isBuffer response then Action.note (.observed (.content (x.content response)))

def wrap (wrapping : Wrapping) (response : Response) : Action Response := do
  match wrapping with
  | .none => return response
  | .forward =>
    let (wrapped, x) := (← get).decorate .forward response
    set x
    return wrapped
  | .buffer =>
    let (wrapped, x) := (← get).decorate (.buffer { forRequest := false }) response
    set x
    return wrapped

mutual

def runStep (filter : EtagFilter) (style : CallStyle) (request : Request) (response : Response) :
    HandlerStep → Action Unit
  | .call call => response.perform call
  | .callTransport call => Response.perform [] call
  | .changeContext change => modify (·.changeContext change)
  | .save => modify fun x => { x with saved := x.saved ++ [response] }
  | .ask question => ask response question
  | .dispatch wrapping steps => do
    let wrapped ← wrap wrapping response
    filter.dispatch style request wrapped fun inner => run filter style request inner steps
  | .fail kind text => throw (.raised kind text)
  | .attempt step => Action.attempt (runStep filter style request response step)

def run (filter : EtagFilter) (style : CallStyle) (request : Request) (response : Response) :
    List HandlerStep → Action Unit
  | [] => return
  | step :: rest => do
    runStep filter style request response step
    run filter style request response rest

end

def dispatch (filter : EtagFilter) (style : CallStyle) (request : Request) (response : Response)
    (steps : List HandlerStep) : Action Unit :=
  filter.dispatch style request response fun inner => run filter style request inner steps

end Handler
end Revalidation
