import Revalidation.Asgi.Application
import Revalidation.Filter.Dispatch

/-!
# Middleware for the asynchronous gateway interface

Middlewares lie around an application.  The outermost one that sees a request buffers and tags the
response; those further in find the exchange context in the scope and pass the request through.
-/

namespace Revalidation.Asgi

/-- Runs the application on a buffered response.  If it disabled caching, the response is committed
even when it has no body. -/
def answer (app : Receiver → Action Unit) (response : Response) : Action Unit := do
  app (.response response)
  if (← get).context.cachingDisabled then response.flush

def handle (filter : EtagFilter) (request : Request) (app : Receiver → Action Unit) :
    Action Unit := do
  modify fun x => { x with context := {}, published := .attached }
  Action.log (.incoming request.method request.url)
  let attempt : Action Unit := do
    filter.dispatch .async request [] (answer app)
    Transport.close
  attempt.onFault (Action.logFailure request.method request.url)
  Action.log (.processed request.method request.url (← get).transport.status)

def serve (filter : EtagFilter) (scope : Scope) (app : Application) :
    Nat → Receiver → Action Unit
  | 0, receiver => run receiver app
  | depth + 1, receiver => do
    match scope.type with
    | none => throw (.missingKey "type")
    | some type =>
      if type ≠ "http" then
        Action.log (.skippedType type)
        serve filter scope app depth receiver
      else if (← get).published ≠ .absent then
        Action.log .passingThrough
        serve filter scope app depth receiver
      else handle filter scope.toRequest (serve filter scope app depth)

def freshExchange (context : Context) (published : Published) (server : Server) :
    Exchange :=
  { transport := .asgi, context := context, published := published, server := server }

end Revalidation.Asgi
