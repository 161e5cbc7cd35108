import Revalidation.Filter.Dispatch
import Revalidation.Wsgi.Application
import Revalidation.Wsgi.Environ

/-!
# Middleware for the synchronous gateway interface

Middlewares lie around an application.  The outermost one that sees a request buffers and tags the
response; those further in find the exchange context in the environment and pass the request through.
A response whose caching was disabled is streamed: the server pulls the rest of the application's
iterable.
-/

namespace Revalidation.Wsgi

structure Streaming where
  iterable : Iterable
  /-- The items that were not pulled yet. -/
  rest : List Item
  /-- The number of items that were. -/
  pulled : Nat
  starter : Starter
  response : Response
  deriving DecidableEq, Repr

inductive Served where
  /-- The application's own iterable. -/
  | direct (iterable : Iterable) (starter : Starter)
  /-- The chunks of a response that is complete. -/
  | body (chunks : List Bytes)
  | stream (streaming : Streaming)
  deriving DecidableEq, Repr

def call (app : Application) (starter : Starter) : Nat → Action Iterable
  | 0 => do
    run starter app.steps
    return app.result
  | depth + 1 => do
    Action.log .passingThrough
    call app starter depth

/-- Writes the chunks of an iterable to a response, up to the first one after which caching is
disabled.  Gives the items that are left then and the number of those pulled, and nothing if the
iterable came to its end. -/
def collect (iterable : Iterable) (starter : Starter) (response : Response) :
    List Item → Nat → Action (Option (List Item × Nat))
  | [], pulled => do
    iterable.exhaust starter pulled
    return none
  | item :: rest, pulled => do
    let chunk ← item.pull starter pulled
    if !chunk.isEmpty then response.write chunk
    if (← get).context.cachingDisabled then return some (rest, pulled + 1)
    collect iterable starter response rest (pulled + 1)

/-- Runs the application on a buffered response.  Its iterable is closed unless the rest of it is to
be streamed, or reading it could not even begin. -/
def answer (app : Starter → Action Iterable) (response : Response) :
    Action (Option Streaming) := do
  let starter := Starter.response response
  let iterable ← app starter
  iterable.begin starter
  let left ← (collect iterable starter response iterable.items 0).onFault fun _ =>
    iterable.close starter
  match left with
  | some (rest, pulled) => return some ⟨iterable, rest, pulled, starter, response⟩
  | none =>
    iterable.close starter
    if (← get).context.cachingDisabled then response.flush
    return none

def handle (filter : EtagFilter) (request : Request) (app : Starter → Action Iterable) :
    Action Served := do
  modify fun x => { x with context := {}, published := .attached }
  Action.log (.incoming request.method request.url)
  let attempt : Action (Option Streaming) := do
    let streaming ← filter.dispatch .sync request [] (answer app)
    if streaming.isNone then Transport.flush
    return streaming
  let streaming ← attempt.onFault (Action.logFailure request.method request.url)
  match streaming with
  | some streaming =>
    Action.log (.streaming request.method request.url)
    return .stream streaming
  | none =>
    let t := (← get).transport
    Action.log (.processed request.method request.url t.status)
    return .body t.chunks

def serve (filter : EtagFilter) (environ : Environ) (app : Application) (depth : Nat) :
    Action Served := do
  match depth, (← get).published with
  | inner + 1, .absent =>
    handle filter environ.toRequest fun starter => call app starter inner
  | _, _ => return .direct (← call app .server depth) .server

def freshExchange (context : Context) (published : Published) (server : Server) :
    Exchange :=
  { transport := .wsgi, context := context, published := published, server := server }

end Revalidation.Wsgi
