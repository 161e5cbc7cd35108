import Revalidation.Journal
import Revalidation.Sink.Decorator
import Revalidation.Sink.Transport

/-!
# Exchanges

The state of one exchange of request and response, and actions on it.  An action may stop with a
fault; what it did before then stays done.
-/

namespace Revalidation

/-- A response as a handler sees it: the numbers of the decorators it consists of, from the outermost
one inward.  Without decorators it is the transport itself. -/
abbrev Response := List Nat

inductive Published where
  | absent
  /-- A value that is no context, as it was encoded. -/
  | foreign (value : String)
  /-- The context of the exchange. -/
  | attached
  deriving DecidableEq, Repr

inductive Writer where
  | server
  | response (response : Response)
  deriving DecidableEq, Repr

structure Server where
  /-- The number of messages sent to it, refused ones included. -/
  sends : Nat := 0
  /-- The numbers of the messages it refuses, counted from one. -/
  failing : List Nat := []
  /-- It refuses to start the response. -/
  refusesStart : Bool := false
  /-- The messages that wait for the application. -/
  incoming : List Message := []
  deriving DecidableEq, Repr

structure Exchange where
  transport : Transport
  /-- All decorators made so far; a response names them by their position. -/
  decorators : List Decorator := []
  context : Context := {}
  published : Published := .absent
  server : Server := {}
  /-- The means of writing the application was given last. -/
  writer : Option Writer := none
  /-- The responses that handlers kept for later. -/
  saved : List Response := []
  journal : List Entry := []

abbrev Action (α : Type) := ExceptT Fault (StateM Exchange) α

namespace Exchange

def note (x : Exchange) (entry : Entry) : Exchange := { x with journal := x.journal ++ [entry] }

def log (x : Exchange) (event : LogEvent) : Exchange := x.note (.logged event)

def logFailure (x : Exchange) (method url : String) (fault : Fault) : Exchange :=
  if fault.isError then x.log (.failed method url fault) else x

def logged (x : Exchange) : List LogEvent := x.journal.filterMap Entry.event?

def sent (x : Exchange) : List Message := x.journal.filterMap Entry.message?

def starts (x : Exchange) : List (String × List (String × String)) :=
  x.journal.filterMap Entry.start?

def decorator (x : Exchange) (i : Nat) : Decorator := x.decorators.getD i .forward

def putBuffer (x : Exchange) (i : Nat) (b : Buffer) : Exchange :=
  { x with decorators := x.decorators.set i (.buffer b) }

def decorate (x : Exchange) (d : Decorator) (response : Response) : Response × Exchange :=
  (x.decorators.length :: response, { x with decorators := x.decorators ++ [d] })

/-- Changes the context of the exchange.  A scope that holds no context gets a fresh one first. -/
def changeContext (x : Exchange) (change : Context.Change) : Exchange :=
  match x.published with
  | .attached => { x with context := x.context.apply change }
  | _ => { x with context := ({} : Context).apply change, published := .attached }

end Exchange

namespace Action

def note (entry : Entry) : Action Unit := modify (·.note entry)

def log (event : LogEvent) : Action Unit := modify (·.log event)

def logFailure (method url : String) (fault : Fault) : Action Unit :=
  modify (·.logFailure method url fault)

/-- Runs an action and does `cleanUp` if it stops with a fault, before the fault goes on. -/
def onFault {α : Type} (action : Action α) (cleanUp : Fault → Action Unit) : Action α :=
  tryCatch action fun fault => do
    cleanUp fault
    throw fault

/-- Runs an action and notes the fault it stops with instead of stopping. -/
def attempt (action : Action Unit) : Action Unit :=
  tryCatch action fun fault => note (.caught fault)

end Action
end Revalidation
