import Revalidation.Number.Integer
import Revalidation.Sink.Call

/-!
# Applications behind the synchronous gateway interface

An application is a script of steps that starts the response and writes to it, and an iterable of
chunks.  The iterable can take steps too: when reading it begins, whenever its next chunk is asked for,
and when it is closed.
-/

namespace Revalidation.Wsgi

inductive Step where
  /-- Starts the response; with a fault, it starts over because of that fault. -/
  | start (status : String) (headers : List (String × String)) (cause : Option Fault)
  /-- Writes by the means that the last start gave. -/
  | write (data : Bytes)
  /-- A change of the exchange context, under the name that the step goes by. -/
  | changeContext (name : String) (change : Context.Change)
  | fail (kind : RaisedKind) (text : String)
  /-- Takes a step and catches its fault. -/
  | attempt (step : Step)
  deriving DecidableEq, Repr

def Step.name : Step → String
  | start _ _ _ => "start"
  | write _ => "write"
  | changeContext name _ => name
  | fail _ _ => "raise"
  | attempt _ => "try"

structure Item where
  steps : List Step := []
  chunk : Bytes
  deriving DecidableEq, Repr

inductive IterableKind where
  | list
  | iterator
  /-- An iterator that wants to be closed. -/
  | closing
  deriving DecidableEq, Repr

structure Iterable where
  kind : IterableKind := .list
  /-- The steps taken when reading begins, before the first item is asked for. -/
  first : List Step := []
  items : List Item := []
  /-- The steps taken when an item beyond the last one is asked for. -/
  last : List Step := []
  /-- The steps taken when an iterator that wants to be closed is closed. -/
  onClose : List Step := []
  /-- Closing it fails after those steps. -/
  closeFails : Bool := false
  deriving DecidableEq, Repr

structure Application where
  steps : List Step
  result : Iterable
  deriving DecidableEq, Repr

/-- Who starts the response for an application: the server itself, or a response in front of it. -/
inductive Starter where
  | server
  | response (response : Response)
  deriving DecidableEq, Repr

def statusCode (line : String) : Except Fault Int :=
  let text := String.ofList (line.toList.takeWhile (· ≠ ' '))
  match Integer.read text with
  | .ok n => .ok n
  | .error cause => .error (.integer text cause)

/-- Starts a response in front of the server.  With a cause the response starts over if it is not
committed, and otherwise the cause goes on. -/
def acceptStart (response : Response) (line : String) (headers : List (String × String))
    (cause : Option Fault) : Action Unit := do
  if let some fault := cause then
    if (← get).transport.committed then throw fault
    modify (·.resetHeaders)
  match statusCode line with
  | .error fault => throw fault
  | .ok code =>
    modify (·.setStatus response code)
    modify fun x => headers.foldl (fun x (name, value) => x.addHeader response name value) x
    Action.log (.applicationStarted line)

def start (starter : Starter) (line : String) (headers : List (String × String))
    (cause : Option Fault) : Action Unit := do
  match starter with
  | .server =>
    Transport.startResponse line headers
    modify fun x => { x with writer := some .server }
  | .response response =>
    acceptStart response line headers cause
    modify fun x => { x with writer := some (.response response) }

def write (data : Bytes) : Action Unit := do
  match (← get).writer with
  | some .server => Action.note (.serverWrote data)
  | some (.response response) => response.write data
  | none => throw .noWriter

def runStep (starter : Starter) (step : Step) : Action Unit := do
  Action.note (.step step.name)
  match step with
  | .start line headers cause => start starter line headers cause
  | .write data => write data
  | .changeContext _ change => modify (·.changeContext change)
  | .fail kind text => throw (.raised kind text)
  | .attempt inner => Action.attempt (runStep starter inner)

def run (starter : Starter) (steps : List Step) : Action Unit := steps.forM (runStep starter)

def Item.pull (item : Item) (starter : Starter) (before : Nat) : Action Bytes := do
  Action.note (.pulled before)
  run starter item.steps
  return item.chunk

namespace Iterable

def begin (iterable : Iterable) (starter : Starter) : Action Unit := run starter iterable.first

/-- Asks for an item beyond the last one: takes the last steps and gives nothing. -/
def exhaust (iterable : Iterable) (starter : Starter) (before : Nat) : Action Unit := do
  Action.note (.pulled before)
  run starter iterable.last

def close (iterable : Iterable) (starter : Starter) : Action Unit := do
  if iterable.kind = .closing then
    Action.note .closed
    run starter iterable.onClose
    if iterable.closeFails then throw .closeFailed

end Iterable
end Revalidation.Wsgi
