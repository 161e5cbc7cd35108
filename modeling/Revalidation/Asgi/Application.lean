import Revalidation.Asgi.Scope
import Revalidation.Sink.Call

/-!
# Applications behind the asynchronous gateway interface

An application is a script of steps: it sends and receives messages and changes the context of its
exchange.  Its messages go to the server itself, or to a response that stands in front of it.
-/

namespace Revalidation.Asgi

inductive Step where
  | send (message : Message)
  | receive
  /-- A change of the exchange context, under the name that the step goes by. -/
  | changeContext (name : String) (change : Context.Change)
  | fail (kind : RaisedKind) (text : String)
  /-- Takes a step and catches its fault. -/
  | attempt (step : Step)
  deriving DecidableEq, Repr

def Step.name : Step → String
  | send _ => "send"
  | receive => "receive"
  | changeContext name _ => name
  | fail _ _ => "raise"
  | attempt _ => "try"

abbrev Application := List Step

inductive Receiver where
  | server
  | response (response : Response)
  deriving DecidableEq, Repr

def acceptStart (response : Response) (message : Message) : Action Unit := do
  match message.status with
  | none => throw (.missingKey "status")
  | some status =>
    modify (·.setStatus response status)
    let fields := Scope.decodeHeaders (message.headers.getD [])
    modify fun x => fields.foldl (fun x (name, value) => x.addHeader response name value) x
    Action.log (.applicationStarted (toString status))

/-- Takes a message on a response in front of the server.  Messages that are about no response go on
to the server. -/
def accept (response : Response) (message : Message) : Action Unit := do
  match message.type with
  | none => throw (.missingKey "type")
  | some type =>
    if type = Message.startType then acceptStart response message
    else if type = Message.bodyType then
      let body := message.body.getD []
      if !body.isEmpty then response.write body
    else Transport.send message

def send (receiver : Receiver) (message : Message) : Action Unit :=
  match receiver with
  | .server => Transport.send message
  | .response response => accept response message

def receive : Action Unit := do
  let x ← get
  match x.server.incoming with
  | [] => Action.note (.received .disconnect)
  | message :: rest =>
    set { x with server := { x.server with incoming := rest } }
    Action.note (.received message)

def runStep (receiver : Receiver) (step : Step) : Action Unit := do
  Action.note (.step step.name)
  match step with
  | .send message => send receiver message
  | .receive => receive
  | .changeContext _ change => modify (·.changeContext change)
  | .fail kind text => throw (.raised kind text)
  | .attempt inner => Action.attempt (runStep receiver inner)

def run (receiver : Receiver) (app : Application) : Action Unit := app.forM (runStep receiver)

end Revalidation.Asgi
