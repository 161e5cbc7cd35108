import Revalidation.Exchange

/-!
# Delivery to the outside

What the transport of an exchange does: it takes changes until it is committed, commits the status and
headers, and delivers the body.
-/

namespace Revalidation

namespace Exchange

def ignore (x : Exchange) (event : LogEvent) : Exchange :=
  if x.transport.logsIgnored then x.log event else x

def changeTransport (x : Exchange) (event : LogEvent) (change : Transport → Transport) : Exchange :=
  if x.transport.committed then x.ignore event else { x with transport := change x.transport }

def setTransportStatus (x : Exchange) (status : Int) : Exchange :=
  x.changeTransport (.statusIgnored status) fun t => { t with status := status }

def setTransportHeader (x : Exchange) (name value : String) : Exchange :=
  x.changeTransport (.headerIgnored name) fun t => { t with headers := t.headers.set name value }

def addTransportHeader (x : Exchange) (name value : String) : Exchange :=
  x.changeTransport (.headerIgnored name) fun t => { t with headers := t.headers.add name value }

def resetHeaders (x : Exchange) : Exchange :=
  x.changeTransport .resetIgnored fun t => { t with headers := {} }

def takeChunks (x : Exchange) : List Bytes × Exchange :=
  match x.transport.medium with
  | .wsgi chunks => (chunks, { x with transport := { x.transport with medium := .wsgi [] } })
  | _ => ([], x)

end Exchange

def encodeHeaders (pairs : List (String × String)) : Except EncodingFault (List (Bytes × Bytes)) :=
  pairs.mapM fun (name, value) => do
    let name ← Charset.latin1.encode name
    let value ← Charset.latin1.encode value
    return (name, value)

namespace Transport

def markCommitted : Action Unit :=
  modify fun x => { x with transport := { x.transport with committed := true } }

def setMedium (medium : Medium) : Action Unit :=
  modify fun x => { x with transport := { x.transport with medium := medium } }

def send (message : Message) : Action Unit := do
  let x ← get
  let number := x.server.sends + 1
  set { x with server := { x.server with sends := number } }
  if x.server.failing.contains number then
    Action.note .sendFailed
    throw .sendFailed
  Action.note (.sent message)

def startResponse (line : String) (headers : List (String × String)) : Action Unit := do
  let x ← get
  if x.server.refusesStart then
    Action.note .startFailed
    throw .startFailed
  Action.note (.responseStarted line headers)

/-- Sends the status and headers to the server.  The transport counts as committed from the start,
even if this stops with a fault. -/
def announce (gateway : Gateway) : Action Unit := do
  let t := (← get).transport
  markCommitted
  match gateway with
  | .asgi =>
    match encodeHeaders t.headers.multiItems with
    | .error cause => throw (.encoding cause)
    | .ok headers => send (.start t.status headers)
  | .wsgi => startResponse (Status.line t.status) t.headers.multiItems
  Action.log (.started gateway t.status t.headers.size)

def flush : Action Unit := do
  let t := (← get).transport
  match t.medium with
  | .memory _ _ _ _ => markCommitted
  | .asgi _ => if !t.committed then announce .asgi
  | .wsgi _ => if !t.committed then announce .wsgi

/-- Commits and delivers a part of the body.  Servers get no empty parts. -/
def write (data : Bytes) : Action Unit := do
  match (← get).transport.medium with
  | .memory charset failing calls writes =>
    let number := calls + 1
    if failing.contains number then
      setMedium (.memory charset failing number writes)
      throw .sinkFailed
    markCommitted
    setMedium (.memory charset failing number (writes ++ [data]))
  | .asgi _ =>
    flush
    if !data.isEmpty then
      send (.part data true)
      Action.log (.sentChunk data.length)
  | .wsgi chunks =>
    flush
    if !data.isEmpty then setMedium (.wsgi (chunks ++ [data]))

def close : Action Unit := do
  flush
  match (← get).transport.medium with
  | .asgi false =>
    setMedium (.asgi true)
    send (.part [] false)
  | _ => return

end Transport
end Revalidation
