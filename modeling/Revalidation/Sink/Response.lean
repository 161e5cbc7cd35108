import Revalidation.Sink.Delivery

/-!
# Responses through decorators

What a response does at each of its layers, from the outermost decorator inward to the transport.
-/

namespace Revalidation

def contentLengthName : String := "Content-Length"

namespace Exchange

def buffer? (x : Exchange) (i : Nat) : Option Buffer :=
  match x.decorator i with
  | .buffer b => some b
  | .forward => none

def isBuffer (x : Exchange) : Response → Bool
  | [] => false
  | i :: _ => (x.buffer? i).isSome

def findBuffer (x : Exchange) : Response → Option Response
  | [] => none
  | i :: below => if (x.buffer? i).isSome then some (i :: below) else x.findBuffer below

/-- The status of a response: the one a buffer recorded last, or else that of the layer below. -/
def status (x : Exchange) : Response → Int
  | [] => x.transport.status
  | i :: below => ((x.buffer? i).bind Buffer.status).getD (x.status below)

/-- The encoding of texts written to a response.  A buffer has that of the layer below; a forwarding
layer has its own. -/
def charset (x : Exchange) : Response → Charset
  | [] => x.transport.charset
  | i :: below => if (x.buffer? i).isSome then x.charset below else .utf8

def content (x : Exchange) : Response → Bytes
  | [] => []
  | i :: _ => ((x.buffer? i).map Buffer.content).getD []

/-- The headers that the layers below a buffer can report: only a transport right below can. -/
def lookup (x : Exchange) (response : Response) (name : String) : Option String :=
  match response with
  | [_] => x.transport.headers.get? name
  | _ => none

def setStatus (x : Exchange) : Response → Int → Exchange
  | [], status => x.setTransportStatus status
  | i :: below, status =>
    match x.decorator i with
    | .forward => x.setStatus below status
    | .buffer b =>
      let y := if b.forwarding x.context then x.setStatus below status else x
      y.putBuffer i { b with status := some status }

def setHeader (x : Exchange) : Response → String → String → Exchange
  | [], name, value => x.setTransportHeader name value
  | i :: below, name, value =>
    match x.decorator i with
    | .forward => x.setHeader below name value
    | .buffer b =>
      if b.holds x.context name then x.putBuffer i { b with contentLength := some value }
      else x.setHeader below name value

def addHeader (x : Exchange) : Response → String → String → Exchange
  | [], name, value => x.addTransportHeader name value
  | i :: below, name, value =>
    match x.decorator i with
    | .forward => x.addHeader below name value
    | .buffer b =>
      if b.holds x.context name then x.putBuffer i { b with contentLength := some value }
      else x.addHeader below name value

def resetBuffer (x : Exchange) : Response → Exchange
  | [] => x
  | i :: _ =>
    match x.decorator i with
    | .forward => x
    | .buffer b => x.putBuffer i { b with content := [] }

/-- Passes the recorded status and a content length on to the layer below a buffer, unless that is
committed.  A complete body has its own size; otherwise the handler's content length goes on. -/
def passHead (x : Exchange) (b : Buffer) (below : Response) (complete : Bool) : Exchange :=
  if x.transport.committed then x
  else
    let x := match b.status with
      | some status => x.setStatus below status
      | none => x
    if complete && !b.content.isEmpty then
      x.setHeader below contentLengthName (toString b.content.length)
    else match b.contentLength with
      | some value => x.setHeader below contentLengthName value
      | none => x

end Exchange

namespace Response

/-- Copies the state of a buffer to the layer below, once, where `write` writes to that layer.  The
buffer is emptied only after its content has been written. -/
def copyBuffer (write : Bytes → Action Unit) (i : Nat) (b : Buffer) (below : Response)
    (complete : Bool) : Action Unit := do
  if b.copied then return
  modify fun x => x.passHead b below complete
  if !b.content.isEmpty then
    Action.log (.copying b.content.length complete)
    write b.content
  modify fun x => x.putBuffer i { b with content := [], copied := true }

def write : Response → Bytes → Action Unit
  | [] => Transport.write
  | i :: below => fun data => do
    let x ← get
    match x.decorator i with
    | .forward => write below data
    | .buffer b =>
      if b.forwarding x.context then
        copyBuffer (write below) i b below false
        write below data
      else set (x.putBuffer i { b with content := b.content ++ data })

def flush : Response → Action Unit
  | [] => Transport.flush
  | i :: below => do
    match (← get).decorator i with
    | .forward => flush below
    | .buffer b =>
      copyBuffer (write below) i b below false
      flush below

def copyBody (response : Response) (complete : Bool) : Action Unit := do
  match response with
  | [] => return
  | i :: below =>
    match (← get).decorator i with
    | .forward => return
    | .buffer b => copyBuffer (write below) i b below complete

def writeText (response : Response) (text : String) : Action Unit := do
  match ((← get).charset response).encode text with
  | .error cause => throw (.encoding cause)
  | .ok data => write response data

end Response
end Revalidation
