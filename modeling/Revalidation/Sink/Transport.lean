import Revalidation.Headers
import Revalidation.Status

/-!
# Transports

The innermost layer of a response: the sink that stands for the outside world.  It holds a status and
headers that can change until it is committed, and passes the body on in one of three ways.
-/

namespace Revalidation

inductive Medium where
  /-- Writes are kept in memory.  The calls to write are counted from one, and those of the numbers in
  `failing` are refused. -/
  | memory (charset : Charset) (failing : List Nat) (calls : Nat) (writes : List Bytes)
  /-- Messages to an asynchronous server; finished once the last one has been sent. -/
  | asgi (finished : Bool)
  /-- Chunks that are collected for a synchronous server. -/
  | wsgi (chunks : List Bytes)

structure Transport where
  medium : Medium
  status : Int := 200
  headers : Headers := {}
  /-- The status and headers are on their way and can no longer change. -/
  committed : Bool := false

namespace Transport

def recorder (status : Int) (charset : Charset) (failing : List Nat) : Transport :=
  { medium := .memory charset failing 0 [], status := status }

def asgi : Transport := { medium := .asgi false }

def wsgi : Transport := { medium := .wsgi [] }

def charset (t : Transport) : Charset :=
  match t.medium with
  | .memory charset _ _ _ => charset
  | _ => .utf8

def writes (t : Transport) : List Bytes :=
  match t.medium with
  | .memory _ _ _ writes => writes
  | _ => []

def body (t : Transport) : Bytes := t.writes.flatten

/-- The chunks that wait for a synchronous server. -/
def chunks (t : Transport) : List Bytes :=
  match t.medium with
  | .wsgi chunks => chunks
  | _ => []

/-- Whether changes that come too late are logged, as on every transport to a server. -/
def logsIgnored (t : Transport) : Bool :=
  match t.medium with
  | .memory _ _ _ _ => false
  | _ => true

end Transport
end Revalidation
