import Revalidation.Context.Basic
import Revalidation.Fault
import Revalidation.Message

/-!
# The journal of an exchange

Everything that an observer of an exchange can see, in order: what reaches the server, what the
application does and gets back, and what is logged on the way.
-/

namespace Revalidation

inductive LogLevel where
  | debug
  | info
  | error
  deriving DecidableEq, Repr

inductive Gateway where
  | asgi
  | wsgi
  deriving DecidableEq, Repr

inductive LogEvent where
  | initialized (gateway : Gateway) (filterName : String)
  | skippedType (type : String)
  | passingThrough
  | incoming (method url : String)
  | applicationStarted (status : String)
  | processed (method url : String) (status : Int)
  | streaming (method url : String)
  | failed (method url : String) (fault : Fault)
  | buffering (method url : String)
  | alreadyBuffered (method url : String)
  | deferred (url : String)
  | cachingDisabled (url : String)
  | alreadyCommitted (url : String)
  | notEligible (status : Int) (url : String)
  | notModified (tag : String)
  | modified (tag : String) (received : Option String)
  | copying (size : Nat) (complete : Bool)
  | statusIgnored (status : Int)
  | headerIgnored (name : String)
  | resetIgnored
  | started (gateway : Gateway) (status : Int) (headers : Nat)
  | sentChunk (size : Nat)
  deriving DecidableEq, Repr

namespace Gateway

def middlewareName : Gateway → String
  | asgi => "ASGIEtagMiddleware"
  | wsgi => "WSGIEtagMiddleware"

end Gateway

namespace LogEvent

def level : LogEvent → LogLevel
  | initialized _ _ => .info
  | failed _ _ _ => .error
  | _ => .debug

def message : LogEvent → String
  | initialized gateway filterName =>
    s!"Initialized {gateway.middlewareName} with filter={filterName}"
  | skippedType type => s!"Skipping non-HTTP request: type={type}"
  | passingThrough => "Exchange already handled by an outer middleware, passing through"
  | incoming method url => s!"Incoming HTTP request: method={method} url={url}"
  | applicationStarted status => s!"Application response started: status={status}"
  | processed method url status => s!"Request processed: method={method} url={url} status={status}"
  | streaming method url => s!"Streaming response: method={method} url={url}"
  | failed method url fault =>
    s!"Error processing request: method={method} url={url} error={fault.message}"
  | buffering method url => s!"Buffering response: method={method} url={url}"
  | alreadyBuffered method url => s!"Response is already buffered: method={method} url={url}"
  | deferred url => s!"Asynchronous processing started, deferring ETag evaluation: url={url}"
  | cachingDisabled url => s!"Content caching disabled, skipping ETag evaluation: url={url}"
  | alreadyCommitted url => s!"Response already committed, copying body without ETag: url={url}"
  | notEligible status url => s!"Response with status code {status} not eligible for ETag: url={url}"
  | notModified tag => s!"ETag {tag} equal to If-None-Match, sending 304"
  | modified tag received =>
    let shown := received.getD "None"
    s!"ETag {tag} not equal to If-None-Match {shown}, sending normal response"
  | copying size complete =>
    s!"Copying buffered body to response: size={size} bytes complete={Context.flagText complete}"
  | statusIgnored status => s!"Ignoring status change on committed response: status={status}"
  | headerIgnored name => s!"Ignoring header change on committed response: name={name}"
  | resetIgnored => "Ignoring header reset on committed response"
  | started .asgi status headers =>
    s!"Response headers sent: status={status} headers_count={headers}"
  | started .wsgi status headers => s!"Response started: status={status} headers_count={headers}"
  | sentChunk size => s!"Sent response chunk: size={size} bytes"

end LogEvent

inductive Observation where
  | status (status : Int)
  | committed (committed : Bool)
  | content (content : Bytes)
  deriving DecidableEq, Repr

inductive Entry where
  | logged (event : LogEvent)
  /-- The application takes the named step. -/
  | step (name : String)
  /-- The application or handler caught a fault. -/
  | caught (fault : Fault)
  /-- A handler asked about its response. -/
  | observed (observation : Observation)
  /-- The server accepted a message. -/
  | sent (message : Message)
  | sendFailed
  | received (message : Message)
  /-- The server started a response. -/
  | responseStarted (line : String) (headers : List (String × String))
  | startFailed
  /-- The application used the server's own means of writing. -/
  | serverWrote (data : Bytes)
  /-- The next item of the application's iterable is asked for. -/
  | pulled (before : Nat)
  /-- The application's iterable is closed. -/
  | closed
  /-- The server got an iterable; a plain list or not. -/
  | returned (plain : Bool)
  | chunk (data : Bytes)
  /-- The server closes the iterable it got. -/
  | serverClosed
  deriving DecidableEq, Repr

namespace Entry

def event? : Entry → Option LogEvent
  | logged event => some event
  | _ => none

def message? : Entry → Option Message
  | sent message => some message
  | _ => none

def start? : Entry → Option (String × List (String × String))
  | responseStarted line headers => some (line, headers)
  | _ => none

end Entry
end Revalidation
