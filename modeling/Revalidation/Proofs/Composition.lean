import Revalidation.Proofs.HeaderLookup
import Revalidation.Proofs.Layers

/-!
# Composing a response

Calls that set a status, set or add headers and write do not commit a response that is still held
back in a buffer over a transport.  What they compose is said here for a list of calls as a whole:
the bytes, the last status, the last content length, and the headers that pass through.  The main
statement is that after the calls the exchange differs exactly in these.
-/

namespace Revalidation

namespace Call

def bytes (charset : Charset) : Call → Bytes
  | write data => data
  | writeText text => (charset.encode text).toOption.getD []
  | _ => []

def written? (charset : Charset) : Call → Option Bytes
  | write data => some data
  | writeText text => (charset.encode text).toOption
  | _ => none

theorem bytes_eq_written? (charset : Charset) (call : Call) :
    call.bytes charset = (call.written? charset).getD [] := by
  cases call <;> rfl

def status? : Call → Option Int
  | setStatus status => some status
  | _ => none

def length? : Call → Option String
  | setHeader name value => if Text.lower name = "content-length" then some value else none
  | addHeader name value => if Text.lower name = "content-length" then some value else none
  | _ => none

def passHeader (h : Headers) : Call → Headers
  | setHeader name value => if Text.lower name = "content-length" then h else h.set name value
  | addHeader name value => if Text.lower name = "content-length" then h else h.add name value
  | _ => h

/-- The calls that compose a response without committing it.  Texts must have an encoding. -/
inductive Composes (charset : Charset) : Call → Prop
  | setStatus (status : Int) : Composes charset (setStatus status)
  | setHeader (name value : String) : Composes charset (setHeader name value)
  | addHeader (name value : String) : Composes charset (addHeader name value)
  | write (data : Bytes) : Composes charset (write data)
  | writeText {text : String} {data : Bytes} (hencode : charset.encode text = .ok data) :
      Composes charset (writeText text)

end Call

/-! ## What calls compose together -/

def writtenBytes (charset : Charset) (calls : List Call) : Bytes := calls.flatMap (Call.bytes charset)

def writtenPieces (charset : Charset) (calls : List Call) : List Bytes :=
  calls.filterMap (Call.written? charset)

def lastStatus? (calls : List Call) : Option Int := (calls.filterMap Call.status?).getLast?

def lastLength? (calls : List Call) : Option String := (calls.filterMap Call.length?).getLast?

/-- The headers after calls, where content lengths are left out. -/
def passedHeaders (h : Headers) (calls : List Call) : Headers := calls.foldl Call.passHeader h

variable {charset : Charset} {calls rest : List Call} {call : Call}

theorem writtenBytes_append :
    writtenBytes charset (calls ++ rest) = writtenBytes charset calls ++ writtenBytes charset rest :=
  List.flatMap_append

theorem flatten_writtenPieces (charset : Charset) (calls : List Call) :
    (writtenPieces charset calls).flatten = writtenBytes charset calls := by
  induction calls with
  | nil => rfl
  | cons call rest ih =>
      rw [writtenBytes, List.flatMap_cons, ← writtenBytes, ← ih, Call.bytes_eq_written?, writtenPieces,
        List.filterMap_cons]
      cases call.written? charset <;> rfl

theorem lastStatus?_append :
    lastStatus? (calls ++ rest) = (lastStatus? rest).or (lastStatus? calls) := by
  rw [lastStatus?, List.filterMap_append, List.getLast?_append]
  rfl

theorem lastLength?_append :
    lastLength? (calls ++ rest) = (lastLength? rest).or (lastLength? calls) := by
  rw [lastLength?, List.filterMap_append, List.getLast?_append]
  rfl

theorem passedHeaders_append (h : Headers) :
    passedHeaders h (calls ++ rest) = passedHeaders (passedHeaders h calls) rest :=
  List.foldl_append

def Buffer.compose (b : Buffer) (charset : Charset) (calls : List Call) : Buffer :=
  { b with
    content := b.content ++ writtenBytes charset calls
    status := (lastStatus? calls).or b.status
    contentLength := (lastLength? calls).or b.contentLength }

theorem Buffer.compose_append (b : Buffer) :
    b.compose charset (calls ++ rest) = (b.compose charset calls).compose charset rest := by
  simp only [compose, writtenBytes_append, lastStatus?_append, lastLength?_append, List.append_assoc,
    Option.or_assoc]

namespace Exchange

variable {x : Exchange} {i : Nat} {b : Buffer}

def compose (x : Exchange) (i : Nat) (b : Buffer) (charset : Charset) (calls : List Call) : Exchange :=
  let headers := passedHeaders x.transport.headers calls
  { x with transport := { x.transport with headers := headers } }.putBuffer i
    (b.compose charset calls)

theorem compose_append (x : Exchange) (i : Nat) (b : Buffer) (charset : Charset)
    (calls rest : List Call) :
    x.compose i b charset (calls ++ rest) =
      (x.compose i b charset calls).compose i (b.compose charset calls) charset rest := by
  rw [compose, Buffer.compose_append, passedHeaders_append]
  simp [compose, putBuffer]

theorem compose_passed (hb : x.decorator i = .buffer b) (hbytes : call.bytes charset = [])
    (hstatus : call.status? = none) (hlength : call.length? = none) :
    x.compose i b charset [call] =
      { x with transport :=
        { x.transport with headers := call.passHeader x.transport.headers } } := by
  have hsame : b.compose charset [call] = b := by
    simp [Buffer.compose, writtenBytes, lastStatus?, lastLength?, hbytes, hstatus, hlength]
  rw [compose, hsame]
  exact putBuffer_self hb

theorem compose_held (hpass : call.passHeader x.transport.headers = x.transport.headers) :
    x.compose i b charset [call] = x.putBuffer i (b.compose charset [call]) := by
  simp [compose, passedHeaders, hpass, putBuffer]

end Exchange

namespace Response

open Exchange Revalidation.Action

variable {x : Exchange} {i : Nat} {b : Buffer}

theorem setHeader_composes (hb : x.decorator i = .buffer b) (hheld : b.forwarding x.context = false)
    (hopen : x.transport.committed = false) (name value : String) :
    x.setHeader [i] name value = x.compose i b charset [.setHeader name value] := by
  by_cases hname : Text.lower name = "content-length"
  · rw [compose_held (by simp [Call.passHeader, hname])]
    simp [Exchange.setHeader, hb, Buffer.holds, hheld, hname, Buffer.compose, writtenBytes,
      lastStatus?, lastLength?, Call.bytes, Call.status?, Call.length?]
  · rw [compose_passed hb rfl rfl (by simp [Call.length?, hname])]
    simp [Exchange.setHeader, hb, Buffer.holds, hname, setTransportHeader_open hopen,
      Call.passHeader]

theorem addHeader_composes (hb : x.decorator i = .buffer b) (hheld : b.forwarding x.context = false)
    (hopen : x.transport.committed = false) (name value : String) :
    x.addHeader [i] name value = x.compose i b charset [.addHeader name value] := by
  by_cases hname : Text.lower name = "content-length"
  · rw [compose_held (by simp [Call.passHeader, hname])]
    simp [Exchange.addHeader, hb, Buffer.holds, hheld, hname, Buffer.compose, writtenBytes,
      lastStatus?, lastLength?, Call.bytes, Call.status?, Call.length?]
  · rw [compose_passed hb rfl rfl (by simp [Call.length?, hname])]
    simp [Exchange.addHeader, hb, Buffer.holds, hname, addTransportHeader_open hopen,
      Call.passHeader]

theorem write_composes (hb : x.decorator i = .buffer b) (hheld : b.forwarding x.context = false)
    {data : Bytes} (hbytes : call.bytes charset = data) (hstatus : call.status? = none)
    (hlength : call.length? = none) (hpass : call.passHeader x.transport.headers = x.transport.headers) :
    (Response.write [i] data).outcome x = (.ok (), x.compose i b charset [call]) := by
  rw [compose_held hpass, outcome_write_held hb hheld]
  simp [Buffer.compose, writtenBytes, lastStatus?, lastLength?, hbytes, hstatus, hlength]

/-- A call that composes a response changes nothing but what it composes. -/
theorem outcome_perform_composes (hb : x.decorator i = .buffer b)
    (hheld : b.forwarding x.context = false) (hopen : x.transport.committed = false)
    (hcharset : x.transport.charset = charset) (hcall : call.Composes charset) :
    (Response.perform [i] call).outcome x = (.ok (), x.compose i b charset [call]) := by
  cases hcall with
  | setStatus status =>
      rw [compose_held rfl]
      simp [perform, Exchange.setStatus, hb, hheld, Buffer.compose, writtenBytes, lastStatus?,
        lastLength?, Call.bytes, Call.status?, Call.length?]
  | setHeader name value =>
      rw [perform, outcome_modify, setHeader_composes hb hheld hopen]
  | addHeader name value =>
      rw [perform, outcome_modify, addHeader_composes hb hheld hopen]
  | write data => exact write_composes hb hheld rfl rfl rfl rfl
  | @writeText text data hencode =>
      have hdata : (Call.writeText text).bytes charset = data := by
        simp [Call.bytes, hencode, Except.toOption]
      have hchar : x.charset [i] = charset := by
        simp [Exchange.charset, buffer?, hb, hcharset]
      have hwrite : (writeText [i] text).outcome x = (write [i] data).outcome x := by
        simp [writeText, outcome_bind, hchar, hencode]
      rw [perform, hwrite]
      exact write_composes hb hheld hdata rfl rfl rfl

theorem performAll_append (response : Response) (calls rest : List Call) :
    response.performAll (calls ++ rest) =
      (do
        response.performAll calls
        response.performAll rest) :=
  List.forM_append

/-- The state that calls leave meets the conditions under which further calls compose. -/
theorem outcome_performAll_composes (hb : x.decorator i = .buffer b)
    (hheld : b.forwarding x.context = false) (hopen : x.transport.committed = false)
    (hcharset : x.transport.charset = charset) (hcalls : ∀ call ∈ calls, call.Composes charset) :
    (Response.performAll [i] calls).outcome x = (.ok (), x.compose i b charset calls) := by
  induction calls generalizing x b with
  | nil =>
      have hnone : x.compose i b charset [] = x := by
        simp only [compose, Buffer.compose, passedHeaders, writtenBytes, lastStatus?, lastLength?]
        simpa using putBuffer_self hb
      rw [hnone]
      rfl
  | cons call rest ih =>
      have hfirst := outcome_perform_composes hb hheld hopen hcharset (hcalls call List.mem_cons_self)
      have hrest : ∀ call ∈ rest, call.Composes charset :=
        fun other hmem => hcalls other (List.mem_cons_of_mem call hmem)
      show Action.outcome (Response.perform [i] call >>= fun _ => Response.performAll [i] rest) x = _
      have hsplit := compose_append x i b charset [call] rest
      rw [List.singleton_append] at hsplit
      rw [outcome_bind_ok hfirst, hsplit]
      exact ih (decorator_putBuffer_self hb) hheld hopen hcharset hrest

end Response
end Revalidation
