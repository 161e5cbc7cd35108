import Revalidation.Asgi.Middleware
import Revalidation.Proofs.Answer
import Revalidation.Proofs.Streaming

/-!
# Serving an application

An application that sends its response in messages composes it in the buffer of the middleware, and
streams it from the step on that disables caching.  `Serving` holds along the whole run: it names the
calls made so far and says that all they wrote is sent or still held.  In the end the server has got
one response, whatever the order of the messages.
-/

namespace Revalidation

open Revalidation.Action

variable {x y : Exchange} {message : Message} {response : Response}

/-! ## Messages as calls -/

namespace Message

def calls (message : Message) : List Call :=
  if message.type = some startType then
    (message.status.map Call.setStatus).toList ++
      (Asgi.Scope.decodeHeaders (message.headers.getD [])).map fun (name, value) => .addHeader name value
  else if message.type = some bodyType then (chunks (message.body.getD [])).map .write
  else []

def bodyPart (message : Message) : Bytes :=
  if message.type = some bodyType then message.body.getD [] else []

/-- The message is about a response and has the fields it needs. -/
inductive Responds (message : Message) : Prop
  | start {status : Int} (htype : message.type = some startType)
      (hstatus : message.status = some status)
  | body (htype : message.type = some bodyType)

theorem calls_ofMessage (message : Message) : ∀ call ∈ message.calls, call.OfMessage := by
  intro call hcall
  unfold calls at hcall
  split at hcall
  · rcases List.mem_append.1 hcall with hstatus | hheader
    · rw [Option.mem_toList, Option.map_eq_some_iff] at hstatus
      obtain ⟨status, -, rfl⟩ := hstatus
      exact .setStatus status
    · obtain ⟨field, hfield, rfl⟩ := List.mem_map.1 hheader
      obtain ⟨bytes, -, rfl⟩ := List.mem_map.1 hfield
      exact .addHeader (.decode bytes.1) (.decode bytes.2)
  split at hcall
  · obtain ⟨data, -, rfl⟩ := List.mem_map.1 hcall
    exact .write data
  · cases hcall

theorem writtenBytes_message (message : Message) :
    writtenBytes .utf8 message.calls = message.bodyPart := by
  have hwrites (data : List Bytes) : writtenBytes .utf8 (data.map .write) = data.flatten := by
    rw [writtenBytes, List.flatMap_map]
    exact List.flatMap_id
  have hheaders (fields : List (String × String)) :
      writtenBytes .utf8 (fields.map fun (name, value) => .addHeader name value) = [] := by
    rw [writtenBytes, List.flatMap_map]
    simp [Call.bytes]
  unfold calls bodyPart
  by_cases hstart : message.type = some startType
  · have hbody : message.type ≠ some bodyType := by
      rw [hstart]
      decide
    rw [if_pos hstart, if_neg hbody, writtenBytes_append, hheaders]
    cases message.status <;> rfl
  · rw [if_neg hstart]
    split
    · rw [hwrites, flatten_chunks]
    · rfl

end Message

namespace Asgi

def Step.calls : Step → List Call
  | send message => message.calls
  | _ => []

def Step.bodyPart : Step → Bytes
  | send message => message.bodyPart
  | _ => []

def Step.disables : Step → Bool
  | changeContext _ .disableCaching => true
  | _ => false

inductive Step.Responds : Step → Prop
  | send {message : Message} (hmessage : message.Responds) : Responds (send message)
  | receive : Responds receive
  | disable (name : String) : Responds (changeContext name .disableCaching)

theorem writtenBytes_calls (app : Application) :
    writtenBytes .utf8 (app.flatMap Step.calls) = app.flatMap Step.bodyPart := by
  induction app with
  | nil => rfl
  | cons step rest ih =>
      have hstep : writtenBytes .utf8 step.calls = step.bodyPart := by
        cases step with
        | send message => exact message.writtenBytes_message
        | _ => rfl
      rw [List.flatMap_cons, List.flatMap_cons, writtenBytes_append, hstep, ih]

theorem outcome_addHeaders (response : Response) (fields : List (String × String)) (x : Exchange) :
    (response.performAll (fields.map fun (name, value) => .addHeader name value)).outcome x =
      (.ok (), fields.foldl (fun x (name, value) => x.addHeader response name value) x) := by
  induction fields generalizing x with
  | nil => rfl
  | cons field rest ih => exact ih (x.addHeader response field.1 field.2)

theorem outcome_accept_start {status : Int} (htype : message.type = some Message.startType)
    (hstatus : message.status = some status)
    (hcalls : (response.performAll message.calls).outcome x = (.ok (), y)) :
    (accept response message).outcome x =
      (.ok (), y.log (.applicationStarted (toString status))) := by
  let fields := Scope.decodeHeaders (message.headers.getD [])
  have hperform : (response.performAll message.calls).outcome x =
      (response.performAll (fields.map fun (name, value) => .addHeader name value)).outcome
        (x.setStatus response status) := by
    rw [Message.calls, if_pos htype, hstatus]
    rfl
  rw [hperform, outcome_addHeaders, Prod.mk.injEq] at hcalls
  rw [← hcalls.2]
  simp only [accept, htype, if_true, acceptStart, hstatus, outcome_bind, outcome_modify, outcome_log,
    fields]

theorem outcome_accept_body (htype : message.type = some Message.bodyType) :
    (accept response message).outcome x = (response.performAll message.calls).outcome x := by
  have hstart : Message.bodyType ≠ Message.startType := by decide
  have hother : message.type ≠ some Message.startType := by
    rw [htype]
    exact fun h => hstart (Option.some.inj h)
  rw [Message.calls, if_neg hother, if_pos htype]
  by_cases hempty : message.body.getD [] = []
  · simp [accept, htype, hstart, hempty, chunks]
    rfl
  · simp [accept, htype, hstart, hempty, chunks, Response.performAll, Response.perform]

end Asgi

/-! ## The run of an application -/

namespace Exchange

variable {i : Nat} {b : Buffer} {parts : List Bytes} {calls more : List Call} {disabled : Bool}

/-- Nothing has reached the server, and the buffer and the headers are what the calls compose. -/
structure Composing (x : Exchange) (i : Nat) (calls : List Call) : Prop where
  transport_eq : x.transport = { Transport.asgi with headers := passedHeaders {} calls }
  decorator_eq : x.decorator i = .buffer (Buffer.compose { forRequest := true } .utf8 calls)
  context_eq : x.context = {}
  failing_eq : x.server.failing = []
  sent_eq : x.sent = []
  calls_ofMessage : ∀ call ∈ calls, call.OfMessage

namespace Composing

theorem committed_eq (h : x.Composing i calls) : x.transport.committed = false := by
  rw [h.transport_eq]
  rfl

theorem relaying (h : x.Composing i calls) : x.Relaying [] where
  medium_eq := by
    rw [h.transport_eq]
    rfl
  failing_eq := h.failing_eq
  latin1 := by
    rw [h.transport_eq]
    exact latin1_passedHeaders h.calls_ofMessage nofun
  parts_ne := nofun
  sent_open _ := ⟨h.sent_eq, rfl⟩
  sent_committed hcommitted := by
    rw [h.committed_eq] at hcommitted
    cases hcommitted

theorem latin1_length (h : x.Composing i calls) (value : String)
    (hvalue : (Buffer.compose { forRequest := true } .utf8 calls).contentLength = some value) :
    Latin1 value := by
  have hlength : (lastLength? calls).or none = some value := hvalue
  rw [Option.or_none] at hlength
  exact latin1_lastLength? h.calls_ofMessage hlength

theorem note (h : x.Composing i calls) {entry : Entry} (hentry : entry.message? = none) :
    (x.note entry).Composing i calls :=
  { h with sent_eq := by rw [sent_note, h.sent_eq, hentry]; rfl }

theorem performAll (h : x.Composing i calls) (hmore : ∀ call ∈ more, call.OfMessage) :
    ∃ y, (Response.performAll [i] more).outcome x = (.ok (), y) ∧ y.Composing i (calls ++ more) := by
  have hheld : (Buffer.compose { forRequest := true } .utf8 calls).forwarding x.context = false := by
    rw [h.context_eq]
    rfl
  have hcharset : x.transport.charset = .utf8 := by
    rw [h.transport_eq]
    rfl
  have hperform := Response.outcome_performAll_composes h.decorator_eq hheld h.committed_eq hcharset
    fun call hcall => (hmore call hcall).composes
  refine ⟨_, hperform, ?_⟩
  exact
    { transport_eq := by
        rw [compose, putBuffer_transport, passedHeaders_append, h.transport_eq]
      decorator_eq := by
        rw [Buffer.compose_append]
        exact decorator_putBuffer_self h.decorator_eq
      context_eq := h.context_eq
      failing_eq := h.failing_eq
      sent_eq := h.sent_eq
      calls_ofMessage := by
        intro call hcall
        exact (List.mem_append.1 hcall).elim (h.calls_ofMessage call) (hmore call) }

theorem disable (h : x.Composing i calls) :
    (x.changeContext .disableCaching).Streaming i []
      (Buffer.compose { forRequest := true } .utf8 calls) where
  relaying := h.relaying.changeContext .disableCaching
  decorator_eq := by rw [changeContext_decorator, h.decorator_eq]
  forRequest_eq := rfl
  disabled := by
    unfold changeContext
    split <;> rfl
  synchronous := by
    unfold changeContext
    split
    · rw [h.context_eq]
      rfl
    · rfl
  empty_of_copied := nofun
  latin1_length := h.latin1_length

end Composing

/-- An application has made the calls so far: it still composes its response, or caching is disabled
and the bytes written are sent or held. -/
inductive Serving (x : Exchange) (i : Nat) (calls : List Call) : Bool → Prop
  | composing (h : x.Composing i calls) : Serving x i calls false
  | streaming {parts : List Bytes} {b : Buffer} (h : x.Streaming i parts b)
      (hbody : parts.flatten ++ b.content = writtenBytes .utf8 calls) : Serving x i calls true

namespace Serving

theorem note (h : x.Serving i calls disabled) {entry : Entry} (hentry : entry.message? = none) :
    (x.note entry).Serving i calls disabled := by
  cases h with
  | composing h => exact .composing (h.note hentry)
  | streaming h hbody => exact .streaming (h.note hentry) hbody

theorem log (h : x.Serving i calls disabled) (event : LogEvent) :
    (x.log event).Serving i calls disabled := h.note rfl

theorem performAll (h : x.Serving i calls disabled) (hmore : ∀ call ∈ more, call.OfMessage) :
    ∃ y, (Response.performAll [i] more).outcome x = (.ok (), y) ∧
      y.Serving i (calls ++ more) disabled := by
  cases h with
  | composing h =>
      obtain ⟨y, hperform, hy⟩ := h.performAll hmore
      exact ⟨y, hperform, .composing hy⟩
  | streaming h hbody =>
      obtain ⟨y, sent, c, hperform, hy, hsent⟩ := h.performAll hmore
      refine ⟨y, hperform, .streaming hy ?_⟩
      rw [hsent, hbody, writtenBytes_append]

theorem disable (h : x.Serving i calls disabled) :
    (x.changeContext .disableCaching).Serving i calls true := by
  cases h with
  | composing h =>
      refine .streaming h.disable ?_
      rw [Buffer.compose]
      rfl
  | streaming h hbody => exact .streaming h.changeContext hbody

theorem receive (h : x.Serving i calls disabled) :
    ∃ y, Asgi.receive.outcome x = (.ok (), y) ∧ y.Serving i calls disabled := by
  have hrest (rest : List Message) :
      ({ x with server := { x.server with incoming := rest } } : Exchange).Serving i calls disabled := by
    cases h with
    | composing h => exact .composing { h with }
    | streaming h hbody =>
        exact .streaming { h with relaying := { h.relaying with } } hbody
  cases hincoming : x.server.incoming with
  | nil =>
      refine ⟨x.note (.received .disconnect), ?_, h.note rfl⟩
      simp [Asgi.receive, outcome_bind, hincoming]
  | cons message rest =>
      refine ⟨_, ?_, (hrest rest).note (show (Entry.received message).message? = none from rfl)⟩
      simp [Asgi.receive, outcome_bind, hincoming]

theorem accept (h : x.Serving i calls disabled) (hmessage : message.Responds) :
    ∃ y, (Asgi.accept [i] message).outcome x = (.ok (), y) ∧
      y.Serving i (calls ++ message.calls) disabled := by
  obtain ⟨y, hperform, hy⟩ := h.performAll message.calls_ofMessage
  cases hmessage with
  | @start status htype hstatus =>
      exact ⟨_, Asgi.outcome_accept_start htype hstatus hperform, hy.log _⟩
  | body htype => exact ⟨y, by rw [Asgi.outcome_accept_body htype, hperform], hy⟩

theorem runStep (h : x.Serving i calls disabled) {step : Asgi.Step} (hstep : step.Responds) :
    ∃ y, (Asgi.runStep (.response [i]) step).outcome x = (.ok (), y) ∧
      y.Serving i (calls ++ step.calls) (disabled || step.disables) := by
  have hnote : (x.note (.step step.name)).Serving i calls disabled := h.note rfl
  cases hstep with
  | send hmessage =>
      obtain ⟨y, haccept, hy⟩ := hnote.accept hmessage
      refine ⟨y, ?_, ?_⟩
      · rw [Asgi.runStep, outcome_bind_ok (outcome_note _ x)]
        exact haccept
      · show y.Serving i (calls ++ _) (disabled || false)
        rwa [Bool.or_false]
  | receive =>
      obtain ⟨y, hreceive, hy⟩ := hnote.receive
      refine ⟨y, ?_, ?_⟩
      · rw [Asgi.runStep, outcome_bind_ok (outcome_note _ x)]
        exact hreceive
      · show y.Serving i (calls ++ []) (disabled || false)
        rwa [List.append_nil, Bool.or_false]
  | disable name =>
      refine ⟨(x.note (.step name)).changeContext .disableCaching, ?_, ?_⟩
      · rw [Asgi.runStep, outcome_bind_ok (outcome_note _ x)]
        rfl
      · show Serving _ i (calls ++ []) (disabled || true)
        rw [List.append_nil, Bool.or_true]
        exact hnote.disable

theorem run (h : x.Serving i calls disabled) {app : Asgi.Application}
    (happ : ∀ step ∈ app, step.Responds) :
    ∃ y, (Asgi.run (.response [i]) app).outcome x = (.ok (), y) ∧
      y.Serving i (calls ++ app.flatMap Asgi.Step.calls)
        (disabled || app.any Asgi.Step.disables) := by
  induction app generalizing x calls disabled with
  | nil => exact ⟨x, rfl, by simpa using h⟩
  | cons step rest ih =>
      obtain ⟨y, hfirst, hy⟩ := h.runStep (happ step List.mem_cons_self)
      obtain ⟨z, hrest, hz⟩ := ih hy fun other hmem => happ other (List.mem_cons_of_mem step hmem)
      refine ⟨z, ?_, ?_⟩
      · have hrun : (Asgi.run (.response [i]) (step :: rest)).outcome x = _ := outcome_bind_ok hfirst
        rw [hrun]
        exact hrest
      · rwa [List.flatMap_cons, List.any_cons, ← List.append_assoc, ← Bool.or_assoc]

end Serving
end Exchange
end Revalidation
