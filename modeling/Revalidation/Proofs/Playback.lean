import Revalidation.Proofs.Delivery
import Revalidation.Proofs.Middleware

/-!
# Applications played on a recorder

Every step of an application comes down to steps of a handler on the buffer of the middleware.  Played
as a handler over a transport that records, an application leaves the status, the headers and the
writes that the server of the middleware gets.  This is said here for asynchronous applications.
-/

namespace Revalidation

open Revalidation.Action Exchange

variable {x y z w : Exchange} {gateway : Gateway} {writer : Option Writer}
  {disabled : Bool} {i : Nat} {filter : EtagFilter} {style : CallStyle} {request other : Request}
  {steps : List HandlerStep}

/-! ## Playing a handler -/

namespace Handler

def play (filter : EtagFilter) (style : CallStyle) (request : Request) (inner : Response)
    (steps : List HandlerStep) : Action Unit := do
  run filter style request inner steps
  if (← get).context.cachingDisabled then inner.flush

def record (filter : EtagFilter) (style : CallStyle) (request : Request) (steps : List HandlerStep) :
    Action Unit :=
  filter.dispatch style request [] fun inner => play filter style request inner steps

def recording : Exchange := { transport := .recorder 200 .utf8 [], published := .attached }

theorem outcome_record : (record filter style request steps).outcome recording =
    (do
      play filter style request [0] steps
      filter.conclude style request [0]).outcome (recording.buffered request) := by
  have hprepare : (EtagFilter.prepare request []).outcome recording =
      (.ok [0], recording.buffered request) := EtagFilter.outcome_prepare_fresh rfl rfl
  rw [record, EtagFilter.outcome_dispatch hprepare]
  simp only [bind_pure_unit]

end Handler

namespace Likeness

variable (L : Likeness)

theorem flushDisabled (h : L.rel x y) (response : Response) :
    L.Keeps (do if (← get).context.cachingDisabled then response.flush) x y := by
  refine .read ?_
  rw [L.disabled_eq h]
  split
  · exact L.responseFlush h response
  · exact .pure h ()

end Likeness

theorem Gateway.carries_tagName (gateway : Gateway) : gateway.Carries "ETag" := by
  cases gateway with
  | asgi => exact (by decide : Latin1 "ETag")
  | wsgi => trivial

namespace Exchange.Follows

/-- An exchange over a server follows a fresh recorder once both are buffered. -/
theorem start (hdecorators : y.decorators = [.buffer { forRequest := true }])
    (hcontext : y.context = {}) (hpublished : y.published = .attached) (hstatus : y.transport.status = 200)
    (hheaders : y.transport.headers = {}) (hopen : y.transport.committed = false)
    (hdelivering : y.Delivering gateway []) (request : Request) :
    Follows gateway y.writer false 0 (Handler.recording.buffered request) y where
  isBuffer := rfl
  medium_eq := ⟨0, rfl⟩
  decorators_eq := hdecorators
  context_eq := hcontext
  disabled_eq := nofun
  attached := rfl
  published_eq := hpublished
  writer_eq := rfl
  status_eq := hstatus
  headers_eq := hheaders
  committed_eq := hopen
  carries_length j b value hb hvalue := by
    have hj : j < 1 := lt_of_decorator_eq hb
    obtain rfl : j = 0 := by omega
    cases hb
    cases hvalue
  delivering := hdelivering

theorem conclude (h : Follows gateway writer disabled i x y) (hrequests : request.Alike other)
    (htag : ∀ body, gateway.Carries (filter.tag body)) (style otherStyle : CallStyle) :
    (following gateway writer disabled i).Alike (filter.conclude style request [i]) x
      (filter.conclude otherStyle other [i]) y := by
  obtain ⟨b, hd⟩ := exists_buffer h.isBuffer
  have hasync : y.context.asyncStarted = x.context.asyncStarted := by rw [h.context_eq]
  exact (following gateway writer disabled i).conclude h hasync hrequests gateway.carries_tagName htag hd style
    otherStyle []

theorem responseFlush (h : Follows gateway writer disabled i x y) :
    EndAlike (fun z w => Follows gateway writer disabled i z w ∧ z.transport.committed = true)
      (fun _ _ _ => False) (Response.flush [i]) x (Response.flush [i]) y := by
  let L := following gateway writer disabled i
  obtain ⟨b, hd⟩ := exists_buffer h.isBuffer
  have hdy : y.decorator i = .buffer b := by rw [L.decorator_eq h, hd]
  have hcopy : L.Keeps (Response.copyBuffer (Response.write []) i b [] false) x y :=
    L.copyBuffer (fun _ _ data h => L.responseWrite h [] data) h hd [] false
  refine EndAlike.of_outcome ?_ (Response.outcome_flush_buffer hd) (Response.outcome_flush_buffer hdy)
  refine EndAlike.bind (EndAlike.mono hcopy (fun _ _ h => h) fun _ _ _ h => h.1) fun _ z w hz => ?_
  obtain ⟨_, z', w', hflush, hy, hrel⟩ := hz.flush.ends fun _ _ _ h => h.1
  refine .value hflush hy ⟨hrel, ?_⟩
  rw [Transport.outcome_flush_recorder hz.records, Prod.mk.injEq] at hflush
  rw [← hflush.2]

end Exchange.Follows

/-! ## Asynchronous applications -/

theorem Call.OfMessage.performs {call : Call} (hcall : call.OfMessage) (writer : Option Writer)
    (i : Nat) : (following .asgi writer false i).Performs call := by
  cases hcall with
  | setStatus status => exact .setStatus status
  | addHeader hname hvalue => exact .addHeader hname hvalue
  | write data => exact .write data

namespace Asgi

variable {scope : Scope} {app : Application} {step : Step} {message : Message}

def Step.script : Step → List HandlerStep
  | send message => message.calls.map .call
  | changeContext _ change => [.changeContext change]
  | _ => []

def Application.script (app : Application) : List HandlerStep := app.flatMap Step.script

section Run

variable (filter style request)

theorem accept_follows (h : Follows .asgi writer false i x y) (hmessage : message.Responds) :
    (following .asgi writer false i).Alike
      (Handler.run filter style request [i] (message.calls.map .call)) x
      (accept [i] message) y := by
  let L := following .asgi writer false i
  have hsteps : ∀ step ∈ message.calls.map HandlerStep.call, L.Takes step := by
    intro step hstep
    obtain ⟨call, hcall, rfl⟩ := List.mem_map.1 hstep
    exact .call ((message.calls_ofMessage call hcall).performs writer i)
  have hkeeps : L.Keeps (Handler.run filter style request [i] (message.calls.map .call)) x y :=
    L.run h [i] hsteps
  obtain ⟨_, z, w, hx, hy, hrel⟩ := hkeeps.ends fun _ _ _ h => h.1
  rw [Handler.run_calls] at hy
  cases hmessage with
  | start htype hstatus => exact .value hx (outcome_accept_start htype hstatus hy) (hrel.log_right _)
  | body htype => exact .value hx (by rw [outcome_accept_body htype, hy]) hrel

theorem receive_follows (h : Follows .asgi writer false i x y) :
    (following .asgi writer false i).Alike (Handler.run filter style request [i] []) x receive y := by
  rw [Handler.run]
  cases hincoming : y.server.incoming with
  | nil =>
      have hreceive : receive.outcome y = (.ok (), y.note (.received .disconnect)) := by
        simp [receive, outcome_bind, hincoming]
      exact .value rfl hreceive (h.note_right rfl rfl)
  | cons message rest =>
      let w : Exchange := { y with server := { y.server with incoming := rest } }
      have hreceive : receive.outcome y = (.ok (), w.note (.received message)) := by
        simp [receive, outcome_bind, hincoming, w]
      have hw : Follows .asgi writer false i x w :=
        h.beneath ⟨rfl, rfl, rfl, rfl⟩ rfl rfl rfl (h.delivering.congr rfl rfl rfl rfl rfl)
      exact .value rfl hreceive (hw.note_right rfl rfl)

theorem runStep_follows (h : Follows .asgi writer false i x y) (hstep : step.Responds) :
    (following .asgi writer false i).Alike (Handler.run filter style request [i] step.script) x
      (runStep (.response [i]) step) y := by
  have hnote : Follows .asgi writer false i x (y.note (.step step.name)) := h.note_right rfl rfl
  have hrun (action : Action Unit)
      (hstart : runStep (.response [i]) step = (do note (.step step.name); action)) :
      (runStep (.response [i]) step).outcome y = action.outcome (y.note (.step step.name)) := by
    rw [hstart, outcome_bind_ok (outcome_note _ y)]
  cases hstep with
  | @send message hmessage =>
      exact (accept_follows filter style request hnote hmessage).of_outcome rfl (hrun _ rfl)
  | receive => exact (receive_follows filter style request hnote).of_outcome rfl (hrun _ rfl)
  | disable name =>
      have hx : (Handler.run filter style request [i] [.changeContext .disableCaching]).outcome x =
          (.ok (), x.changeContext .disableCaching) := by
        rw [Handler.run_singleton, Handler.runStep, outcome_modify]
      have hy := hrun (modify (·.changeContext .disableCaching)) rfl
      exact .value hx hy hnote.disableCaching

theorem run_follows (h : Follows .asgi writer false i x y) (happ : ∀ step ∈ app, step.Responds) :
    (following .asgi writer false i).Alike (Handler.run filter style request [i] app.script) x
      (run (.response [i]) app) y := by
  induction app generalizing x y with
  | nil =>
      rw [Application.script, List.flatMap_nil, Handler.run]
      exact .value rfl rfl h
  | cons step rest ih =>
      rw [List.forall_mem_cons] at happ
      have hstep := runStep_follows filter style request h happ.1
      rw [Application.script, List.flatMap_cons]
      exact (hstep.bind fun _ z w hz => ih hz happ.2).of_outcome
        (Handler.outcome_run_append filter style request [i] _ _ x) rfl

theorem serve_follows (htype : scope.type = some "http") (h : Follows .asgi writer false i x y)
    (happ : ∀ step ∈ app, step.Responds) (inner : EtagFilter) (depth : Nat) :
    (following .asgi writer false i).Alike (Handler.run filter style request [i] app.script) x
      (serve inner scope app depth (.response [i])) y := by
  induction depth generalizing y with
  | zero => exact run_follows filter style request h happ
  | succ depth ih =>
      exact (ih (h.log_right .passingThrough)).of_outcome rfl
        (outcome_serve_inner htype depth _ h.published_eq)

end Run

def called (context : Context) (server : Server) (request : Request) : Exchange :=
  (entered (freshExchange context .absent server) request).buffered request

theorem outcome_prepare_entered (context : Context) (server : Server) (request : Request) :
    (EtagFilter.prepare request []).outcome (entered (freshExchange context .absent server) request) =
      (.ok [0], called context server request) :=
  EtagFilter.outcome_prepare_fresh rfl rfl

/-- A request is served once its handler and the evaluation are through and the body is closed. -/
theorem outcome_serve_concluded {context : Context} {server : Server} {depth : Nat}
    (htype : scope.type = some "http")
    (hanswer : (answer (serve filter scope app depth) [0]).outcome
      (called context server scope.toRequest) = (.ok (), z))
    (hconclude : (filter.conclude .async scope.toRequest [0]).outcome z = (.ok (), y))
    (hclose : Transport.close.outcome y = (.ok (), w)) :
    (serve filter scope app (depth + 1) .server).outcome (freshExchange context .absent server) =
      (.ok (), w.log (.processed scope.toRequest.method scope.toRequest.url w.transport.status)) := by
  let received := scope.toRequest
  have hdispatch : (filter.dispatch .async received []
      (answer (serve filter scope app depth))).outcome
      (entered (freshExchange context .absent server) received) = (.ok (), y) := by
    rw [EtagFilter.outcome_dispatch (outcome_prepare_entered context server received),
      outcome_bind_ok hanswer, outcome_bind_ok hconclude]
    rfl
  exact (outcome_serve_outermost htype depth _ rfl).trans (outcome_handle hdispatch hclose)

/-- The server of an asynchronous application gets what the application leaves on a recorder. -/
theorem sent_of_recorded (filter : EtagFilter) (htag : ∀ body, Latin1 (filter.tag body))
    (scope : Scope) (htype : scope.type = some "http") (happ : ∀ step ∈ app, step.Responds)
    (hrequests : request.Alike scope.toRequest) (style : CallStyle) (depth : Nat) (context : Context)
    (server : Server) (hfailing : server.failing = []) :
    ∃ y z fields, (serve filter scope app (depth + 1) .server).outcome
        (freshExchange context .absent server) = (.ok (), y) ∧
      (Handler.record filter style request app.script).outcome Handler.recording = (.ok (), z) ∧
      Scope.decodeHeaders fields = z.transport.headers.multiItems ∧
      y.sent = .start z.transport.status fields ::
        (z.transport.writes.flatMap chunks).map (.part · true) ++ [.part [] false] := by
  let x₀ := Handler.recording.buffered request
  let y₀ := called context server scope.toRequest
  let L := following .asgi none false 0
  have hrelaying : y₀.Relaying [] := ⟨rfl, hfailing, nofun, nofun, fun _ => ⟨rfl, rfl⟩, nofun⟩
  have hdelivering : y₀.Delivering .asgi [] := hrelaying
  have hstart : Follows .asgi none false 0 x₀ y₀ :=
    .start rfl rfl rfl rfl rfl rfl hdelivering request
  have hplay : L.Alike (Handler.play filter style request [0] app.script) x₀
      (answer (serve filter scope app depth) [0]) y₀ :=
    (serve_follows filter style request htype hstart happ filter depth).bind fun _ z w hz =>
      L.flushDisabled hz [0]
  obtain ⟨_, z₁, w₁, hplayed, hanswer, hrel₁⟩ := hplay.ends fun _ _ _ h => h.1
  obtain ⟨_, z, w, hz, hw, hrel⟩ : ∃ v z w,
      (filter.conclude style request [0]).outcome z₁ = (.ok v, z) ∧
      (filter.conclude .async scope.toRequest [0]).outcome w₁ = (.ok v, w) ∧
      Follows .asgi none false 0 z w :=
    (hrel₁.conclude hrequests htag style .async).ends fun _ _ _ h => h.1
  obtain ⟨u, fields, hclose, hfields, hsent⟩ := Relaying.close hrel.delivering
  refine ⟨_, z, fields, outcome_serve_concluded htype hanswer hw hclose, ?_, ?_, ?_⟩
  · rw [Handler.outcome_record, outcome_bind_ok hplayed, hz]
  · rw [hfields, hrel.headers_eq]
  · rw [sent_log, hsent, hrel.status_eq]

end Asgi
end Revalidation
