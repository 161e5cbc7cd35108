import Revalidation.Proofs.Closing
import Revalidation.Proofs.Retention
import Revalidation.Proofs.Withholding

/-!
# Applications that fail

An application that leaves caching enabled has nothing of its response sent before it is through.  So when
it stops with a fault, the client gets nothing: the server is not told of a response, the fault leaves the
middleware, logged once if it is an error, and an iterable that was being read is closed.  The one fault
that is lost is one of an iterable that cannot be closed either, since closing it fails then.
-/

namespace Revalidation

namespace Exchange

open Revalidation.Action

variable {x : Exchange}

def errors (x : Exchange) : List LogEvent := x.logged.filter (·.level = .error)

/-- A server was told of no response, and nothing but the fault of a request was logged as an error. -/
structure Unanswered (x : Exchange) (request : Request) (fault : Fault) : Prop where
  unsent : ∀ message ∈ x.sent, ¬message.InResponse
  unserved : x.served = []
  errors_eq : x.errors = if fault.isError then [.failed request.method request.url fault] else []

/-! ## Nothing leaves the buffer -/

/-- Nothing of the response has left its buffer, caching is enabled, and there was no error. -/
structure Withheld (x : Exchange) : Prop where
  buffer : ∃ b, x.decorators = [.buffer b] ∧ b.copied = false
  charset_eq : x.transport.charset = .utf8
  committed_eq : x.transport.committed = false
  enabled : x.context.cachingDisabled = false
  attached : x.published = .attached
  writer_eq : ∀ writer, x.writer = some writer → writer = .response [0]
  silent : ∀ entry ∈ x.journal, entry.isSilent = true

namespace Withheld

theorem note (h : x.Withheld) {entry : Entry} (hsilent : entry.isSilent = true) :
    (x.note entry).Withheld :=
  { h with
    silent := by
      intro other hmem
      rcases List.mem_append.1 hmem with hearlier | hnew
      · exact h.silent other hearlier
      · rwa [List.mem_singleton.1 hnew] }

theorem performAll (h : x.Withheld) {calls : List Call} (hcalls : ∀ call ∈ calls, call.Composes .utf8) :
    ∃ y, (Response.performAll [0] calls).outcome x = (.ok (), y) ∧ y.Withheld := by
  obtain ⟨b, hb, hcopied⟩ := h.buffer
  have hdecorator : x.decorator 0 = .buffer b := by rw [decorator, hb]; rfl
  have hholds : b.forwarding x.context = false := by simp [Buffer.forwarding, hcopied, h.enabled]
  refine ⟨_, Response.outcome_performAll_composes hdecorator hholds h.committed_eq h.charset_eq hcalls,
    ?_⟩
  exact { h with buffer := ⟨b.compose .utf8 calls, by simp [compose, putBuffer, hb], hcopied⟩ }

theorem changeContext (h : x.Withheld) {change : Context.Change} (hchange : change ≠ .disableCaching) :
    (x.changeContext change).Withheld := by
  have hchanged : x.changeContext change = { x with context := x.context.apply change } := by
    rw [Exchange.changeContext, h.attached]
  have henabled : (x.context.apply change).cachingDisabled = false := by
    cases change <;> first | exact h.enabled | contradiction
  rw [hchanged]
  exact { h with enabled := henabled }

theorem resetHeaders (h : x.Withheld) : x.resetHeaders.Withheld := by
  rw [Exchange.resetHeaders, changeTransport_open h.committed_eq]
  exact { h with charset_eq := h.charset_eq }

theorem retained (gateway : Gateway) : Retained gateway (· ≠ .disableCaching) Withheld where
  attached h := h.attached
  committed_eq h := h.committed_eq
  writer_eq h := h.writer_eq
  note hsilent h := h.note hsilent
  performAll hcalls h := h.performAll fun call hcall => (hcalls call hcall).composes
  changeContext hchange h := h.changeContext (of_decide_eq_true hchange)
  resetHeaders h := h.resetHeaders
  setWriter h := { h with writer_eq := fun _ hwriter => (Option.some.inj hwriter).symm }
  setSends _ h := { h with }
  setIncoming _ h := { h with }

theorem unsent (h : x.Withheld) : ∀ message ∈ x.sent, ¬message.InResponse := by
  intro message hmessage
  obtain ⟨entry, hentry, hsent⟩ := List.mem_filterMap.1 hmessage
  have hsilent := h.silent entry hentry
  cases entry <;> cases hsent
  exact of_decide_eq_true hsilent

theorem unserved (h : x.Withheld) : x.served = [] := by
  rw [served, List.filter_eq_nil_iff]
  intro entry hentry hserved
  have hsilent := h.silent entry hentry
  cases entry <;> first | (cases hserved; done) | cases hsilent

theorem errors_eq (h : x.Withheld) : x.errors = [] := by
  rw [errors, List.filter_eq_nil_iff]
  intro event hevent
  obtain ⟨entry, hentry, hlogged⟩ := List.mem_filterMap.1 hevent
  have hsilent := h.silent entry hentry
  cases entry <;> cases hlogged
  simpa [Entry.isSilent] using hsilent

/-- Once an error is logged it is the only one, and there is still nothing that reached the server. -/
theorem unanswered (h : x.Withheld) (request : Request) (fault : Fault) :
    (x.logFailure request.method request.url fault).Unanswered request fault := by
  have hlogged (event : LogEvent) :
      (x.log event).errors = x.errors ++ [event].filter (·.level = .error) := by
    simp [errors, logged, log, Exchange.note, Entry.event?]
  unfold logFailure
  split
  · next herror =>
    refine ⟨by rw [sent_log]; exact h.unsent, by rw [served_log]; exact h.unserved, ?_⟩
    rw [hlogged, h.errors_eq, if_pos herror]
    rfl
  · next hquiet => exact ⟨h.unsent, h.unserved, by rw [h.errors_eq, if_neg hquiet]⟩

theorem of_called (context : Context) (server : Server) (request : Request) :
    (Asgi.called context server request).Withheld ∧ (Wsgi.called context server request).Withheld := by
  have hentries : ∀ entry ∈ [Entry.logged (.incoming request.method request.url),
      .logged (.buffering request.method request.url)], entry.isSilent = true := by
    simp [Entry.isSilent, LogEvent.level]
  exact ⟨⟨⟨_, rfl, rfl⟩, rfl, rfl, rfl, rfl, nofun, hentries⟩,
    ⟨⟨_, rfl, rfl⟩, rfl, rfl, rfl, rfl, nofun, hentries⟩⟩

end Withheld
end Exchange

open Revalidation.Action Exchange

variable {x y z : Exchange} {fault : Fault} {filter : EtagFilter} {request : Request}
  {context : Context} {server : Server} {depth : Nat}

/-! ## Asynchronous applications -/

namespace Asgi

variable {scope : Scope} {app : Application}

theorem outcome_handle_fault (filter : EtagFilter) (request : Request)
    {handler : Receiver → Action Unit}
    (hdispatch : (filter.dispatch .async request [] (answer handler)).outcome (entered x request) =
      (.error fault, y)) :
    (handle filter request handler).outcome x =
      (.error fault, y.logFailure request.method request.url fault) := by
  rw [entered] at hdispatch
  simp [handle, onFault, outcome_bind, outcome_tryCatch, hdispatch]

/-- A fault of the application leaves the middleware, and nothing of the response is sent. -/
theorem unanswered_of_fault (filter : EtagFilter) (htype : scope.type = some "http")
    (happ : ∀ step ∈ app, step.changesOnly (· ≠ .disableCaching) = true)
    (hraises : (serve filter scope app depth (.response [0])).outcome
      (called context server scope.toRequest) = (.error fault, y)) :
    ∃ z, (serve filter scope app (depth + 1) .server).outcome (freshExchange context .absent server) =
        (.error fault, z) ∧ z.Unanswered scope.toRequest fault := by
  let request := scope.toRequest
  have hy := (Withheld.retained .asgi).keeps_serve htype happ filter depth _
    (Withheld.of_called context server request).1
  rw [hraises] at hy
  have hanswer : (answer (serve filter scope app depth) [0]).outcome (called context server request) =
      (.error fault, y) := outcome_bind_error hraises
  have hhandle := outcome_handle_fault filter request
    (EtagFilter.outcome_dispatch_fault (outcome_prepare_entered context server request) hanswer)
  exact ⟨_, (outcome_serve_outermost htype depth _ rfl).trans hhandle, hy.unanswered request fault⟩

end Asgi

/-! ## Synchronous applications -/

namespace Wsgi

variable {environ : Environ} {app : Application} {iterable : Iterable} {appetite : Appetite}

/-- The fault that goes on when reading an iterable stops with one: closing it may fail in turn. -/
def Iterable.faultAfterClose (iterable : Iterable) (fault : Fault) (x : Exchange) : Fault :=
  match ((iterable.close (.response [0])).outcome x).1 with
  | .ok _ => fault
  | .error other => other

/-- What is left to do for an iterable that cannot be read on: close it. -/
theorem outcome_closing {α : Type} {action : Action α} (hfails : action.outcome x = (.error fault, y)) :
    (action.onFault fun _ => iterable.close (.response [0])).outcome x =
      (.error (iterable.faultAfterClose fault y),
        ((iterable.close (.response [0])).outcome y).2) := by
  rw [onFault, outcome_tryCatch, hfails]
  show (iterable.close (.response [0]) >>= fun _ => throw fault).outcome y = _
  unfold Iterable.faultAfterClose
  rcases hclose : (iterable.close (.response [0])).outcome y with ⟨other | _, z⟩
  · exact outcome_bind_error hclose
  · exact outcome_bind_ok hclose

theorem outcome_exchange_fault
    (hanswer : (answer (fun starter => call app starter depth) [0]).outcome
      (called context server environ.toRequest) = (.error fault, y)) (appetite : Appetite) :
    (exchange filter environ app (depth + 1) appetite).outcome (freshExchange context .absent server) =
      (.error fault, y.logFailure environ.toRequest.method environ.toRequest.url fault) := by
  exact outcome_bind_error (outcome_handle_fault filter environ.toRequest
    (EtagFilter.outcome_dispatch_fault (outcome_prepare_entered context server environ.toRequest)
      hanswer))

section Withholding

variable (happ : ∀ step ∈ app.allSteps, step.changesOnly (· ≠ .disableCaching) = true)

include happ

/-- Up to the end of its call, with a fault or without, an application has nothing sent. -/
theorem withheld_call (context : Context) (server : Server) (request : Request) (depth : Nat) :
    ((call app (.response [0]) depth).outcome (called context server request)).2.Withheld := by
  simp only [Application.allSteps, Application.opening, List.forall_mem_append] at happ
  exact (Withheld.retained .wsgi).keeps_call happ.1.1 depth _ (Withheld.of_called context server request).2

theorem withheld_begin (hx : x.Withheld) :
    ((app.result.begin (.response [0])).outcome x).2.Withheld := by
  simp only [Application.allSteps, Application.opening, List.forall_mem_append] at happ
  exact (Withheld.retained .wsgi).keeps_run happ.1.2 x hx

theorem withheld_collect (hx : x.Withheld) :
    ((collect app.result (.response [0]) [0] app.result.items 0).outcome x).2.Withheld := by
  simp only [Application.allSteps, List.forall_mem_append] at happ
  exact (Withheld.retained .wsgi).keeps_collect happ.2.1 0 x hx

theorem withheld_close (hx : x.Withheld) :
    ((app.result.close (.response [0])).outcome x).2.Withheld := by
  simp only [Application.allSteps, List.forall_mem_append] at happ
  exact (Withheld.retained .wsgi).keeps_close happ.2.2 x hx

/-- A fault in the call of an application leaves the middleware, and no response is started. -/
theorem unanswered_of_call (filter : EtagFilter)
    (hraises : (call app (.response [0]) depth).outcome (called context server environ.toRequest) =
      (.error fault, y)) (appetite : Appetite) :
    ∃ z, (exchange filter environ app (depth + 1) appetite).outcome
        (freshExchange context .absent server) = (.error fault, z) ∧
      z.Unanswered environ.toRequest fault ∧ z.fate = [] := by
  have hy := withheld_call happ context server environ.toRequest depth
  have hfate := (lasting_fate []).keeps_call app (.response [0]) depth
    (called context server environ.toRequest) rfl
  rw [hraises] at hy hfate
  exact ⟨_, outcome_exchange_fault (outcome_bind_error hraises) appetite, hy.unanswered _ _,
    (lasting_fate []).logFailure _ _ _ hfate⟩

/-- So does a fault that keeps the reading of its iterable from beginning. -/
theorem unanswered_of_begin (filter : EtagFilter)
    (hcall : (call app (.response [0]) depth).outcome (called context server environ.toRequest) =
      (.ok app.result, x))
    (hraises : (app.result.begin (.response [0])).outcome x = (.error fault, y))
    (appetite : Appetite) :
    ∃ z, (exchange filter environ app (depth + 1) appetite).outcome
        (freshExchange context .absent server) = (.error fault, z) ∧
      z.Unanswered environ.toRequest fault := by
  have hx := withheld_call happ context server environ.toRequest depth
  rw [hcall] at hx
  have hy := withheld_begin happ hx
  rw [hraises] at hy
  exact ⟨_, outcome_exchange_fault ((outcome_bind_ok hcall).trans (outcome_bind_error hraises)) appetite,
    hy.unanswered _ _⟩

/-- A fault while the iterable of an application is read leaves the middleware as well, unless closing
the iterable fails in turn. -/
theorem unanswered_of_collect (filter : EtagFilter)
    (hcall : (call app (.response [0]) depth).outcome (called context server environ.toRequest) =
      (.ok app.result, x))
    (hbegin : (app.result.begin (.response [0])).outcome x = (.ok (), y))
    (hraises : (collect app.result (.response [0]) [0] app.result.items 0).outcome y =
      (.error fault, z)) (appetite : Appetite) :
    ∃ w, (exchange filter environ app (depth + 1) appetite).outcome
        (freshExchange context .absent server) = (.error (app.result.faultAfterClose fault z), w) ∧
      w.Unanswered environ.toRequest (app.result.faultAfterClose fault z) ∧
      w.fate = if app.result.kind = .closing then [.closed] else [] := by
  have hx := withheld_call happ context server environ.toRequest depth
  have hxfate := (lasting_fate []).keeps_call app (.response [0]) depth
    (called context server environ.toRequest) rfl
  rw [hcall] at hx hxfate
  have hy := withheld_begin happ hx
  have hyfate := (lasting_fate []).keeps_begin app.result (.response [0]) x hxfate
  rw [hbegin] at hy hyfate
  have hz := withheld_collect happ hy
  have hzfate := (lasting_fate []).keeps_collect (fate_pulled _) app.result (.response [0]) [0]
    app.result.items 0 y hyfate
  rw [hraises] at hz hzfate
  -- The iterable is closed between the fault and the log.
  have hanswer : (answer (fun starter => call app starter depth) [0]).outcome
      (called context server environ.toRequest) =
      (.error (app.result.faultAfterClose fault z),
        ((app.result.close (.response [0])).outcome z).2) :=
    (outcome_bind_ok hcall).trans ((outcome_bind_ok hbegin).trans
      (outcome_bind_error (outcome_closing hraises)))
  refine ⟨_, outcome_exchange_fault hanswer appetite, (withheld_close happ hz).unanswered _ _,
    (lasting_fate _).logFailure _ _ _ ?_⟩
  by_cases hkind : app.result.kind = .closing
  · rw [fate_close hkind, hzfate, if_pos hkind]
    rfl
  · have hopen : ((app.result.close (.response [0])).outcome z).2 = z := by
      unfold Iterable.close
      rw [if_neg hkind]
      rfl
    rw [hopen, hzfate, if_neg hkind]

end Withholding

end Wsgi

/-! ## Handlers and applications of every kind -/

/-- A handler or application that stops with a fault, and leaves caching enabled, has nothing of its
response sent.  The sink of a handler has changed in the headers that the handler gave before the fault.
The fault leaves a middleware after it has been logged as the only error, unless it is none, and an
iterable that was being read is closed then; where closing fails too, it is this other fault that leaves. -/
theorem nothing_sent_on_fault (filter : EtagFilter) :
    (∀ (style : CallStyle) (request : Request) (x y : Exchange) (status : Int) (charset : Charset)
        (failing : List Nat) (steps : List HandlerStep) (fault : Fault),
      x.transport = .recorder status charset failing → x.context = {} →
      (∀ step ∈ steps, step.Withholds) →
      (Handler.run filter style request [x.decorators.length] steps).outcome (x.buffered request) =
        (.error fault, y) →
      (Handler.dispatch filter style request [] steps).outcome x = (.error fault, y) ∧
        y.transport.headers.getList? contentLengthName = none ∧
        ∃ before step after z, steps = before ++ step :: after ∧
          (Handler.run filter style request [x.decorators.length] before).outcome
            (x.buffered request) = (.ok (), z) ∧
          (Handler.runStep filter style request [x.decorators.length] step).outcome z =
            (.error fault, y) ∧
          y.transport = { Transport.recorder status charset failing with
            headers := passedHeaders {} (before.flatMap HandlerStep.ownCalls) }) ∧
    (∀ (scope : Asgi.Scope) (app : Asgi.Application) (depth : Nat) (context : Context)
        (server : Server) (fault : Fault) (y : Exchange),
      scope.type = some "http" →
      (∀ step ∈ app, step.changesOnly (· ≠ .disableCaching) = true) →
      (Asgi.serve filter scope app depth (.response [0])).outcome
        (Asgi.called context server scope.toRequest) = (.error fault, y) →
      ∃ z, (Asgi.serve filter scope app (depth + 1) .server).outcome
          (Asgi.freshExchange context .absent server) = (.error fault, z) ∧
        z.Unanswered scope.toRequest fault) ∧
    ∀ (environ : Wsgi.Environ) (app : Wsgi.Application) (depth : Nat) (context : Context)
        (server : Server) (appetite : Wsgi.Appetite),
      (∀ step ∈ app.allSteps, step.changesOnly (· ≠ .disableCaching) = true) →
      (∀ fault y, (Wsgi.call app (.response [0]) depth).outcome
          (Wsgi.called context server environ.toRequest) = (.error fault, y) →
        ∃ z, (Wsgi.exchange filter environ app (depth + 1) appetite).outcome
            (Wsgi.freshExchange context .absent server) = (.error fault, z) ∧
          z.Unanswered environ.toRequest fault ∧ z.fate = []) ∧
      ∀ x, (Wsgi.call app (.response [0]) depth).outcome
          (Wsgi.called context server environ.toRequest) = (.ok app.result, x) →
        (∀ fault y, (app.result.begin (.response [0])).outcome x = (.error fault, y) →
          ∃ z, (Wsgi.exchange filter environ app (depth + 1) appetite).outcome
              (Wsgi.freshExchange context .absent server) = (.error fault, z) ∧
            z.Unanswered environ.toRequest fault) ∧
        ∀ fault y z, (app.result.begin (.response [0])).outcome x = (.ok (), y) →
          (Wsgi.collect app.result (.response [0]) [0] app.result.items 0).outcome y =
            (.error fault, z) →
          ∃ w, (Wsgi.exchange filter environ app (depth + 1) appetite).outcome
              (Wsgi.freshExchange context .absent server) =
                (.error (app.result.faultAfterClose fault z), w) ∧
            w.Unanswered environ.toRequest (app.result.faultAfterClose fault z) ∧
            w.fate = if app.result.kind = .closing then [.closed] else [] := by
  refine ⟨?_, ?_, ?_⟩
  · intro style request x y status charset failing steps fault hsink hcontext hsteps hraises
    obtain ⟨hdispatch, before, step, after, z, hsplit, hbefore, hstep, hy⟩ :=
      Handler.dispatch_fault filter style request hsink hcontext hsteps hraises
    refine ⟨hdispatch, ?_, before, step, after, z, hsplit, hbefore, hstep, hy⟩
    rw [hy]
    exact passedHeaders_contentLength {} _
  · intro scope app depth context server fault y htype happ hraises
    exact Asgi.unanswered_of_fault filter htype happ hraises
  · intro environ app depth context server appetite happ
    constructor
    · intro fault y hraises
      exact Wsgi.unanswered_of_call happ filter hraises appetite
    · intro x hcall
      constructor
      · intro fault y hraises
        exact Wsgi.unanswered_of_begin happ filter hcall hraises appetite
      · intro fault y z hbegin hraises
        exact Wsgi.unanswered_of_collect happ filter hcall hbegin hraises appetite

theorem nothing_sent_on_fault_raised :
    let steps : List HandlerStep := [.call (.addHeader "Content-Length" "2"),
      .call (.addHeader "Vary" "*"), .call (.writeText "hi"), .fail .value "x", .save]
    let x : Exchange := { transport := .recorder 200 .ascii [] }
    let messages : Asgi.Application := [.send (.start 200 []), .send (.part [104] true), .fail .value "x"]
    let app : Wsgi.Application := ⟨[.start "200 OK" [] none],
      { kind := .closing, items := [⟨[.fail .value "x"], [97]⟩] }⟩
    let unread : Wsgi.Application := ⟨[], { first := [.fail .cancelled "x"] }⟩
    ((Handler.dispatch {} .sync ⟨"GET", "/", {}⟩ [] steps).outcome x).1 =
        .error (.raised .value "x") ∧
      (∃ z, (Asgi.serve {} { type := some "http" } messages 1 .server).outcome
          (Asgi.freshExchange {} .absent {}) = (.error (.raised .value "x"), z) ∧
        ∀ message ∈ z.sent, ¬message.InResponse) ∧
      (∃ z, (Wsgi.exchange {} {} ⟨[.fail .value "x"], {}⟩ 1 none).outcome
          (Wsgi.freshExchange {} .absent {}) = (.error (.raised .value "x"), z) ∧ z.served = []) ∧
      (∃ z, (Wsgi.exchange {} {} app 1 none).outcome (Wsgi.freshExchange {} .absent {}) =
          (.error (.raised .value "x"), z) ∧ z.served = [] ∧ z.fate = [.closed]) ∧
      ∃ z, (Wsgi.exchange {} {} unread 1 none).outcome (Wsgi.freshExchange {} .absent {}) =
          (.error (.raised .cancelled "x"), z) ∧ z.served = [] ∧ z.errors = [] := by
  intro steps x messages app unread
  obtain ⟨hhandler, hasgi, hwsgi⟩ := nothing_sent_on_fault {}
  refine ⟨?_, ?_, ?_, ?_, ?_⟩
  · have hsteps : ∀ step ∈ steps, step.Withholds := by
      simp only [steps, List.forall_mem_cons]
      exact ⟨.call rfl, .call rfl, .call rfl, .fail _ _, .save, nofun⟩
    exact congrArg Prod.fst
      (hhandler .sync ⟨"GET", "/", {}⟩ x _ 200 .ascii [] steps _ rfl rfl hsteps rfl).1
  · obtain ⟨z, hz, hunanswered⟩ :=
      hasgi { type := some "http" } messages 0 {} {} _ _ rfl (by decide) rfl
    exact ⟨z, hz, hunanswered.unsent⟩
  · obtain ⟨z, hz, hunanswered, -⟩ :=
      (hwsgi {} ⟨[.fail .value "x"], {}⟩ 0 {} {} none (by decide)).1 _ _ rfl
    exact ⟨z, hz, hunanswered.unserved⟩
  · obtain ⟨z, hz, hunanswered, hfate⟩ :=
      ((hwsgi {} app 0 {} {} none (by decide)).2 _ rfl).2 _ _ _ rfl rfl
    exact ⟨z, hz, hunanswered.unserved, hfate⟩
  · obtain ⟨z, hz, hunanswered⟩ :=
      ((hwsgi {} unread 0 {} {} none (by decide)).2 _ rfl).1 _ _ rfl
    exact ⟨z, hz, hunanswered.unserved, hunanswered.errors_eq⟩

/-- The fault of an iterable that cannot be closed either is lost, a message that is about no start
and no part of a response is not held back, and a fault that is no error is not logged. -/
theorem lost_fault_and_passed_message :
    let app : Wsgi.Application := ⟨[.start "200 OK" [] none],
      { kind := .closing, closeFails := true, items := [⟨[.fail .value "x"], [97]⟩] }⟩
    let trailers : Message := { type := some "http.response.trailers" }
    let messages : Asgi.Application := [.send (.start 200 []), .send trailers, .fail .value "x"]
    let cancelled : Asgi.Application := [.send (.start 200 []), .fail .cancelled "x"]
    let answered (app : Asgi.Application) :=
      (Asgi.serve {} { type := some "http" } app 1 .server).outcome (Asgi.freshExchange {} .absent {})
    (∀ step ∈ app.allSteps, step.changesOnly (· ≠ .disableCaching) = true) ∧
      (∃ x y z, (Wsgi.call app (.response [0]) 0).outcome (Wsgi.called {} {} ({} : Wsgi.Environ).toRequest) =
          (.ok app.result, x) ∧
        (app.result.begin (.response [0])).outcome x = (.ok (), y) ∧
        (Wsgi.collect app.result (.response [0]) [0] app.result.items 0).outcome y =
          (.error (.raised .value "x"), z)) ∧
      ((Wsgi.exchange {} {} app 1 none).outcome (Wsgi.freshExchange {} .absent {})).1 =
        .error .closeFailed ∧
      (∀ step ∈ messages, step.changesOnly (· ≠ .disableCaching) = true) ∧
      (answered messages).1 = .error (.raised .value "x") ∧ (answered messages).2.sent = [trailers] ∧
      (∀ step ∈ cancelled, step.changesOnly (· ≠ .disableCaching) = true) ∧
      (answered cancelled).1 = .error (.raised .cancelled "x") ∧ (answered cancelled).2.errors = [] := by
  intro app trailers messages cancelled answered
  exact ⟨by decide, ⟨_, _, _, rfl, rfl, rfl⟩, rfl, by decide, rfl, rfl, by decide, rfl, rfl⟩

end Revalidation
