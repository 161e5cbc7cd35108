import Revalidation.Proofs.Appending
import Revalidation.Proofs.Awaiting
import Revalidation.Proofs.Conditions

/-!
# Conditional requests

A client asks for a response, gets it with a tag, and asks again for the same with the tag as its only
condition.  An application that does the same again brings the exchange to the same point, from where
the two answers differ in what the filter makes of the condition.
-/

namespace Revalidation

open Revalidation.Action Exchange

variable {x y : Exchange} {gateway : Gateway} {b : Buffer} {filter : EtagFilter} {request : Request}

/-! ## From the evaluation to the server -/

namespace EtagFilter

theorem appends_applyTag (filter : EtagFilter) (request : Request) (i : Nat) :
    Appends (filter.applyTag request i []) := by
  refine appends_read (fun _ _ => rfl) fun x => ?_
  refine (appends_modify fun _ _ => setHeader_after [] _ _).bind fun _ => ?_
  dsimp only
  split
  · refine (appends_log _).bind fun _ => ?_
    exact (appends_modify fun _ _ => setStatus_after [] _).bind fun _ =>
      appends_modify fun _ _ => resetBuffer_after _
  · exact (appends_log _).bind fun _ => Response.appends_copyBody _ true

theorem appends_evaluate (filter : EtagFilter) (request : Request) (i : Nat) :
    Appends (filter.evaluate request i []) := by
  refine appends_read (fun _ _ => rfl) fun x => ?_
  dsimp only
  split
  · exact (appends_log _).bind fun _ => Response.appends_copyBody _ true
  split
  · exact (appends_log _).bind fun _ => Response.appends_copyBody _ true
  · exact filter.appends_applyTag request i

theorem appends_conclude (filter : EtagFilter) (style : CallStyle) (request : Request) (i : Nat) :
    Appends (filter.conclude style request [i]) := by
  have hupdate : Appends (filter.update style request [i]) := by
    refine appends_read (fun _ _ => rfl) fun x => ?_
    cases hb : x.buffer? i with
    | none =>
        simp only [findBuffer, hb, Option.isSome_none, Bool.false_eq_true, if_false]
        exact appends_throw _
    | some b =>
        simp only [findBuffer, hb, Option.isSome_some, if_true]
        exact filter.appends_evaluate request i
  refine appends_read (fun _ _ => rfl) fun x => ?_
  split
  · exact appends_log _
  split
  · exact appends_log _
  · exact hupdate

end EtagFilter

namespace Exchange

def recorded (x : Exchange) : Transport :=
  { x.transport with medium := .memory .utf8 [] 0 [] }

theorem sent_after (earlier : List Entry) :
    (x.after earlier).sent = earlier.filterMap Entry.message? ++ x.sent := List.filterMap_append

theorem served_after (earlier : List Entry) :
    (x.after earlier).served = earlier.filter Entry.isServed ++ x.served := List.filter_append ..

namespace Awaiting

theorem delivering (h : x.Awaiting gateway) :
    ({ x with journal := [] } : Exchange).Delivering gateway [] := by
  cases gateway with
  | asgi =>
      refine ⟨h.medium_eq, h.accepts, h.carriesHeaders, nofun, fun _ => ⟨rfl, rfl⟩, fun hclosed => ?_⟩
      have hclosed : x.transport.committed = true := hclosed
      rw [h.committed_eq] at hclosed
      cases hclosed
  | wsgi =>
      refine ⟨[], [], ⟨h.medium_eq, h.accepts, fun _ => ⟨rfl, rfl, rfl⟩, fun hclosed => ?_⟩, rfl⟩
      have hclosed : x.transport.committed = true := hclosed
      rw [h.committed_eq] at hclosed
      cases hclosed

theorem follows (h : x.Awaiting gateway) :
    Follows gateway x.writer false 0 { x with transport := x.recorded, journal := [] }
      { x with journal := [] } where
  isBuffer := by
    obtain ⟨b, hb, -⟩ := h.buffer
    simp [isBuffer, buffer?, decorator, hb]
  medium_eq := ⟨0, rfl⟩
  decorators_eq := rfl
  context_eq := rfl
  disabled_eq := nofun
  attached := h.attached
  published_eq := h.attached
  writer_eq := rfl
  status_eq := rfl
  headers_eq := rfl
  committed_eq := rfl
  carries_length := by
    obtain ⟨b, hb, -, hlength⟩ := h.buffer
    intro j c value hc hvalue
    have hj : j < x.decorators.length := lt_of_decorator_eq hc
    have hone : x.decorators.length = 1 := by rw [hb]; rfl
    obtain rfl : j = 0 := by omega
    have hfirst : x.decorator 0 = .buffer b := by rw [decorator, hb]; rfl
    obtain rfl : b = c := Decorator.buffer.inj (hfirst.symm.trans hc)
    exact hlength value hvalue
  delivering := h.delivering

/-- The evaluation settles the response as over a recorder. -/
theorem conclude (h : x.Awaiting gateway) (hb : x.decorators = [.buffer b]) (style : CallStyle)
    (request : Request) :
    let u := (({} : EtagFilter).settle request x.recorded b).1
    ∃ y : Exchange,
      (({} : EtagFilter).conclude style request [0]).outcome x = (.ok (), y.after x.journal) ∧
      y.Delivering gateway (u.writes.flatMap chunks) ∧ y.transport.status = u.status ∧
      y.transport.headers = u.headers := by
  intro u
  -- The server follows the recorder from an empty journal on: what the application did before the
  -- evaluation is put in front again in the end.
  let x₀ : Exchange := { x with transport := x.recorded, journal := [] }
  let y₀ : Exchange := { x with journal := [] }
  have hx : y₀.after x.journal = x := by simp [y₀, after]
  have hdecorator : x₀.decorator 0 = .buffer b := by
    show x.decorators.getD 0 .forward = _
    rw [hb]
    rfl
  have htag (body : Bytes) : gateway.Carries (({} : EtagFilter).tag body) := by
    cases gateway with
    | asgi => exact Latin1.tag body
    | wsgi => trivial
  have haccepts : x₀.transport.refuses = false := rfl
  obtain ⟨z, hevaluate, hz, -, -⟩ := EtagFilter.outcome_evaluate_settle {} request
    hdecorator h.follows.records (Or.inr (Or.inr (Or.inr haccepts)))
  have hrecorded : (({} : EtagFilter).conclude style request [0]).outcome x₀ = (.ok (), z) :=
    (EtagFilter.outcome_conclude_evaluate (x := x₀) hdecorator h.awake h.enabled).trans hevaluate
  obtain ⟨_, v, w, hv, hw, hrel⟩ :=
    (h.follows.conclude ⟨rfl, rfl⟩ htag style style).ends fun _ _ _ h => h.1
  rw [hrecorded] at hv
  cases hv
  have hafter := EtagFilter.appends_conclude {} style request 0 y₀ x.journal
  rw [hx, hw] at hafter
  have hz : z.transport = u := hz
  refine ⟨w, hafter, ?_, ?_, ?_⟩
  · rw [← hz]
    exact hrel.delivering
  · rw [hrel.status_eq, hz]
  · rw [hrel.headers_eq, hz]

end Awaiting
end Exchange

/-! ## Asynchronous exchanges -/

namespace Asgi

variable {scope again : Scope} {app : Application} {depth : Nat} {context : Context} {server : Server}
  {w : Exchange}

theorem awaiting_called (context : Context) (hfailing : server.failing = []) (request : Request) :
    (called context server request).Awaiting .asgi where
  buffer := ⟨{ forRequest := true }, rfl, rfl, nofun⟩
  medium_eq := rfl
  committed_eq := rfl
  carriesHeaders := nofun
  orderly := Headers.orderly_empty
  lengthless := rfl
  enabled := rfl
  awake := rfl
  attached := rfl
  writer_eq := nofun
  accepts := hfailing
  sent_others := nofun
  served_eq := rfl

theorem outcome_serve_again (htype : scope.type = some "http") (hagain : again.type = some "http")
    (filter : EtagFilter) (response : Response) (h : x.published = .attached) :
    (serve filter again app depth (.response response)).outcome x =
      (serve filter scope app depth (.response response)).outcome x := by
  induction depth generalizing x with
  | zero => rfl
  | succ depth ih =>
      have hpass {other : Scope} (hother : other.type = some "http") :
          (serve filter other app (depth + 1) (.response response)).outcome x =
            (serve filter other app depth (.response response)).outcome (x.log .passingThrough) := by
        simp [serve, hother, outcome_bind, h]
      rw [hpass hagain, hpass htype]
      exact ih h

theorem outcome_answer_enabled {handler : Receiver → Action Unit} {response : Response}
    (hhandler : (handler (.response response)).outcome x = (.ok (), w))
    (henabled : w.context.cachingDisabled = false) :
    (answer handler response).outcome x = (.ok (), w) := by
  rw [answer, outcome_bind_ok hhandler, outcome_bind_ok (outcome_get w), henabled,
    if_neg Bool.false_ne_true, outcome_pure]

theorem exists_of_handle_ok {handler : Receiver → Action Unit}
    (hok : (handle filter request handler).outcome x = (.ok (), y)) :
    ∃ z, (filter.dispatch .async request [] (answer handler)).outcome (entered x request) =
      (.ok (), z) := by
  obtain ⟨_, _, hpublish, hlogs⟩ := exists_of_bind_ok hok
  cases hpublish
  obtain ⟨_, _, hlog, hguards⟩ := exists_of_bind_ok hlogs
  cases hlog
  obtain ⟨_, _, hguarded, -⟩ := exists_of_bind_ok hguards
  obtain ⟨_, z, hdispatch, -⟩ := exists_of_bind_ok (outcome_of_onFault hguarded)
  exact ⟨z, hdispatch⟩

/-- The server was served, so the application ended without a fault, and the exchange awaited its
evaluation then. -/
theorem awaiting_of_served (htype : scope.type = some "http")
    (happ : ∀ step ∈ app, step.keepsEvaluation = true) (hfailing : server.failing = [])
    (hok : (serve filter scope app (depth + 1) .server).outcome (freshExchange context .absent server) =
      (.ok (), x)) :
    ∃ w, (serve filter scope app depth (.response [0])).outcome
        (called context server scope.toRequest) = (.ok (), w) ∧ w.Awaiting .asgi := by
  let request := scope.toRequest
  rw [outcome_serve_outermost htype depth _ rfl] at hok
  obtain ⟨z, hdispatch⟩ := exists_of_handle_ok hok
  rw [EtagFilter.outcome_dispatch (outcome_prepare_entered context server request)] at hdispatch
  obtain ⟨_, v, hanswer, -⟩ := exists_of_bind_ok hdispatch
  obtain ⟨_, w, hserve, -⟩ := exists_of_bind_ok hanswer
  have hw := keeps_serve htype happ filter depth _ (awaiting_called context hfailing request)
  rw [hserve] at hw
  exact ⟨w, hserve, hw⟩

/-- Once a request has brought the exchange to its evaluation, the same request with any conditions is
answered with what the evaluation settles. -/
theorem served_of_awaiting (htype : scope.type = some "http")
    (hserve : (serve {} scope app depth (.response [0])).outcome
      (called context server scope.toRequest) = (.ok (), w))
    (h : w.Awaiting .asgi) (hb : w.decorators = [.buffer b]) (hagain : again.type = some "http")
    (hmethod : again.toRequest.method = scope.toRequest.method)
    (hurl : again.toRequest.url = scope.toRequest.url) :
    let u := (({} : EtagFilter).settle again.toRequest w.recorded b).1
    ∃ y fields, (serve {} again app (depth + 1) .server).outcome
        (freshExchange context .absent server) = (.ok (), y) ∧
      Scope.decodeHeaders fields = u.headers.multiItems ∧
      y.sent = w.sent ++ .start u.status fields ::
        (u.writes.flatMap chunks).map (.part · true) ++ [.part [] false] := by
  intro u
  have hcalled : called context server again.toRequest = called context server scope.toRequest := by
    simp only [called, entered, buffered, hmethod, hurl]
  have hserves : (serve {} again app depth (.response [0])).outcome
      (called context server again.toRequest) = (.ok (), w) := by
    rw [hcalled, outcome_serve_again htype hagain {} [0] rfl, hserve]
  obtain ⟨z, hconclude, hz, hstatus, hheaders⟩ := h.conclude hb .async again.toRequest
  obtain ⟨y, fields, hclose, hfields, hsent⟩ := Relaying.close hz
  have hcloses : Transport.close.outcome (z.after w.journal) = (.ok (), y.after w.journal) := by
    rw [Transport.appends_close, hclose]
  refine ⟨_, fields, outcome_serve_concluded hagain (outcome_answer_enabled hserves h.enabled)
    hconclude hcloses, ?_, ?_⟩
  · rw [hfields, hheaders]
  · rw [sent_log, sent_after, hsent, hstatus, List.append_assoc]
    rfl

end Asgi

/-! ## Synchronous exchanges -/

namespace Wsgi

variable {environ again : Environ} {app : Application} {depth : Nat} {context : Context}
  {server : Server} {w : Exchange}

theorem awaiting_called (context : Context) (hrefuses : server.refusesStart = false)
    (request : Request) : (called context server request).Awaiting .wsgi where
  buffer := ⟨{ forRequest := true }, rfl, rfl, nofun⟩
  medium_eq := rfl
  committed_eq := rfl
  carriesHeaders := trivial
  orderly := Headers.orderly_empty
  lengthless := rfl
  enabled := rfl
  awake := rfl
  attached := rfl
  writer_eq := nofun
  accepts := hrefuses
  sent_others := nofun
  served_eq := rfl

theorem exists_of_handle_ok {handler : Starter → Action Iterable} {served : Served}
    (hok : (handle filter request handler).outcome x = (.ok served, y)) :
    ∃ streaming z, (filter.dispatch .sync request [] (answer handler)).outcome
      (Asgi.entered x request) = (.ok streaming, z) := by
  obtain ⟨_, _, hpublish, hlogs⟩ := exists_of_bind_ok hok
  cases hpublish
  obtain ⟨_, _, hlog, hguards⟩ := exists_of_bind_ok hlogs
  cases hlog
  obtain ⟨_, _, hguarded, -⟩ := exists_of_bind_ok hguards
  obtain ⟨streaming, z, hdispatch, -⟩ := exists_of_bind_ok (outcome_of_onFault hguarded)
  exact ⟨streaming, z, hdispatch⟩

/-- The server consumed a response, so the application ended without a fault, and the exchange awaited
its evaluation then. -/
theorem awaiting_of_exchange (happ : ∀ step ∈ app.allSteps, step.keepsEvaluation = true)
    (hrefuses : server.refusesStart = false) {appetite : Appetite}
    (hok : (exchange filter environ app (depth + 1) appetite).outcome
      (freshExchange context .absent server) = (.ok (), x)) :
    ∃ w, (answer (fun starter => call app starter depth) [0]).outcome
        (called context server environ.toRequest) = (.ok none, w) ∧ w.Awaiting .wsgi := by
  let request := environ.toRequest
  obtain ⟨served, u, hserve, -⟩ := exists_of_bind_ok hok
  have hhandle : (handle filter request fun starter => call app starter depth).outcome
      (freshExchange context .absent server) = (.ok served, u) := hserve
  obtain ⟨_, z, hdispatch⟩ := exists_of_handle_ok hhandle
  rw [EtagFilter.outcome_dispatch (outcome_prepare_entered context server request)] at hdispatch
  obtain ⟨streaming, w, hanswer, -⟩ := exists_of_bind_ok hdispatch
  obtain ⟨rfl, hw⟩ := awaiting_answer happ (awaiting_called context hrefuses request) hanswer
  exact ⟨w, hanswer, hw⟩

/-- Once a request has brought the exchange to its evaluation, the same request with any conditions is
answered with what the evaluation settles. -/
theorem served_of_awaiting
    (hanswer : (answer (fun starter => call app starter depth) [0]).outcome
      (called context server environ.toRequest) = (.ok none, w))
    (h : w.Awaiting .wsgi) (hb : w.decorators = [.buffer b])
    (hmethod : again.toRequest.method = environ.toRequest.method)
    (hurl : again.toRequest.url = environ.toRequest.url) :
    let u := (({} : EtagFilter).settle again.toRequest w.recorded b).1
    ∃ y, (exchange {} again app (depth + 1) none).outcome (freshExchange context .absent server) =
        (.ok (), y) ∧
      y.transport.status = u.status ∧
      y.served = .responseStarted (Status.line u.status) u.headers.multiItems ::
        (u.writes.flatMap chunks).map .chunk := by
  intro u
  have hcalled : called context server again.toRequest =
      called context server environ.toRequest := by
    simp only [called, Asgi.entered, buffered, hmethod, hurl]
  rw [← hcalled] at hanswer
  obtain ⟨z, hconclude, ⟨handed, waiting, hz, hparts⟩, hstatus, hheaders⟩ :=
    h.conclude hb .sync again.toRequest
  have hserved : (z.after w.journal).served = z.served := by
    rw [served_after, ← served, h.served_eq, List.nil_append]
  obtain ⟨y, hexchange, hcode, hy⟩ := served_of_concluded hanswer hconclude
    ⟨handed, waiting, hz.congr rfl rfl hserved, hparts⟩
  refine ⟨y, hexchange, ?_, ?_⟩
  · rw [hcode, after_transport, hstatus]
  · rw [hy, after_transport, hstatus, hheaders]

end Wsgi

/-! ## The handshake -/

/-- Of an exchange that awaits its evaluation: a request with the tag of a first response as its
condition, and one with any other condition. -/
theorem Exchange.Awaiting.settle_again (h : x.Awaiting gateway) (hb : x.decorators = [.buffer b])
    (hget : request.method = "GET") (hfirst : request.headers.get? "If-None-Match" = none) :
    let u := (({} : EtagFilter).settle request x.recorded b).1
    let tag := EntityTag.ofBytes (u.writes.flatMap chunks).flatten
    Storable u.status u.headers.multiItems →
      valuesOf "etag" u.headers.multiItems = [tag] ∧
        ∀ again : Request, again.method = "GET" →
          (again.headers.get? "If-None-Match" = some tag →
            let v := (({} : EtagFilter).settle again x.recorded b).1
            v.status = notModifiedStatus ∧ v.writes = [] ∧
              v.headers.multiItems = u.headers.multiItems.filter (·.1 ≠ "content-length")) ∧
          (again.headers.get? "If-None-Match" ≠ some tag →
            (({} : EtagFilter).settle again x.recorded b).1 = u) := by
  obtain ⟨c, hc, hcopied, -⟩ := h.buffer
  obtain rfl : b = c := by
    rw [hb] at hc
    cases hc
    rfl
  intro u tag
  have htag : tag = EntityTag.ofBytes u.body := congrArg EntityTag.ofBytes (flatten_flatMap_chunks _)
  rw [htag]
  exact EtagFilter.settle_again hcopied h.committed_eq ⟨.utf8, [], 0, [], rfl⟩ rfl h.orderly
    h.lengthless hget hfirst

/-- At either gateway, for an application that neither disables caching nor suspends the exchange: if a
GET request without a condition is answered with a success that may be stored, then it carries the tag
of its body.  The same request with that tag as its only condition is answered with 304, no body and
the same headers in the same order without a content length, and with any other condition or none it
is answered with the same response again, message for message. -/
theorem conditional_handshake :
    (∀ (app : Asgi.Application) (scope : Asgi.Scope) (depth : Nat) (context : Context)
        (server : Server) (x : Exchange),
      (∀ step ∈ app, step.keepsEvaluation = true) → scope.type = some "http" →
      scope.toRequest.method = "GET" → scope.conditions = [] → server.failing = [] →
      (Asgi.serve {} scope app (depth + 1) .server).outcome
        (Asgi.freshExchange context .absent server) = (.ok (), x) →
      ∃ (others : List Message) (status : Int) (fields : List (Bytes × Bytes)) (parts : List Bytes),
        (∀ message ∈ others, ¬message.InResponse) ∧
        x.sent = others ++ .start status fields :: parts.map (.part · true) ++ [.part [] false] ∧
        (Storable status (Asgi.Scope.decodeHeaders fields) →
          let tag := EntityTag.ofBytes parts.flatten
          valuesOf "etag" (Asgi.Scope.decodeHeaders fields) = [tag] ∧
            ∀ again : Asgi.Scope, again.type = some "http" → again.toRequest.method = "GET" →
              again.toRequest.url = scope.toRequest.url →
              ∃ y, (Asgi.serve {} again app (depth + 1) .server).outcome
                  (Asgi.freshExchange context .absent server) = (.ok (), y) ∧
                (again.conditions = [tag] → y.sent = others ++
                  [.start 304 (fields.filter fun field => decodeLatin1 field.1 ≠ "content-length"),
                    .part [] false]) ∧
                (joinValues again.conditions ≠ some tag → y.sent = x.sent))) ∧
    (∀ (app : Wsgi.Application) (environ : Wsgi.Environ) (depth : Nat) (context : Context)
        (server : Server) (x : Exchange),
      (∀ step ∈ app.allSteps, step.keepsEvaluation = true) →
      environ.toRequest.method = "GET" → environ.conditions = [] → server.refusesStart = false →
      (Wsgi.exchange {} environ app (depth + 1) none).outcome
        (Wsgi.freshExchange context .absent server) = (.ok (), x) →
      ∃ (headers : List (String × String)) (parts : List Bytes),
        x.served = .responseStarted (Status.line x.transport.status) headers :: parts.map .chunk ∧
        (Storable x.transport.status headers →
          let tag := EntityTag.ofBytes parts.flatten
          valuesOf "etag" headers = [tag] ∧
            ∀ again : Wsgi.Environ, again.toRequest.method = "GET" →
              again.toRequest.url = environ.toRequest.url →
              ∃ y, (Wsgi.exchange {} again app (depth + 1) none).outcome
                  (Wsgi.freshExchange context .absent server) = (.ok (), y) ∧
                (again.conditions = [tag] → y.served =
                  [.responseStarted (Status.line 304) (headers.filter (·.1 ≠ "content-length"))]) ∧
                (joinValues again.conditions ≠ some tag → y.served = x.served))) := by
  constructor
  · intro app scope depth context server x happ htype hget hfirst hfailing hok
    have hnone : scope.toRequest.headers.get? "If-None-Match" = none := by
      rw [scope.condition_eq, hfirst, joinValues]
    -- Any repetition comes to the same exchange, where only the evaluation looks at the condition.
    obtain ⟨w, hserve, hw⟩ := Asgi.awaiting_of_served htype happ hfailing hok
    obtain ⟨b, hb, -⟩ := hw.buffer
    obtain ⟨z, fields, hz, hfields, hsent⟩ :=
      Asgi.served_of_awaiting htype hserve hw hb htype rfl rfl
    obtain rfl : x = z := (Prod.mk.inj (hok.symm.trans hz)).2
    refine ⟨w.sent, _, fields, _, hw.sent_others, hsent, fun hstorable => ?_⟩
    rw [hfields] at hstorable
    obtain ⟨htag, hagain⟩ := hw.settle_again hb hget hnone hstorable
    refine ⟨hfields ▸ htag, fun again hhttp hmethod hurl => ?_⟩
    obtain ⟨hmatches, hdiffers⟩ := hagain again.toRequest hmethod
    rw [again.condition_eq] at hmatches hdiffers
    obtain ⟨y, others, hy, hothers, hsent'⟩ :=
      Asgi.served_of_awaiting htype hserve hw hb hhttp (hmethod.trans hget.symm) hurl
    refine ⟨y, hy, fun hcondition => ?_, fun hcondition => ?_⟩
    · obtain ⟨hstatus, hwrites, hheaders⟩ := hmatches (by rw [hcondition, joinValues_singleton])
      rw [hheaders, ← hfields, ← Asgi.Scope.decodeHeaders_filter (fun name => name ≠ "content-length")]
        at hothers
      rw [hsent', hstatus, hwrites, Asgi.Scope.decodeHeaders_injective hothers, List.append_assoc]
      rfl
    · rw [hdiffers hcondition] at hothers hsent'
      rw [hsent', hsent, Asgi.Scope.decodeHeaders_injective (hothers.trans hfields.symm)]
  · intro app environ depth context server x happ hget hfirst hrefuses hok
    have hnone : environ.toRequest.headers.get? "If-None-Match" = none := by
      rw [environ.condition_eq, hfirst, joinValues]
    obtain ⟨w, hanswer, hw⟩ := Wsgi.awaiting_of_exchange happ hrefuses hok
    obtain ⟨b, hb, -⟩ := hw.buffer
    obtain ⟨z, hz, hstatus, hserved⟩ := Wsgi.served_of_awaiting hanswer hw hb rfl rfl
    obtain rfl : x = z := (Prod.mk.inj (hok.symm.trans hz)).2
    refine ⟨_, _, by rw [hserved, hstatus], fun hstorable => ?_⟩
    rw [hstatus] at hstorable
    obtain ⟨htag, hagain⟩ := hw.settle_again hb hget hnone hstorable
    refine ⟨htag, fun again hmethod hurl => ?_⟩
    obtain ⟨hmatches, hdiffers⟩ := hagain again.toRequest hmethod
    rw [again.condition_eq] at hmatches hdiffers
    obtain ⟨y, hy, -, hserved'⟩ :=
      Wsgi.served_of_awaiting hanswer hw hb (hmethod.trans hget.symm) hurl
    refine ⟨y, hy, fun hcondition => ?_, fun hcondition => ?_⟩
    · obtain ⟨hstatus', hwrites, hheaders⟩ := hmatches (by rw [hcondition, joinValues_singleton])
      rw [hserved', hstatus', hwrites, hheaders]
      rfl
    · rw [hserved', hdiffers hcondition, hserved]

/-- A greeting at either gateway, for a client that asks again with the tag of the greeting. -/
theorem conditional_handshake_hi :
    let tag := EntityTag.ofBytes [104, 105]
    let tagBytes : Bytes := tag.toList.map fun c => c.toNat.toUInt8
    let condition : Bytes := [105, 102, 45, 110, 111, 110, 101, 45, 109, 97, 116, 99, 104]
    let etag : Bytes := [101, 116, 97, 103]
    let length : Bytes := [99, 111, 110, 116, 101, 110, 116, 45, 108, 101, 110, 103, 116, 104]
    let app : Asgi.Application := [.send (.start 200 []), .send (.part [104, 105] false)]
    let scope : Asgi.Scope := { type := some "http" }
    let again : Asgi.Scope := { scope with headers := some [(condition, tagBytes)] }
    let body : Wsgi.Application :=
      ⟨[.start "200 OK" [] none], { kind := .iterator, items := [⟨[], [104, 105]⟩] }⟩
    let environ : Wsgi.Environ := ⟨[("REQUEST_METHOD", "GET")]⟩
    let environAgain : Wsgi.Environ := ⟨[("REQUEST_METHOD", "GET"), ("HTTP_IF_NONE_MATCH", tag)]⟩
    (∃ x y : Exchange,
      (Asgi.serve {} scope app 1 .server).outcome (Asgi.freshExchange {} .absent {}) = (.ok (), x) ∧
      x.sent = [.start 200 [(etag, tagBytes), (length, [50])], .part [104, 105] true, .part [] false] ∧
      (Asgi.serve {} again app 1 .server).outcome (Asgi.freshExchange {} .absent {}) = (.ok (), y) ∧
      y.sent = [.start 304 [(etag, tagBytes)], .part [] false]) ∧
    ∃ x y : Exchange,
      (Wsgi.exchange {} environ body 1 none).outcome (Wsgi.freshExchange {} .absent {}) =
        (.ok (), x) ∧
      x.served = [.responseStarted (Status.line 200) [("etag", tag), ("content-length", "2")],
        .chunk [104, 105]] ∧
      (Wsgi.exchange {} environAgain body 1 none).outcome (Wsgi.freshExchange {} .absent {}) =
        (.ok (), y) ∧
      y.served = [.responseStarted (Status.line 304) [("etag", tag)]] := by
  intro tag tagBytes condition etag length app scope again body environ environAgain
  constructor
  · obtain ⟨x, hok, hx⟩ : ∃ x : Exchange,
        (Asgi.serve {} scope app 1 .server).outcome (Asgi.freshExchange {} .absent {}) = (.ok (), x) ∧
        x.sent = [.start 200 [(etag, tagBytes), (length, [50])], .part [104, 105] true,
          .part [] false] := ⟨_, eq_ok_of_isOk (by decide +kernel), by decide +kernel⟩
    have happ : ∀ step ∈ app, step.keepsEvaluation = true := by decide
    obtain ⟨others, status, fields, parts, hothers, hsent, hagain⟩ :=
      conditional_handshake.1 app scope 0 {} {} x happ rfl rfl rfl rfl hok
    rw [hx] at hsent
    obtain rfl : others = [] := by
      cases others with
      | nil => rfl
      | cons message rest =>
          obtain ⟨rfl, -⟩ := List.cons.inj hsent
          exact absurd (.inl rfl) (hothers _ List.mem_cons_self)
    obtain ⟨hstart, hparts⟩ := List.cons.inj hsent
    obtain ⟨rfl, rfl⟩ : 200 = status ∧ [(etag, tagBytes), (length, [50])] = fields := by
      simpa [Message.start] using hstart
    obtain rfl : parts = [[104, 105]] := by
      rcases parts with _ | ⟨first, _ | ⟨second, rest⟩⟩ <;> simp_all [Message.part]
    have hstorable : Storable 200 (Asgi.Scope.decodeHeaders [(etag, tagBytes), (length, [50])]) := by
      refine ⟨by decide, by decide, by decide +kernel⟩
    obtain ⟨y, hy, hmatches, -⟩ := (hagain hstorable).2 again rfl rfl rfl
    have hcondition : again.conditions = [tag] := by decide +kernel
    have hkept : ([(etag, tagBytes), (length, [50])].filter fun field =>
        decodeLatin1 field.1 ≠ "content-length") = [(etag, tagBytes)] := by decide +kernel
    refine ⟨x, y, hok, hx, hy, ?_⟩
    rw [hmatches hcondition, hkept]
    rfl
  · obtain ⟨x, hok, hx⟩ : ∃ x : Exchange,
        (Wsgi.exchange {} environ body 1 none).outcome (Wsgi.freshExchange {} .absent {}) =
          (.ok (), x) ∧
        (x.served = [.responseStarted (Status.line 200) [("etag", tag), ("content-length", "2")],
          .chunk [104, 105]] ∧ x.transport.status = 200) :=
      ⟨_, eq_ok_of_isOk (by decide +kernel), by decide +kernel, by decide +kernel⟩
    have happ : ∀ step ∈ body.allSteps, step.keepsEvaluation = true := by decide
    obtain ⟨headers, parts, hserved, hagain⟩ :=
      conditional_handshake.2 body environ 0 {} {} x happ rfl rfl rfl hok
    obtain ⟨hx, hstatus⟩ := hx
    rw [hstatus] at hserved hagain
    rw [hx] at hserved
    obtain ⟨hstart, hparts⟩ := List.cons.inj hserved
    obtain rfl : [("etag", tag), ("content-length", "2")] = headers := by simpa using hstart
    obtain rfl : parts = [[104, 105]] := by
      rcases parts with _ | ⟨first, _ | ⟨second, rest⟩⟩ <;> simp_all
    have hstorable : Storable 200 [("etag", tag), ("content-length", "2")] := by
      refine ⟨by decide, by decide, by decide +kernel⟩
    obtain ⟨y, hy, hmatches, -⟩ := (hagain hstorable).2 environAgain (by decide) (by decide)
    have hcondition : environAgain.conditions = [tag] := by decide +kernel
    refine ⟨x, y, hok, hx, hy, ?_⟩
    rw [hmatches hcondition]
    rfl

end Revalidation
