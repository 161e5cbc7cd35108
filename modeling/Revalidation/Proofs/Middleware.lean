import Revalidation.Proofs.Serving

/-!
# What the middleware sends

The server of an asynchronous application gets one whole response from the middleware: a start, the
parts of the body, none of them empty, and an end.  The parts make up the body of the application,
unless the client has it already, and a body that was buffered as a whole goes out with its length.
-/

namespace Revalidation

open Revalidation.Action

variable {x y : Exchange} {i : Nat} {b : Buffer} {calls : List Call} {request : Request}

/-! ## Content lengths among the header fields -/

def contentLengths (fields : List (String × String)) : List (String × String) :=
  fields.filter fun field => Text.lower field.1 = "content-length"

theorem contentLengths_set {h : Headers} (hlatin1 : h.Latin1)
    (hmissing : h.getList? contentLengthName = none) (value : String) :
    contentLengths (h.set contentLengthName value).multiItems = [("content-length", value)] := by
  have hearlier : contentLengths h.multiItems = [] := by
    rw [contentLengths, List.filter_eq_nil_iff]
    intro field hfield
    have hne := Headers.ne_of_missing hmissing hfield
    obtain ⟨entry, hentry, hmem⟩ := List.mem_flatMap.1 hfield
    obtain ⟨other, -, rfl⟩ := List.mem_map.1 hmem
    have hfolded : Text.lower entry.1 = entry.1 := (hlatin1 entry hentry).2.1
    rw [Headers.lower_contentLength] at hne
    rw [decide_eq_true_eq, hfolded]
    exact hne
  have hself : Text.lower "content-length" = "content-length" := by decide
  rw [Headers.multiItems_set_of_missing hmissing, contentLengths, List.filter_append,
    ← contentLengths, hearlier, Headers.lower_contentLength]
  simp [hself]

/-! ## The evaluation of what an application composed -/

theorem latin1_setTag {t : Transport} (ht : t.headers.Latin1) (body : Bytes) :
    (t.setTag (EntityTag.ofBytes body)).headers.Latin1 := by
  have hname : Latin1 "ETag" := by decide
  exact ht.set hname (Latin1.tag body)

theorem latin1_mark {t : Transport} (ht : t.headers.Latin1) :
    (({} : EtagFilter).mark request t b).headers.Latin1 := by
  unfold EtagFilter.mark
  split
  · exact ht
  · exact latin1_setTag ht b.content

namespace Exchange.Composing

open Exchange

theorem notModified_iff (h : x.Composing i calls) :
    ({} : EtagFilter).NotModified request x.transport
        (Buffer.compose { forRequest := true } .utf8 calls) ↔
      Taggable request ((lastStatus? calls).getD 200) (passedHeaders {} calls) ∧
        request.headers.get? "If-None-Match" =
          some (EntityTag.ofBytes (writtenBytes .utf8 calls)) := by
  have hstatus : (Buffer.compose { forRequest := true } .utf8 calls).status.getD x.transport.status =
      (lastStatus? calls).getD 200 := by
    have hrecorded : (Buffer.compose { forRequest := true } .utf8 calls).status = lastStatus? calls :=
      Option.or_none
    rw [h.transport_eq, hrecorded]
    rfl
  have hheaders : x.transport.headers = passedHeaders {} calls := by rw [h.transport_eq]
  rw [EtagFilter.NotModified, EtagFilter.accepts_default, EtagFilter.matches_default, hstatus, hheaders]
  exact and_iff_right h.committed_eq

theorem evaluate_notModified (h : x.Composing i calls)
    (hmatch : ({} : EtagFilter).NotModified request x.transport
      (Buffer.compose { forRequest := true } .utf8 calls)) :
    ∃ y, (({} : EtagFilter).evaluate request i []).outcome x = (.ok (), y) ∧ y.Relaying [] ∧
      y.transport.status = 304 := by
  refine ⟨_, EtagFilter.outcome_evaluate_notModified h.decorator_eq hmatch, ?_, rfl⟩
  have hlatin1 := latin1_setTag h.relaying.latin1 (writtenBytes .utf8 calls)
  have htransport := h.relaying.setTransport (t := x.transport.setUnmodified _) rfl hlatin1 rfl
    fun hcommitted => by
      rw [h.committed_eq] at hcommitted
      cases hcommitted
  exact (htransport.log _).putBuffer

theorem evaluate_copy (h : x.Composing i calls)
    (hmatch : ¬({} : EtagFilter).NotModified request x.transport
      (Buffer.compose { forRequest := true } .utf8 calls)) :
    ∃ y, (({} : EtagFilter).evaluate request i []).outcome x = (.ok (), y) ∧
      y.Relaying (chunks (writtenBytes .utf8 calls)) ∧
      (writtenBytes .utf8 calls ≠ [] → contentLengths y.transport.headers.multiItems =
        [("content-length", toString (writtenBytes .utf8 calls).length)]) := by
  let b := Buffer.compose { forRequest := true } .utf8 calls
  obtain ⟨z, hcopy, hquiet, hmark⟩ := EtagFilter.outcome_evaluate_copy h.decorator_eq hmatch
  have hopen : z.transport.committed = false := by rw [hquiet.committed_eq, h.committed_eq]
  have hdecorator : z.decorator i = .buffer b := by
    rw [hquiet.decorator_eq i List.not_mem_nil, h.decorator_eq]
  have hlatin1 : z.transport.headers.Latin1 := by
    rw [hmark]
    exact latin1_mark h.relaying.latin1
  have hmissing : z.transport.headers.getList? contentLengthName = none := by
    rw [hmark, EtagFilter.getList?_mark (by decide), h.transport_eq]
    exact passedHeaders_contentLength {} calls
  have hrelaying := h.relaying.quiet h.committed_eq hquiet hlatin1
  obtain ⟨y, hsent, hy, -, -, hcopied⟩ := hrelaying.copyBuffer hdecorator rfl h.latin1_length true
  refine ⟨y, ?_, hy, fun hbody => ?_⟩
  · rw [hcopy, Response.outcome_copyBody_buffer hdecorator, hsent]
  · have hcontent : b.content ≠ [] := hbody
    have hlength : b.passedLength true = some (toString (writtenBytes .utf8 calls).length) := by
      simp [Buffer.passedLength, hcontent]
      rfl
    rw [hcopied, Transport.takeHead_headers hopen, hlength]
    exact contentLengths_set hlatin1 hmissing _

end Exchange.Composing

/-! ## The middleware around an application -/

namespace Asgi

variable {scope : Scope} {app : Application} {disabled : Bool}

/-- The application leaves caching enabled, its response gets a tag by the default rule, and the
request names it. -/
def Unmodified (request : Request) (app : Application) : Prop :=
  app.any Step.disables = false ∧
    Taggable request ((lastStatus? (app.flatMap Step.calls)).getD 200)
      (passedHeaders {} (app.flatMap Step.calls)) ∧
    request.headers.get? "If-None-Match" = some (EntityTag.ofBytes (app.flatMap Step.bodyPart))

theorem outcome_serve_outermost {filter : EtagFilter} (htype : scope.type = some "http") (depth : Nat)
    (receiver : Receiver) (hpublished : x.published = .absent) :
    (serve filter scope app (depth + 1) receiver).outcome x =
      (handle filter scope.toRequest (serve filter scope app depth)).outcome x := by
  simp [serve, htype, outcome_bind, hpublished]

theorem outcome_serve_inner {filter : EtagFilter} (htype : scope.type = some "http") (depth : Nat)
    (receiver : Receiver) (hpublished : x.published = .attached) :
    (serve filter scope app (depth + 1) receiver).outcome x =
      (serve filter scope app depth receiver).outcome (x.log .passingThrough) := by
  simp [serve, htype, outcome_bind, hpublished]

theorem outcome_serve_attached (htype : scope.type = some "http") (happ : ∀ step ∈ app, step.Responds)
    (h : x.Serving i calls disabled) (hpublished : x.published = .attached) (depth : Nat) :
    ∃ y, (serve {} scope app depth (.response [i])).outcome x = (.ok (), y) ∧
      y.Serving i (calls ++ app.flatMap Step.calls) (disabled || app.any Step.disables) := by
  induction depth generalizing x with
  | zero => exact h.run happ
  | succ depth ih =>
      obtain ⟨y, hserve, hy⟩ := ih (h.log .passingThrough) hpublished
      exact ⟨y, (outcome_serve_inner htype depth _ hpublished).trans hserve, hy⟩

theorem outcome_answer {handler : Receiver → Action Unit} {response : Response}
    (hhandler : (handler (.response response)).outcome x = (.ok (), y)) :
    (answer handler response).outcome x =
      if y.context.cachingDisabled then response.flush.outcome y else (.ok (), y) := by
  rw [answer, outcome_bind_ok hhandler]
  simp [outcome_bind]

section Dispatch

variable {z : Exchange} {parts : List Bytes} {handler : Receiver → Action Unit}

/-- After streaming, what is still held goes out before the response is dispatched. -/
theorem outcome_dispatch_streaming
    (hprepare : (EtagFilter.prepare request []).outcome x = (.ok [i], y))
    (hhandler : (handler (.response [i])).outcome y = (.ok (), z)) (hz : z.Streaming i parts b) :
    ∃ w, (({} : EtagFilter).dispatch .async request [] (answer handler)).outcome x = (.ok (), w) ∧
      w.Relaying (parts ++ chunks b.content) := by
  obtain ⟨w, hflush, hw⟩ := hz.flush
  have hanswer : (answer handler [i]).outcome y = (.ok (), w) := by
    rw [outcome_answer hhandler, if_pos hz.disabled, hflush]
  exact ⟨_, EtagFilter.outcome_dispatch_disabled hprepare hanswer hw.synchronous hw.disabled,
    hw.relaying.log _⟩

theorem outcome_dispatch_composing
    (hprepare : (EtagFilter.prepare request []).outcome x = (.ok [i], y))
    (hhandler : (handler (.response [i])).outcome y = (.ok (), z)) (hz : z.Composing i calls) :
    (({} : EtagFilter).dispatch .async request [] (answer handler)).outcome x =
      (({} : EtagFilter).evaluate request i []).outcome z := by
  have hasync : z.context.asyncStarted = false := by rw [hz.context_eq]
  have henabled : z.context.cachingDisabled = false := by rw [hz.context_eq]
  have hanswer : (answer handler [i]).outcome y = (.ok (), z) := by
    rw [outcome_answer hhandler, if_neg (by simp [henabled])]
  rw [EtagFilter.outcome_dispatch_update hprepare hanswer hasync henabled,
    EtagFilter.outcome_update hz.decorator_eq]
  rcases (({} : EtagFilter).evaluate request i []).outcome z with ⟨_ | _, _⟩ <;> rfl

end Dispatch

/-- The response is dispatched to the application, and the parts that go out make up its body unless
the client has it already. -/
theorem outcome_dispatch_served (htype : scope.type = some "http")
    (happ : ∀ step ∈ app, step.Responds) (hcontext : x.context = {})
    (hpublished : x.published = .attached) (htransport : x.transport = .asgi)
    (hfailing : x.server.failing = []) (hsent : x.sent = []) (request : Request) (depth : Nat) :
    let body := app.flatMap Step.bodyPart
    ∃ y parts, (({} : EtagFilter).dispatch .async request []
        (answer (serve {} scope app depth))).outcome x = (.ok (), y) ∧ y.Relaying parts ∧
      (Unmodified request app → y.transport.status = 304 ∧ parts = []) ∧
      (¬Unmodified request app → parts.flatten = body) ∧
      (app.any Step.disables = false → ¬Unmodified request app → body ≠ [] →
        contentLengths y.transport.headers.multiItems =
          [("content-length", toString body.length)]) := by
  intro body
  let i := x.decorators.length
  have hprepare : (EtagFilter.prepare request []).outcome x = (.ok [i], x.buffered request) :=
    EtagFilter.outcome_prepare_fresh (by rw [hcontext]) rfl
  have hfresh : (x.buffered request).Composing i [] :=
    { transport_eq := htransport
      decorator_eq := x.buffered_decorator request
      context_eq := hcontext
      failing_eq := hfailing
      sent_eq := (Exchange.sent_log _).trans hsent
      calls_ofMessage := nofun }
  obtain ⟨y, hserve, hy⟩ := outcome_serve_attached htype happ (.composing hfresh) hpublished depth
  rw [List.nil_append, Bool.false_or] at hy
  have hwritten : writtenBytes .utf8 (app.flatMap Step.calls) = body := writtenBytes_calls app
  -- The filter looks at the response only if the application has left caching enabled.
  rcases Bool.eq_false_or_eq_true (app.any Step.disables) with hdisabled | henabled
  · rw [hdisabled] at hy
    cases hy with
    | @streaming parts b hstreaming hbody =>
        obtain ⟨z, hdispatch, hz⟩ := outcome_dispatch_streaming hprepare hserve hstreaming
        have hmodified : ¬Unmodified request app := by
          rintro ⟨henabled, -⟩
          rw [hdisabled] at henabled
          cases henabled
        refine ⟨z, parts ++ chunks b.content, hdispatch, hz, fun h => absurd h hmodified,
          fun _ => ?_, fun h => ?_⟩
        · rw [List.flatten_append, flatten_chunks, hbody, hwritten]
        · rw [hdisabled] at h
          cases h
  · rw [henabled] at hy
    cases hy with
    | composing hcomposing =>
        have hunmodified : Unmodified request app ↔ ({} : EtagFilter).NotModified request y.transport
            (Buffer.compose { forRequest := true } .utf8 (app.flatMap Step.calls)) := by
          rw [hcomposing.notModified_iff, hwritten]
          exact and_iff_right henabled
        rw [outcome_dispatch_composing hprepare hserve hcomposing]
        by_cases hmatch : Unmodified request app
        · obtain ⟨z, hevaluate, hz, hstatus⟩ := hcomposing.evaluate_notModified (hunmodified.1 hmatch)
          exact ⟨z, [], hevaluate, hz, fun _ => ⟨hstatus, rfl⟩, fun h => absurd hmatch h,
            fun _ h => absurd hmatch h⟩
        · obtain ⟨z, hevaluate, hz, hlength⟩ := hcomposing.evaluate_copy (mt hunmodified.2 hmatch)
          rw [hwritten] at hz hlength
          exact ⟨z, chunks body, hevaluate, hz, fun h => absurd h hmatch,
            fun _ => flatten_chunks body, fun _ _ => hlength⟩

def entered (x : Exchange) (request : Request) : Exchange :=
  ({ x with context := {}, published := .attached }).log (.incoming request.method request.url)

theorem outcome_handle {filter : EtagFilter} {handler : Receiver → Action Unit} {z : Exchange}
    (hdispatch : (filter.dispatch .async request [] (answer handler)).outcome (entered x request) =
      (.ok (), y))
    (hclose : Transport.close.outcome y = (.ok (), z)) :
    (handle filter request handler).outcome x =
      (.ok (), z.log (.processed request.method request.url z.transport.status)) := by
  let attempt : Action Unit := do
    filter.dispatch .async request [] (answer handler)
    Transport.close
  let fail := Action.logFailure request.method request.url
  have hattempt : attempt.outcome (entered x request) = (.ok (), z) := by
    rw [outcome_bind_ok hdispatch, hclose]
  have hguarded : (attempt.onFault fail).outcome (entered x request) = (.ok (), z) :=
    outcome_onFault_ok hattempt
  have hstart : (handle filter request handler).outcome x =
      (attempt.onFault fail >>= fun _ => do
        Action.log (.processed request.method request.url (← get).transport.status)).outcome
        (entered x request) := rfl
  rw [hstart, outcome_bind_ok hguarded]
  simp [outcome_bind]

/-- The server gets one whole response to a request: a start, parts of the body that are not empty,
and an end.  If the client has the body already, the status is 304 and no part is sent.  Otherwise
the parts make up the body of the application, and if caching is left enabled and the body is not
empty, the start gives its length exactly once. -/
theorem response_of_served (scope : Scope) (depth : Nat) (context : Context) (server : Server)
    (hfailing : server.failing = []) (htype : scope.type = some "http")
    (happ : ∀ step ∈ app, step.Responds) :
    let body := app.flatMap Step.bodyPart
    let request := scope.toRequest
    ∃ y status fields parts,
      (serve {} scope app (depth + 1) .server).outcome (freshExchange context .absent server) =
        (.ok (), y) ∧
      y.sent = .start status fields :: parts.map (.part · true) ++ [.part [] false] ∧
      (∀ part ∈ parts, part ≠ []) ∧
      (Unmodified request app → status = 304 ∧ parts = []) ∧
      (¬Unmodified request app → parts.flatten = body) ∧
      (app.any Step.disables = false → ¬Unmodified request app → body ≠ [] →
        contentLengths (Scope.decodeHeaders fields) =
          [("content-length", toString body.length)]) := by
  intro body request
  let x := entered (freshExchange context .absent server) request
  obtain ⟨y, parts, hdispatch, hy, hmatch, hparts, hlength⟩ :=
    outcome_dispatch_served (x := x) htype happ rfl rfl rfl hfailing rfl request depth
  obtain ⟨z, fields, hclose, hfields, hsent⟩ := hy.close
  refine ⟨z.log (.processed request.method request.url z.transport.status), y.transport.status,
    fields, parts, ?_, ?_, hy.parts_ne, hmatch, hparts, ?_⟩
  · have hpublished : (freshExchange context .absent server).published = .absent := rfl
    simp only [serve, htype, ne_eq, not_true_eq_false, if_false, outcome_bind, outcome_get,
      hpublished]
    exact outcome_handle hdispatch hclose
  · rw [Exchange.sent_log, hsent]
  · rw [hfields]
    exact hlength

/-- A body may come before the start, and a wrong length given with the start is replaced. -/
theorem response_of_served_hi :
    let name : Bytes := [67, 111, 110, 116, 101, 110, 116, 45, 76, 101, 110, 103, 116, 104]
    let start : Message :=
      { type := some Message.startType, status := some 201, headers := some [(name, [57])] }
    let part (body : Bytes) : Message := { type := some Message.bodyType, body := some body }
    let scope : Scope := { type := some "http", path := some "/hi" }
    let app : Application := [.send (part [104]), .receive, .send start, .send (part [105])]
    scope.type = some "http" ∧ (∀ step ∈ app, step.Responds) ∧ ¬Unmodified scope.toRequest app ∧
      ∃ (y : Exchange) (status : Int) (fields : List (Bytes × Bytes)) (parts : List Bytes),
        (serve {} scope app 2 .server).outcome (freshExchange {} .absent {}) = (.ok (), y) ∧
        y.sent = .start status fields :: parts.map (.part · true) ++ [.part [] false] ∧
        parts.flatten = [104, 105] ∧
        contentLengths (Scope.decodeHeaders fields) = [("content-length", "2")] := by
  intro name start part scope app
  have happ : ∀ step ∈ app, step.Responds := by
    simp only [app, List.forall_mem_cons]
    exact ⟨.send (.body rfl), .receive, .send (.start rfl rfl), .send (.body rfl), nofun⟩
  have hmatch : ¬Unmodified scope.toRequest app := fun h => nomatch h.2.2
  obtain ⟨y, status, fields, parts, hserve, hsent, -, -, hparts, hlength⟩ :=
    response_of_served scope 1 {} {} rfl rfl happ
  have htwo : toString (app.flatMap Step.bodyPart).length = "2" := by decide
  refine ⟨rfl, happ, hmatch, y, status, fields, parts, hserve, hsent, hparts hmatch, ?_⟩
  rw [hlength rfl hmatch (by decide), htwo]

end Asgi
end Revalidation
