import Revalidation.Proofs.Likeness

/-!
# Responses whose caching is disabled

A buffer made for a request holds nothing back once caching is disabled for it.  Calls through the
buffer then end as they would on the sink below and leave the sink in the same state, also if they stop
with a fault and the handler goes on.  The copy that comes before the first forwarded write passes a
status on that the sink has already.
-/

namespace Revalidation

open Revalidation.Action Exchange

variable {x y : Exchange} {i : Nat} {b c : Buffer} {response : Response} {filter : EtagFilter}
  {style : CallStyle} {request : Request}

/-! ## Two exchanges with the same sink -/

namespace Exchange

structure SameSink (x y : Exchange) : Prop where
  transport_eq : y.transport = x.transport
  server_eq : y.server = x.server
  sent_eq : y.sent = x.sent
  starts_eq : y.starts = x.starts

namespace SameSink

theorem refl (x : Exchange) : SameSink x x := ⟨rfl, rfl, rfl, rfl⟩

theorem outside_eq (h : SameSink x y) : y.outside = x.outside := by
  rw [outside, h.transport_eq, h.server_eq, h.sent_eq, h.starts_eq, outside]

theorem note (h : SameSink x y) (entry : Entry) : SameSink (x.note entry) (y.note entry) :=
  { h with
    sent_eq := by
      have hsent := h.sent_eq
      simp only [sent] at hsent
      simp [sent, Exchange.note, hsent]
    starts_eq := by
      have hstarts := h.starts_eq
      simp only [starts] at hstarts
      simp [starts, Exchange.note, hstarts] }

theorem log_left (h : SameSink x y) (event : LogEvent) : SameSink (x.log event) y where
  transport_eq := h.transport_eq
  server_eq := h.server_eq
  sent_eq := by rw [h.sent_eq]; simp [sent, Exchange.log, Exchange.note, Entry.message?]
  starts_eq := by rw [h.starts_eq]; simp [starts, Exchange.log, Exchange.note, Entry.start?]

theorem changeTransport (h : SameSink x y) (event : LogEvent) (change : Transport → Transport) :
    SameSink (x.changeTransport event change) (y.changeTransport event change) := by
  unfold Exchange.changeTransport ignore
  rw [h.transport_eq]
  split
  · split
    · exact h.note (.logged event)
    · exact h
  · exact { h with transport_eq := rfl }

end SameSink
end Exchange

/-! ## Layers that let everything through -/

/-- The buffer holds nothing back, and it recorded no status but the one of an open sink below. -/
structure Buffer.Transparent (b : Buffer) (t : Transport) : Prop where
  forRequest_eq : b.forRequest = true
  content_eq : b.content = []
  contentLength_eq : b.contentLength = none
  status_eq : t.committed = false → ∀ status, b.status = some status → status = t.status

namespace Exchange

/-- The response is the sink itself, or it is a transparent buffer over the sink. -/
def Transparent (x : Exchange) (response : Response) : Prop :=
  response = [] ∨ ∃ i b, response = [i] ∧ x.decorator i = .buffer b ∧ b.Transparent x.transport

theorem passHead_transparent (ht : b.Transparent x.transport) (complete : Bool) :
    x.passHead b [] complete = x := by
  have hlength : b.passedLength complete = none := by
    simp [Buffer.passedLength, ht.content_eq, ht.contentLength_eq]
  rw [passHead_eq, hlength]
  rcases Bool.eq_false_or_eq_true x.transport.committed with hcommitted | hopen
  · rw [if_pos hcommitted]
  · rw [if_neg (by simp [hopen]), passStatus]
    cases hstatus : b.status with
    | none => rfl
    | some status =>
        dsimp only [setStatus]
        rw [setTransportStatus_open hopen, ht.status_eq hopen status hstatus]

theorem forwarding_transparent (ht : b.Transparent x.transport)
    (hdisabled : x.context.cachingDisabled = true) : b.forwarding x.context = true := by
  simp [Buffer.forwarding, ht.forRequest_eq, hdisabled]

theorem outcome_copyBuffer_transparent (hb : x.decorator i = .buffer b)
    (ht : b.Transparent x.transport) (complete : Bool) :
    ∃ c, (Response.copyBuffer (Response.write []) i b [] complete).outcome x =
      (.ok (), x.putBuffer i c) ∧ c.Transparent x.transport := by
  rcases Bool.eq_false_or_eq_true b.copied with hcopied | hcopied
  · refine ⟨b, ?_, ht⟩
    rw [Response.outcome_copyBuffer_copied hcopied, putBuffer_self hb]
  · refine ⟨b.afterCopy, ?_, { ht with content_eq := rfl }⟩
    rw [Response.outcome_copyBuffer_empty hcopied ht.content_eq, passHead_transparent ht]

/-- A response over a sink beside a second exchange with the same sink: caching is disabled, and the
layers of the response are transparent. -/
structure Beside (response : Response) (x y : Exchange) : Prop extends SameSink x y where
  disabled : x.context.cachingDisabled = true
  transparent : x.Transparent response

/-- Two actions end in the same way on exchanges with the same sink. -/
def Alongside {α : Type} (response : Response) (first : Action α) (x : Exchange) (second : Action α)
    (y : Exchange) : Prop :=
  EndAlike (Beside response) (fun _ => Beside response) first x second y

namespace Beside

theorem note (h : Beside response x y) (entry : Entry) :
    Beside response (x.note entry) (y.note entry) :=
  { h with toSameSink := h.toSameSink.note entry }

theorem setTransport (h : Beside response x y) {t : Transport}
    (hopen : t.committed = false → x.transport.committed = false) (hstatus : t.status = x.transport.status) :
    Beside response { x with transport := t } { y with transport := t } where
  toSameSink := { h.toSameSink with transport_eq := rfl }
  disabled := h.disabled
  transparent := by
    obtain hnil | ⟨i, b, hresponse, hb, ht⟩ := h.transparent
    · exact .inl hnil
    · exact .inr ⟨i, b, hresponse, hb, { ht with
        status_eq := fun hc => hstatus ▸ ht.status_eq (hopen hc) }⟩

theorem setServer (h : Beside response x y) (server : Server) :
    Beside response { x with server := server } { y with server := server } :=
  { h with server_eq := rfl }

theorem putBuffer (h : Beside [i] x y) (hb : x.decorator i = .buffer b)
    (hc : c.Transparent x.transport) : Beside [i] (x.putBuffer i c) y :=
  { h with transparent := .inr ⟨i, c, rfl, decorator_putBuffer_self hb, hc⟩ }

theorem changeTransport (h : Beside response x y) (event : LogEvent) {change : Transport → Transport}
    (hcommitted : ∀ t, (change t).committed = t.committed) (hstatus : ∀ t, (change t).status = t.status) :
    Beside response (x.changeTransport event change) (y.changeTransport event change) := by
  unfold Exchange.changeTransport ignore
  rw [h.transport_eq]
  split
  · split
    · exact h.note (.logged event)
    · exact h
  · exact h.setTransport (fun hopen => by rw [← hopen, hcommitted]) (hstatus _)

/-! ### The sink -/

theorem markCommitted (h : Beside response x y) :
    Alongside response Transport.markCommitted x Transport.markCommitted y := by
  refine .modify ?_
  rw [h.transport_eq]
  exact h.setTransport (fun hopen => by cases hopen) rfl

theorem setMedium (h : Beside response x y) (medium : Medium) :
    Alongside response (Transport.setMedium medium) x (Transport.setMedium medium) y := by
  refine .modify ?_
  rw [h.transport_eq]
  exact h.setTransport id rfl

theorem send (h : Beside response x y) (message : Message) :
    Alongside response (Transport.send message) x (Transport.send message) y := by
  refine .read ?_
  rw [h.server_eq]
  have hcounted := h.setServer { x.server with sends := x.server.sends + 1 }
  have haccepted {z w : Exchange} (h : Beside response z w) :
      Alongside response (Action.note (.sent message)) z (Action.note (.sent message)) w :=
    .modify (h.note (.sent message))
  refine .bind (.value rfl rfl hcounted) fun _ z w hz => ?_
  split
  · exact .bind (.modify (hz.note .sendFailed)) fun _ _ _ hz => .bind (.throw hz) fun _ _ _ => haccepted
  · exact haccepted hz

theorem startResponse (h : Beside response x y) (line : String) (headers : List (String × String)) :
    Alongside response (Transport.startResponse line headers) x
      (Transport.startResponse line headers) y := by
  refine .read ?_
  rw [h.server_eq]
  have hstarted {z w : Exchange} (h : Beside response z w) :
      Alongside response (Action.note (.responseStarted line headers)) z
        (Action.note (.responseStarted line headers)) w :=
    .modify (h.note (.responseStarted line headers))
  split
  · exact .bind (.modify (h.note .startFailed)) fun _ _ _ h => .bind (.throw h) fun _ _ _ => hstarted
  · exact hstarted h

theorem announce (h : Beside response x y) (gateway : Gateway) :
    Alongside response (Transport.announce gateway) x (Transport.announce gateway) y := by
  refine .read (EndAlike.bind h.markCommitted fun _ z w hz => ?_)
  rw [h.transport_eq]
  have hlogs {z w : Exchange} (h : Beside response z w) :
      Alongside response (Action.log (.started gateway x.transport.status x.transport.headers.size)) z
        (Action.log (.started gateway x.transport.status x.transport.headers.size)) w :=
    .modify (h.note _)
  cases gateway with
  | asgi =>
      dsimp only
      cases encodeHeaders x.transport.headers.multiItems with
      | error cause => exact .bind (.throw hz) fun _ _ _ => hlogs
      | ok headers => exact (hz.send _).bind fun _ _ _ => hlogs
  | wsgi => exact (hz.startResponse _ _).bind fun _ _ _ => hlogs

theorem transportFlush (h : Beside response x y) :
    Alongside response Transport.flush x Transport.flush y := by
  refine .read ?_
  dsimp only
  rw [h.transport_eq]
  cases x.transport.medium with
  | memory charset failing calls writes => exact h.markCommitted
  | asgi finished =>
      dsimp only
      split
      · exact h.announce .asgi
      · exact .pure h ()
  | wsgi chunks =>
      dsimp only
      split
      · exact h.announce .wsgi
      · exact .pure h ()

theorem transportWrite (h : Beside response x y) (data : Bytes) :
    Alongside response (Transport.write data) x (Transport.write data) y := by
  refine .read ?_
  rw [h.transport_eq]
  cases x.transport.medium with
  | memory charset failing calls writes =>
      have hkept {z w : Exchange} (h : Beside response z w) :
          Alongside response
            (do
              Transport.markCommitted
              Transport.setMedium (.memory charset failing (calls + 1) (writes ++ [data]))) z
            (do
              Transport.markCommitted
              Transport.setMedium (.memory charset failing (calls + 1) (writes ++ [data]))) w :=
        h.markCommitted.bind fun _ _ _ h => h.setMedium _
      dsimp only
      split
      · exact (h.setMedium _).bind fun _ _ _ h => EndAlike.bind (.throw h) fun _ _ _ => hkept
      · exact hkept h
  | asgi finished =>
      refine h.transportFlush.bind fun _ z w hz => ?_
      split
      · exact (hz.send _).bind fun _ _ _ hz => .modify (hz.note _)
      · exact .pure hz ()
  | wsgi chunks =>
      refine h.transportFlush.bind fun _ z w hz => ?_
      split
      · exact hz.setMedium _
      · exact .pure hz ()

theorem close (h : Beside response x y) : Alongside response Transport.close x Transport.close y := by
  refine h.transportFlush.bind fun _ z w hz => .read ?_
  rw [hz.transport_eq]
  split
  · exact (hz.setMedium _).bind fun _ _ _ hz => hz.send _
  · exact .pure hz ()

theorem takeChunks (h : Beside response x y) : Beside response x.takeChunks.2 y.takeChunks.2 := by
  unfold Exchange.takeChunks
  rw [h.transport_eq]
  cases x.transport.medium with
  | wsgi chunks => exact h.setTransport id rfl
  | _ => exact h

/-! ### The response -/

theorem setStatus (h : Beside response x y) (status : Int) :
    Beside response (x.setStatus response status) (y.setStatus [] status) := by
  have hsame : SameSink (x.setTransportStatus status) (y.setTransportStatus status) :=
    h.toSameSink.changeTransport _ _
  have hcontext : (x.setTransportStatus status).context = x.context :=
    (quiet_setStatus [] x status).context_eq
  obtain rfl | ⟨i, b, rfl, hb, ht⟩ := h.transparent
  · exact ⟨hsame, by rw [Exchange.setStatus, hcontext, h.disabled], .inl rfl⟩
  have hd : (x.setTransportStatus status).decorator i = .buffer b := by
    rw [← hb]
    exact (quiet_setStatus [] x status).decorator_eq i List.not_mem_nil
  simp only [Exchange.setStatus, hb, forwarding_transparent ht h.disabled, if_true]
  refine ⟨{ hsame with }, by rw [putBuffer_context, hcontext, h.disabled], .inr ⟨i, _, rfl,
    decorator_putBuffer_self hd, { ht with status_eq := fun hopen other hother => ?_ }⟩⟩
  have hbefore : x.transport.committed = false := by
    rw [← (quiet_setStatus [] x status).committed_eq]
    exact hopen
  rw [putBuffer_transport, setTransportStatus_open hbefore]
  exact (Option.some.inj hother).symm

theorem setHeader (h : Beside response x y) (name value : String) :
    Beside response (x.setHeader response name value) (y.setHeader [] name value) := by
  have hset : Beside response (x.setTransportHeader name value) (y.setTransportHeader name value) :=
    h.changeTransport _ (fun _ => rfl) fun _ => rfl
  obtain rfl | ⟨i, b, rfl, hb, ht⟩ := h.transparent
  · exact hset
  · simpa [Exchange.setHeader, hb, Buffer.holds, forwarding_transparent ht h.disabled] using hset

theorem addHeader (h : Beside response x y) (name value : String) :
    Beside response (x.addHeader response name value) (y.addHeader [] name value) := by
  have hadd : Beside response (x.addTransportHeader name value) (y.addTransportHeader name value) :=
    h.changeTransport _ (fun _ => rfl) fun _ => rfl
  obtain rfl | ⟨i, b, rfl, hb, ht⟩ := h.transparent
  · exact hadd
  · simpa [Exchange.addHeader, hb, Buffer.holds, forwarding_transparent ht h.disabled] using hadd

theorem write (h : Beside response x y) (data : Bytes) :
    Alongside response (response.write data) x (Response.write [] data) y := by
  obtain rfl | ⟨i, b, rfl, hb, ht⟩ := h.transparent
  · exact h.transportWrite data
  · obtain ⟨c, hcopy, hc⟩ := outcome_copyBuffer_transparent hb ht false
    refine ((h.putBuffer hb hc).transportWrite data).of_outcome ?_ rfl
    rw [Response.outcome_write_forwarding hb (forwarding_transparent ht h.disabled),
      outcome_bind_ok hcopy, Response.write_nil]

theorem writeText (h : Beside response x y) (text : String) :
    Alongside response (response.writeText text) x (Response.writeText [] text) y := by
  have hcharset : x.charset response = y.charset [] := by
    obtain rfl | ⟨i, b, rfl, hb, -⟩ := h.transparent
    · rw [charset, charset, h.transport_eq]
    · simp [charset, buffer?, hb, h.transport_eq]
  refine .read ?_
  rw [hcharset]
  cases (y.charset []).encode text with
  | error cause => exact .throw h
  | ok data => exact h.write data

theorem flush (h : Beside response x y) :
    Alongside response response.flush x (Response.flush []) y := by
  obtain rfl | ⟨i, b, rfl, hb, ht⟩ := h.transparent
  · exact h.transportFlush
  · obtain ⟨c, hcopy, hc⟩ := outcome_copyBuffer_transparent hb ht false
    refine (h.putBuffer hb hc).transportFlush.of_outcome ?_ rfl
    rw [Response.outcome_flush_buffer hb, outcome_bind_ok hcopy]
    rfl

theorem copyBody (h : Beside response x y) (complete : Bool) :
    Alongside response (response.copyBody complete) x (Response.copyBody [] complete) y := by
  obtain rfl | ⟨i, b, rfl, hb, ht⟩ := h.transparent
  · exact .pure h ()
  · obtain ⟨c, hcopy, hc⟩ := outcome_copyBuffer_transparent hb ht complete
    exact .value ((Response.outcome_copyBody_buffer hb).trans hcopy) rfl (h.putBuffer hb hc)

theorem resetBuffer (h : Beside response x y) :
    Beside response (x.resetBuffer response) (y.resetBuffer []) := by
  obtain rfl | ⟨i, b, rfl, hb, ht⟩ := h.transparent
  · exact h
  · simp only [Exchange.resetBuffer, hb]
    exact h.putBuffer hb { ht with content_eq := rfl }

theorem perform (h : Beside response x y) (call : Call) :
    Alongside response (response.perform call) x (Response.perform [] call) y := by
  cases call with
  | setStatus status => exact .modify (h.setStatus status)
  | setHeader name value => exact .modify (h.setHeader name value)
  | addHeader name value => exact .modify (h.addHeader name value)
  | write data => exact h.write data
  | writeText text => exact h.writeText text
  | flush => exact h.flush
  | copyBody complete => exact h.copyBody complete
  | resetBuffer => exact .modify h.resetBuffer
  | close => exact h.close
  | takeChunks => exact .modify h.takeChunks
  | resetHeaders => exact .modify (h.changeTransport _ (fun _ => rfl) fun _ => rfl)

/-- Every call ends in the same way and leaves the same to be seen, so that calls after a fault do so as
well. -/
theorem observe (h : Beside response x y) (calls : List Call) :
    EndAlike (Beside response) (fun _ _ _ => False) (response.observe calls) x
      (Response.observe [] calls) y := by
  induction calls generalizing x y with
  | nil => exact .pure h []
  | cons call rest ih =>
      have hresult : EndAlike (Beside response) (fun _ _ _ => False) (response.perform call).result x
          (Response.perform [] call).result y :=
        ((h.perform call).bind fun _ _ _ hz => .pure hz (Except.ok ())).tryCatch
          fun fault _ _ hz => .pure hz (Except.error fault)
      refine hresult.bind fun result z w hz => .read ?_
      rw [hz.outside_eq]
      exact (ih hz).bind fun later _ _ h => .pure h ((result, z.outside) :: later)

end Beside

/-! ## The dispatch -/

variable {changes : List Context.Change}

theorem context_changes (hcontext : y.context = x.context) (hpublished : y.published = x.published) :
    (changes.foldl changeContext y).context = (changes.foldl changeContext x).context := by
  induction changes generalizing x y with
  | nil => exact hcontext
  | cons change rest ih =>
      rw [List.foldl_cons, List.foldl_cons]
      apply ih
      · unfold changeContext
        rw [hpublished]
        split
        · rw [hcontext]
        · rfl
      · rw [changeContext_published, changeContext_published]

theorem SameSink.changeContext_left (h : SameSink x y) : SameSink (changes.foldl changeContext x) y := by
  induction changes generalizing x with
  | nil => exact h
  | cons change rest ih =>
      apply ih
      unfold changeContext
      split
      · exact { h with }
      · exact { h with }

theorem decorator_changes : (changes.foldl changeContext x).decorator i = x.decorator i := by
  induction changes generalizing x with
  | nil => rfl
  | cons change rest ih => rw [List.foldl_cons, ih, changeContext_decorator]

end Exchange

theorem Handler.outcome_run_changes (filter : EtagFilter) (style : CallStyle) (request : Request)
    (response : Response) (changes : List Context.Change) (x : Exchange) :
    (run filter style request response (changes.map .changeContext)).outcome x =
      (.ok (), changes.foldl changeContext x) := by
  induction changes generalizing x with
  | nil => simp [run]
  | cons change rest ih =>
      rw [List.map_cons, run, runStep, outcome_bind_ok (outcome_modify _ _), ih]
      rfl

variable {changes : List Context.Change}

theorem EtagFilter.prepare_transparent (request : Request)
    (hdisabled : (changes.foldl changeContext x).context.cachingDisabled = true) :
    ∃ prepared y, (prepare request []).outcome x = (.ok prepared, y) ∧
      Beside prepared (changes.foldl changeContext y) x := by
  have hdisabled' (y : Exchange) (hcontext : y.context = x.context) (hpublished : y.published = x.published) :
      (changes.foldl changeContext y).context.cachingDisabled = true := by
    rwa [context_changes hcontext hpublished]
  rcases Bool.eq_false_or_eq_true x.context.asyncDispatch with hdispatch | hdispatch
  · refine ⟨[], x.log (.alreadyBuffered request.method request.url), ?_, ?_, ?_, .inl rfl⟩
    · simp [prepare, outcome_bind, hdispatch]
    · exact ((SameSink.refl x).log_left _).changeContext_left
    · exact hdisabled' _ rfl rfl
  · refine ⟨[x.decorators.length], x.buffered request, outcome_prepare_fresh hdispatch rfl, ?_, ?_, ?_⟩
    · exact SameSink.changeContext_left { (SameSink.refl x).log_left _ with }
    · exact hdisabled' _ rfl rfl
    · refine .inr ⟨_, _, rfl, decorator_changes.trans (x.buffered_decorator request), ?_⟩
      exact ⟨rfl, rfl, rfl, fun _ _ hstatus => by cases hstatus⟩

/-- A handler for which caching is disabled before its first call has every call end as it would on the
sink itself, and each leaves the sink as it would there.  Nothing happens to the sink before the first
call or after the last one. -/
theorem dispatch_transparent (filter : EtagFilter) (style : CallStyle) (request : Request)
    (calls : List Call) (hdisabled : (changes.foldl changeContext x).context.cachingDisabled = true) :
    ∃ observations y z,
      (filter.dispatch style request [] fun response => do
        Handler.run filter style request response (changes.map .changeContext)
        response.observe calls).outcome x = (.ok observations, y) ∧
      (Response.observe [] calls).outcome x = (.ok observations, z) ∧ y.outside = z.outside := by
  obtain ⟨prepared, y, hprepare, hbeside⟩ := EtagFilter.prepare_transparent request hdisabled
  obtain ⟨observations, z, w, hthrough, hdirect, hend⟩ :=
    (hbeside.observe calls).ends fun _ _ _ h => h
  obtain ⟨event, hconclude⟩ :=
    filter.outcome_conclude_disabled style request prepared hend.disabled
  refine ⟨observations, z.log event, w, ?_, hdirect, ?_⟩
  · rw [EtagFilter.outcome_dispatch hprepare, outcome_bind_ok
      ((outcome_bind_ok (Handler.outcome_run_changes ..)).trans hthrough), outcome_bind_ok hconclude,
      outcome_pure]
  · exact (hend.toSameSink.log_left event).outside_eq.symm

/-- A text that has no encoding and a write that the sink refuses stop the same two calls in a dispatch,
and only what comes after them is recorded. -/
theorem dispatch_transparent_refused :
    let request : Request := ⟨"GET", "/", {}⟩
    let x : Exchange := { transport := .recorder 200 .ascii [1] }
    let calls : List Call :=
      [.setStatus 201, .writeText "é", .write [104], .setHeader "Content-Length" "1", .write [105]]
    (x.changeContext .disableCaching).context.cachingDisabled = true ∧
      ∃ observations y,
        (({} : EtagFilter).dispatch .sync request [] fun response => do
          Handler.run {} .sync request response [.changeContext .disableCaching]
          response.observe calls).outcome x = (.ok observations, y) ∧
        observations.map (fun observation => observation.1.isOk) = [true, false, false, true, true] ∧
        observations.map (fun observation => observation.2.transport.writes) = [[], [], [], [], [[105]]] ∧
        y.transport.status = 201 ∧
        y.transport.headers.multiItems = [("content-length", "1")] := by
  intro request x calls
  have hdisabled : ([Context.Change.disableCaching].foldl changeContext x).context.cachingDisabled =
      true := rfl
  obtain ⟨observations, y, z, hthrough, hdirect, hend⟩ :=
    dispatch_transparent {} .sync request calls (x := x) hdisabled
  refine ⟨hdisabled, observations, y, hthrough, ?_⟩
  have htransport : y.transport = z.transport := congrArg Outside.transport hend
  rw [htransport]
  cases hdirect
  exact ⟨rfl, rfl, rfl, rfl⟩

end Revalidation
