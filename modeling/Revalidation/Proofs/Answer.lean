import Revalidation.Proofs.Composition
import Revalidation.Proofs.Dispatch

/-!
# The answer to a request

What reaches the client after a handler has composed its response and the filter has evaluated it.
There are three answers: the response was not modified, it has a tag, or it has none.
-/

namespace Revalidation

variable {x : Exchange} {charset : Charset} {calls : List Call} {filter : EtagFilter}
  {style : CallStyle} {request : Request} {status : Int} {t : Transport} {b : Buffer}

/-- The default rule for a tag: the response to a GET request is a success, and its cache control does
not forbid to store it. -/
def Taggable (request : Request) (status : Int) (headers : Headers) : Prop :=
  request.method = "GET" ∧ 200 ≤ status ∧ status < 300 ∧
    ∀ value, headers.get? "Cache-Control" = some value →
      (CacheControl.parse value).contains "no-store" = false

/-- The sink has the status, the headers and the body, and the length of the body among the headers.
Without a body it is not committed and gets the length that the handler gave, if any. -/
structure Transport.Delivers (t : Transport) (status : Int) (headers : Headers) (body : Bytes)
    (length? : Option String) : Prop where
  status_eq : t.status = status
  headers_eq :
    t.headers = headers.withLength (if body = [] then length? else some (toString body.length))
  writes_eq : t.writes = if body = [] then [] else [body]
  committed_iff : t.committed = true ↔ body ≠ []

theorem passedHeaders_contentLength (h : Headers) (calls : List Call) :
    (passedHeaders h calls).getList? contentLengthName = h.getList? contentLengthName := by
  have hpass (h : Headers) (call : Call) :
      (call.passHeader h).getList? contentLengthName = h.getList? contentLengthName := by
    cases call with
    | setHeader name value | addHeader name value =>
        by_cases hname : Text.lower name = "content-length"
        · simp [Call.passHeader, hname]
        · simp only [Call.passHeader, hname, if_false]
          have hne : Text.lower name ≠ Text.lower contentLengthName := by
            rwa [Headers.lower_contentLength]
          first
          | exact Headers.getList?_set_ne hne
          | exact Headers.getList?_add_ne hne
    | _ => rfl
  induction calls generalizing h with
  | nil => rfl
  | cons call rest ih =>
      rw [passedHeaders, List.foldl_cons, ← passedHeaders, ih, hpass]

namespace EtagFilter

theorem accepts_default :
    ({} : EtagFilter).accepts request t b = true ↔
      Taggable request (b.status.getD t.status) t.headers := by
  unfold accepts isEligible Taggable allowsStore
  cases t.headers.get? "Cache-Control" <;> simp [and_assoc, and_comm]

theorem matches_default {body : Bytes} :
    ({} : EtagFilter).Matches request body ↔
      request.headers.get? "If-None-Match" = some (EntityTag.ofBytes body) := Iff.rfl

theorem settle_tagged (hopen : t.committed = false) (haccepts : filter.accepts request t b = true)
    (hdiffers : ¬filter.Matches request b.content) :
    filter.settle request t b = (t.setTag (filter.tag b.content)).takeCopy b := by
  have hmodified : ¬filter.NotModified request t b := fun h => hdiffers h.2.2
  rw [settle_modified hmodified, mark_accepted hopen haccepts]

theorem settle_untagged (hrefuses : filter.accepts request t b = false) :
    filter.settle request t b = t.takeCopy b := by
  rw [settle_modified (not_notModified (Or.inr hrefuses)), mark_refused (Or.inr hrefuses)]

end EtagFilter

theorem Transport.delivers_takeCopy (hcopied : b.copied = false) (hopen : t.committed = false)
    (hrecords : t.Records) (hwrites : t.writes = []) :
    (t.takeCopy b).1.Delivers (b.status.getD t.status) t.headers b.content b.contentLength where
  status_eq := takeCopy_status hcopied hopen
  headers_eq := by
    rw [takeCopy_headers hcopied hopen]
    by_cases hempty : b.content = [] <;> simp [Buffer.passedLength, hempty]
  writes_eq := by rw [takeCopy_writes hcopied hrecords, hwrites, List.nil_append]
  committed_iff := by simp [takeCopy_committed hcopied, hopen]

/-- Calls that compose a response leave its headers with the sink and the rest of it with the buffer. -/
theorem outcome_performAll_buffered (request : Request) {failing : List Nat}
    (hsink : x.transport = .recorder status charset failing) (hcontext : x.context = {})
    (hcalls : ∀ call ∈ calls, call.Composes charset) :
    let i := x.decorators.length
    let y := (x.buffered request).compose i { forRequest := true } charset calls
    (Response.performAll [i] calls).outcome (x.buffered request) = (.ok (), y) ∧
      y.decorator i = .buffer (Buffer.compose { forRequest := true } charset calls) ∧
      y.transport =
        { Transport.recorder status charset failing with headers := passedHeaders {} calls } ∧
      y.context = {} := by
  intro i y
  have hfresh := x.buffered_decorator request
  have htransport : (x.buffered request).transport = .recorder status charset failing := hsink
  refine ⟨?_, Exchange.decorator_putBuffer_self hfresh, ?_, hcontext⟩
  · apply Response.outcome_performAll_composes hfresh _ _ _ hcalls
    · simp [Buffer.forwarding, Exchange.buffered, hcontext]
    · rw [htransport]
      rfl
    · rw [htransport]
      rfl
  · simp only [y, Exchange.compose, Exchange.putBuffer_transport, htransport]
    rfl

theorem outcome_dispatch_composed (filter : EtagFilter) (style : CallStyle) (request : Request)
    (hsink : x.transport = .recorder status charset []) (hcontext : x.context = {})
    (hcalls : ∀ call ∈ calls, call.Composes charset) :
    ∃ y, (Handler.dispatch filter style request [] (calls.map .call)).outcome x = (.ok (), y) ∧
      y.transport = (filter.settle request
        { Transport.recorder status charset [] with headers := passedHeaders {} calls }
        (Buffer.compose { forRequest := true } charset calls)).1 := by
  let i := x.decorators.length
  let z := (x.buffered request).compose i { forRequest := true } charset calls
  obtain ⟨hperform, hz, hzt, hzc⟩ := outcome_performAll_buffered request hsink hcontext hcalls
  have hrun : (Handler.run filter style request [i] (calls.map .call)).outcome (x.buffered request) =
      (.ok (), z) := by
    rw [Handler.run_calls]
    exact hperform
  have hprepare : (EtagFilter.prepare request []).outcome x = (.ok [i], x.buffered request) :=
    EtagFilter.outcome_prepare_fresh (by rw [hcontext]) rfl
  have hrecords : z.Records := by
    rw [Exchange.Records, hzt]
    exact ⟨charset, [], 0, [], rfl⟩
  have haccepts : z.transport.refuses = false := by
    rw [hzt]
    rfl
  obtain ⟨y, hevaluate, hy, -, -⟩ := EtagFilter.outcome_evaluate_settle filter request hz
    hrecords (Or.inr (Or.inr (Or.inr haccepts)))
  refine ⟨y, ?_, by rw [hy, hzt]⟩
  unfold Handler.dispatch
  rw [EtagFilter.outcome_dispatch_update hprepare hrun (by rw [hzc]) (by rw [hzc]),
    EtagFilter.outcome_update hz, hevaluate]

/-- What a handler composes from status, header and write calls reaches the client in one of three
ways.  If the response gets a tag and the request names it, the status is 304 and no body is sent.
Otherwise the body is sent with its length, under the tag if the response gets one. -/
theorem answer_of_composed (style : CallStyle) (request : Request)
    (hsink : x.transport = .recorder status charset []) (hcontext : x.context = {})
    (hcalls : ∀ call ∈ calls, call.Composes charset) :
    let body := writtenBytes charset calls
    let sent := (lastStatus? calls).getD status
    let headers := passedHeaders {} calls
    let tag := EntityTag.ofBytes body
    ∃ y, (Handler.dispatch {} style request [] (calls.map .call)).outcome x = (.ok (), y) ∧
      (Taggable request sent headers → request.headers.get? "If-None-Match" = some tag →
        y.transport.status = 304 ∧ y.transport.headers = headers.set "ETag" tag ∧
          y.transport.headers.getList? "Content-Length" = none ∧ y.transport.writes = [] ∧
          y.transport.committed = false) ∧
      (Taggable request sent headers → request.headers.get? "If-None-Match" ≠ some tag →
        y.transport.Delivers sent (headers.set "ETag" tag) body (lastLength? calls)) ∧
      (¬Taggable request sent headers →
        y.transport.Delivers sent headers body (lastLength? calls)) := by
  intro body sent headers tag
  let t : Transport := { Transport.recorder status charset [] with headers := headers }
  let b : Buffer := Buffer.compose { forRequest := true } charset calls
  have hrecords : t.Records := ⟨charset, [], 0, [], rfl⟩
  have hstatus : b.status.getD t.status = sent := by simp [b, t, sent, Buffer.compose, Transport.recorder]
  have hcontent : b.content = body := by simp [b, body, Buffer.compose]
  have hlength : b.contentLength = lastLength? calls := by simp [b, Buffer.compose]
  have heligible : ({} : EtagFilter).accepts request t b = true ↔ Taggable request sent headers := by
    rw [EtagFilter.accepts_default, hstatus]
  obtain ⟨y, hdispatch, hy⟩ := outcome_dispatch_composed {} style request hsink hcontext hcalls
  refine ⟨y, hdispatch, fun htag hmatch => ?_, fun htag hdiffers => ?_, fun hplain => ?_⟩
  · have hmodified : ({} : EtagFilter).NotModified request t b := by
      refine ⟨rfl, heligible.2 htag, ?_⟩
      rw [EtagFilter.matches_default, hcontent, hmatch]
    have hheaders : y.transport.headers = headers.set "ETag" tag := by
      rw [hy, EtagFilter.settle_unmodified hmodified, hcontent]
      rfl
    have hlengthless : headers.getList? contentLengthName = none := passedHeaders_contentLength {} calls
    refine ⟨?_, hheaders, ?_, ?_, ?_⟩
    · rw [hy, EtagFilter.settle_unmodified hmodified]
      rfl
    · rw [hheaders, ← hlengthless]
      exact Headers.getList?_set_ne (by decide)
    · rw [hy, EtagFilter.settle_unmodified hmodified]
      rfl
    · rw [hy, EtagFilter.settle_unmodified hmodified]
      rfl
  · have hother : ¬({} : EtagFilter).Matches request b.content := by
      rwa [EtagFilter.matches_default, hcontent]
    have hdelivers : ((t.setTag tag).takeCopy b).1.Delivers (b.status.getD t.status)
        (headers.set "ETag" tag) b.content b.contentLength :=
      Transport.delivers_takeCopy rfl rfl hrecords rfl
    rw [hy, EtagFilter.settle_tagged rfl (heligible.2 htag) hother, hcontent]
    rwa [hstatus, hcontent, hlength] at hdelivers
  · have hrefuses : ({} : EtagFilter).accepts request t b = false := by
      rw [← Bool.not_eq_true, heligible]
      exact hplain
    have hdelivers : (t.takeCopy b).1.Delivers (b.status.getD t.status) headers b.content
        b.contentLength := Transport.delivers_takeCopy rfl rfl hrecords rfl
    rw [hy, EtagFilter.settle_untagged hrefuses]
    rwa [hstatus, hcontent, hlength] at hdelivers

/-- The response to a creation that the client has seen already: the content length that the handler
gave is left out together with the body. -/
theorem answer_of_composed_created :
    let tag := EntityTag.ofBytes [104, 105]
    let request : Request := ⟨"GET", "/", ({} : Headers).set "If-None-Match" tag⟩
    let calls : List Call :=
      [.setStatus 201, .addHeader "CONTENT-length" "2", .setHeader "Vary" "*", .writeText "hi"]
    let x : Exchange := { transport := .recorder 200 .ascii [] }
    (∀ call ∈ calls, call.Composes .ascii) ∧ Taggable request 201 (passedHeaders {} calls) ∧
      ∃ y, (Handler.dispatch {} .sync request [] (calls.map .call)).outcome x = (.ok (), y) ∧
        y.transport.status = 304 ∧ y.transport.writes = [] ∧
        y.transport.headers.entries = [("vary", ["*"]), ("etag", [tag])] := by
  intro tag request calls x
  have hcalls : ∀ call ∈ calls, call.Composes .ascii := by
    simp only [calls, List.forall_mem_cons]
    exact ⟨.setStatus 201, .addHeader _ _, .setHeader _ _, .writeText rfl, nofun⟩
  have htag : Taggable request 201 (passedHeaders {} calls) := by
    refine ⟨rfl, by decide, by decide, fun value hvalue => ?_⟩
    cases hvalue
  obtain ⟨y, hy, hanswer, -, -⟩ := answer_of_composed .sync request (x := x) rfl rfl hcalls
  obtain ⟨hstatus, hheaders, -, hwrites, -⟩ := hanswer htag (Headers.get?_set_self)
  refine ⟨hcalls, htag, y, hy, hstatus, hwrites, ?_⟩
  rw [hheaders]
  rfl

end Revalidation
