import Revalidation.Proofs.Acceptance

/-!
# Finding the buffer to evaluate

A handler whose exchange is resumed may be given a response without any buffer.  What it writes then goes
straight to the sink, and in the end there is nothing to evaluate.  In all other cases there is a buffer, the
outermost one of the response that the handler was given, whatever the handler did.
-/

namespace Revalidation

def Call.onSink (charset : Charset) : Call → Action Unit
  | writeText text =>
    match charset.encode text with
    | .error cause => throw (.encoding cause)
    | .ok data => Transport.write data
  | call => Response.perform [] call

namespace HandlerStep

/-- The parts of the body that a step writes itself, to its response in the one encoding or to the sink in
the other one. -/
def pieces (own sink : Charset) : HandlerStep → List Bytes
  | call made => (made.written? own).toList
  | callTransport made => (made.written? sink).toList
  | attempt step => step.pieces own sink
  | _ => []

def nests : HandlerStep → Bool
  | dispatch _ _ => true
  | attempt step => step.nests
  | _ => false

end HandlerStep

open Revalidation.Action

variable {x y z : Exchange} {i : Nat} {response below : Response} {ks : List Bool}
  {charset : Charset} {kept : List Bytes}

namespace Exchange

/-- No layer of the response is a buffer. -/
def Unbuffered (x : Exchange) (response : Response) : Prop :=
  ∀ i ∈ response, (x.decorator i).isBuffer = false

instance (x : Exchange) (response : Response) : Decidable (x.Unbuffered response) :=
  inferInstanceAs (Decidable (∀ i ∈ response, _))

theorem decorator_of_not_buffer (hi : (x.decorator i).isBuffer = false) : x.decorator i = .forward := by
  cases hd : x.decorator i with
  | forward => rfl
  | buffer b =>
      rw [hd] at hi
      cases hi

/-! ## Looking for a buffer -/

theorem findBuffer_cons (x : Exchange) (i : Nat) (below : Response) : x.findBuffer (i :: below) =
    if (x.decorator i).isBuffer then some (i :: below) else x.findBuffer below := by
  rw [findBuffer, buffer?]
  cases x.decorator i <;> rfl

theorem findBuffer_eq_none (h : x.Unbuffered response) : x.findBuffer response = none := by
  induction response with
  | nil => rfl
  | cons i below ih =>
      obtain ⟨hi, hbelow⟩ := List.forall_mem_cons.1 h
      rw [findBuffer_cons, hi, ih hbelow]
      rfl

theorem exists_findBuffer (h : ¬x.Unbuffered response) :
    ∃ above i below, response = above ++ i :: below ∧ x.Unbuffered above ∧
      (x.decorator i).isBuffer = true ∧ x.findBuffer response = some (i :: below) := by
  induction response with
  | nil => exact absurd (by simp [Unbuffered]) h
  | cons i below ih =>
      rw [findBuffer_cons]
      rcases Bool.eq_false_or_eq_true (x.decorator i).isBuffer with hbuffer | hforward
      · rw [if_pos hbuffer]
        exact ⟨[], i, below, rfl, by simp [Unbuffered], hbuffer, rfl⟩
      · obtain ⟨above, j, rest, rfl, habove, hj, hsome⟩ :=
          ih fun hbelow => h (List.forall_mem_cons.2 ⟨hforward, hbelow⟩)
        rw [hforward]
        exact ⟨i :: above, j, rest, rfl, List.forall_mem_cons.2 ⟨hforward, habove⟩, hj, hsome⟩

/-! ## Calls on a response without a buffer -/

namespace Unbuffered

theorem cons_iff : x.Unbuffered (i :: below) ↔ x.decorator i = .forward ∧ x.Unbuffered below := by
  rw [Unbuffered, List.forall_mem_cons]
  exact and_congr_left' ⟨decorator_of_not_buffer, fun h => h ▸ rfl⟩

theorem setStatus (h : x.Unbuffered response) (status : Int) :
    x.setStatus response status = x.setTransportStatus status := by
  induction response with
  | nil => rfl
  | cons i below ih =>
      obtain ⟨hd, hbelow⟩ := cons_iff.1 h
      simp only [Exchange.setStatus, hd, ih hbelow]

theorem setHeader (h : x.Unbuffered response) (name value : String) :
    x.setHeader response name value = x.setTransportHeader name value := by
  induction response with
  | nil => rfl
  | cons i below ih =>
      obtain ⟨hd, hbelow⟩ := cons_iff.1 h
      simp only [Exchange.setHeader, hd, ih hbelow]

theorem addHeader (h : x.Unbuffered response) (name value : String) :
    x.addHeader response name value = x.addTransportHeader name value := by
  induction response with
  | nil => rfl
  | cons i below ih =>
      obtain ⟨hd, hbelow⟩ := cons_iff.1 h
      simp only [Exchange.addHeader, hd, ih hbelow]

theorem outcome_write (h : x.Unbuffered response) (data : Bytes) :
    (response.write data).outcome x = (Transport.write data).outcome x := by
  induction response with
  | nil => rfl
  | cons i below ih =>
      obtain ⟨hd, hbelow⟩ := cons_iff.1 h
      rw [Response.outcome_write_forward hd, ih hbelow]

theorem outcome_flush (h : x.Unbuffered response) :
    response.flush.outcome x = Transport.flush.outcome x := by
  induction response with
  | nil => rfl
  | cons i below ih =>
      obtain ⟨hd, hbelow⟩ := cons_iff.1 h
      rw [Response.outcome_flush_forward hd, ih hbelow]

theorem outcome_perform (h : x.Unbuffered response) (call : Call) :
    (response.perform call).outcome x = (call.onSink (x.charset response)).outcome x := by
  cases call with
  | setStatus status =>
      simp only [Response.perform, Call.onSink, outcome_modify, h.setStatus]
      rfl
  | setHeader name value =>
      simp only [Response.perform, Call.onSink, outcome_modify, h.setHeader]
      rfl
  | addHeader name value =>
      simp only [Response.perform, Call.onSink, outcome_modify, h.addHeader]
      rfl
  | write data => exact h.outcome_write data
  | writeText text =>
      rw [Response.perform, Response.writeText, outcome_bind_ok (outcome_get x), Call.onSink]
      cases (x.charset response).encode text with
      | error cause => rfl
      | ok data => exact h.outcome_write data
  | flush => exact h.outcome_flush
  | copyBody complete =>
      cases response with
      | nil => rfl
      | cons i below => exact Response.outcome_copyBody_forward (cons_iff.1 h).1
  | resetBuffer =>
      cases response with
      | nil => rfl
      | cons i below =>
          simp only [Response.perform, Call.onSink, outcome_modify, resetBuffer, (cons_iff.1 h).1]
  | close => rfl
  | takeChunks => rfl
  | resetHeaders => rfl

theorem isBuffer_eq (h : x.Unbuffered response) : x.isBuffer response = false := by
  cases response with
  | nil => rfl
  | cons i below => rw [isBuffer_cons, h i List.mem_cons_self]

theorem charset_eq (h : x.Unbuffered response) :
    x.charset response = if response = [] then x.transport.charset else .utf8 := by
  cases response with
  | nil => rfl
  | cons i below => simp [Exchange.charset, buffer?, (cons_iff.1 h).1]

end Unbuffered

/-! ## What reaches the sink -/

theorem writes_of_medium {calls : Nat} {added : List Bytes}
    (h : x.transport.medium = .memory charset [] calls (kept ++ added)) :
    x.transport.writes = kept ++ added := by
  rw [Transport.writes, h]

theorem Quiet.writes_eq (h : Quiet response x y) : y.transport.writes = x.transport.writes := by
  rw [Transport.writes, h.medium_eq, Transport.writes]

theorem writes_transportWrite (hx : Accepting ks charset kept x) (data : Bytes) :
    ((Transport.write data).outcome x).2.transport.writes = x.transport.writes ++ [data] := by
  rw [Transport.outcome_write_accepted hx.records hx.accepts]
  exact Transport.accept_writes hx.records data

theorem writes_onSink (hx : Accepting ks charset kept x) (own : Charset) (call : Call) :
    ((call.onSink own).outcome x).2.transport.writes =
      x.transport.writes ++ (call.written? own).toList := by
  have hsame {z : Exchange} (h : z.transport.writes = x.transport.writes) :
      z.transport.writes = x.transport.writes ++ [] := by rw [h, List.append_nil]
  cases call with
  | setStatus status => exact hsame (quiet_setStatus [] x status).writes_eq
  | setHeader name value => exact hsame (quiet_setHeader [] x name value).writes_eq
  | addHeader name value => exact hsame (quiet_addHeader [] x name value).writes_eq
  | write data => exact writes_transportWrite hx data
  | writeText text =>
      rw [Call.onSink, Call.written?]
      cases own.encode text with
      | error cause => exact hsame rfl
      | ok data => exact writes_transportWrite hx data
  | flush =>
      have hflush : (Call.flush.onSink own).outcome x = _ := Transport.outcome_flush_recorder hx.records
      rw [hflush]
      exact hsame rfl
  | copyBody complete => exact hsame rfl
  | resetBuffer => exact hsame rfl
  | close =>
      obtain ⟨calls, added, hmedium⟩ := hx.medium
      simp [Call.onSink, Response.perform, Transport.close, outcome_bind,
        Transport.outcome_flush_recorder hx.records, hmedium, Call.written?, Transport.writes]
  | takeChunks =>
      obtain ⟨calls, added, hmedium⟩ := hx.medium
      refine hsame ?_
      simp [Call.onSink, Response.perform, takeChunks, hmedium]
  | resetHeaders =>
      have hquiet : Quiet [] x x.resetHeaders :=
        quiet_changeTransport _ _ (fun _ => rfl) fun _ => rfl
      exact hsame hquiet.writes_eq

end Exchange

namespace Handler

open Exchange

variable {step : HandlerStep} {steps : List HandlerStep} {filter : EtagFilter} {style : CallStyle}
  {request : Request}

/-- The sink comes to keep some parts of the body, these ones among them and no others unless something is
dispatched in between. -/
def Adds (pieces : List Bytes) (nests : Bool) (x z : Exchange) : Prop :=
  ∃ added, z.transport.writes = x.transport.writes ++ added ∧ pieces.Sublist added ∧
    (nests = false → added = pieces)

theorem Adds.none (h : z.transport.writes = x.transport.writes) : Adds [] false x z :=
  ⟨[], by rw [h, List.append_nil], .slnil, fun _ => rfl⟩

theorem Adds.trans {pieces more : List Bytes} {nests nests' : Bool} (hxy : Adds pieces nests x y)
    (hyz : Adds more nests' y z) : Adds (pieces ++ more) (nests || nests') x z := by
  obtain ⟨added, hwrites, hsub, hexact⟩ := hxy
  obtain ⟨added', hwrites', hsub', hexact'⟩ := hyz
  refine ⟨added ++ added', by rw [hwrites', hwrites, List.append_assoc], hsub.append hsub', ?_⟩
  intro hnone
  rw [Bool.or_eq_false_iff] at hnone
  rw [hexact hnone.1, hexact' hnone.2]

theorem adds_perform (hx : Accepting ks charset kept x) (hunbuffered : x.Unbuffered response)
    (call : Call) : Adds (call.written? (x.charset response)).toList false x
      ((response.perform call).outcome x).2 := by
  rw [hunbuffered.outcome_perform]
  exact ⟨_, writes_onSink hx _ call, .refl _, fun _ => rfl⟩

theorem writes_ask (response : Response) (question : Question) :
    ((ask response question).outcome x).2.transport.writes = x.transport.writes := by
  rw [ask, outcome_bind_ok (outcome_get x)]
  cases question with
  | status => rfl
  | committed => rfl
  | content =>
      dsimp only
      split <;> rfl

theorem exists_writes {action : Action Unit} (hx : AcceptingFrom ks charset kept x)
    (haction : Keeps (AcceptingFrom ks charset x.transport.writes) action) :
    ∃ added, (action.outcome x).2.transport.writes = x.transport.writes ++ added := by
  obtain ⟨calls, added, hmedium⟩ := hx.2.medium
  have hstart : AcceptingFrom ks charset x.transport.writes x := by
    refine ⟨hx.1, rfl, calls, [], ?_⟩
    rw [hmedium, writes_of_medium hmedium, List.append_nil]
  obtain ⟨calls', added', hmedium'⟩ := (haction x hstart).2.medium
  exact ⟨added', writes_of_medium hmedium'⟩

/-- A step on a response without a buffer adds what it writes to the sink. -/
theorem adds_runStep (filter : EtagFilter) (style : CallStyle) (request : Request)
    (hx : AcceptingFrom ks charset kept x) (hunbuffered : x.Unbuffered response) :
    ∀ step : HandlerStep, Adds (step.pieces (x.charset response) charset) step.nests x
      ((runStep filter style request response step).outcome x).2
  | .call call => by
      rw [runStep]
      exact adds_perform hx.2 hunbuffered call
  | .callTransport call => by
      have hnone : x.Unbuffered [] := by simp [Unbuffered]
      rw [runStep, HandlerStep.pieces, ← hx.charset_eq]
      exact adds_perform hx.2 hnone call
  | .changeContext change => by
      rw [runStep]
      exact .none (congrArg Transport.writes (changeContext_transport change))
  | .save => by
      rw [runStep]
      exact .none rfl
  | .ask question => by
      rw [runStep]
      exact .none (writes_ask response question)
  | .dispatch wrapping steps => by
      -- What it writes depends on its own layers, but the sink loses nothing over it.
      obtain ⟨added, hwrites⟩ := exists_writes hx (keeps_runStep filter style request _ response)
      exact ⟨added, hwrites, added.nil_sublist, fun hnone => by cases hnone⟩
  | .fail kind text => by
      rw [runStep]
      exact .none rfl
  | .attempt step => by
      have hstep := adds_runStep filter style request hx hunbuffered step
      rw [runStep, attempt, outcome_tryCatch]
      rcases hinner : (runStep filter style request response step).outcome x with ⟨fault | _, z⟩ <;>
        rw [hinner] at hstep
      · exact hstep
      · exact hstep

theorem unbuffered_later_iff (hresponse : ∀ i ∈ response, i < x.decorators.length)
    (hy : AcceptingFrom x.kinds charset kept y) : y.Unbuffered response ↔ x.Unbuffered response :=
  forall₂_congr fun i hi => by rw [hy.isBuffer_eq (hresponse i hi)]

theorem unbuffered_later (hunbuffered : x.Unbuffered response)
    (hresponse : ∀ i ∈ response, i < x.decorators.length) (hx : AcceptingFrom x.kinds charset kept x)
    (hy : AcceptingFrom x.kinds charset kept y) :
    y.Unbuffered response ∧ y.charset response = x.charset response := by
  have hlater := (unbuffered_later_iff hresponse hy).2 hunbuffered
  exact ⟨hlater, by rw [hunbuffered.charset_eq, hlater.charset_eq, hx.charset_eq, hy.charset_eq]⟩

/-- A run on a response without a buffer adds what its steps write to the sink. -/
theorem adds_run (hx : AcceptingFrom x.kinds charset kept x) (hunbuffered : x.Unbuffered response)
    (hresponse : ∀ i ∈ response, i < x.decorators.length)
    (hrun : (run filter style request response steps).outcome x = (.ok (), z)) :
    Adds (steps.flatMap (·.pieces (x.charset response) charset)) (steps.any (·.nests)) x z := by
  induction steps generalizing x with
  | nil =>
      rw [run] at hrun
      cases hrun
      exact .none rfl
  | cons step rest ih =>
      rw [run] at hrun
      obtain ⟨⟨⟩, y, hfirst, hrest⟩ := exists_of_bind_ok hrun
      have hstep := adds_runStep filter style request hx hunbuffered step
      have hy := keeps_runStep filter style request step response x hx
      rw [hfirst] at hstep hy
      obtain ⟨hlater, hcharset⟩ := unbuffered_later hunbuffered hresponse hx hy
      rw [List.flatMap_cons, List.any_cons, ← hcharset]
      rw [← hcharset] at hstep
      exact hstep.trans (ih ⟨List.prefix_rfl, hy.2⟩ hlater
        (fun i hi => Nat.lt_of_lt_of_le (hresponse i hi) hy.length_le) hrest)

/-! ## What a dispatch evaluates -/

/-- The response is to be evaluated: the exchange is not suspended, and caching is enabled. -/
def Evaluates (z : Exchange) : Prop :=
  z.context.asyncStarted = false ∧ z.context.cachingDisabled = false

instance (z : Exchange) : Decidable (Evaluates z) := inferInstanceAs (Decidable (_ ∧ _))

theorem outcome_conclude_exempt (filter : EtagFilter) (style : CallStyle) (request : Request)
    (prepared : Response) (h : ¬Evaluates z) :
    ∃ event, (filter.conclude style request prepared).outcome z = (.ok (), z.log event) := by
  rcases Bool.eq_false_or_eq_true z.context.asyncStarted with hasync | hasync
  · exact ⟨_, EtagFilter.outcome_conclude_deferred hasync⟩
  rcases Bool.eq_false_or_eq_true z.context.cachingDisabled with hdisabled | henabled
  · exact EtagFilter.outcome_conclude_disabled filter style request prepared hdisabled
  · exact absurd ⟨hasync, henabled⟩ h

theorem outcome_conclude_update (style : CallStyle) (h : Evaluates z) (prepared : Response) :
    (filter.conclude style request prepared).outcome z =
      (filter.update style request prepared).outcome z := by
  simp [EtagFilter.conclude, outcome_bind, h.1, h.2]

theorem outcome_conclude_unbuffered (style : CallStyle) (h : Evaluates z)
    (hunbuffered : z.Unbuffered response) :
    (filter.conclude style request response).outcome z = (.error (.bufferNotFound style), z) := by
  rw [outcome_conclude_update style h, EtagFilter.update, outcome_bind_ok (outcome_get z),
    findBuffer_eq_none hunbuffered]
  rfl

theorem outcome_conclude_buffered (style : CallStyle) (h : Evaluates z)
    (hbuffered : ¬z.Unbuffered response) :
    ∃ above i below, response = above ++ i :: below ∧ z.Unbuffered above ∧
      (z.decorator i).isBuffer = true ∧
      (filter.conclude style request response).outcome z =
        (filter.evaluate request i below).outcome z := by
  obtain ⟨above, i, below, hsplit, habove, hi, hsome⟩ := exists_findBuffer hbuffered
  refine ⟨above, i, below, hsplit, habove, hi, ?_⟩
  rw [outcome_conclude_update style h, EtagFilter.update, outcome_bind_ok (outcome_get z), hsome]

theorem conclude_ok (filter : EtagFilter) (style : CallStyle) (request : Request)
    (hz : AcceptingFrom ks charset kept z) (h : ¬(Evaluates z ∧ z.Unbuffered response)) :
    ((filter.conclude style request response).outcome z).1 = .ok () := by
  by_cases hevaluates : Evaluates z
  · obtain ⟨above, i, below, -, -, -, hconclude⟩ :=
      outcome_conclude_buffered style hevaluates fun hunbuffered => h ⟨hevaluates, hunbuffered⟩
    obtain ⟨w, hw, -⟩ := EtagFilter.completes_evaluate filter request i below z hz.2
    rw [hconclude, hw]
  · obtain ⟨event, hconclude⟩ := outcome_conclude_exempt filter style request response hevaluates
    rw [hconclude]

theorem conclude_error_iff (filter : EtagFilter) (style : CallStyle) (request : Request)
    (hz : AcceptingFrom ks charset kept z) :
    ((filter.conclude style request response).outcome z).1 = .error (.bufferNotFound style) ↔
      Evaluates z ∧ z.Unbuffered response := by
  constructor
  · intro herror
    refine Decidable.byContradiction fun hnot => ?_
    rw [conclude_ok filter style request hz hnot] at herror
    cases herror
  · rintro ⟨hevaluates, hunbuffered⟩
    rw [outcome_conclude_unbuffered style hevaluates hunbuffered]

theorem outcome_dispatch_conclude {inner : Response}
    (hprepare : (EtagFilter.prepare request response).outcome x = (.ok inner, y))
    (hrun : (run filter style request inner steps).outcome y = (.ok (), z)) :
    (dispatch filter style request response steps).outcome x =
      (filter.conclude style request inner).outcome z := by
  rw [dispatch, EtagFilter.outcome_dispatch hprepare, outcome_bind_ok hrun, outcome_bind]
  rcases (filter.conclude style request inner).outcome z with ⟨_ | ⟨⟩, w⟩ <;> rfl

/-- The exchange was resumed at its entry, the response has no buffer, and it is to be evaluated after the
handler. -/
def LacksBuffer (x z : Exchange) (response : Response) : Prop :=
  x.context.asyncDispatch = true ∧ x.Unbuffered response ∧ Evaluates z

/-- The handler gets a fresh buffer around its response, or the response as it is. -/
theorem prepared_cases {inner : Response}
    (hprepare : (EtagFilter.prepare request response).outcome x = (.ok inner, y)) :
    ((x.context.asyncDispatch = false ∧ x.isBuffer response = false) ∧
      inner = x.decorators.length :: response ∧ y = x.buffered request) ∨
    ((x.context.asyncDispatch = true ∨ x.isBuffer response = true) ∧
      inner = response ∧ y = x.log (.alreadyBuffered request.method request.url)) := by
  obtain ⟨hfirst, hbare, hfresh⟩ | ⟨hgiven, hsame⟩ :=
    EtagFilter.outcome_prepare_cases x request response
  · cases hprepare.symm.trans hfresh
    exact .inl ⟨⟨hfirst, hbare⟩, rfl, rfl⟩
  · cases hprepare.symm.trans hsame
    exact .inr ⟨hgiven, rfl, rfl⟩

theorem isBuffer_fresh (hz : AcceptingFrom (x.buffered request).kinds charset kept z) :
    (z.decorator x.decorators.length).isBuffer = true := by
  have hlt : x.decorators.length < (x.buffered request).decorators.length := by simp [buffered]
  rw [hz.isBuffer_eq hlt, buffered_decorator]
  rfl

theorem lacksBuffer_iff {inner : Response} (hresponse : ∀ i ∈ response, i < x.decorators.length)
    (hprepare : (EtagFilter.prepare request response).outcome x = (.ok inner, y))
    (hz : AcceptingFrom y.kinds charset kept z) :
    LacksBuffer x z response ↔ Evaluates z ∧ z.Unbuffered inner := by
  obtain ⟨⟨hfirst, -⟩, rfl, rfl⟩ | ⟨hgiven, rfl, rfl⟩ := prepared_cases hprepare
  · have hbuffer := isBuffer_fresh hz
    constructor
    · rintro ⟨hresumed, -⟩
      rw [hfirst] at hresumed
      cases hresumed
    · rintro ⟨-, hunbuffered⟩
      rw [hunbuffered _ List.mem_cons_self] at hbuffer
      cases hbuffer
  · rw [LacksBuffer, unbuffered_later_iff hresponse hz]
    constructor
    · rintro ⟨-, hunbuffered, hevaluates⟩
      exact ⟨hevaluates, hunbuffered⟩
    · rintro ⟨hevaluates, hunbuffered⟩
      exact ⟨hgiven.resolve_right (by simp [hunbuffered.isBuffer_eq]), hunbuffered, hevaluates⟩

/-- The outermost buffer after the handler is the fresh one, or the first one of the given response. -/
theorem outermost_buffer {inner above : Response} (hresponse : ∀ j ∈ response, j < x.decorators.length)
    (hprepare : (EtagFilter.prepare request response).outcome x = (.ok inner, y))
    (hz : AcceptingFrom y.kinds charset kept z) (hsplit : inner = above ++ i :: below)
    (habove : z.Unbuffered above) (hi : (z.decorator i).isBuffer = true) :
    if x.context.asyncDispatch = false ∧ x.isBuffer response = false then
      above = [] ∧ i = x.decorators.length ∧ below = response ∧ y = x.buffered request
    else
      inner = response ∧ x.Unbuffered above ∧ (x.decorator i).isBuffer = true := by
  obtain ⟨hfirst, rfl, rfl⟩ | ⟨hgiven, rfl, rfl⟩ := prepared_cases hprepare
  · rw [if_pos hfirst]
    cases above with
    | nil =>
        cases hsplit
        exact ⟨rfl, rfl, rfl, rfl⟩
    | cons j above =>
        -- The fresh buffer is on top, and layers never change their kind.
        have hbuffer := isBuffer_fresh hz
        cases hsplit
        rw [habove _ List.mem_cons_self] at hbuffer
        cases hbuffer
  · have hnotfresh : ¬(x.context.asyncDispatch = false ∧ x.isBuffer inner = false) := by
      rintro ⟨hfirst, hbare⟩
      rw [hfirst, hbare] at hgiven
      simp at hgiven
    have hin : ∀ j ∈ above ++ i :: below, j < x.decorators.length := hsplit ▸ hresponse
    rw [if_neg hnotfresh]
    refine ⟨rfl, ?_, ?_⟩
    · exact (unbuffered_later_iff (fun j hj => hin j (List.mem_append_left _ hj)) hz).1 habove
    · rw [← hi]
      exact (hz.isBuffer_eq (hin i (List.mem_append_right _ List.mem_cons_self))).symm

/-- A dispatch over a sink that refuses nothing, with any layers and flags at its entry, and with any handler
that raises no fault.  It ends with a fault just in case it lacks a buffer.  Then every call of the handler
went through to the sink, which has kept all that the handler wrote, and the dispatch itself has done nothing
but to log.  When a response is evaluated, then at the outermost buffer of the response that the handler was
given: a fresh one around the given response, unless that is a buffer itself or the exchange was resumed, and
else the first one that unwrapping the given response leads to. -/
theorem dispatch_finds_buffer (filter : EtagFilter) (style : CallStyle) (request : Request)
    (steps : List HandlerStep) {calls : Nat} {writes : List Bytes}
    (hsink : x.transport.medium = .memory charset [] calls writes)
    (hresponse : ∀ i ∈ response, i < x.decorators.length) :
    ∃ inner y, (EtagFilter.prepare request response).outcome x = (.ok inner, y) ∧
      ∀ z, (run filter style request inner steps).outcome y = (.ok (), z) →
        let dispatched := (dispatch filter style request response steps).outcome x
        (dispatched.1 = .error (.bufferNotFound style) ↔ LacksBuffer x z response) ∧
        (¬LacksBuffer x z response → dispatched.1 = .ok ()) ∧
        (LacksBuffer x z response →
          inner = response ∧ y = x.log (.alreadyBuffered request.method request.url) ∧
          dispatched.2 = z ∧
          (∀ before after w, steps = before ++ after →
            (run filter style request response before).outcome y = (.ok (), w) → ∀ call,
              (response.perform call).outcome w = (call.onSink (x.charset response)).outcome w) ∧
          Adds (steps.flatMap (·.pieces (x.charset response) charset)) (steps.any (·.nests)) x z) ∧
        (¬LacksBuffer x z response → Evaluates z →
          ∃ above i below, inner = above ++ i :: below ∧ z.Unbuffered above ∧
            (z.decorator i).isBuffer = true ∧
            dispatched = (filter.evaluate request i below).outcome z ∧
            if x.context.asyncDispatch = false ∧ x.isBuffer response = false then
              above = [] ∧ i = x.decorators.length ∧ below = response ∧ y = x.buffered request
            else
              inner = response ∧ x.Unbuffered above ∧ (x.decorator i).isBuffer = true) := by
  have hx : AcceptingFrom x.kinds charset writes x :=
    ⟨List.prefix_rfl, rfl, calls, [], by rw [hsink, List.append_nil]⟩
  obtain ⟨inner, y, hprepare, hy⟩ := acceptingFrom_prepare hx request response
  refine ⟨inner, y, hprepare, fun z hrun => ?_⟩
  have hz : AcceptingFrom y.kinds charset writes z := by
    have hkept := keeps_run filter style request steps inner y ⟨List.prefix_rfl, hy.2⟩
    rwa [hrun] at hkept
  have hdispatch := outcome_dispatch_conclude hprepare hrun
  have hlacks := lacksBuffer_iff hresponse hprepare hz
  dsimp only
  rw [hdispatch, hlacks]
  refine ⟨conclude_error_iff filter style request hz, conclude_ok filter style request hz, ?_, ?_⟩
  · rintro ⟨hevaluates, hunbuffered⟩
    obtain ⟨hresumed, hbare, -⟩ := hlacks.2 ⟨hevaluates, hunbuffered⟩
    obtain ⟨⟨hfirst, -⟩, -⟩ | ⟨-, rfl, rfl⟩ := prepared_cases hprepare
    · rw [hfirst] at hresumed
      cases hresumed
    rw [outcome_conclude_unbuffered style hevaluates hunbuffered]
    refine ⟨rfl, rfl, rfl, fun before after w _ hbefore call => ?_, ?_⟩
    · have hw := keeps_run filter style request before inner _ hy
      rw [hbefore] at hw
      obtain ⟨hlater, hcharset⟩ := unbuffered_later hbare hresponse hx hw
      rw [hlater.outcome_perform, hcharset]
    · have hlogged : AcceptingFrom (x.log (.alreadyBuffered request.method request.url)).kinds charset
          writes (x.log (.alreadyBuffered request.method request.url)) := hy
      have hadds := adds_run hlogged hbare hresponse hrun
      rwa [(unbuffered_later hbare hresponse hx hy).2] at hadds
  · intro hnot hevaluates
    obtain ⟨above, i, below, hsplit, habove, hi, hconclude⟩ :=
      outcome_conclude_buffered style hevaluates fun hunbuffered => hnot ⟨hevaluates, hunbuffered⟩
    exact ⟨above, i, below, hsplit, habove, hi, hconclude,
      outermost_buffer hresponse hprepare hz hsplit habove hi⟩

/-- A resumed exchange whose response is a forwarding layer only. -/
theorem dispatch_finds_buffer_resumed :
    let x : Exchange :=
      { transport := .recorder 200 .latin1 [], decorators := [.forward]
        context := { asyncDispatch := true } }
    let request : Request := { method := "GET", url := "/" }
    let steps : List HandlerStep := [.call (.writeText "é"), .callTransport (.writeText "é")]
    x.transport.medium = .memory .latin1 [] 0 [] ∧ (∀ i ∈ [0], i < x.decorators.length) ∧
      ∃ z, (dispatch {} .sync request [0] steps).outcome x = (.error (.bufferNotFound .sync), z) ∧
        z.transport.writes = [[195, 169], [233]] := by
  intro x request steps
  have hsink : x.transport.medium = .memory .latin1 [] 0 [] := rfl
  have hresponse : ∀ i ∈ [0], i < x.decorators.length := by simp [x]
  obtain ⟨inner, y, hprepare, hdispatch⟩ := dispatch_finds_buffer {} .sync request steps hsink hresponse
  have hgiven : (EtagFilter.prepare request [0]).outcome x =
      (.ok [0], x.log (.alreadyBuffered request.method request.url)) := rfl
  cases hgiven.symm.trans hprepare
  have hlacks (z : Exchange) (hz : Evaluates z) : LacksBuffer x z [0] := ⟨rfl, by decide, hz⟩
  let z := ((run {} .sync request [0] steps).outcome
    (x.log (.alreadyBuffered request.method request.url))).2
  have hrun : (run {} .sync request [0] steps).outcome
      (x.log (.alreadyBuffered request.method request.url)) = (.ok (), z) := by rfl
  have hevaluates : Evaluates z := by decide
  have hwrites : z.transport.writes = [[195, 169], [233]] := by decide +kernel
  obtain ⟨hfault, -, hend, -⟩ := hdispatch z hrun
  refine ⟨hsink, hresponse, z, ?_, hwrites⟩
  exact Prod.ext (hfault.2 (hlacks z hevaluates)) (hend (hlacks z hevaluates)).2.2.1

end Handler
end Revalidation
