import Revalidation.Proofs.Dispatch

/-!
# Exchanges that are alike for responses

Operations on responses see little of an exchange: the layers, the head of the transport, and whether
caching is disabled.  A likeness is a relation between exchanges that agree in these and are kept alike
by the few operations of the transport.  Everything done through responses then ends alike on two
exchanges that are alike, whatever lies below the layers.
-/

namespace Revalidation

variable {x y z w : Exchange} {α β : Type}

namespace Action

/-- Two actions end alike, each on its own exchange: with the same value, and then they leave exchanges
related by `rel`, or with the same fault, and then the exchanges are related by `failed`. -/
inductive EndAlike (rel : Exchange → Exchange → Prop) (failed : Fault → Exchange → Exchange → Prop)
    (first : Action α) (x : Exchange) (second : Action α) (y : Exchange) : Prop
  | value {v : α} {z w : Exchange} (hx : first.outcome x = (.ok v, z))
      (hy : second.outcome y = (.ok v, w)) (h : rel z w)
  | fault {fault : Fault} {z w : Exchange} (hx : first.outcome x = (.error fault, z))
      (hy : second.outcome y = (.error fault, w)) (h : failed fault z w)

namespace EndAlike

variable {rel other : Exchange → Exchange → Prop} {failed : Fault → Exchange → Exchange → Prop}
  {first second : Action α}

theorem pure (h : rel x y) (v : α) : EndAlike rel failed (Pure.pure v) x (Pure.pure v) y :=
  .value rfl rfl h

theorem modify {f g : Exchange → Exchange} (h : rel (f x) (g y)) :
    EndAlike rel failed (modify f) x (modify g) y := .value rfl rfl h

theorem throw {fault : Fault} (h : failed fault x y) :
    EndAlike rel failed (throw fault : Action α) x (throw fault) y := .fault rfl rfl h

theorem of_outcome {third fourth : Action α} (h : EndAlike rel failed third x fourth y)
    (hx : first.outcome z = third.outcome x) (hy : second.outcome w = fourth.outcome y) :
    EndAlike rel failed first z second w := by
  cases h with
  | value hvx hvy hrel => exact .value (hx.trans hvx) (hy.trans hvy) hrel
  | fault hfx hfy hfailed => exact .fault (hx.trans hfx) (hy.trans hfy) hfailed

theorem bind_of_ok {next further : α → Action β} (h : EndAlike rel failed first x second y)
    (hnext : ∀ v z w, first.outcome x = (.ok v, z) → rel z w →
      EndAlike other failed (next v) z (further v) w) :
    EndAlike other failed (first >>= next) x (second >>= further) y := by
  cases h with
  | @value v z w hx hy hrel =>
      exact (hnext v z w hx hrel).of_outcome (outcome_bind_ok hx) (outcome_bind_ok hy)
  | fault hx hy hfailed => exact .fault (outcome_bind_error hx) (outcome_bind_error hy) hfailed

theorem bind {next further : α → Action β} (h : EndAlike rel failed first x second y)
    (hnext : ∀ v z w, rel z w → EndAlike other failed (next v) z (further v) w) :
    EndAlike other failed (first >>= next) x (second >>= further) y :=
  h.bind_of_ok fun v z w _ => hnext v z w

theorem read {f g : Exchange → Action α} (h : EndAlike rel failed (f x) x (g y) y) :
    EndAlike rel failed (get >>= f) x (get >>= g) y :=
  h.of_outcome (outcome_bind_ok (outcome_get x)) (outcome_bind_ok (outcome_get y))

theorem tryCatch {wider : Fault → Exchange → Exchange → Prop} {handler further : Fault → Action α}
    (h : EndAlike rel failed first x second y)
    (hhandler : ∀ fault z w, failed fault z w → EndAlike rel wider (handler fault) z (further fault) w) :
    EndAlike rel wider (tryCatch first handler) x (tryCatch second further) y := by
  cases h with
  | value hx hy hrel =>
      exact .value (by rw [outcome_tryCatch, hx]) (by rw [outcome_tryCatch, hy]) hrel
  | @fault fault z w hx hy hfailed =>
      exact (hhandler fault z w hfailed).of_outcome (by rw [outcome_tryCatch, hx])
        (by rw [outcome_tryCatch, hy])

theorem onFault {wider : Fault → Exchange → Exchange → Prop} {cleanUp further : Fault → Action Unit}
    (h : EndAlike rel failed first x second y)
    (hcleanUp : ∀ fault z w, failed fault z w →
      EndAlike (wider fault) wider (cleanUp fault) z (further fault) w) :
    EndAlike rel wider (first.onFault cleanUp) x (second.onFault further) y :=
  h.tryCatch fun fault z w hfailed =>
    (hcleanUp fault z w hfailed).bind fun _ _ _ hwider => .throw hwider

theorem mono {wider : Fault → Exchange → Exchange → Prop} (h : EndAlike rel failed first x second y)
    (hrel : ∀ z w, rel z w → other z w) (hfailed : ∀ fault z w, failed fault z w → wider fault z w) :
    EndAlike other wider first x second y := by
  cases h with
  | value hx hy h => exact .value hx hy (hrel _ _ h)
  | fault hx hy h => exact .fault hx hy (hfailed _ _ _ h)

theorem result_eq (h : EndAlike rel failed first x second y) :
    (second.outcome y).1 = (first.outcome x).1 := by
  cases h with
  | value hx hy => rw [hx, hy]
  | fault hx hy => rw [hx, hy]

theorem rel_outcome (h : EndAlike rel failed first x second y)
    (hfailed : ∀ fault z w, failed fault z w → rel z w) :
    rel (first.outcome x).2 (second.outcome y).2 := by
  cases h with
  | value hx hy hrel => rwa [hx, hy]
  | fault hx hy h =>
      rw [hx, hy]
      exact hfailed _ _ _ h

theorem ends (h : EndAlike rel failed first x second y) (hfailed : ∀ fault z w, ¬failed fault z w) :
    ∃ v z w, first.outcome x = (.ok v, z) ∧ second.outcome y = (.ok v, w) ∧ rel z w := by
  cases h with
  | value hx hy hrel => exact ⟨_, _, _, hx, hy, hrel⟩
  | fault hx hy h => exact absurd h (hfailed _ _ _)

end EndAlike
end Action

open Revalidation.Action

structure Request.Alike (request other : Request) : Prop where
  method_eq : other.method = request.method
  received_eq : other.headers.get? "If-None-Match" = request.headers.get? "If-None-Match"

/-- A relation between exchanges that the operations on responses cannot tell apart.  Header fields are
limited to the texts that both carry. -/
structure Likeness where
  rel : Exchange → Exchange → Prop
  /-- The texts that header fields can hold. -/
  carries : String → Prop
  /-- The faults that operations can stop with. -/
  stops : Fault → Prop
  decorators_eq {x y : Exchange} : rel x y → y.decorators = x.decorators
  disabled_eq {x y : Exchange} : rel x y → y.context.cachingDisabled = x.context.cachingDisabled
  status_eq {x y : Exchange} : rel x y → y.transport.status = x.transport.status
  headers_eq {x y : Exchange} : rel x y → y.transport.headers = x.transport.headers
  committed_eq {x y : Exchange} : rel x y → y.transport.committed = x.transport.committed
  charset_eq {x y : Exchange} : rel x y → y.transport.charset = x.transport.charset
  carries_lengthName : carries contentLengthName
  carries_size (n : Nat) : carries (toString n)
  carries_length {x y : Exchange} {i : Nat} {b : Buffer} {value : String} :
    rel x y → x.decorator i = .buffer b → b.contentLength = some value → carries value
  log {x y : Exchange} (event other : LogEvent) : rel x y → rel (x.log event) (y.log other)
  putBuffer {x y : Exchange} (i : Nat) {b : Buffer} :
    rel x y → (∀ value, b.contentLength = some value → carries value) →
      rel (x.putBuffer i b) (y.putBuffer i b)
  disableCaching {x y : Exchange} :
    rel x y → rel (x.changeContext .disableCaching) (y.changeContext .disableCaching)
  setTransportStatus {x y : Exchange} (status : Int) :
    rel x y → rel (x.setTransportStatus status) (y.setTransportStatus status)
  setTransportHeader {x y : Exchange} {name value : String} :
    rel x y → carries name → carries value →
      rel (x.setTransportHeader name value) (y.setTransportHeader name value)
  addTransportHeader {x y : Exchange} {name value : String} :
    rel x y → carries name → carries value →
      rel (x.addTransportHeader name value) (y.addTransportHeader name value)
  write {x y : Exchange} (data : Bytes) :
    rel x y → EndAlike rel (fun fault z w => stops fault ∧ rel z w) (Transport.write data) x
      (Transport.write data) y
  flush {x y : Exchange} :
    rel x y → EndAlike rel (fun fault z w => stops fault ∧ rel z w) Transport.flush x
      Transport.flush y

namespace Likeness

variable (L : Likeness) {i : Nat} {b c : Buffer} {response below : Response} {name value : String}

/-- Two actions end alike and leave exchanges that are alike again. -/
def Alike (first : Action α) (x : Exchange) (second : Action α) (y : Exchange) : Prop :=
  EndAlike L.rel (fun fault z w => L.stops fault ∧ L.rel z w) first x second y

def Keeps (action : Action α) (x y : Exchange) : Prop := L.Alike action x action y

/-! ## What responses see -/

theorem decorator_eq (h : L.rel x y) (i : Nat) : y.decorator i = x.decorator i := by
  rw [Exchange.decorator, L.decorators_eq h, Exchange.decorator]

theorem buffer?_eq (h : L.rel x y) (i : Nat) : y.buffer? i = x.buffer? i := by
  rw [Exchange.buffer?, L.decorator_eq h, Exchange.buffer?]

theorem forwarding_eq (h : L.rel x y) (b : Buffer) :
    b.forwarding y.context = b.forwarding x.context := by
  rw [Buffer.forwarding, L.disabled_eq h, Buffer.forwarding]

theorem holds_eq (h : L.rel x y) (b : Buffer) (name : String) :
    b.holds y.context name = b.holds x.context name := by
  rw [Buffer.holds, L.forwarding_eq h, Buffer.holds]

theorem response_status_eq (h : L.rel x y) (response : Response) :
    y.status response = x.status response := by
  induction response with
  | nil => exact L.status_eq h
  | cons i below ih => rw [Exchange.status, L.buffer?_eq h, ih, Exchange.status]

theorem response_charset_eq (h : L.rel x y) (response : Response) :
    y.charset response = x.charset response := by
  induction response with
  | nil => exact L.charset_eq h
  | cons i below ih => rw [Exchange.charset, L.buffer?_eq h, ih, Exchange.charset]

theorem content_eq (h : L.rel x y) (response : Response) : y.content response = x.content response := by
  cases response with
  | nil => rfl
  | cons i below => rw [Exchange.content, L.buffer?_eq h, Exchange.content]

theorem lookup_eq (h : L.rel x y) (response : Response) (name : String) :
    y.lookup response name = x.lookup response name := by
  unfold Exchange.lookup
  rw [L.headers_eq h]

/-! ## Status and headers -/

theorem setStatus (h : L.rel x y) (response : Response) (status : Int) :
    L.rel (x.setStatus response status) (y.setStatus response status) := by
  induction response with
  | nil => exact L.setTransportStatus status h
  | cons i below ih =>
      cases hd : x.decorator i with
      | forward => simpa only [Exchange.setStatus, L.decorator_eq h, hd] using ih
      | buffer b =>
          have hlength : ∀ value, b.contentLength = some value → L.carries value :=
            fun value => L.carries_length h hd
          simp only [Exchange.setStatus, L.decorator_eq h, hd, L.forwarding_eq h]
          split
          · exact L.putBuffer i ih hlength
          · exact L.putBuffer i h hlength

theorem setHeader (h : L.rel x y) (response : Response) (hname : L.carries name)
    (hvalue : L.carries value) :
    L.rel (x.setHeader response name value) (y.setHeader response name value) := by
  induction response with
  | nil => exact L.setTransportHeader h hname hvalue
  | cons i below ih =>
      cases hd : x.decorator i with
      | forward => simpa only [Exchange.setHeader, L.decorator_eq h, hd] using ih
      | buffer b =>
          simp only [Exchange.setHeader, L.decorator_eq h, hd, L.holds_eq h]
          split
          · refine L.putBuffer i h fun other hother => ?_
            rwa [← Option.some.inj hother]
          · exact ih

theorem addHeader (h : L.rel x y) (response : Response) (hname : L.carries name)
    (hvalue : L.carries value) :
    L.rel (x.addHeader response name value) (y.addHeader response name value) := by
  induction response with
  | nil => exact L.addTransportHeader h hname hvalue
  | cons i below ih =>
      cases hd : x.decorator i with
      | forward => simpa only [Exchange.addHeader, L.decorator_eq h, hd] using ih
      | buffer b =>
          simp only [Exchange.addHeader, L.decorator_eq h, hd, L.holds_eq h]
          split
          · refine L.putBuffer i h fun other hother => ?_
            rwa [← Option.some.inj hother]
          · exact ih

theorem passHead (h : L.rel x y) (hlength : ∀ value, b.contentLength = some value → L.carries value)
    (below : Response) (complete : Bool) :
    L.rel (x.passHead b below complete) (y.passHead b below complete) := by
  have hstatus : L.rel (x.passStatus b below) (y.passStatus b below) := by
    unfold Exchange.passStatus
    split
    · exact L.setStatus h below _
    · exact h
  have hpassed (value : String) (hvalue : b.passedLength complete = some value) :
      L.carries value := by
    unfold Buffer.passedLength at hvalue
    split at hvalue
    · rw [← Option.some.inj hvalue]
      exact L.carries_size _
    · exact hlength value hvalue
  rw [Exchange.passHead_eq, Exchange.passHead_eq, L.committed_eq h]
  split
  · exact h
  · split
    · next hvalue => exact L.setHeader hstatus below L.carries_lengthName (hpassed _ hvalue)
    · exact hstatus

theorem resetBuffer (h : L.rel x y) (response : Response) :
    L.rel (x.resetBuffer response) (y.resetBuffer response) := by
  cases response with
  | nil => exact h
  | cons i below =>
      cases hd : x.decorator i with
      | forward => simpa only [Exchange.resetBuffer, L.decorator_eq h, hd] using h
      | buffer b =>
          have hlength : ∀ value, b.contentLength = some value → L.carries value :=
            fun value => L.carries_length h hd
          simp only [Exchange.resetBuffer, L.decorator_eq h, hd]
          exact L.putBuffer i h hlength

/-! ## Writing and copying -/

theorem copyBuffer {write : Bytes → Action Unit}
    (hwrite : ∀ z w data, L.rel z w → L.Keeps (write data) z w) (h : L.rel x y)
    (hd : x.decorator i = .buffer b) (below : Response) (complete : Bool) :
    L.Keeps (Response.copyBuffer write i b below complete) x y := by
  have hlength : ∀ value, b.contentLength = some value → L.carries value :=
    fun value => L.carries_length h hd
  have hdone (z w : Exchange) (hz : L.rel z w) :
      L.Keeps (modify fun x => x.putBuffer i { b with content := [], copied := true }) z w :=
    .modify (L.putBuffer i hz hlength)
  unfold Response.copyBuffer
  split
  · exact .pure h ()
  · refine .bind (.modify (L.passHead h hlength below complete)) fun _ z w hz => ?_
    split
    · refine .bind (.modify (L.log _ _ hz)) fun _ z w hz => ?_
      exact .bind (hwrite z w b.content hz) fun _ => hdone
    · exact hdone z w hz

theorem responseWrite (h : L.rel x y) (response : Response) (data : Bytes) :
    L.Keeps (response.write data) x y := by
  induction response generalizing x y data with
  | nil => exact L.write data h
  | cons i below ih =>
      have hdy := L.decorator_eq h i
      cases hd : x.decorator i with
      | forward =>
          rw [hd] at hdy
          exact (ih h data).of_outcome (Response.outcome_write_forward hd data)
            (Response.outcome_write_forward hdy data)
      | buffer b =>
          rw [hd] at hdy
          have hfy := L.forwarding_eq h b
          rcases Bool.eq_false_or_eq_true (b.forwarding x.context) with hf | hf
          · rw [hf] at hfy
            have hcopy := L.copyBuffer (fun _ _ data h => ih h data) h hd below false
            exact (hcopy.bind fun _ _ _ h => ih h data).of_outcome
              (Response.outcome_write_forwarding hd hf data)
              (Response.outcome_write_forwarding hdy hfy data)
          · rw [hf] at hfy
            have hlength : ∀ value, b.contentLength = some value → L.carries value :=
              fun value => L.carries_length h hd
            exact .value (Response.outcome_write_held hd hf data)
              (Response.outcome_write_held hdy hfy data) (L.putBuffer i h hlength)

theorem responseFlush (h : L.rel x y) (response : Response) : L.Keeps response.flush x y := by
  induction response generalizing x y with
  | nil => exact L.flush h
  | cons i below ih =>
      have hdy := L.decorator_eq h i
      cases hd : x.decorator i with
      | forward =>
          rw [hd] at hdy
          exact (ih h).of_outcome (Response.outcome_flush_forward hd)
            (Response.outcome_flush_forward hdy)
      | buffer b =>
          rw [hd] at hdy
          have hcopy := L.copyBuffer (fun _ _ data h => L.responseWrite h below data) h hd below false
          exact (hcopy.bind fun _ _ _ h => ih h).of_outcome (Response.outcome_flush_buffer hd)
            (Response.outcome_flush_buffer hdy)

theorem copyBody (h : L.rel x y) (response : Response) (complete : Bool) :
    L.Keeps (response.copyBody complete) x y := by
  cases response with
  | nil => exact .pure h ()
  | cons i below =>
      have hdy := L.decorator_eq h i
      cases hd : x.decorator i with
      | forward =>
          rw [hd] at hdy
          exact .value (Response.outcome_copyBody_forward hd) (Response.outcome_copyBody_forward hdy) h
      | buffer b =>
          rw [hd] at hdy
          have hcopy :=
            L.copyBuffer (fun _ _ data h => L.responseWrite h below data) h hd below complete
          exact hcopy.of_outcome (Response.outcome_copyBody_buffer hd)
            (Response.outcome_copyBody_buffer hdy)

theorem writeText (h : L.rel x y) (hencoding : ∀ cause, L.stops (.encoding cause))
    (response : Response) (text : String) : L.Keeps (response.writeText text) x y := by
  refine .read ?_
  rw [L.response_charset_eq h]
  cases (x.charset response).encode text with
  | error cause => exact .throw ⟨hencoding cause, h⟩
  | ok data => exact L.responseWrite h response data

/-! ## Handlers -/

inductive Performs : Call → Prop
  | setStatus (status : Int) : Performs (.setStatus status)
  | setHeader {name value : String} (hname : L.carries name) (hvalue : L.carries value) :
      Performs (.setHeader name value)
  | addHeader {name value : String} (hname : L.carries name) (hvalue : L.carries value) :
      Performs (.addHeader name value)
  | write (data : Bytes) : Performs (.write data)
  | writeText (hencoding : ∀ cause, L.stops (.encoding cause)) (text : String) :
      Performs (.writeText text)
  | flush : Performs .flush
  | copyBody (complete : Bool) : Performs (.copyBody complete)
  | resetBuffer : Performs .resetBuffer
  /-- A call on the transport itself, about which the relation has to say more. -/
  | transport {call : Call}
      (h : ∀ (response : Response) {x y}, L.rel x y → L.Keeps (response.perform call) x y) :
      Performs call

inductive Takes : HandlerStep → Prop
  | call {call : Call} (hcall : L.Performs call) : Takes (.call call)
  | disableCaching : Takes (.changeContext .disableCaching)

variable {call : Call} {step : HandlerStep} {steps : List HandlerStep} {filter : EtagFilter}
  {style : CallStyle} {request other : Request}

theorem perform (h : L.rel x y) (response : Response) (hcall : L.Performs call) :
    L.Keeps (response.perform call) x y := by
  cases hcall with
  | setStatus status => exact .modify (L.setStatus h response status)
  | setHeader hname hvalue => exact .modify (L.setHeader h response hname hvalue)
  | addHeader hname hvalue => exact .modify (L.addHeader h response hname hvalue)
  | write data => exact L.responseWrite h response data
  | writeText hencoding text => exact L.writeText h hencoding response text
  | flush => exact L.responseFlush h response
  | copyBody complete => exact L.copyBody h response complete
  | resetBuffer => exact .modify (L.resetBuffer h response)
  | transport hcall => exact hcall response h

theorem runStep (h : L.rel x y) (response : Response) (hstep : L.Takes step) :
    L.Keeps (Handler.runStep filter style request response step) x y := by
  cases hstep with
  | call hcall =>
      rw [Handler.runStep]
      exact L.perform h response hcall
  | disableCaching =>
      rw [Handler.runStep]
      exact .modify (L.disableCaching h)

theorem run (h : L.rel x y) (response : Response) (hsteps : ∀ step ∈ steps, L.Takes step) :
    L.Keeps (Handler.run filter style request response steps) x y := by
  induction steps generalizing x y with
  | nil =>
      rw [Handler.run]
      exact .pure h ()
  | cons step rest ih =>
      rw [List.forall_mem_cons] at hsteps
      rw [Handler.run]
      exact .bind (L.runStep h response hsteps.1) fun _ z w hz => ih hz hsteps.2

/-! ## The evaluation of a response -/

theorem evaluate (h : L.rel x y) (hrequests : request.Alike other) (hname : L.carries "ETag")
    (htag : ∀ body, L.carries (filter.tag body)) (i : Nat) (below : Response) :
    L.Alike (filter.evaluate request i below) x (filter.evaluate other i below) y := by
  have hcopy (event event' : LogEvent) (z w : Exchange) (hz : L.rel z w) :
      L.Alike (do Action.log event; Response.copyBody (i :: below) true) z
        (do Action.log event'; Response.copyBody (i :: below) true) w :=
    .bind (.modify (L.log event event' hz)) fun _ _ _ h => L.copyBody h _ true
  unfold EtagFilter.evaluate
  refine .read ?_
  simp only [L.response_status_eq h, L.committed_eq h, L.lookup_eq h, hrequests.method_eq]
  split
  · exact hcopy _ _ x y h
  split
  · exact hcopy _ _ x y h
  unfold EtagFilter.applyTag
  refine .read ?_
  simp only [L.content_eq h, hrequests.received_eq]
  refine .bind (.modify (L.setHeader h below hname (htag _))) fun _ z w hz => ?_
  split
  · refine .bind (.modify (L.log _ _ hz)) fun _ z w hz => ?_
    exact .bind (.modify (L.setStatus hz below notModifiedStatus)) fun _ z w hz =>
      .modify (L.resetBuffer hz _)
  · exact hcopy _ _ z w hz

theorem conclude (h : L.rel x y) (hasync : y.context.asyncStarted = x.context.asyncStarted)
    (hrequests : request.Alike other) (hname : L.carries "ETag")
    (htag : ∀ body, L.carries (filter.tag body)) (hd : x.decorator i = .buffer b)
    (style otherStyle : CallStyle) (below : Response) :
    L.Alike (filter.conclude style request (i :: below)) x
      (filter.conclude otherStyle other (i :: below)) y := by
  unfold EtagFilter.conclude
  refine .read ?_
  simp only [hasync, L.disabled_eq h]
  split
  · exact .modify (L.log _ _ h)
  split
  · exact .modify (L.log _ _ h)
  have hdy : y.decorator i = .buffer b := by rw [L.decorator_eq h, hd]
  exact (L.evaluate h hrequests hname htag i below).of_outcome (EtagFilter.outcome_update hd)
    (EtagFilter.outcome_update hdy)

end Likeness
end Revalidation
