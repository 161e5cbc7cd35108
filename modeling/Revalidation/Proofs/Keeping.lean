import Revalidation.Proofs.Dispatch
import Revalidation.Wsgi.Server

/-!
# What actions keep

An action keeps a property of exchanges if the property survives it, whether the action ends with a
fault or not.  A property is untouched if it survives the few elementary changes that responses and
filters consist of, and lasting if it survives changes of the exchange context as well.  Everything that
is done through a response, by a filter or by an application then keeps it.
-/

namespace Revalidation

namespace Action

variable {α β : Type} {P : Exchange → Prop} {action : Action α}

/-- The action keeps a property of exchanges, however it ends. -/
def Keeps (P : Exchange → Prop) (action : Action α) : Prop := ∀ x, P x → P (action.outcome x).2

namespace Keeps

theorem pure (v : α) : Keeps P (Pure.pure v : Action α) := fun _ h => h

theorem throw (fault : Fault) : Keeps P (throw fault : Action α) := fun _ h => h

theorem modify {f : Exchange → Exchange} (hf : ∀ x, P x → P (f x)) : Keeps P (modify f) := hf

theorem bind_at {next : α → Action β} {x : Exchange} (h : P (action.outcome x).2)
    (hnext : ∀ v, Keeps P (next v)) : P ((action >>= next).outcome x).2 := by
  rw [outcome_bind]
  rcases haction : action.outcome x with ⟨fault | v, y⟩ <;> rw [haction] at h
  · exact h
  · exact hnext v y h

theorem bind {next : α → Action β} (h : Keeps P action) (hnext : ∀ v, Keeps P (next v)) :
    Keeps P (action >>= next) := fun x hx => bind_at (h x hx) hnext

theorem map {f : α → β} (h : Keeps P action) : Keeps P (f <$> action) := by
  rw [map_eq_pure_bind]
  exact h.bind fun _ => .pure _

theorem read {next : Exchange → Action α} (hnext : ∀ x, P x → P ((next x).outcome x).2) :
    Keeps P (get >>= next) := hnext

theorem tryCatch_at {handler : Fault → Action α} {x : Exchange} (h : P (action.outcome x).2)
    (hhandler : ∀ fault, Keeps P (handler fault)) :
    P ((MonadExcept.tryCatch action handler).outcome x).2 := by
  rw [outcome_tryCatch]
  rcases haction : action.outcome x with ⟨fault | v, y⟩ <;> rw [haction] at h
  · exact hhandler fault y h
  · exact h

theorem tryCatch {handler : Fault → Action α} (h : Keeps P action)
    (hhandler : ∀ fault, Keeps P (handler fault)) : Keeps P (tryCatch action handler) :=
  fun x hx => tryCatch_at (h x hx) hhandler

theorem onFault_at {cleanUp : Fault → Action Unit} {x : Exchange} (h : P (action.outcome x).2)
    (hcleanUp : ∀ fault, Keeps P (cleanUp fault)) : P ((action.onFault cleanUp).outcome x).2 :=
  tryCatch_at h fun fault => (hcleanUp fault).bind fun _ => .throw fault

theorem onFault {cleanUp : Fault → Action Unit} (h : Keeps P action)
    (hcleanUp : ∀ fault, Keeps P (cleanUp fault)) : Keeps P (action.onFault cleanUp) :=
  fun x hx => onFault_at (h x hx) hcleanUp

theorem forM {items : List α} {step : α → Action Unit} (h : ∀ item ∈ items, Keeps P (step item)) :
    Keeps P (items.forM step) := by
  induction items with
  | nil => exact Keeps.pure ()
  | cons item rest ih =>
      rw [List.forall_mem_cons] at h
      exact h.1.bind fun _ => ih h.2

end Keeps
end Action

/-- Whether an entry is about an iterable: that it is asked for an item, handed over or closed, or that
one of its chunks reached the server. -/
def Entry.isIteration : Entry → Bool
  | pulled _ | closed | returned _ | chunk _ | serverClosed => true
  | _ => false

namespace Wsgi

open Revalidation.Action

variable {x : Exchange} {response : Response} {line : String} {headers : List (String × String)}
  {fault : Fault}

theorem outcome_acceptStart_committed (hcommitted : x.transport.committed = true) :
    (acceptStart response line headers (some fault)).outcome x = (.error fault, x) := by
  unfold acceptStart
  simp only [outcome_bind, outcome_get, hcommitted, if_true, outcome_throw]

theorem outcome_acceptStart_again (hopen : x.transport.committed = false) :
    (acceptStart response line headers (some fault)).outcome x =
      (acceptStart response line headers none).outcome x.resetHeaders := by
  unfold acceptStart
  simp only [outcome_bind, outcome_get, hopen, Bool.false_eq_true, if_false, outcome_modify]

theorem outcome_start_again {line : String} {headers : List (String × String)} {fault : Fault}
    (hopen : x.transport.committed = false) :
    (start (.response [0]) line headers (some fault)).outcome x =
      (start (.response [0]) line headers none).outcome x.resetHeaders := by
  have hagain : (acceptStart [0] line headers (some fault)).outcome x = _ :=
    outcome_acceptStart_again hopen
  simp only [start, outcome_bind, hagain]

/-- What a stream does once the server asks it for a chunk, before it thinks of closing the iterable:
it hands over what is waiting and goes on with what is left of the iterable. -/
def Streaming.proceed (s : Streaming) (appetite : Appetite) : Action Bool := do
  match ← deliverWaiting appetite with
  | none => return false
  | some appetite => s.deliverRest s.rest s.pulled appetite

theorem Streaming.run_eq (s : Streaming) (appetite : Appetite) :
    s.run appetite = (do
      let atEnd ← (s.proceed appetite).onFault fun _ => s.iterable.close s.starter
      if atEnd then s.iterable.close s.starter
      return !atEnd) := rfl

end Wsgi

namespace Exchange

/-- A property that lasts whatever is done through responses, which leave the context alone.  The
changes of the transport that it has to survive are those of a head that is still open. -/
structure Untouched (P : Exchange → Prop) : Prop where
  note {x : Exchange} {entry : Entry} : entry.isIteration = false → P x → P (x.note entry)
  putBuffer {x : Exchange} (i : Nat) (b : Buffer) : P x → P (x.putBuffer i b)
  changeTransport {x : Exchange} (event : LogEvent) (change : Transport → Transport) :
    P x → P (x.changeTransport event change)
  commit {x : Exchange} :
    P x → P { x with transport := { x.transport with committed := true } }
  setMedium {x : Exchange} (medium : Medium) :
    P x → P { x with transport := { x.transport with medium := medium } }
  setSends {x : Exchange} (sends : Nat) :
    P x → P { x with server := { x.server with sends := sends } }
  setWriter {x : Exchange} (writer : Option Writer) : P x → P { x with writer := writer }

/-- A property that lasts whatever is done by applications. -/
structure Lasting (P : Exchange → Prop) : Prop extends Untouched P where
  changeContext {x : Exchange} (change : Context.Change) : P x → P (x.changeContext change)

theorem untouched_context (context : Context) : Untouched fun x => x.context = context where
  note _ h := h
  putBuffer _ _ h := h
  changeTransport event change h := by
    unfold Exchange.changeTransport ignore
    split
    · split <;> exact h
    · exact h
  commit h := h
  setMedium _ h := h
  setSends _ h := h
  setWriter _ h := h

/-- A property of the journal lasts if the entries of responses and applications keep it. -/
theorem Lasting.of_journal {P : Exchange → Prop}
    (hcongr : ∀ {x y : Exchange}, P x → y.journal = x.journal → P y)
    (hnote : ∀ x entry, entry.isIteration = false → P x → P (x.note entry)) : Lasting P where
  note := hnote _ _
  putBuffer _ _ h := hcongr h rfl
  changeTransport event change h := by
    unfold Exchange.changeTransport ignore
    split
    · split
      · exact hnote _ _ rfl h
      · exact h
    · exact hcongr h rfl
  commit h := hcongr h rfl
  setMedium _ h := hcongr h rfl
  setSends _ h := hcongr h rfl
  changeContext change h := by
    unfold Exchange.changeContext
    split <;> exact hcongr h rfl
  setWriter _ h := hcongr h rfl

theorem lasting_head (t : Transport) :
    Lasting fun x => x.transport.committed = true ∧ x.transport.status = t.status ∧
      x.transport.headers = t.headers where
  note _ h := h
  putBuffer _ _ h := h
  changeTransport event change h := by
    unfold Exchange.changeTransport ignore
    rw [if_pos h.1]
    split <;> exact h
  commit h := ⟨rfl, h.2⟩
  setMedium _ h := h
  setSends _ h := h
  setWriter _ h := h
  changeContext change h := by
    unfold Exchange.changeContext
    split <;> exact h

namespace Untouched

open Revalidation.Action

variable {P : Exchange → Prop} {x : Exchange} (h : Untouched P) {response below : Response}

include h

theorem log (event : LogEvent) (hx : P x) : P (x.log event) := h.note rfl hx

theorem logFailure (method url : String) (fault : Fault) (hx : P x) :
    P (x.logFailure method url fault) := by
  unfold Exchange.logFailure
  split
  · exact h.log _ hx
  · exact hx

/-! ## Status and headers -/

theorem setStatus (response : Response) (status : Int) (hx : P x) :
    P (x.setStatus response status) := by
  induction response with
  | nil => exact h.changeTransport (.statusIgnored status) (fun t => { t with status := status }) hx
  | cons i below ih =>
      simp only [Exchange.setStatus]
      split
      · exact ih
      · refine h.putBuffer i _ ?_
        split
        · exact ih
        · exact hx

theorem setHeader (response : Response) (name value : String) (hx : P x) :
    P (x.setHeader response name value) := by
  induction response with
  | nil =>
      exact h.changeTransport (.headerIgnored name)
        (fun t => { t with headers := t.headers.set name value }) hx
  | cons i below ih =>
      simp only [Exchange.setHeader]
      split
      · exact ih
      · split
        · exact h.putBuffer i _ hx
        · exact ih

theorem addHeader (response : Response) (name value : String) (hx : P x) :
    P (x.addHeader response name value) := by
  induction response with
  | nil =>
      exact h.changeTransport (.headerIgnored name)
        (fun t => { t with headers := t.headers.add name value }) hx
  | cons i below ih =>
      simp only [Exchange.addHeader]
      split
      · exact ih
      · split
        · exact h.putBuffer i _ hx
        · exact ih

theorem passHead (b : Buffer) (below : Response) (complete : Bool) (hx : P x) :
    P (x.passHead b below complete) := by
  have hstatus : P (x.passStatus b below) := by
    unfold passStatus
    split
    · exact h.setStatus below _ hx
    · exact hx
  rw [passHead_eq]
  split
  · exact hx
  · split
    · exact h.setHeader below _ _ hstatus
    · exact hstatus

theorem resetBuffer (response : Response) (hx : P x) : P (x.resetBuffer response) := by
  cases response with
  | nil => exact hx
  | cons i below =>
      simp only [Exchange.resetBuffer]
      split
      · exact hx
      · exact h.putBuffer i _ hx

/-! ## The transport -/

theorem takeChunks (hx : P x) : P x.takeChunks.2 := by
  unfold Exchange.takeChunks
  split
  · exact h.setMedium _ hx
  · exact hx

theorem keeps_note {entry : Entry} (hentry : entry.isIteration = false) : Keeps P (Action.note entry) :=
  .modify fun _ => h.note hentry

theorem keeps_log (event : LogEvent) : Keeps P (Action.log event) := .modify fun _ => h.log event

theorem keeps_markCommitted : Keeps P Transport.markCommitted := .modify fun _ => h.commit

theorem keeps_setMedium (medium : Medium) : Keeps P (Transport.setMedium medium) :=
  .modify fun _ => h.setMedium medium

theorem keeps_send (message : Message) : Keeps P (Transport.send message) := by
  intro x hx
  have hcounted := h.setSends (x.server.sends + 1) hx
  obtain ⟨-, hsend⟩ | ⟨-, hsend⟩ := Transport.outcome_send_counted x message <;> rw [hsend]
  · exact h.note rfl hcounted
  · exact h.note rfl hcounted

theorem keeps_startResponse (line : String) (headers : List (String × String)) :
    Keeps P (Transport.startResponse line headers) := by
  refine .read fun x hx => ?_
  split
  · exact Keeps.bind (h.keeps_note rfl) (fun _ => .bind (.throw _) fun _ => h.keeps_note rfl) x hx
  · exact h.keeps_note rfl x hx

theorem keeps_announce (gateway : Gateway) : Keeps P (Transport.announce gateway) := by
  refine .read fun x hx => Keeps.bind h.keeps_markCommitted (fun _ => ?_) x hx
  cases gateway with
  | asgi =>
      cases encodeHeaders x.transport.headers.multiItems with
      | error cause => exact .bind (.throw _) fun _ => h.keeps_log _
      | ok headers => exact .bind (h.keeps_send _) fun _ => h.keeps_log _
  | wsgi => exact .bind (h.keeps_startResponse _ _) fun _ => h.keeps_log _

theorem keeps_transport_flush : Keeps P Transport.flush := by
  refine .read fun x hx => ?_
  have hannounce (gateway : Gateway) :
      Keeps P (if !x.transport.committed then Transport.announce gateway else pure ()) := by
    split
    · exact h.keeps_announce gateway
    · exact .pure ()
  dsimp only
  split
  · exact h.keeps_markCommitted x hx
  · exact hannounce .asgi x hx
  · exact hannounce .wsgi x hx

theorem keeps_transport_write (data : Bytes) : Keeps P (Transport.write data) := by
  refine .read fun x hx => ?_
  dsimp only
  split
  · split
    · exact Keeps.bind (h.keeps_setMedium _) (fun _ => .throw _) x hx
    · exact Keeps.bind h.keeps_markCommitted (fun _ => h.keeps_setMedium _) x hx
  · refine Keeps.bind h.keeps_transport_flush (fun _ => ?_) x hx
    split
    · exact .bind (h.keeps_send _) fun _ => h.keeps_log _
    · exact .pure ()
  · refine Keeps.bind h.keeps_transport_flush (fun _ => ?_) x hx
    split
    · exact h.keeps_setMedium _
    · exact .pure ()

theorem keeps_transport_close : Keeps P Transport.close := by
  refine .bind h.keeps_transport_flush fun _ => .read fun x hx => ?_
  split
  · exact Keeps.bind (h.keeps_setMedium _) (fun _ => h.keeps_send _) x hx
  · exact hx

/-! ## Responses -/

theorem keeps_copyBuffer {write : Bytes → Action Unit} (hwrite : ∀ data, Keeps P (write data)) (i : Nat)
    (b : Buffer) (below : Response) (complete : Bool) :
    Keeps P (Response.copyBuffer write i b below complete) := by
  have hdone : Keeps P (modify fun x => x.putBuffer i { b with content := [], copied := true }) :=
    .modify fun _ => h.putBuffer i _
  unfold Response.copyBuffer
  split
  · exact .pure ()
  · refine .bind (.modify fun _ => h.passHead b below complete) fun _ => ?_
    split
    · exact .bind (h.keeps_log _) fun _ => .bind (hwrite _) fun _ => hdone
    · exact hdone

theorem keeps_write (response : Response) (data : Bytes) : Keeps P (response.write data) := by
  induction response generalizing data with
  | nil => exact h.keeps_transport_write data
  | cons i below ih =>
      refine .read fun x hx => ?_
      split
      · exact ih data x hx
      · next b _ =>
        split
        · exact Keeps.bind (h.keeps_copyBuffer ih i b below false) (fun _ => ih data) x hx
        · exact h.putBuffer i _ hx

theorem keeps_flush (response : Response) : Keeps P response.flush := by
  induction response with
  | nil => exact h.keeps_transport_flush
  | cons i below ih =>
      refine .read fun x hx => ?_
      split
      · exact ih x hx
      · next b _ =>
        exact Keeps.bind (h.keeps_copyBuffer (h.keeps_write below) i b below false) (fun _ => ih) x hx

theorem keeps_copyBody (response : Response) (complete : Bool) :
    Keeps P (response.copyBody complete) := by
  cases response with
  | nil => exact .pure ()
  | cons i below =>
      refine .read fun x hx => ?_
      split
      · exact hx
      · next b _ => exact h.keeps_copyBuffer (h.keeps_write below) i b below complete x hx

theorem keeps_writeText (response : Response) (text : String) : Keeps P (response.writeText text) := by
  refine .read fun x hx => ?_
  split
  · exact hx
  · exact h.keeps_write response _ x hx

theorem keeps_perform (response : Response) (call : Call) : Keeps P (response.perform call) := by
  cases call with
  | setStatus status => exact .modify fun _ => h.setStatus response status
  | setHeader name value => exact .modify fun _ => h.setHeader response name value
  | addHeader name value => exact .modify fun _ => h.addHeader response name value
  | write data => exact h.keeps_write response data
  | writeText text => exact h.keeps_writeText response text
  | flush => exact h.keeps_flush response
  | copyBody complete => exact h.keeps_copyBody response complete
  | resetBuffer => exact .modify fun _ => h.resetBuffer response
  | close => exact h.keeps_transport_close
  | takeChunks => exact .modify fun _ => h.takeChunks
  | resetHeaders => exact .modify fun _ => h.changeTransport _ _

/-! ## Filters -/

variable (filter : EtagFilter) (style : CallStyle) (request : Request)

theorem keeps_applyTag (i : Nat) (below : Response) : Keeps P (filter.applyTag request i below) := by
  refine .read fun x hx => Keeps.bind (.modify fun _ => h.setHeader below _ _) (fun _ => ?_) x hx
  dsimp only
  split
  · refine .bind (h.keeps_log _) fun _ => .bind (.modify fun _ => h.setStatus below _) fun _ => ?_
    exact .modify fun _ => h.resetBuffer _
  · exact .bind (h.keeps_log _) fun _ => h.keeps_copyBody _ true

theorem keeps_evaluate (i : Nat) (below : Response) : Keeps P (filter.evaluate request i below) := by
  refine .read fun x hx => ?_
  dsimp only
  split
  · exact Keeps.bind (h.keeps_log _) (fun _ => h.keeps_copyBody _ true) x hx
  split
  · exact Keeps.bind (h.keeps_log _) (fun _ => h.keeps_copyBody _ true) x hx
  · exact h.keeps_applyTag filter request i below x hx

theorem keeps_conclude (prepared : Response) :
    Keeps P (filter.conclude style request prepared) := by
  refine .read fun x hx => ?_
  split
  · exact h.keeps_log _ x hx
  split
  · exact h.keeps_log _ x hx
  refine Keeps.read (fun x hx => ?_) x hx
  split
  · exact h.keeps_evaluate filter request _ _ x hx
  · exact hx

/-! ## Steps of synchronous applications -/

section Steps

open Wsgi

theorem addHeaders (response : Response) (headers : List (String × String)) (hx : P x) :
    P (headers.foldl (fun x (name, value) => x.addHeader response name value) x) := by
  induction headers generalizing x with
  | nil => exact hx
  | cons header rest ih => exact ih (h.addHeader response _ _ hx)

theorem keeps_acceptStart (response : Response) (line : String) (headers : List (String × String))
    (cause : Option Fault) : Keeps P (acceptStart response line headers cause) := by
  have haccept : Keeps P (acceptStart response line headers none) := by
    unfold acceptStart
    cases statusCode line with
    | error fault => exact .throw fault
    | ok code =>
        refine .bind (.modify fun _ => h.setStatus response code) fun _ => ?_
        exact .bind (.modify fun _ => h.addHeaders response headers) fun _ => h.keeps_log _
  cases cause with
  | none => exact haccept
  | some fault =>
      intro x hx
      rcases Bool.eq_false_or_eq_true x.transport.committed with hcommitted | hopen
      · rw [outcome_acceptStart_committed hcommitted]
        exact hx
      · rw [outcome_acceptStart_again hopen]
        exact haccept _ (h.changeTransport .resetIgnored (fun t => { t with headers := {} }) hx)

theorem keeps_start (starter : Starter) (line : String) (headers : List (String × String))
    (cause : Option Fault) : Keeps P (start starter line headers cause) := by
  cases starter with
  | server => exact .bind (h.keeps_startResponse _ _) fun _ => .modify fun _ => h.setWriter _
  | response response =>
      exact .bind (h.keeps_acceptStart response line headers cause) fun _ =>
        .modify fun _ => h.setWriter _

theorem keeps_wsgi_write (data : Bytes) : Keeps P (Wsgi.write data) := by
  refine .read fun x hx => ?_
  split
  · exact h.note rfl hx
  · exact h.keeps_write _ data x hx
  · exact hx

end Steps
end Untouched

namespace Lasting

open Revalidation.Action

variable {P : Exchange → Prop} (h : Lasting P)

include h

/-! ## Synchronous applications -/

section Application

open Wsgi

theorem keeps_runStep (starter : Starter) (step : Step) : Keeps P (runStep starter step) := by
  induction step with
  | start line headers cause =>
      exact .bind (h.keeps_note rfl) fun _ => h.keeps_start starter line headers cause
  | write data => exact .bind (h.keeps_note rfl) fun _ => h.keeps_wsgi_write data
  | changeContext name change =>
      exact .bind (h.keeps_note rfl) fun _ => .modify fun _ => h.changeContext change
  | fail kind text => exact .bind (h.keeps_note rfl) fun _ => .throw _
  | attempt step ih =>
      exact .bind (h.keeps_note rfl) fun _ => .tryCatch ih fun _ => h.keeps_note rfl

theorem keeps_run (starter : Starter) (steps : List Step) : Keeps P (run starter steps) :=
  .forM fun step _ => h.keeps_runStep starter step

theorem keeps_call (app : Application) (starter : Starter) (depth : Nat) :
    Keeps P (call app starter depth) := by
  induction depth with
  | zero => exact .bind (h.keeps_run starter _) fun _ => .pure _
  | succ depth ih => exact .bind (h.keeps_log _) fun _ => ih

theorem keeps_begin (iterable : Iterable) (starter : Starter) : Keeps P (iterable.begin starter) :=
  h.keeps_run starter _

variable (hpull : ∀ (x : Exchange) (before : Nat), P x → P (x.note (.pulled before)))

include hpull

theorem keeps_pull (starter : Starter) (before : Nat) (item : Item) :
    Keeps P (item.pull starter before) :=
  .bind (.modify fun x => hpull x before) fun _ => .bind (h.keeps_run starter _) fun _ => .pure _

theorem keeps_exhaust (iterable : Iterable) (starter : Starter) (before : Nat) :
    Keeps P (iterable.exhaust starter before) :=
  .bind (.modify fun x => hpull x before) fun _ => h.keeps_run starter _

theorem keeps_collect (iterable : Iterable) (starter : Starter) (response : Response)
    (items : List Item) (pulled : Nat) :
    Keeps P (collect iterable starter response items pulled) := by
  induction items generalizing pulled with
  | nil => exact .bind (h.keeps_exhaust hpull iterable starter pulled) fun _ => .pure _
  | cons item rest ih =>
      refine .bind (h.keeps_pull hpull starter pulled item) fun chunk => ?_
      have hnext : Keeps P (do
          if (← get).context.cachingDisabled then return some (rest, pulled + 1)
          collect iterable starter response rest (pulled + 1)) := by
        refine .read fun x hx => ?_
        split
        · exact hx
        · exact ih (pulled + 1) x hx
      split
      · exact .bind (h.keeps_write response chunk) fun _ => hnext
      · exact hnext

variable (hclosed : ∀ x : Exchange, P x → P (x.note .closed))

include hclosed

omit hpull in
theorem keeps_close (iterable : Iterable) (starter : Starter) : Keeps P (iterable.close starter) := by
  unfold Iterable.close
  split
  · refine .bind (.modify hclosed) fun _ => .bind (h.keeps_run starter _) fun _ => ?_
    split
    · exact .throw _
    · exact .pure ()
  · exact .pure ()

theorem keeps_answer {handler : Starter → Action Iterable} {response : Response}
    (hhandler : Keeps P (handler (.response response))) : Keeps P (answer handler response) := by
  have hclose := h.keeps_close hclosed
  refine .bind hhandler fun iterable => .bind (h.keeps_begin iterable _) fun _ => ?_
  refine .bind (.onFault (h.keeps_collect hpull _ _ _ _ _) fun _ => hclose iterable _) fun left => ?_
  split
  · exact .pure _
  · refine .bind (hclose iterable _) fun _ => .read fun x hx => ?_
    split
    · exact Keeps.bind (h.keeps_flush response) (fun _ => .pure none) x hx
    · exact hx

end Application

/-! ## Synchronous servers -/

section Server

open Wsgi

variable (hchunk : ∀ (x : Exchange) (data : Bytes), P x → P (x.note (.chunk data)))

include hchunk

omit h in
theorem keeps_deliver (chunks : List Bytes) (appetite : Appetite) :
    Keeps P (deliver chunks appetite) := by
  induction chunks generalizing appetite with
  | nil => exact .pure _
  | cons chunk rest ih =>
      refine .bind (.modify fun x => hchunk x chunk) fun _ => ?_
      split
      · exact .pure _
      · exact ih _

theorem keeps_deliverWaiting (appetite : Appetite) : Keeps P (deliverWaiting appetite) :=
  .read fun x hx => keeps_deliver hchunk x.takeChunks.1 appetite _ (h.takeChunks hx)

variable (hpull : ∀ (x : Exchange) (before : Nat), P x → P (x.note (.pulled before)))

include hpull

theorem keeps_deliverRest (s : Wsgi.Streaming) (items : List Item) (pulled : Nat) (appetite : Appetite) :
    Keeps P (s.deliverRest items pulled appetite) := by
  induction items generalizing pulled appetite with
  | nil =>
      refine .bind (h.keeps_exhaust hpull _ _ _) fun _ => .bind (h.keeps_flush _) fun _ => ?_
      exact .bind (h.keeps_deliverWaiting hchunk appetite) fun _ => .pure _
  | cons item rest ih =>
      refine .bind (h.keeps_pull hpull _ _ _) fun chunk => ?_
      split
      · exact ih _ _
      · refine .bind (h.keeps_write _ _) fun _ => ?_
        refine .bind (h.keeps_deliverWaiting hchunk appetite) fun left => ?_
        split
        · exact .pure _
        · exact ih _ _

theorem keeps_proceed (s : Wsgi.Streaming) (appetite : Appetite) : Keeps P (s.proceed appetite) := by
  refine .bind (h.keeps_deliverWaiting hchunk appetite) fun left => ?_
  split
  · exact .pure _
  · exact h.keeps_deliverRest hchunk hpull s _ _ _

theorem keeps_deliverItems (iterable : Iterable) (starter : Starter) (items : List Item) (pulled : Nat)
    (appetite : Appetite) : Keeps P (deliverItems iterable starter items pulled appetite) := by
  induction items generalizing pulled appetite with
  | nil =>
      unfold deliverItems
      split
      · exact h.keeps_exhaust hpull iterable starter pulled
      · exact .pure ()
  | cons item rest ih =>
      unfold deliverItems
      split
      · exact .pure ()
      · refine .bind (h.keeps_pull hpull starter pulled item) fun chunk => ?_
        exact .bind (.modify fun x => hchunk x chunk) fun _ => ih _ _

end Server
end Lasting
end Exchange
end Revalidation
