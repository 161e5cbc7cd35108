import Revalidation.Proofs.Retention

/-!
# Exchanges that await their evaluation

As long as caching stays enabled and the exchange is not suspended, nothing of a response reaches the
server before the application is through: the buffer holds the body and the content length, and the
transport holds the headers.  `Awaiting` is the invariant.  Every step of an application keeps it,
whether the step ends with a fault or not.
-/

namespace Revalidation

variable {x y : Exchange} {gateway : Gateway} {b : Buffer} {calls : List Call} {made : Call}
  {name value : String}

/-! ## The invariant -/

/-- The server of a gateway refuses nothing. -/
def Gateway.Accepts : Gateway → Server → Prop
  | asgi, server => server.failing = []
  | wsgi, server => server.refusesStart = false

namespace Exchange

open Revalidation.Action

/-- Nothing of the response has reached the server, which refuses nothing, and the filter is to
evaluate it: the buffer holds the body and the content length back, and all else can be sent. -/
structure Awaiting (gateway : Gateway) (x : Exchange) : Prop where
  buffer : ∃ b, x.decorators = [.buffer b] ∧ b.copied = false ∧
    ∀ value, b.contentLength = some value → gateway.Carries value
  medium_eq : x.transport.medium = gateway.medium
  committed_eq : x.transport.committed = false
  carriesHeaders : gateway.CarriesHeaders x.transport.headers
  orderly : x.transport.headers.Orderly
  lengthless : x.transport.headers.getList? contentLengthName = none
  enabled : x.context.cachingDisabled = false
  awake : x.context.asyncStarted = false
  attached : x.published = .attached
  writer_eq : ∀ writer, x.writer = some writer → writer = .response [0]
  accepts : gateway.Accepts x.server
  sent_others : ∀ message ∈ x.sent, ¬message.InResponse
  served_eq : x.served = []

namespace Awaiting

theorem note (h : x.Awaiting gateway) {entry : Entry}
    (hmessage : ∀ message, entry.message? = some message → ¬message.InResponse)
    (hserved : entry.isServed = false) : (x.note entry).Awaiting gateway :=
  { h with
    sent_others := by
      rw [sent_note]
      intro message hmem
      rcases List.mem_append.1 hmem with hearlier | hnew
      · exact h.sent_others message hearlier
      · exact hmessage message (Option.mem_toList.1 hnew)
    served_eq := by rw [served_note, h.served_eq, hserved]; rfl }

theorem beginAsyncDispatch (h : x.Awaiting gateway) :
    (x.changeContext .beginAsyncDispatch).Awaiting gateway := by
  have hchange : x.changeContext .beginAsyncDispatch =
      { x with context := x.context.apply .beginAsyncDispatch } := by
    rw [changeContext, h.attached]
  rw [hchange]
  exact { h with enabled := h.enabled, awake := rfl }

theorem charset_eq (h : x.Awaiting gateway) : x.transport.charset = .utf8 := by
  rw [Transport.charset, h.medium_eq]
  cases gateway <;> rfl

theorem carries_lastLength (hlength : ∀ value, b.contentLength = some value → gateway.Carries value)
    (hcall : made.Composed gateway) {value : String}
    (hvalue : (b.compose .utf8 [made]).contentLength = some value) : gateway.Carries value := by
  cases hcall with
  | setStatus status => exact hlength value hvalue
  | @addHeader name given hname hgiven =>
      by_cases hheld : Text.lower name = "content-length"
      · have hlast : lastLength? [Call.addHeader name given] = some given := by
          simp [lastLength?, Call.length?, hheld]
        rw [Buffer.compose, hlast] at hvalue
        cases hvalue
        exact hgiven
      · have hlast : lastLength? [Call.addHeader name given] = none := by
          simp [lastLength?, Call.length?, hheld]
        rw [Buffer.compose, hlast] at hvalue
        exact hlength value hvalue
  | write data => exact hlength value hvalue

theorem passHeader (h : x.Awaiting gateway) (hcall : made.Composed gateway) :
    gateway.CarriesHeaders (made.passHeader x.transport.headers) ∧
      (made.passHeader x.transport.headers).Orderly ∧
      (made.passHeader x.transport.headers).getList? contentLengthName = none := by
  cases hcall with
  | setStatus status => exact ⟨h.carriesHeaders, h.orderly, h.lengthless⟩
  | write data => exact ⟨h.carriesHeaders, h.orderly, h.lengthless⟩
  | @addHeader name value hname hvalue =>
      by_cases hheld : Text.lower name = "content-length"
      · have hpass (headers : Headers) : (Call.addHeader name value).passHeader headers = headers :=
          if_pos hheld
        rw [hpass]
        exact ⟨h.carriesHeaders, h.orderly, h.lengthless⟩
      · have hpass (headers : Headers) :
            (Call.addHeader name value).passHeader headers = headers.add name value := if_neg hheld
        rw [hpass]
        refine ⟨h.carriesHeaders.add hname hvalue, h.orderly.add name value, ?_⟩
        rw [Headers.getList?_add_ne (by rwa [Headers.lower_contentLength]), h.lengthless]

theorem compose (h : x.Awaiting gateway) (hb : x.decorators = [.buffer b]) (hcopied : b.copied = false)
    (hlength : ∀ value, b.contentLength = some value → gateway.Carries value)
    (hcall : made.Composed gateway) : (x.compose 0 b .utf8 [made]).Awaiting gateway := by
  obtain ⟨hcarries, horderly, hlengthless⟩ := h.passHeader hcall
  exact
    { h with
      buffer := by
        refine ⟨b.compose .utf8 [made], ?_, hcopied, fun _ => carries_lastLength hlength hcall⟩
        simp [Exchange.compose, putBuffer, hb]
      carriesHeaders := hcarries
      orderly := horderly
      lengthless := hlengthless }

theorem perform (h : x.Awaiting gateway) (hcall : made.Composed gateway) :
    ∃ y, (Response.perform [0] made).outcome x = (.ok (), y) ∧ y.Awaiting gateway := by
  obtain ⟨b, hb, hcopied, hlength⟩ := h.buffer
  have hdecorator : x.decorator 0 = .buffer b := by rw [decorator, hb]; rfl
  have hholds : b.forwarding x.context = false := by simp [Buffer.forwarding, hcopied, h.enabled]
  exact ⟨_, Response.outcome_perform_composes hdecorator hholds h.committed_eq h.charset_eq
    hcall.composes, h.compose hb hcopied hlength hcall⟩

theorem performAll (h : x.Awaiting gateway) (hcalls : ∀ call ∈ calls, call.Composed gateway) :
    ∃ y, (Response.performAll [0] calls).outcome x = (.ok (), y) ∧ y.Awaiting gateway := by
  induction calls generalizing x with
  | nil => exact ⟨x, rfl, h⟩
  | cons call rest ih =>
      rw [List.forall_mem_cons] at hcalls
      obtain ⟨y, hfirst, hy⟩ := h.perform hcalls.1
      obtain ⟨z, hrest, hz⟩ := ih hy hcalls.2
      exact ⟨z, (outcome_bind_ok hfirst).trans hrest, hz⟩

theorem resetHeaders (h : x.Awaiting gateway) : x.resetHeaders.Awaiting gateway := by
  rw [Exchange.resetHeaders, changeTransport_open h.committed_eq]
  exact
    { h with
      carriesHeaders := by
        cases gateway with
        | asgi => exact nofun
        | wsgi => trivial
      orderly := Headers.orderly_empty
      lengthless := rfl }

/-- Resuming the exchange is the only change of the context that leaves the evaluation due. -/
theorem retained (gateway : Gateway) :
    Retained gateway (· = .beginAsyncDispatch) (Awaiting gateway) where
  attached h := h.attached
  committed_eq h := h.committed_eq
  writer_eq h := h.writer_eq
  note {x entry} hsilent h := by
    refine h.note (fun message hmessage => ?_) ?_
    · cases entry <;> cases hmessage
      exact of_decide_eq_true hsilent
    · cases entry <;> first | rfl | cases hsilent
  performAll hcalls h := h.performAll hcalls
  changeContext hchange h := of_decide_eq_true hchange ▸ h.beginAsyncDispatch
  resetHeaders h := h.resetHeaders
  setWriter h := { h with writer_eq := fun writer hwriter => (Option.some.inj hwriter).symm }
  setSends sends h := { h with accepts := by cases gateway <;> exact h.accepts }
  setIncoming incoming h := { h with accepts := by cases gateway <;> exact h.accepts }

end Awaiting
end Exchange

open Revalidation.Action Exchange

/-! ## Asynchronous applications -/

namespace Asgi

variable {scope : Scope} {app : Application}

/-- Whether a step, and any step within it, neither disables caching nor suspends the exchange. -/
def Step.keepsEvaluation : Step → Bool
  | changeContext _ change => change = .beginAsyncDispatch
  | attempt step => step.keepsEvaluation
  | _ => true

theorem Step.changesOnly_resumption (step : Step) :
    step.changesOnly (· = .beginAsyncDispatch) = step.keepsEvaluation := by
  induction step with
  | attempt step ih => exact ih
  | _ => rfl

theorem keeps_serve (htype : scope.type = some "http")
    (happ : ∀ step ∈ app, step.keepsEvaluation = true) (filter : EtagFilter) (depth : Nat) :
    Keeps (Awaiting .asgi) (serve filter scope app depth (.response [0])) :=
  (Awaiting.retained .asgi).keeps_serve htype
    (fun step hstep => step.changesOnly_resumption.trans (happ step hstep)) filter depth

end Asgi

/-! ## Synchronous applications -/

namespace Wsgi

variable {app : Application} {steps : List Step} {iterable : Iterable} {items : List Item}

/-- Whether a step, and any step within it, neither disables caching nor suspends the exchange. -/
def Step.keepsEvaluation : Step → Bool
  | changeContext _ change => change = .beginAsyncDispatch
  | attempt step => step.keepsEvaluation
  | _ => true

theorem Step.changesOnly_resumption (step : Step) :
    step.changesOnly (· = .beginAsyncDispatch) = step.keepsEvaluation := by
  induction step with
  | attempt step ih => exact ih
  | _ => rfl

theorem changesOnly_of_keepsEvaluation (hsteps : ∀ step ∈ steps, step.keepsEvaluation = true) :
    ∀ step ∈ steps, step.changesOnly (· = .beginAsyncDispatch) = true :=
  fun step hstep => step.changesOnly_resumption.trans (hsteps step hstep)

/-- A collection that ends without a fault has gone through all items, since caching stays enabled. -/
theorem awaiting_collect (hsteps : ∀ step ∈ iterable.stepsFrom items, step.keepsEvaluation = true)
    (h : x.Awaiting .wsgi) {pulled : Nat} {left : Option (List Item × Nat)}
    (hok : (collect iterable (.response [0]) [0] items pulled).outcome x = (.ok left, y)) :
    left = none ∧ y.Awaiting .wsgi := by
  have hretained := Awaiting.retained .wsgi
  induction items generalizing x pulled with
  | nil =>
      obtain ⟨_, z, hexhaust, hend⟩ := exists_of_bind_ok hok
      have hz := hretained.keeps_exhaust (changesOnly_of_keepsEvaluation hsteps) pulled x h
      rw [hexhaust] at hz
      cases hend
      exact ⟨rfl, hz⟩
  | cons item rest ih =>
      rw [Iterable.stepsFrom_cons, List.forall_mem_append] at hsteps
      obtain ⟨z, w, hpull, hwrite, hnext⟩ := exists_of_collect_cons hok
      have hz := hretained.keeps_pull (changesOnly_of_keepsEvaluation hsteps.1) pulled x h
      rw [hpull] at hz
      have hw := hretained.keeps_chunk item z hz
      rw [hwrite] at hw
      rw [hw.enabled, if_neg Bool.false_ne_true] at hnext
      exact ih hsteps.2 hw hnext

theorem awaiting_call (hsteps : ∀ step ∈ app.steps, step.keepsEvaluation = true)
    (h : x.Awaiting .wsgi) {depth : Nat} {result : Iterable}
    (hok : (call app (.response [0]) depth).outcome x = (.ok result, y)) :
    result = app.result ∧ y.Awaiting .wsgi := by
  have hy := (Awaiting.retained .wsgi).keeps_call (changesOnly_of_keepsEvaluation hsteps) depth x h
  rw [hok] at hy
  exact ⟨result_of_call hok, hy⟩

theorem awaiting_answer (happ : ∀ step ∈ app.allSteps, step.keepsEvaluation = true)
    (h : x.Awaiting .wsgi) {depth : Nat} {streaming : Option Streaming}
    (hok : (answer (fun starter => call app starter depth) [0]).outcome x = (.ok streaming, y)) :
    streaming = none ∧ y.Awaiting .wsgi := by
  have hretained := Awaiting.retained .wsgi
  rw [Application.allSteps, Application.opening, List.forall_mem_append, List.forall_mem_append,
    List.forall_mem_append] at happ
  obtain ⟨⟨hsteps, hfirst⟩, hitems, hclosing⟩ := happ
  obtain ⟨result, w, hcall, hafter⟩ := exists_of_bind_ok hok
  obtain ⟨rfl, hw⟩ := awaiting_call hsteps h hcall
  obtain ⟨_, w', hbegin, hbegun⟩ := exists_of_bind_ok hafter
  have hw' := hretained.keeps_run (changesOnly_of_keepsEvaluation hfirst) w hw
  rw [show (run (.response [0]) app.result.first).outcome w = _ from hbegin] at hw'
  obtain ⟨left, v, hcollect, hleft⟩ := exists_of_bind_ok hbegun
  obtain ⟨rfl, hv⟩ := awaiting_collect hitems hw' (outcome_of_onFault hcollect)
  obtain ⟨_, u, hclose, hend⟩ := exists_of_bind_ok hleft
  have hu := hretained.keeps_close (changesOnly_of_keepsEvaluation hclosing) v hv
  rw [hclose] at hu
  rw [outcome_bind_ok (outcome_get u), hu.enabled, if_neg Bool.false_ne_true] at hend
  cases hend
  exact ⟨rfl, hu⟩

end Wsgi

end Revalidation
