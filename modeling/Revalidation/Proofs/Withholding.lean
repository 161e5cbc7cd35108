import Revalidation.Proofs.Answer

/-!
# Handlers whose writes are withheld

A handler that neither flushes its response nor disables caching changes the headers of the sink and
nothing else there.  So when it stops with a fault, which the dispatch lets through, the sink has the
headers that the handler gave before the fault, and is as it was otherwise.
-/

namespace Revalidation

def Call.isHeld : Call → Bool
  | setStatus _ | setHeader _ _ | addHeader _ _ | write _ | writeText _ | resetBuffer => true
  | _ => false

namespace HandlerStep

/-- The steps of a handler after which its buffer still holds the body back. -/
inductive Withholds : HandlerStep → Prop
  | call {call : Call} : call.isHeld = true → Withholds (.call call)
  | changeContext {change : Context.Change} : change ≠ .disableCaching →
      Withholds (.changeContext change)
  | save : Withholds .save
  | ask (question : Question) : Withholds (.ask question)
  | fail (kind : RaisedKind) (text : String) : Withholds (.fail kind text)
  | attempt {step : HandlerStep} : Withholds step → Withholds (.attempt step)

/-- The calls that a step makes on the response of its handler, also where it catches a fault. -/
def ownCalls : HandlerStep → List Call
  | .call made => [made]
  | .attempt step => step.ownCalls
  | _ => []

end HandlerStep

namespace Exchange

structure Shields (x : Exchange) (i : Nat) (t : Transport) : Prop where
  transport_eq : x.transport = t
  enabled : x.context.cachingDisabled = false
  buffer : ∃ b, x.decorator i = .buffer b ∧ b.copied = false

namespace Shields

variable {x : Exchange} {i : Nat} {t : Transport} {b : Buffer} {calls : List Call}

theorem note (h : x.Shields i t) (entry : Entry) : (x.note entry).Shields i t :=
  ⟨h.transport_eq, h.enabled, h.buffer⟩

theorem holds (h : x.Shields i t) (hcopied : b.copied = false) : b.forwarding x.context = false := by
  simp [Buffer.forwarding, hcopied, h.enabled]

theorem compose (h : x.Shields i t) (hb : x.decorator i = .buffer b) (hcopied : b.copied = false) :
    (x.compose i b t.charset calls).Shields i
      { t with headers := passedHeaders t.headers calls } where
  transport_eq := by
    rw [← h.transport_eq]
    rfl
  enabled := h.enabled
  buffer := ⟨_, decorator_putBuffer_self hb, hcopied⟩

theorem changeContext (h : x.Shields i t) {change : Context.Change}
    (hchange : change ≠ .disableCaching) : (x.changeContext change).Shields i t where
  transport_eq := by rw [changeContext_transport, h.transport_eq]
  enabled := by
    have hfresh : (({} : Context).apply change).cachingDisabled = false := by
      cases change <;> first | rfl | contradiction
    have hkept : (x.context.apply change).cachingDisabled = false := by
      cases change <;> first | exact h.enabled | contradiction
    unfold Exchange.changeContext
    split
    · exact hkept
    · exact hfresh
  buffer := by
    rw [changeContext_decorator]
    exact h.buffer

end Shields

/-- An action leaves a response shielded.  The headers below are those that its calls give, and are as
they were if it stops with a fault. -/
structure Passes (action : Action Unit) (x : Exchange) (i : Nat) (t : Transport) (calls : List Call) :
    Prop where
  shields : (action.outcome x).2.Shields i { t with headers := passedHeaders t.headers calls }
  unchanged : ∀ fault, (action.outcome x).1 = .error fault → passedHeaders t.headers calls = t.headers

theorem Passes.of_ok {action : Action Unit} {x y : Exchange} {i : Nat} {t : Transport}
    {calls : List Call} (hok : action.outcome x = (.ok (), y))
    (h : y.Shields i { t with headers := passedHeaders t.headers calls }) :
    Passes action x i t calls where
  shields := by
    rw [hok]
    exact h
  unchanged := by
    intro fault hfault
    rw [hok] at hfault
    cases hfault

end Exchange

namespace Handler

open Exchange Revalidation.Action

variable {x y : Exchange} {i : Nat} {t : Transport} {step : HandlerStep} {steps : List HandlerStep}
  {fault : Fault}

/-- A call on a shielded response gives the transport its header at most, and fails only where it makes
no change at all. -/
theorem passes_perform (h : x.Shields i t) (hopen : t.committed = false) {call : Call}
    (hcall : call.isHeld = true) : Passes (Response.perform [i] call) x i t [call] := by
  obtain ⟨b, hb, hcopied⟩ := h.buffer
  have hcomposes (hcall : call.Composes t.charset) : Passes (Response.perform [i] call) x i t [call] := by
    have htransport : x.transport.committed = false := by rw [h.transport_eq, hopen]
    exact .of_ok (Response.outcome_perform_composes hb (h.holds hcopied) htransport
      (by rw [h.transport_eq]) hcall) (h.compose hb hcopied)
  cases call with
  | setStatus status => exact hcomposes (.setStatus status)
  | setHeader name value => exact hcomposes (.setHeader name value)
  | addHeader name value => exact hcomposes (.addHeader name value)
  | write data => exact hcomposes (.write data)
  | writeText text =>
      cases hencode : t.charset.encode text with
      | ok data => exact hcomposes (.writeText hencode)
      | error cause =>
          have hcharset : x.charset [i] = t.charset := by
            simp [Exchange.charset, buffer?, hb, h.transport_eq]
          have hfails : (Response.perform [i] (.writeText text)).outcome x =
              (.error (.encoding cause), x) := by
            simp [Response.perform, Response.writeText, outcome_bind, hcharset, hencode]
          refine ⟨?_, fun _ _ => rfl⟩
          rw [hfails]
          exact h
  | resetBuffer =>
      have hreset : (Response.perform [i] .resetBuffer).outcome x =
          (.ok (), x.putBuffer i { b with content := [] }) := by
        simp [Response.perform, resetBuffer, hb]
      exact .of_ok hreset ⟨h.transport_eq, h.enabled, _, decorator_putBuffer_self hb, hcopied⟩
  | _ => cases hcall

/-- A step passes on what its calls do, and may catch a fault. -/
theorem passes_runStep (filter : EtagFilter) (style : CallStyle) (request : Request)
    (hstep : step.Withholds) (h : x.Shields i t) (hopen : t.committed = false) :
    Passes (runStep filter style request [i] step) x i t step.ownCalls := by
  induction hstep with
  | call hcall => exact passes_perform h hopen hcall
  | changeContext hchange => exact .of_ok rfl (h.changeContext hchange)
  | save => exact .of_ok rfl ⟨h.transport_eq, h.enabled, h.buffer⟩
  | ask question =>
      cases question with
      | status | committed => exact .of_ok rfl (h.note _)
      | content =>
          have hask : ∃ z, (runStep filter style request [i] (.ask .content)).outcome x = (.ok (), z) ∧
              z.Shields i t := by
            rw [runStep, ask, outcome_bind_ok (outcome_get x)]
            dsimp only
            split
            · exact ⟨_, rfl, h.note _⟩
            · exact ⟨x, rfl, h⟩
          obtain ⟨z, hz, hshields⟩ := hask
          exact .of_ok hz hshields
  | fail kind text => exact ⟨h, fun _ _ => rfl⟩
  | @attempt step _ ih =>
      have hattempt : ∃ z, (runStep filter style request [i] (.attempt step)).outcome x = (.ok (), z) ∧
          z.Shields i { t with headers := passedHeaders t.headers step.ownCalls } := by
        have hshields := ih.shields
        rw [runStep, attempt, outcome_tryCatch]
        rcases hinner : (runStep filter style request [i] step).outcome x with ⟨fault | _, z⟩ <;>
          rw [hinner] at hshields
        · exact ⟨_, rfl, hshields.note _⟩
        · exact ⟨z, rfl, hshields⟩
      obtain ⟨z, hz, hshields⟩ := hattempt
      exact .of_ok hz hshields

/-- A run that stops with a fault does so at one of its steps, and the headers are those of the steps
before it. -/
theorem exists_of_run_error (filter : EtagFilter) (style : CallStyle) (request : Request)
    (hsteps : ∀ step ∈ steps, step.Withholds) (h : x.Shields i t) (hopen : t.committed = false)
    (hraises : (run filter style request [i] steps).outcome x = (.error fault, y)) :
    ∃ before step after z, steps = before ++ step :: after ∧
      (run filter style request [i] before).outcome x = (.ok (), z) ∧
      (runStep filter style request [i] step).outcome z = (.error fault, y) ∧
      y.Shields i
        { t with headers := passedHeaders t.headers (before.flatMap HandlerStep.ownCalls) } := by
  -- The headers below change from step to step, so the transport goes along.
  induction steps generalizing x t with
  | nil => cases hraises
  | cons step rest ih =>
      rw [List.forall_mem_cons] at hsteps
      obtain ⟨hshields, hunchanged⟩ := passes_runStep filter style request hsteps.1 h hopen
      rw [run] at hraises
      rcases hfirst : (runStep filter style request [i] step).outcome x with ⟨other | _, z⟩ <;>
        rw [hfirst] at hshields hunchanged
      · rw [outcome_bind_error hfirst] at hraises
        cases hraises
        rw [hunchanged fault rfl] at hshields
        exact ⟨[], step, rest, x, rfl, rfl, hfirst, hshields⟩
      · rw [outcome_bind_ok hfirst] at hraises
        obtain ⟨before, last, after, w, rfl, hbefore, hlast, hy⟩ :=
          ih hsteps.2 hshields hopen hraises
        refine ⟨step :: before, last, after, w, rfl, ?_, hlast, ?_⟩
        · rw [run, outcome_bind_ok hfirst, hbefore]
        · rw [List.flatMap_cons, passedHeaders_append]
          exact hy

/-- A fault of a handler that withholds its writes leaves the dispatch as it is, over a sink that has
changed in the handler's headers only. -/
theorem dispatch_fault (filter : EtagFilter) (style : CallStyle) (request : Request) {status : Int}
    {charset : Charset} {failing : List Nat}
    (hsink : x.transport = .recorder status charset failing) (hcontext : x.context = {})
    (hsteps : ∀ step ∈ steps, step.Withholds)
    (hraises : (run filter style request [x.decorators.length] steps).outcome (x.buffered request) =
      (.error fault, y)) :
    (dispatch filter style request [] steps).outcome x = (.error fault, y) ∧
      ∃ before step after z, steps = before ++ step :: after ∧
        (run filter style request [x.decorators.length] before).outcome (x.buffered request) =
          (.ok (), z) ∧
        (runStep filter style request [x.decorators.length] step).outcome z = (.error fault, y) ∧
        y.transport = { Transport.recorder status charset failing with
          headers := passedHeaders {} (before.flatMap HandlerStep.ownCalls) } := by
  have hshields : (x.buffered request).Shields x.decorators.length
      (.recorder status charset failing) :=
    ⟨hsink, by rw [Exchange.buffered]; exact congrArg Context.cachingDisabled hcontext,
      _, x.buffered_decorator request, rfl⟩
  have hprepare : (EtagFilter.prepare request []).outcome x =
      (.ok [x.decorators.length], x.buffered request) :=
    EtagFilter.outcome_prepare_fresh (by rw [hcontext]) rfl
  refine ⟨EtagFilter.outcome_dispatch_fault hprepare hraises, ?_⟩
  obtain ⟨before, step, after, z, hsplit, hbefore, hstep, hy⟩ :=
    exists_of_run_error filter style request hsteps hshields rfl hraises
  exact ⟨before, step, after, z, hsplit, hbefore, hstep, hy.transport_eq⟩

end Handler
end Revalidation
