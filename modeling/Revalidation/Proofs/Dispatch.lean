import Revalidation.Proofs.Composition
import Revalidation.Proofs.Evaluation

/-!
# Dispatching a handler

What a dispatch adds around its handler: the buffer before and the evaluation after.
-/

namespace Revalidation

variable {x y z : Exchange} {i : Nat} {b : Buffer} {filter : EtagFilter} {style : CallStyle}
  {request : Request} {response below : Response}

namespace Exchange

def buffered (x : Exchange) (request : Request) : Exchange :=
  { x.log (.buffering request.method request.url) with
    decorators := x.decorators ++ [.buffer { forRequest := true }] }

theorem buffered_decorator (x : Exchange) (request : Request) :
    (x.buffered request).decorator x.decorators.length = .buffer { forRequest := true } := by
  simp [buffered, decorator]

end Exchange

namespace EtagFilter

open Exchange Revalidation.Action

theorem outcome_prepare_fresh (hdispatch : x.context.asyncDispatch = false)
    (hresponse : x.isBuffer response = false) :
    (prepare request response).outcome x =
      (.ok (x.decorators.length :: response), x.buffered request) := by
  simp [prepare, outcome_bind, hdispatch, hresponse, decorate, buffered]
  exact ⟨rfl, rfl⟩

theorem outcome_prepare_buffer (hresponse : x.isBuffer response = true) :
    (prepare request response).outcome x =
      (.ok response, x.log (.alreadyBuffered request.method request.url)) := by
  simp [prepare, outcome_bind, hresponse]

theorem outcome_update (hb : x.decorator i = .buffer b) :
    (filter.update style request (i :: below)).outcome x =
      (filter.evaluate request i below).outcome x := by
  simp [update, outcome_bind, findBuffer, buffer?, hb]

def conclude (filter : EtagFilter) (style : CallStyle) (request : Request) (prepared : Response) :
    Action Unit := do
  let x ← get
  if x.context.asyncStarted then
    Action.log (.deferred request.url)
  else if x.context.cachingDisabled then
    Action.log (.cachingDisabled request.url)
  else filter.update style request prepared

theorem outcome_conclude_deferred (hasync : x.context.asyncStarted = true) :
    (filter.conclude style request response).outcome x = (.ok (), x.log (.deferred request.url)) := by
  simp [conclude, outcome_bind, hasync]

theorem outcome_conclude_disabled (filter : EtagFilter) (style : CallStyle) (request : Request)
    (response : Response) (hdisabled : x.context.cachingDisabled = true) :
    ∃ event, (filter.conclude style request response).outcome x = (.ok (), x.log event) := by
  rcases Bool.eq_false_or_eq_true x.context.asyncStarted with hasync | hasync
  · exact ⟨_, outcome_conclude_deferred hasync⟩
  · exact ⟨.cachingDisabled request.url, by simp [conclude, outcome_bind, hasync, hdisabled]⟩

/-- While caching is enabled and the exchange is not suspended, the response is evaluated at its
buffer. -/
theorem outcome_conclude_evaluate (hb : x.decorator i = .buffer b)
    (hasync : x.context.asyncStarted = false) (henabled : x.context.cachingDisabled = false) :
    (filter.conclude style request (i :: below)).outcome x =
      (filter.evaluate request i below).outcome x := by
  simp [conclude, outcome_bind, hasync, henabled, outcome_update hb]

variable {α : Type} {handler : Response → Action α} {v : α} {prepared : Response}

theorem outcome_dispatch (hprepare : (prepare request response).outcome x = (.ok prepared, y)) :
    (filter.dispatch style request response handler).outcome x =
      (do
        let v ← handler prepared
        filter.conclude style request prepared
        return v : Action α).outcome y := by
  simp only [dispatch, conclude, outcome_bind, hprepare]
  rcases (handler prepared).outcome y with ⟨_ | v, z⟩
  · rfl
  · simp only [outcome_get, outcome_ite]
    split
    · rfl
    · split
      · rfl
      · rw [outcome_bind]

theorem outcome_dispatch_fault {fault : Fault}
    (hprepare : (prepare request response).outcome x = (.ok prepared, y))
    (hhandler : (handler prepared).outcome y = (.error fault, z)) :
    (filter.dispatch style request response handler).outcome x = (.error fault, z) := by
  simp only [dispatch, outcome_bind, hprepare, hhandler]

theorem outcome_dispatch_disabled
    (hprepare : (prepare request response).outcome x = (.ok prepared, y))
    (hhandler : (handler prepared).outcome y = (.ok v, z)) (hasync : z.context.asyncStarted = false)
    (hdisabled : z.context.cachingDisabled = true) :
    (filter.dispatch style request response handler).outcome x =
      (.ok v, z.log (.cachingDisabled request.url)) := by
  simp [dispatch, outcome_bind, hprepare, hhandler, hasync, hdisabled]

/-- After a handler that neither suspended the exchange nor disabled caching the response is
evaluated. -/
theorem outcome_dispatch_update
    (hprepare : (prepare request response).outcome x = (.ok prepared, y))
    (hhandler : (handler prepared).outcome y = (.ok v, z)) (hasync : z.context.asyncStarted = false)
    (henabled : z.context.cachingDisabled = false) :
    (filter.dispatch style request response handler).outcome x =
      match (filter.update style request prepared).outcome z with
      | (.ok _, w) => (.ok v, w)
      | (.error fault, w) => (.error fault, w) := by
  simp only [dispatch, outcome_bind, hprepare, hhandler, outcome_get, hasync, henabled,
    Bool.false_eq_true, if_false]
  rcases (filter.update style request prepared).outcome z with ⟨_ | _, _⟩ <;> rfl

end EtagFilter

namespace Handler

open Revalidation.Action

theorem run_calls (filter : EtagFilter) (style : CallStyle) (request : Request)
    (response : Response) (calls : List Call) :
    run filter style request response (calls.map .call) = response.performAll calls := by
  induction calls with
  | nil => simp [run, Response.performAll]
  | cons call rest ih =>
      rw [List.map_cons, run, ih, runStep]
      rfl

theorem outcome_run_append (filter : EtagFilter) (style : CallStyle) (request : Request)
    (response : Response) (steps rest : List HandlerStep) (x : Exchange) :
    (run filter style request response (steps ++ rest)).outcome x =
      (do
        run filter style request response steps
        run filter style request response rest).outcome x := by
  induction steps generalizing x with
  | nil => simp [run]
  | cons step further ih =>
      simp only [List.cons_append, run, outcome_bind] at ih ⊢
      rcases (runStep filter style request response step).outcome x with ⟨_ | _, y⟩
      · rfl
      · exact ih y

theorem run_singleton (filter : EtagFilter) (style : CallStyle) (request : Request)
    (response : Response) (step : HandlerStep) :
    run filter style request response [step] = runStep filter style request response step := by
  simp [run]

end Handler
end Revalidation
