import Revalidation.Proofs.Appending
import Revalidation.Proofs.Composition
import Revalidation.Proofs.Dispatch
import Revalidation.Proofs.Holding
import Revalidation.Proofs.Settling

/-!
# Nested dispatches

A handler may dispatch the exchange again on the buffer that it was given.  The inner dispatches find
a buffer there and put no other one around it, but each of them evaluates the response when it is done.
The body is written once all the same.  The answer stays that of a single dispatch as well, unless a
response that was not modified is revised.
-/

namespace Revalidation

variable {x y z w : Exchange} {i : Nat} {b : Buffer} {filter : EtagFilter} {style : CallStyle}
  {request : Request} {steps : List HandlerStep} {status : Int} {charset : Charset}
  {failing : List Nat}

inductive HandlerStep.UsesSink : HandlerStep → Prop
  | call (call : Call) : UsesSink (.call call)
  | disableCaching : UsesSink (.changeContext .disableCaching)

namespace Handler

/-- The handler that dispatches the exchange again on its own response, one dispatch in the other to
the given depth, and takes the steps in the innermost one. -/
def nested : Nat → List HandlerStep → List HandlerStep
  | 0, steps => steps
  | depth + 1, steps => [.dispatch .none (nested depth steps)]

end Handler

/-! ## Exchanges that differ in the journal -/

namespace Exchange

def AgreesWith (x y : Exchange) : Prop := ∃ journal, y = { x with journal := journal }

theorem AgreesWith.refl (x : Exchange) : x.AgreesWith x := ⟨x.journal, rfl⟩

theorem AgreesWith.log (h : x.AgreesWith y) (event : LogEvent) : x.AgreesWith (y.log event) := by
  obtain ⟨journal, rfl⟩ := h
  exact ⟨journal ++ [.logged event], rfl⟩

end Exchange

theorem Action.Appends.agree {α : Type} {action : Action α} {v : α} (haction : action.Appends)
    (h : x.AgreesWith w) (hout : action.outcome x = (.ok v, z)) :
    ∃ y, action.outcome w = (.ok v, y) ∧ z.AgreesWith y := by
  obtain ⟨journal, rfl⟩ := h
  let base : Exchange := { x with journal := [] }
  have hx : base.after x.journal = x := by simp [base, Exchange.after]
  have hw : base.after journal = { x with journal := journal } := by simp [base, Exchange.after]
  have houtx := haction base x.journal
  have houtw := haction base journal
  rw [hx, hout, Prod.mk.injEq] at houtx
  obtain ⟨hresult, rfl⟩ := houtx
  rw [hw, ← hresult] at houtw
  exact ⟨_, houtw, _, rfl⟩

/-! ## Runs of a handler at its buffer -/

namespace Handler

open Revalidation.Action Exchange Response

theorem appends_run (hsteps : ∀ step ∈ steps, step.UsesSink) (response : Response) :
    Appends (run filter style request response steps) := by
  induction steps with
  | nil =>
      rw [run]
      exact appends_pure ()
  | cons step rest ih =>
      rw [run]
      refine Appends.bind ?_ fun _ => ih fun other hmem => hsteps other (List.mem_cons_of_mem _ hmem)
      cases hsteps step List.mem_cons_self with
      | call call =>
          rw [runStep]
          exact appends_perform response call
      | disableCaching =>
          rw [runStep]
          exact appends_modify fun _ _ => changeContext_after _

theorem holding_disableCaching (h : x.Holding i b) :
    (x.changeContext .disableCaching).Holding i b where
  buffer_eq := by rw [changeContext_decorator, h.buffer_eq]
  records := by
    rw [Records, changeContext_transport]
    exact h.records
  empty_of_copied := h.empty_of_copied
  lengthless hholds := by
    have hdisabled : (x.changeContext .disableCaching).context.cachingDisabled = true := by
      unfold changeContext
      split <;> rfl
    have hbefore : b.forwarding x.context = false := by
      simp only [Buffer.forwarding, hdisabled, Bool.and_true, Bool.or_eq_false_iff] at hholds
      simp [Buffer.forwarding, hholds.1, hholds.2]
    rw [changeContext_transport]
    exact h.lengthless hbefore

theorem asyncStarted_disableCaching (h : x.context.asyncStarted = false) :
    (x.changeContext .disableCaching).context.asyncStarted = false := by
  unfold changeContext
  split
  · exact h
  · rfl

theorem holding_run (h : x.Holding i b) (hasync : x.context.asyncStarted = false)
    (hsteps : ∀ step ∈ steps, step.UsesSink)
    (hok : (run filter style request [i] steps).outcome x = (.ok (), z)) :
    ∃ c, z.Holding i c ∧ z.context.asyncStarted = false := by
  induction steps generalizing x b with
  | nil =>
      rw [run] at hok
      cases hok
      exact ⟨b, h, hasync⟩
  | cons step rest ih =>
      have hrest : ∀ step ∈ rest, step.UsesSink :=
        fun other hmem => hsteps other (List.mem_cons_of_mem _ hmem)
      rw [run] at hok
      rcases hstep : (runStep filter style request [i] step).outcome x with ⟨fault | _, y⟩
      · rw [outcome_bind_error hstep] at hok
        cases hok
      rw [outcome_bind_ok hstep] at hok
      cases hsteps step List.mem_cons_self with
      | call call =>
          rw [runStep] at hstep
          obtain ⟨c, hc, hcontext⟩ := holding_perform h hstep
          exact ih hc (by rw [hcontext, hasync]) hrest hok
      | disableCaching =>
          rw [runStep] at hstep
          cases hstep
          exact ih (holding_disableCaching h) (asyncStarted_disableCaching hasync) hrest hok

/-! ## What a dispatch adds to a run -/

theorem outcome_run_nested (depth : Nat) (response : Response) :
    (run filter style request response (nested (depth + 1) steps)).outcome w =
      (dispatch filter style request response (nested depth steps)).outcome w := by
  rw [nested, run, runStep, wrap]
  simp only [outcome_bind, outcome_pure, run]
  unfold dispatch
  rcases (filter.dispatch style request response fun inner =>
    run filter style request inner (nested depth steps)).outcome w with ⟨_ | _, _⟩ <;> rfl

variable {response : Response}

theorem outcome_dispatch_settle
    (hprepare : (EtagFilter.prepare request response).outcome w = (.ok [i], x))
    (hrun : (run filter style request [i] steps).outcome x = (.ok (), z))
    (hb : z.decorator i = .buffer b) (hrecords : z.Records) (hasync : z.context.asyncStarted = false)
    (henabled : z.context.cachingDisabled = false)
    (hends : filter.NotModified request z.transport b ∨ z.TakesCopy b) :
    ∃ y, (dispatch filter style request response steps).outcome w = (.ok (), y) ∧ y.Records ∧
      y.transport = (filter.settle request z.transport b).1 ∧
      y.decorator i = .buffer (filter.settle request z.transport b).2 ∧ y.context = z.context := by
  obtain ⟨y, hevaluate, htransport, hbuffer, hcontext⟩ :=
    EtagFilter.outcome_evaluate_settle filter request hb hrecords hends
  refine ⟨y, ?_, ?_, htransport, hbuffer, hcontext⟩
  · unfold dispatch
    rw [EtagFilter.outcome_dispatch_update hprepare hrun hasync henabled, EtagFilter.outcome_update hb,
      hevaluate]
  · rw [Records, htransport]
    exact EtagFilter.records_settle hrecords

theorem outcome_dispatch_refused
    (hprepare : (EtagFilter.prepare request response).outcome w = (.ok [i], x))
    (hrun : (run filter style request [i] steps).outcome x = (.ok (), z))
    (hb : z.decorator i = .buffer b) (hrecords : z.Records) (hasync : z.context.asyncStarted = false)
    (henabled : z.context.cachingDisabled = false)
    (hstops : ¬(filter.NotModified request z.transport b ∨ z.TakesCopy b)) :
    ∃ y, (dispatch filter style request response steps).outcome w = (.error .sinkFailed, y) ∧
      y.transport = ((filter.mark request z.transport b).takeHead b true).refuse := by
  obtain ⟨y, hevaluate, htransport⟩ := EtagFilter.outcome_evaluate_fault hb hrecords hstops
  refine ⟨y, ?_, htransport⟩
  unfold dispatch
  rw [EtagFilter.outcome_dispatch_update hprepare hrun hasync henabled, EtagFilter.outcome_update hb,
    hevaluate]

/-! ## Nested dispatches at one buffer -/

section

variable (hx : x.isBuffer [i] = true) (hsteps : ∀ step ∈ steps, step.UsesSink)
  (hrun : (run filter style request [i] steps).outcome x = (.ok (), z)) (hz : z.Holding i b)
  (hasync : z.context.asyncStarted = false)

include hx in
theorem prepare_nested (hw : x.AgreesWith w) :
    (EtagFilter.prepare request [i]).outcome w =
      (.ok [i], w.log (.alreadyBuffered request.method request.url)) := by
  obtain ⟨journal, rfl⟩ := hw
  exact EtagFilter.outcome_prepare_buffer hx

include hx hsteps hrun hasync in
theorem outcome_run_nested_disabled (hdisabled : z.context.cachingDisabled = true) (depth : Nat)
    (hw : x.AgreesWith w) :
    ∃ y, (run filter style request [i] (nested depth steps)).outcome w = (.ok (), y) ∧
      z.AgreesWith y := by
  induction depth generalizing w with
  | zero => exact (appends_run hsteps [i]).agree hw hrun
  | succ depth ih =>
      obtain ⟨y, hy, hagrees⟩ := ih (hw.log _)
      have hcontext : y.context = z.context := by
        obtain ⟨journal, rfl⟩ := hagrees
        rfl
      refine ⟨_, ?_, hagrees.log (.cachingDisabled request.url)⟩
      rw [outcome_run_nested]
      exact EtagFilter.outcome_dispatch_disabled (prepare_nested hx hw) hy (by rw [hcontext, hasync])
        (by rw [hcontext, hdisabled])

include hx hsteps hrun hz hasync in
/-- Every nested dispatch evaluates the response once more. -/
theorem outcome_run_nested_settle (henabled : z.context.cachingDisabled = false)
    (hends : filter.NotModified request z.transport b ∨ z.TakesCopy b) (depth : Nat)
    (hw : x.AgreesWith w) :
    ∃ y, (run filter style request [i] (nested depth steps)).outcome w = (.ok (), y) ∧ y.Records ∧
      y.transport = (filter.settleTimes request depth z.transport b).1 ∧
      y.decorator i = .buffer (filter.settleTimes request depth z.transport b).2 ∧
      y.context = z.context := by
  induction depth generalizing w with
  | zero =>
      obtain ⟨y, hy, journal, rfl⟩ := (appends_run hsteps [i]).agree hw hrun
      exact ⟨_, hy, hz.records, rfl, hz.buffer_eq, rfl⟩
  | succ depth ih =>
      obtain ⟨y, hy, hrecords, htransport, hbuffer, hcontext⟩ := ih (hw.log _)
      have hagain : filter.NotModified request y.transport
          (filter.settleTimes request depth z.transport b).2 ∨
          y.TakesCopy (filter.settleTimes request depth z.transport b).2 := by
        cases depth with
        | zero =>
            rw [TakesCopy, htransport]
            exact hends
        | succ depth => exact Or.inr (EtagFilter.settle_drained.imp id Or.inl)
      obtain ⟨v, hv, hvrecords, hvtransport, hvbuffer, hvcontext⟩ :=
        outcome_dispatch_settle (prepare_nested hx hw) hy hbuffer hrecords (by rw [hcontext, hasync])
          (by rw [hcontext, henabled]) hagain
      rw [htransport] at hvtransport hvbuffer
      exact ⟨v, by rw [outcome_run_nested, hv], hvrecords, hvtransport, hvbuffer,
        by rw [hvcontext, hcontext]⟩

include hx hsteps hrun hz hasync in
/-- A write that the transport refuses stops the innermost dispatch and all those around it. -/
theorem outcome_run_nested_refused (henabled : z.context.cachingDisabled = false)
    (hstops : ¬(filter.NotModified request z.transport b ∨ z.TakesCopy b)) (depth : Nat)
    (hw : x.AgreesWith w) :
    ∃ y, (run filter style request [i] (nested (depth + 1) steps)).outcome w =
        (.error .sinkFailed, y) ∧
      y.transport = ((filter.mark request z.transport b).takeHead b true).refuse := by
  induction depth generalizing w with
  | zero =>
      obtain ⟨y, hy, journal, rfl⟩ := (appends_run hsteps [i]).agree (hw.log _) hrun
      have hrefused := outcome_dispatch_refused (prepare_nested hx hw) hy hz.buffer_eq hz.records
        hasync henabled hstops
      rw [outcome_run_nested]
      exact hrefused
  | succ depth ih =>
      obtain ⟨y, hy, htransport⟩ := ih (hw.log _)
      refine ⟨y, ?_, htransport⟩
      rw [outcome_run_nested]
      exact EtagFilter.outcome_dispatch_fault (prepare_nested hx hw) hy

end

/-! ## Nested dispatches as a whole -/

/-- A dispatch of nested dispatches compared with a single one, for any handler that uses its response
as a sink and raises no fault.  They end alike and write the same.  If caching stays enabled and the
answer that the response was not modified is revised, then the headers differ; in every other case the
transport is left the same. -/
theorem nested_dispatch (hsink : x.transport = .recorder status charset failing)
    (hcontext : x.context = {}) (hsteps : ∀ step ∈ steps, step.UsesSink)
    (hrun : (run filter style request [x.decorators.length] steps).outcome (x.buffered request) =
      (.ok (), z))
    (hb : z.decorator x.decorators.length = .buffer b) (depth : Nat) :
    let single := (dispatch filter style request [] steps).outcome x
    let repeated := (dispatch filter style request [] (nested (depth + 1) steps)).outcome x
    let revised := z.context.cachingDisabled = false ∧ filter.Revised request z.transport b
    repeated.1 = single.1 ∧ repeated.2.transport.writes = single.2.transport.writes ∧
      (revised → repeated.2.transport.headers ≠ single.2.transport.headers) ∧
      (¬revised → repeated.2.transport = single.2.transport) := by
  intro single repeated revised
  let i := x.decorators.length
  have hprepare : (EtagFilter.prepare request []).outcome x = (.ok [i], x.buffered request) :=
    EtagFilter.outcome_prepare_fresh (by rw [hcontext]) rfl
  have hfresh := x.buffered_decorator request
  have hbuffered : (x.buffered request).isBuffer [i] = true := by
    simp [isBuffer, buffer?, i, hfresh]
  have hstart : (x.buffered request).Holding i { forRequest := true } := by
    refine ⟨hfresh, ⟨charset, failing, 0, [], ?_⟩, (fun hcopied => by cases hcopied), fun _ => ?_⟩
    · exact congrArg Transport.medium hsink
    · exact congrArg (fun t => t.headers.getList? contentLengthName) hsink
  have hasync : (x.buffered request).context.asyncStarted = false :=
    congrArg Context.asyncStarted hcontext
  obtain ⟨c, hz, hzasync⟩ := holding_run hstart hasync hsteps hrun
  obtain rfl : c = b := Decorator.buffer.inj (hz.buffer_eq.symm.trans hb)
  have hagrees := AgreesWith.refl (x.buffered request)
  rcases Bool.eq_false_or_eq_true z.context.cachingDisabled with hdisabled | henabled
  · have hrevised : ¬revised := fun h => by
      rw [h.1] at hdisabled
      cases hdisabled
    obtain ⟨y, hy, journal, rfl⟩ :=
      outcome_run_nested_disabled hbuffered hsteps hrun hzasync hdisabled (depth + 1) hagrees
    have hsingle : single = (.ok (), z.log (.cachingDisabled request.url)) :=
      EtagFilter.outcome_dispatch_disabled hprepare hrun hzasync hdisabled
    have hrepeated : repeated = _ :=
      EtagFilter.outcome_dispatch_disabled hprepare hy hzasync hdisabled
    rw [hsingle, hrepeated]
    exact ⟨rfl, rfl, fun h => absurd h hrevised, fun _ => rfl⟩
  by_cases hends : filter.NotModified request z.transport c ∨ z.TakesCopy c
  · obtain ⟨u, hu, -, hut, -, -⟩ :=
      outcome_dispatch_settle hprepare hrun hb hz.records hzasync henabled hends
    obtain ⟨y, hy, hrecords, hyt, hbuffer, hycontext⟩ := outcome_run_nested_settle hbuffered hsteps
      hrun hz hzasync henabled hends (depth + 1) hagrees
    obtain ⟨v, hv, -, hvt, -, -⟩ := outcome_dispatch_settle hprepare hy hbuffer hrecords
      (by rw [hycontext, hzasync]) (by rw [hycontext, henabled])
      (Or.inr (EtagFilter.settle_drained.imp id Or.inl))
    -- However deep the nesting, the outermost evaluation leaves what a second one would leave.
    have htwice : v.transport = (filter.settle request (filter.settle request z.transport c).1
        (filter.settle request z.transport c).2).1 := by
      rw [hvt, hyt]
      exact congrArg Prod.fst (EtagFilter.settleTimes_add_two hz.empty_of_copied depth)
    have hsingle : single = (.ok (), u) := hu
    have hrepeated : repeated = (.ok (), v) := hv
    rw [hsingle, hrepeated]
    refine ⟨rfl, ?_, fun h => ?_, fun h => ?_⟩
    · rw [htwice, hut]
      exact EtagFilter.writes_settle_again hz.empty_of_copied
    · have hholds : c.forwarding z.context = false := by
        simp [Buffer.forwarding, h.2.2.1, henabled]
      rw [htwice, hut]
      exact EtagFilter.headers_ne_of_revised h.2 (hz.lengthless hholds)
    · rw [htwice, hut]
      exact EtagFilter.settle_of_not_revised hz.empty_of_copied fun hr => h ⟨henabled, hr⟩
  · obtain ⟨u, hu, hut⟩ :=
      outcome_dispatch_refused hprepare hrun hb hz.records hzasync henabled hends
    obtain ⟨y, hy, hyt⟩ := outcome_run_nested_refused hbuffered hsteps hrun hz hzasync henabled hends
      depth hagrees
    have hsingle : single = (.error .sinkFailed, u) := hu
    have hrepeated : repeated = (.error .sinkFailed, y) :=
      EtagFilter.outcome_dispatch_fault hprepare hy
    have hrevised : ¬revised := fun h => hends (Or.inl h.2.1)
    rw [hsingle, hrepeated]
    exact ⟨rfl, by rw [hyt, hut], fun h => absurd h hrevised, fun _ => by rw [hyt, hut]⟩

/-- The status that this handler sets makes a success of the answer that nothing was modified, so the
outer dispatch tags it again: the client gets the tag of an empty body. -/
theorem nested_dispatch_hi :
    let request : Request :=
      ⟨"GET", "/", ({} : Headers).set "If-None-Match" (EntityTag.ofBytes [104, 105])⟩
    let steps : List HandlerStep := [.call (.setStatus 200), .call (.write [104, 105])]
    let x : Exchange := { transport := .recorder 200 .utf8 [] }
    (∀ step ∈ steps, step.UsesSink) ∧
      ((dispatch {} .sync request [] (nested 1 steps)).outcome x).2.transport.headers ≠
        ((dispatch {} .sync request [] steps).outcome x).2.transport.headers := by
  intro request steps x
  let calls : List Call := [.setStatus 200, .write [104, 105]]
  have hsteps : ∀ step ∈ steps, step.UsesSink := by
    simp only [steps, List.forall_mem_cons]
    exact ⟨.call _, .call _, nofun⟩
  have hcalls : ∀ call ∈ calls, call.Composes .utf8 := by
    simp only [calls, List.forall_mem_cons]
    exact ⟨.setStatus 200, .write _, nofun⟩
  let b : Buffer := { forRequest := true, content := [104, 105], status := some 200 }
  let z : Exchange := (x.buffered request).compose 0 { forRequest := true } .utf8 calls
  have hrun : (run {} .sync request [0] steps).outcome (x.buffered request) = (.ok (), z) := by
    rw [show steps = calls.map .call from rfl, run_calls]
    exact outcome_performAll_composes rfl rfl rfl rfl hcalls
  have hb : z.decorator 0 = .buffer b := rfl
  have htags : EntityTag.ofBytes [] ≠ EntityTag.ofBytes [104, 105] := by decide +kernel
  have hmatches : ({} : EtagFilter).Matches request b.content := Headers.get?_set_self
  have hrevised : ({} : EtagFilter).Revised request z.transport b := by
    rw [EtagFilter.revised_default]
    exact ⟨⟨rfl, rfl, hmatches⟩, rfl, htags⟩
  have h := nested_dispatch (x := x) rfl rfl hsteps hrun hb 0
  rw [Nat.zero_add] at h
  exact ⟨hsteps, h.2.2.1 ⟨rfl, hrevised⟩⟩

end Handler
end Revalidation
