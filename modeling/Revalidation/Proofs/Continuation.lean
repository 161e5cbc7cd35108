import Revalidation.Proofs.Likeness
import Revalidation.Proofs.Recorder

/-!
# Exchanges in several passes

A handler may suspend the exchange and go on in a later dispatch, on the response that it was given in
the first one.  The passes leave the transport as a single dispatch with all their steps does: every
pass but the last is run without an evaluation, and the flags of the suspension make no difference to
what the steps do.
-/

namespace Revalidation

open Revalidation.Action

/-! ## Passes -/

namespace HandlerStep

inductive WritesSink : HandlerStep → Prop
  | setStatus (status : Int) : WritesSink (.call (.setStatus status))
  | setHeader (name value : String) : WritesSink (.call (.setHeader name value))
  | addHeader (name value : String) : WritesSink (.call (.addHeader name value))
  | write (data : Bytes) : WritesSink (.call (.write data))
  | writeText (text : String) : WritesSink (.call (.writeText text))
  | flush : WritesSink (.call .flush)
  | disableCaching : WritesSink (.changeContext .disableCaching)

def suspends : HandlerStep → Bool
  | changeContext .startAsync => true
  | _ => false

def awake (steps : List HandlerStep) : List HandlerStep := steps.filter (!·.suspends)

def Suspending (steps : List HandlerStep) : Prop :=
  steps.any suspends = true ∧ ∀ step ∈ steps, step.suspends = true ∨ step.WritesSink

end HandlerStep

namespace Handler

def firstPass (filter : EtagFilter) (style : CallStyle) (request : Request) (response : Response)
    (steps : List HandlerStep) : Action Response :=
  filter.dispatch style request response fun inner => do
    run filter style request inner steps
    return inner

def furtherPass (filter : EtagFilter) (style : CallStyle) (request : Request) (inner : Response)
    (steps : List HandlerStep) : Action Unit := do
  modify (·.changeContext .beginAsyncDispatch)
  dispatch filter style request inner steps

def dispatchPasses (filter : EtagFilter) (style : CallStyle) (request : Request)
    (response : Response) : List (List HandlerStep) → Action Unit
  | [] => return
  | first :: further => do
    let inner ← firstPass filter style request response first
    forM further (furtherPass filter style request inner)

end Handler

variable {x y z w : Exchange} {i : Nat} {b : Buffer} {filter : EtagFilter} {style : CallStyle}
  {request : Request} {steps : List HandlerStep} {suspended : Bool}

/-! ## Exchanges that differ in the suspension -/

namespace Exchange

/-- The exchanges have the same layers over the same transport, which records its writes.  The second
one may be suspended, while the first one never was. -/
structure Resembles (suspended : Bool) (i : Nat) (x y : Exchange) : Prop where
  isBuffer : x.isBuffer [i] = true
  records : x.Records
  transport_eq : y.transport = x.transport
  decorators_eq : y.decorators = x.decorators
  disabled_eq : y.context.cachingDisabled = x.context.cachingDisabled
  awake : x.context.asyncStarted = false
  suspended_eq : y.context.asyncStarted = suspended
  /-- A change to the context of an exchange that holds none starts from a fresh one. -/
  unpublished : y.published ≠ .attached → y.context.cachingDisabled = false ∧ suspended = false

namespace Resembles

theorem buffered (hsink : x.Records) (hcontext : x.context = {}) (request : Request) :
    Resembles false x.decorators.length (x.buffered request) (x.buffered request) where
  isBuffer := by simp [Exchange.isBuffer, buffer?, buffered_decorator]
  records := hsink
  transport_eq := rfl
  decorators_eq := rfl
  disabled_eq := rfl
  awake := congrArg Context.asyncStarted hcontext
  suspended_eq := congrArg Context.asyncStarted hcontext
  unpublished _ := ⟨congrArg Context.cachingDisabled hcontext, rfl⟩

theorem log (h : Resembles suspended i x y) (event : LogEvent) :
    Resembles suspended i x (y.log event) := { h with }

theorem changeTransport (h : Resembles suspended i x y) (event : LogEvent)
    {change : Transport → Transport} (hmedium : ∀ t, (change t).medium = t.medium) :
    Resembles suspended i (x.changeTransport event change) (y.changeTransport event change) := by
  obtain ⟨charset, failing, calls, writes, hx⟩ := h.records
  have hsilent : x.transport.logsIgnored = false := by rw [Transport.logsIgnored, hx]
  unfold Exchange.changeTransport ignore
  rw [h.transport_eq, hsilent]
  split
  · exact h
  · have hrecords : (change x.transport).Records :=
      ⟨charset, failing, calls, writes, by rw [hmedium, hx]⟩
    exact { h with records := hrecords, transport_eq := rfl }

theorem putBuffer (h : Resembles suspended i x y) (j : Nat) (b : Buffer) :
    Resembles suspended i (x.putBuffer j b) (y.putBuffer j b) := by
  refine { h with isBuffer := isBuffer_putBuffer h.isBuffer, decorators_eq := ?_ }
  rw [Exchange.putBuffer, Exchange.putBuffer, h.decorators_eq]

/-- A change to the context of the second exchange starts from flags that are known. -/
theorem changed_context (h : Resembles suspended i x y) (change : Context.Change) :
    ∃ c : Context, (y.changeContext change).context = c.apply change ∧
      c.cachingDisabled = x.context.cachingDisabled ∧ c.asyncStarted = suspended := by
  by_cases hattached : y.published = .attached
  · exact ⟨y.context, changeContext_attached hattached change, h.disabled_eq, h.suspended_eq⟩
  · obtain ⟨henabled, hawake⟩ := h.unpublished hattached
    refine ⟨{}, changeContext_fresh hattached change, ?_, hawake.symm⟩
    rw [← h.disabled_eq, henabled]

theorem disableCaching (h : Resembles suspended i x y) :
    Resembles suspended i (x.changeContext .disableCaching) (y.changeContext .disableCaching) := by
  obtain ⟨c, hc, -, hsuspended⟩ := h.changed_context .disableCaching
  have hdisabled : (x.changeContext .disableCaching).context.cachingDisabled = true := by
    unfold Exchange.changeContext
    split <;> rfl
  have hawake : (x.changeContext .disableCaching).context.asyncStarted = false := by
    unfold Exchange.changeContext
    split
    · exact h.awake
    · rfl
  exact
    { isBuffer := by simpa [Exchange.isBuffer, buffer?] using h.isBuffer
      records := by
        rw [Records, changeContext_transport]
        exact h.records
      transport_eq := by rw [changeContext_transport, changeContext_transport, h.transport_eq]
      decorators_eq := by rw [changeContext_decorators, changeContext_decorators, h.decorators_eq]
      disabled_eq := by rw [hdisabled, hc]; rfl
      awake := hawake
      suspended_eq := by rw [hc]; exact hsuspended
      unpublished := fun hnot => absurd (changeContext_published _) hnot }

theorem suspend (h : Resembles suspended i x y) :
    Resembles true i x (y.changeContext .startAsync) := by
  obtain ⟨c, hc, hdisabled, -⟩ := h.changed_context .startAsync
  exact
    { h with
      transport_eq := by rw [changeContext_transport, h.transport_eq]
      decorators_eq := by rw [changeContext_decorators, h.decorators_eq]
      disabled_eq := by rw [hc]; exact hdisabled
      suspended_eq := by rw [hc]; rfl
      unpublished := fun hnot => absurd (changeContext_published _) hnot }

theorem resume (h : Resembles suspended i x y) :
    Resembles false i x (y.changeContext .beginAsyncDispatch) := by
  obtain ⟨c, hc, hdisabled, -⟩ := h.changed_context .beginAsyncDispatch
  exact
    { h with
      transport_eq := by rw [changeContext_transport, h.transport_eq]
      decorators_eq := by rw [changeContext_decorators, h.decorators_eq]
      disabled_eq := by rw [hc]; exact hdisabled
      suspended_eq := by rw [hc]; rfl
      unpublished := fun hnot => absurd (changeContext_published _) hnot }

theorem write (h : Resembles suspended i x y) (data : Bytes) :
    EndAlike (Resembles suspended i) (fun _ z w => True ∧ Resembles suspended i z w)
      (Transport.write data) x (Transport.write data) y := by
  have hrecords : y.Records := by
    rw [Records, h.transport_eq]
    exact h.records
  rcases Bool.eq_false_or_eq_true x.transport.refuses with hrefuses | haccepts
  · have hy : y.transport.refuses = true := by rw [h.transport_eq, hrefuses]
    refine .fault (Transport.outcome_write_refused h.records hrefuses data)
      (Transport.outcome_write_refused hrecords hy data) ⟨trivial, ?_⟩
    exact { h with records := h.records.refuse, transport_eq := by rw [h.transport_eq] }
  · have hy : y.transport.refuses = false := by rw [h.transport_eq, haccepts]
    refine .value (Transport.outcome_write_accepted h.records haccepts data)
      (Transport.outcome_write_accepted hrecords hy data) ?_
    exact { h with records := h.records.accept data, transport_eq := by rw [h.transport_eq] }

theorem flush (h : Resembles suspended i x y) :
    EndAlike (Resembles suspended i) (fun _ z w => True ∧ Resembles suspended i z w)
      Transport.flush x Transport.flush y := by
  have hrecords : y.Records := by
    rw [Records, h.transport_eq]
    exact h.records
  refine .value (Transport.outcome_flush_recorder h.records)
    (Transport.outcome_flush_recorder hrecords) ?_
  exact { h with records := h.records, transport_eq := by rw [h.transport_eq] }

end Resembles

/-- Responses do not see whether the exchange is suspended. -/
def resemblance (suspended : Bool) (i : Nat) : Likeness where
  rel := Resembles suspended i
  carries _ := True
  stops _ := True
  decorators_eq h := h.decorators_eq
  disabled_eq h := h.disabled_eq
  status_eq h := by rw [h.transport_eq]
  headers_eq h := by rw [h.transport_eq]
  committed_eq h := by rw [h.transport_eq]
  charset_eq h := by rw [h.transport_eq]
  carries_lengthName := trivial
  carries_size _ := trivial
  carries_length _ _ _ := trivial
  log _ _ h := { h with }
  putBuffer j _ h _ := h.putBuffer j _
  disableCaching h := h.disableCaching
  setTransportStatus _ h := h.changeTransport _ fun _ => rfl
  setTransportHeader h _ _ := h.changeTransport _ fun _ => rfl
  addTransportHeader h _ _ := h.changeTransport _ fun _ => rfl
  write data h := h.write data
  flush h := h.flush

def Alike (i : Nat) (x y : Exchange) : Prop := ∃ suspended, Resembles suspended i x y

theorem Alike.transport_eq (h : Alike i x y) : y.transport = x.transport := by
  obtain ⟨_, hrel⟩ := h
  exact hrel.transport_eq

end Exchange

/-! ## Runs of passes -/

namespace HandlerStep

open Exchange

theorem WritesSink.takes {step : HandlerStep} (hstep : step.WritesSink) (suspended : Bool) (i : Nat) :
    (resemblance suspended i).Takes step := by
  cases hstep with
  | setStatus status => exact .call (.setStatus status)
  | setHeader => exact .call (.setHeader trivial trivial)
  | addHeader => exact .call (.addHeader trivial trivial)
  | write data => exact .call (.write data)
  | writeText text => exact .call (.writeText (fun _ => trivial) text)
  | flush => exact .call .flush
  | disableCaching => exact .disableCaching

theorem WritesSink.not_suspends {step : HandlerStep} (hstep : step.WritesSink) :
    step.suspends = false := by
  cases hstep <;> rfl

theorem suspends_iff {step : HandlerStep} :
    step.suspends = true ↔ step = .changeContext .startAsync := by
  constructor
  · intro h
    unfold suspends at h
    split at h
    · rfl
    · cases h
  · rintro rfl
    rfl

end HandlerStep

namespace Handler

open Exchange HandlerStep

variable (filter style request)

def pass (filter : EtagFilter) (style : CallStyle) (request : Request) (inner : Response)
    (steps : List HandlerStep) : Action Unit := do
  run filter style request inner steps
  filter.conclude style request inner

theorem outcome_pass_append (inner : Response) (steps rest : List HandlerStep) (x : Exchange) :
    (pass filter style request inner (steps ++ rest)).outcome x =
      (do
        run filter style request inner steps
        pass filter style request inner rest).outcome x := by
  simp only [pass, outcome_bind, outcome_run_append]
  rcases (run filter style request inner steps).outcome x with ⟨_ | _, y⟩ <;> rfl

/-- The steps that suspend the exchange make no difference but to the flag. -/
theorem run_suspending (h : Resembles suspended i x y)
    (hsteps : ∀ step ∈ steps, step.suspends = true ∨ step.WritesSink) :
    EndAlike (Resembles (suspended || steps.any suspends) i) (fun _ => Alike i)
      (run filter style request [i] (awake steps)) x (run filter style request [i] steps) y := by
  induction steps generalizing suspended x y with
  | nil =>
      rw [List.any_nil, Bool.or_false, run, awake, List.filter_nil, run]
      exact .pure h ()
  | cons step rest ih =>
      rw [List.forall_mem_cons] at hsteps
      rcases hsteps.1 with hsuspends | hwrites
      · have hrest := ih h.suspend hsteps.2
        rw [Bool.true_or] at hrest
        rw [List.any_cons, hsuspends, Bool.true_or, Bool.or_true, awake,
          List.filter_cons_of_neg (by simp [hsuspends])]
        rw [suspends_iff] at hsuspends
        refine hrest.of_outcome rfl ?_
        rw [run, hsuspends, runStep, outcome_bind_ok (outcome_modify _ _)]
      · have hawake := hwrites.not_suspends
        rw [List.any_cons, hawake, Bool.false_or, awake,
          List.filter_cons_of_pos (by simp [hawake]), run, run]
        have hstep : (resemblance suspended i).Keeps (runStep filter style request [i] step) x y :=
          (resemblance suspended i).runStep h [i] (hwrites.takes suspended i)
        have hstep : EndAlike (Resembles suspended i) (fun _ => Alike i)
            (runStep filter style request [i] step) x (runStep filter style request [i] step) y :=
          hstep.mono (fun _ _ h => h) fun _ _ _ h => ⟨suspended, h.2⟩
        exact hstep.bind fun _ z w hz => ih hz hsteps.2

theorem pass_suspending (h : Resembles suspended i x y) (hsteps : Suspending steps) :
    EndAlike (Resembles true i) (fun _ => Alike i) (run filter style request [i] (awake steps)) x
      (pass filter style request [i] steps) y := by
  have hrun := run_suspending filter style request h hsteps.2
  rw [hsteps.1, Bool.or_true] at hrun
  cases hrun with
  | value hx hy hz =>
      refine .value hx ?_ (hz.log (.deferred request.url))
      rw [pass, outcome_bind_ok hy]
      exact EtagFilter.outcome_conclude_deferred hz.suspended_eq
  | fault hx hy hz => exact .fault hx (outcome_bind_error hy) hz

theorem pass_last (h : Resembles false i x y) (hsteps : ∀ step ∈ steps, step.WritesSink) :
    EndAlike (Alike i) (fun _ => Alike i) (pass filter style request [i] steps) x
      (pass filter style request [i] steps) y := by
  let L := resemblance false i
  have hrun : L.Keeps (run filter style request [i] steps) x y :=
    L.run h [i] fun step hmem => (hsteps step hmem).takes false i
  have hpass : L.Keeps (pass filter style request [i] steps) x y := by
    refine hrun.bind fun _ z w hz => ?_
    obtain ⟨b, hd⟩ := exists_buffer hz.isBuffer
    have hasync : w.context.asyncStarted = z.context.asyncStarted := by
      rw [hz.suspended_eq, hz.awake]
    exact L.conclude hz hasync ⟨rfl, rfl⟩ trivial (fun _ => trivial) hd style style []
  exact hpass.mono (fun _ _ h => ⟨false, h⟩) fun _ _ _ h => ⟨false, h.2⟩

theorem outcome_dispatch_pass {response inner : Response}
    (hprepare : (EtagFilter.prepare request response).outcome x = (.ok inner, y)) :
    (dispatch filter style request response steps).outcome x =
      (pass filter style request inner steps).outcome y := by
  rw [dispatch, EtagFilter.outcome_dispatch hprepare, pass]
  simp only [bind_pure_unit]

theorem outcome_furtherPass (h : Resembles suspended i x y) :
    (furtherPass filter style request [i] steps).outcome y =
      (pass filter style request [i] steps).outcome
        ((y.changeContext .beginAsyncDispatch).log
          (.alreadyBuffered request.method request.url)) := by
  have hbuffer : (y.changeContext .beginAsyncDispatch).isBuffer [i] = true := by
    have hx := h.isBuffer
    simpa [Exchange.isBuffer, buffer?, decorator, h.decorators_eq] using hx
  rw [furtherPass, outcome_bind_ok (outcome_modify _ _)]
  exact outcome_dispatch_pass filter style request (EtagFilter.outcome_prepare_buffer hbuffer)

variable {passes further : List (List HandlerStep)} {first last : List HandlerStep}

theorem furtherPasses_suspending (h : Alike i x y) (hpasses : ∀ pass ∈ passes, Suspending pass) :
    EndAlike (Alike i) (fun _ => Alike i) (run filter style request [i] (passes.flatMap awake)) x
      (forM passes (furtherPass filter style request [i])) y := by
  induction passes generalizing x y with
  | nil =>
      rw [List.flatMap_nil, run]
      exact .pure h ()
  | cons pass rest ih =>
      rw [List.forall_mem_cons] at hpasses
      obtain ⟨suspended, h⟩ := h
      have hpass := (pass_suspending filter style request
        (h.resume.log (.alreadyBuffered request.method request.url)) hpasses.1).of_outcome rfl
        (outcome_furtherPass filter style request h)
      rw [List.flatMap_cons, List.forM_cons]
      exact (hpass.bind fun _ z w hz => ih ⟨true, hz⟩ hpasses.2).of_outcome
        (outcome_run_append filter style request [i] _ _ x) rfl

theorem passes_suspending (h : Resembles suspended i x y)
    (hpasses : ∀ pass ∈ first :: further, Suspending pass) :
    EndAlike (Alike i) (fun _ => Alike i)
      (run filter style request [i] ((first :: further).flatMap awake)) x
      (do
        pass filter style request [i] first
        forM further (furtherPass filter style request [i])) y := by
  rw [List.forall_mem_cons] at hpasses
  have hfirst := pass_suspending filter style request h hpasses.1
  rw [List.flatMap_cons]
  exact (hfirst.bind fun _ z w hz => furtherPasses_suspending filter style request ⟨true, hz⟩ hpasses.2).of_outcome
    (outcome_run_append filter style request [i] _ _ x) rfl

theorem furtherPass_last (h : Alike i x y) (hlast : ∀ step ∈ last, step.WritesSink) :
    EndAlike (Alike i) (fun _ => Alike i) (pass filter style request [i] last) x
      (furtherPass filter style request [i] last) y := by
  obtain ⟨suspended, h⟩ := h
  exact (pass_last filter style request (h.resume.log (.alreadyBuffered request.method request.url)) hlast).of_outcome
    rfl (outcome_furtherPass filter style request h)

/-- The passes come after the first buffer, which only the first one makes. -/
theorem outcome_dispatchPasses (hcontext : x.context = {}) :
    (dispatchPasses filter style request [] (first :: further)).outcome x =
      (do
        pass filter style request [x.decorators.length] first
        forM further (furtherPass filter style request [x.decorators.length])).outcome
        (x.buffered request) := by
  have hprepare : (EtagFilter.prepare request []).outcome x =
      (.ok [x.decorators.length], x.buffered request) :=
    EtagFilter.outcome_prepare_fresh (by rw [hcontext]) rfl
  rw [dispatchPasses, outcome_bind, firstPass, EtagFilter.outcome_dispatch hprepare, pass]
  simp only [outcome_bind, outcome_pure]
  rcases (run filter style request [x.decorators.length] first).outcome (x.buffered request) with
    ⟨_ | _, y⟩
  · rfl
  · dsimp only
    rcases (filter.conclude style request [x.decorators.length]).outcome y with ⟨_ | _, z⟩ <;> rfl

/-- The passes end as a single dispatch with their steps does. -/
theorem dispatch_alike_passes {suspended : List (List HandlerStep)} (hsink : x.Records)
    (hcontext : x.context = {}) (hsuspended : ∀ pass ∈ suspended, Suspending pass)
    (hlast : ∀ step ∈ last, step.WritesSink) :
    EndAlike (Alike x.decorators.length) (fun _ => Alike x.decorators.length)
      (dispatch filter style request [] (suspended.flatMap awake ++ last)) x
      (dispatchPasses filter style request [] (suspended ++ [last])) x := by
  have hbuffered := Resembles.buffered hsink hcontext request
  have hprepare : (EtagFilter.prepare request []).outcome x =
      (.ok [x.decorators.length], x.buffered request) :=
    EtagFilter.outcome_prepare_fresh (by rw [hcontext]) rfl
  cases suspended with
  | nil =>
      refine (pass_last filter style request hbuffered hlast).of_outcome (outcome_dispatch_pass filter style request hprepare) ?_
      rw [List.nil_append, outcome_dispatchPasses filter style request hcontext]
      simp only [List.forM_nil, bind_pure_unit]
  | cons first further =>
      have hpasses := passes_suspending filter style request
        hbuffered hsuspended
      refine (hpasses.bind fun _ z w hz => furtherPass_last filter style request hz hlast).of_outcome ?_ ?_
      · rw [outcome_dispatch_pass filter style request hprepare, outcome_pass_append]
      · rw [List.cons_append, outcome_dispatchPasses filter style request hcontext]
        simp only [List.forM_append, List.forM_cons, List.forM_nil, bind_pure_unit, bind_assoc]

/-- An exchange in several passes, each but the last one suspended at some points, ends on the
transport as a single dispatch with all steps does.  After any suspended pass the transport is as the
steps so far have left it: nothing has been evaluated. -/
theorem dispatch_in_passes {suspended : List (List HandlerStep)} (hsink : x.Records)
    (hcontext : x.context = {}) (hsuspended : ∀ pass ∈ suspended, Suspending pass)
    (hlast : ∀ step ∈ last, step.WritesSink) :
    let several := (dispatchPasses filter style request [] (suspended ++ [last])).outcome x
    let single :=
      (dispatch filter style request [] (suspended.flatMap awake ++ last)).outcome x
    (several.1 = single.1 ∧ several.2.transport = single.2.transport) ∧
      ∀ earlier later, suspended = earlier ++ later → earlier ≠ [] →
        let passed := (dispatchPasses filter style request [] earlier).outcome x
        let own := (run filter style request [x.decorators.length]
          (earlier.flatMap awake)).outcome (x.buffered request)
        passed.1 = own.1 ∧ passed.2.transport = own.2.transport := by
  constructor
  · have halike := dispatch_alike_passes filter style request
      hsink hcontext hsuspended hlast
    exact ⟨halike.result_eq, (halike.rel_outcome fun _ _ _ h => h).transport_eq⟩
  · intro earlier later hsplit hne
    cases earlier with
    | nil => contradiction
    | cons first further =>
        have hpasses : ∀ pass ∈ first :: further, Suspending pass := fun pass hmem =>
          hsuspended pass (hsplit ▸ List.mem_append_left later hmem)
        have halike := (passes_suspending filter style request
          (Resembles.buffered hsink hcontext request) hpasses).of_outcome rfl
          (outcome_dispatchPasses filter style request hcontext)
        exact ⟨halike.result_eq, (halike.rel_outcome fun _ _ _ h => h).transport_eq⟩

/-- Only the last pass compares the tag of the whole body. -/
theorem dispatch_in_passes_hi :
    let request : Request :=
      ⟨"GET", "/", ({} : Headers).set "If-None-Match" (EntityTag.ofBytes [104, 105])⟩
    let x : Exchange := { transport := .recorder 200 .utf8 [], published := .attached }
    let first : List HandlerStep := [.call (.write [104]), .changeContext .startAsync]
    let last : List HandlerStep := [.call (.write [105])]
    x.Records ∧ x.context = {} ∧ Suspending first ∧ (∀ step ∈ last, step.WritesSink) ∧
      ((dispatchPasses {} .sync request [] [first]).outcome x).2.transport = x.transport ∧
      ((dispatchPasses {} .sync request [] [first, last]).outcome x).2.transport.status = 304 := by
  intro request x first last
  have hsink : x.Records := ⟨_, _, _, _, rfl⟩
  have hfirst : Suspending first := by
    refine ⟨rfl, ?_⟩
    simp only [first, List.forall_mem_cons]
    exact ⟨.inr (.write _), .inl rfl, nofun⟩
  have hlast : ∀ step ∈ last, step.WritesSink := by
    simp only [last, List.forall_mem_cons]
    exact ⟨.write _, nofun⟩
  have hsuspended : ∀ pass ∈ [first], Suspending pass := by
    rw [List.forall_mem_cons]
    exact ⟨hfirst, nofun⟩
  obtain ⟨⟨-, hseveral⟩, hpassed⟩ :=
    dispatch_in_passes {} .sync request hsink rfl hsuspended hlast
  have hsingle : ((dispatch {} .sync request [] ([first].flatMap awake ++ last)).outcome
      x).2.transport.status = 304 := by
    decide +kernel
  refine ⟨hsink, rfl, hfirst, hlast, ?_, ?_⟩
  · exact (hpassed [first] [] rfl (by simp)).2
  · exact (congrArg Transport.status hseveral).trans hsingle

end Handler
end Revalidation
