import Revalidation.Proofs.Answer
import Revalidation.Proofs.Conservation
import Revalidation.Proofs.Playback
import Revalidation.Proofs.Settling

/-!
# What is recorded of a handler

A handler that sets the status, adds headers, writes and disables caching is played on a recorder.  The
filter may answer that the response was not modified, and then nothing is recorded.  Otherwise the
recorder has the bytes that were written, in order and as a whole, wherever caching was disabled.
-/

namespace Revalidation

open Revalidation.Action Exchange StackStep

variable {x y z : Exchange} {i : Nat} {filter : EtagFilter} {style : CallStyle} {request : Request}
  {step : HandlerStep} {steps : List HandlerStep}

namespace HandlerStep

def call? : HandlerStep → Option Call
  | .call made => some made
  | _ => none

def disables : HandlerStep → Bool
  | .changeContext .disableCaching => true
  | _ => false

inductive Plays : HandlerStep → Prop
  | setStatus (status : Int) : Plays (.call (.setStatus status))
  | addHeader (name value : String) : Plays (.call (.addHeader name value))
  | write (data : Bytes) : Plays (.call (.write data))
  | disable : Plays (.changeContext .disableCaching)

theorem Plays.composes (h : step.Plays) (henabled : step.disables = false) :
    ∃ call, step = .call call ∧ call.Composes .utf8 := by
  cases h with
  | setStatus status => exact ⟨_, rfl, .setStatus status⟩
  | addHeader name value => exact ⟨_, rfl, .addHeader name value⟩
  | write data => exact ⟨_, rfl, .write data⟩
  | disable => cases henabled

end HandlerStep

namespace Handler

def calls (steps : List HandlerStep) : List Call := steps.filterMap HandlerStep.call?

/-- Steps leave caching enabled, and the filter finds that the request names the tag of the body. -/
structure Unmodified (filter : EtagFilter) (request : Request) (steps : List HandlerStep) : Prop where
  enabled : steps.any HandlerStep.disables = false
  eligible : filter.isEligible request.method ((lastStatus? (calls steps)).getD 200)
    ((passedHeaders {} (calls steps)).get? "Cache-Control") = true
  named : filter.Matches request (writtenBytes .utf8 (calls steps))

/-! ## The body grows by what is written -/

theorem grows_runStep (h : step.Plays) (hrecords : x.Records) (hsettled : x.Settled)
    (hok : (runStep filter style request [i] step).outcome x = (.ok (), y)) :
    Grows [i] (writtenBytes .utf8 (calls [step])) x y ∧
      y.context.cachingDisabled = (x.context.cachingDisabled || step.disables) := by
  have hnodup : [i].Nodup := by simp
  have hstep (other : StackStep) (hact : (other.act [i]).outcome x = (.ok (), y)) :
      Grows [i] (other.data x [i]) x y := by
    have hgrows := grows_act hnodup hrecords hsettled other
    rw [hact] at hgrows
    exact hgrows
  cases h with
  | setStatus status =>
      refine ⟨hstep (.setStatus 0 status) hok, ?_⟩
      cases hok
      simp [(quiet_setStatus [i] x status).context_eq, HandlerStep.disables]
  | addHeader name value =>
      refine ⟨hstep (.addHeader 0 name value) hok, ?_⟩
      cases hok
      simp [(quiet_addHeader [i] x name value).context_eq, HandlerStep.disables]
  | write data =>
      have hadds := Response.addsTo_write [i] hnodup data hrecords hsettled
      have hwrite : (Response.write [i] data).outcome x = (.ok (), y) := hok
      rw [AddsTo, hwrite] at hadds
      have hcontext : y.context = x.context := hadds.context_eq
      refine ⟨?_, by simp [hcontext, HandlerStep.disables]⟩
      simpa [calls, HandlerStep.call?, writtenBytes, Call.bytes, StackStep.data] using
        hstep (.write data) hok
  | disable =>
      refine ⟨hstep (.changeContext .disableCaching) hok, ?_⟩
      have hy : y = x.changeContext .disableCaching := by
        rw [runStep, outcome_modify] at hok
        exact (Prod.mk.inj hok).2.symm
      rw [HandlerStep.disables, Bool.or_true, hy, Exchange.changeContext]
      split <;> rfl

/-- Caching is disabled after a run if a step disabled it, and no byte gets lost on the way. -/
theorem grows_run (hsteps : ∀ step ∈ steps, step.Plays) (hrecords : x.Records) (hsettled : x.Settled)
    (hok : (run filter style request [i] steps).outcome x = (.ok (), y)) :
    Grows [i] (writtenBytes .utf8 (calls steps)) x y ∧
      y.context.cachingDisabled =
        (x.context.cachingDisabled || steps.any HandlerStep.disables) := by
  induction steps generalizing x with
  | nil =>
      rw [run] at hok
      cases hok
      exact ⟨⟨hrecords, hsettled, (List.append_nil _).symm⟩, (Bool.or_false _).symm⟩
  | cons step rest ih =>
      rw [List.forall_mem_cons] at hsteps
      rw [run] at hok
      obtain ⟨_, w, hfirst, hrest⟩ := exists_of_bind_ok hok
      obtain ⟨hgrows, hdisabled⟩ := grows_runStep hsteps.1 hrecords hsettled hfirst
      obtain ⟨hfurther, hflag⟩ := ih hsteps.2 hgrows.records hgrows.settled hrest
      have hcalls : calls (step :: rest) = calls [step] ++ calls rest :=
        List.filterMap_append (l := [step])
      refine ⟨?_, by rw [hflag, hdisabled, List.any_cons, Bool.or_assoc]⟩
      rw [hcalls, writtenBytes_append]
      exact hgrows.trans hfurther

/-! ## What is recorded in the end -/

theorem recording_buffered (request : Request) :
    (recording.buffered request).Records ∧ (recording.buffered request).Settled := by
  refine ⟨⟨.utf8, [], 0, [], rfl⟩, fun j b hb hcopied => ?_⟩
  have hj : j < 1 := lt_of_decorator_eq hb
  obtain rfl : j = 0 := by omega
  cases hb
  cases hcopied

/-- Once caching is disabled, everything that was written is recorded in the end. -/
theorem body_of_disabled (hsteps : ∀ step ∈ steps, step.Plays)
    (hdisabled : steps.any HandlerStep.disables = true)
    (hrecord : (record filter style request steps).outcome recording = (.ok (), z)) :
    z.transport.body = writtenBytes .utf8 (calls steps) := by
  let x := recording.buffered request
  have hfresh : x.decorator 0 = .buffer { forRequest := true } := rfl
  obtain ⟨hrecords, hsettled⟩ := recording_buffered request
  rw [outcome_record] at hrecord
  obtain ⟨_, w, hplay, hconclude⟩ := exists_of_bind_ok hrecord
  rw [play] at hplay
  obtain ⟨_, v, hrun, hflush⟩ := exists_of_bind_ok hplay
  obtain ⟨hgrows, hflag⟩ := grows_run hsteps hrecords hsettled hrun
  rw [hdisabled, Bool.or_true] at hflag
  rw [outcome_bind_ok (outcome_get v), hflag, if_pos rfl] at hflush
  obtain ⟨hadds, hdrained⟩ := Response.adds_flush [0] (by simp) hgrows.records
    hgrows.settled
  rw [hflush] at hadds hdrained
  obtain ⟨event, hlogs⟩ := EtagFilter.outcome_conclude_disabled filter style request [0]
    (hadds.context_eq ▸ hflag : w.context.cachingDisabled = true)
  rw [hlogs] at hconclude
  cases hconclude
  calc w.transport.body
      = w.carried [0] := by rw [carried, pending_eq_nil (hdrained rfl), List.append_nil]
    _ = v.carried [0] := by rw [hadds.carried_eq, List.append_nil]
    _ = x.carried [0] ++ writtenBytes .utf8 (calls steps) := hgrows.carried_eq
    _ = writtenBytes .utf8 (calls steps) := by
      rw [carried_cons, content_cons hfresh]
      rfl

theorem exists_calls (hsteps : ∀ step ∈ steps, step.Plays)
    (henabled : steps.any HandlerStep.disables = false) :
    steps = (calls steps).map .call ∧ ∀ call ∈ calls steps, call.Composes .utf8 := by
  induction steps with
  | nil => exact ⟨rfl, nofun⟩
  | cons step rest ih =>
      rw [List.forall_mem_cons] at hsteps
      rw [List.any_cons, Bool.or_eq_false_iff] at henabled
      obtain ⟨call, rfl, hcall⟩ := hsteps.1.composes henabled.1
      obtain ⟨hrest, hcalls⟩ := ih hsteps.2 henabled.2
      have hcons : calls (.call call :: rest) = call :: calls rest := rfl
      rw [hcons, List.map_cons, List.forall_mem_cons, ← hrest]
      exact ⟨rfl, hcall, hcalls⟩

theorem outcome_record_enabled
    (hrun : (run filter style request [0] steps).outcome (recording.buffered request) = (.ok (), y))
    (henabled : y.context.cachingDisabled = false) :
    (record filter style request steps).outcome recording =
      (dispatch filter style request [] steps).outcome recording := by
  have hprepare : (EtagFilter.prepare request []).outcome recording =
      (.ok [0], recording.buffered request) := EtagFilter.outcome_prepare_fresh rfl rfl
  have hplay : (play filter style request [0] steps).outcome (recording.buffered request) =
      (.ok (), y) := by
    rw [play, outcome_bind_ok hrun, outcome_bind_ok (outcome_get y), henabled,
      if_neg Bool.false_ne_true, outcome_pure]
  rw [record, dispatch, EtagFilter.outcome_dispatch hprepare, EtagFilter.outcome_dispatch hprepare,
    outcome_bind_ok hplay, outcome_bind_ok hrun]

theorem transport_of_enabled (hsteps : ∀ step ∈ steps, step.Plays)
    (henabled : steps.any HandlerStep.disables = false)
    (hrecord : (record filter style request steps).outcome recording = (.ok (), z)) :
    z.transport = (filter.settle request
      { Transport.recorder 200 .utf8 [] with headers := passedHeaders {} (calls steps) }
      (Buffer.compose { forRequest := true } .utf8 (calls steps))).1 := by
  obtain ⟨hcalls, hcompose⟩ := exists_calls hsteps henabled
  have hplayed := hrecord
  rw [outcome_record] at hplayed
  obtain ⟨_, w, hplay, -⟩ := exists_of_bind_ok hplayed
  obtain ⟨_, v, hrun, -⟩ := exists_of_bind_ok hplay
  obtain ⟨hrecords, hsettled⟩ := recording_buffered request
  have hflag := (grows_run hsteps hrecords hsettled hrun).2
  rw [henabled, Bool.or_false] at hflag
  obtain ⟨y, hdispatch, hy⟩ := outcome_dispatch_composed (x := recording) filter style request rfl rfl
    hcompose
  rw [outcome_record_enabled hrun hflag, hcalls, hdispatch] at hrecord
  cases hrecord
  exact hy

/-- A handler is recorded as it composes its response, unless that was not modified. -/
theorem transport_of_record (hsteps : ∀ step ∈ steps, step.Plays)
    (hrecord : (record filter style request steps).outcome recording = (.ok (), z)) :
    (Unmodified filter request steps → z.transport.status = notModifiedStatus ∧
        z.transport.writes = []) ∧
      (¬Unmodified filter request steps →
        z.transport.body = writtenBytes .utf8 (calls steps)) := by
  rcases Bool.eq_false_or_eq_true (steps.any HandlerStep.disables) with hdisabled | henabled
  · refine ⟨fun h => ?_, fun _ => body_of_disabled hsteps hdisabled hrecord⟩
    rw [h.enabled] at hdisabled
    cases hdisabled
  let t : Transport :=
    { Transport.recorder 200 .utf8 [] with headers := passedHeaders {} (calls steps) }
  let b : Buffer := Buffer.compose { forRequest := true } .utf8 (calls steps)
  have htransport : z.transport = (filter.settle request t b).1 :=
    transport_of_enabled hsteps henabled hrecord
  have hcontent : b.content = writtenBytes .utf8 (calls steps) := List.nil_append _
  have hstatus : b.status = lastStatus? (calls steps) := Option.or_none
  have hiff : filter.NotModified request t b ↔ Unmodified filter request steps := by
    constructor
    · rintro ⟨-, haccepts, hmatches⟩
      rw [EtagFilter.accepts, hstatus] at haccepts
      exact ⟨henabled, haccepts, hcontent ▸ hmatches⟩
    · rintro ⟨-, heligible, hnamed⟩
      refine ⟨rfl, ?_, hcontent ▸ hnamed⟩
      rw [EtagFilter.accepts, hstatus]
      exact heligible
  refine ⟨fun h => ?_, fun h => ?_⟩
  · rw [htransport, EtagFilter.settle_unmodified (hiff.2 h)]
    exact ⟨rfl, rfl⟩
  · rw [htransport, EtagFilter.body_settle_modified rfl ⟨.utf8, [], 0, [], rfl⟩ rfl
      (fun hm => h (hiff.1 hm)), hcontent]

end Handler
end Revalidation
