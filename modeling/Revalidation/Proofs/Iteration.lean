import Revalidation.Proofs.Keeping
import Revalidation.Proofs.Playback

/-!
# Iterables played on a recorder

A synchronous application takes steps when it is called and whenever its iterable is asked for an item:
by the middleware at first, and by the server once caching is disabled.  Played as a handler over a
transport that records, it leaves the status, the headers and the writes that the server gets.  What it
writes when its iterable is closed counts for a response that is not streamed; a stream has handed out
everything by then, and the server gets no more.
-/

namespace Revalidation.Wsgi

open Revalidation.Action Exchange

variable {x y z w : Exchange} {i : Nat} {started disabled : Bool} {filter : EtagFilter}
  {style : CallStyle} {request : Request} {app : Application} {iterable : Iterable} {step : Step}
  {steps rest : List Step} {item : Item} {items : List Item} {α : Type}

/-! ## Applications as handlers -/

def Step.starts : Step → Bool
  | start _ _ _ => true
  | attempt step => step.starts
  | _ => false

def Step.disables : Step → Bool
  | changeContext _ .disableCaching => true
  | attempt step => step.disables
  | _ => false

/-- The calls that a start makes on the response, if its status line begins with a status code. -/
def startCalls (headers : List (String × String)) : Except Fault Int → List Call
  | .ok code => .setStatus code :: headers.map fun (name, value) => .addHeader name value
  | .error _ => []

def Step.script : Step → List HandlerStep
  | start line headers _ => (startCalls headers (statusCode line)).map .call
  | write data => [.call (.write data)]
  | changeContext _ change => [.changeContext change]
  | attempt step => step.script
  | fail _ _ => []

/-- The steps that an application can take when the response has been started or not. -/
inductive Step.Answers : Bool → Step → Prop
  | start {started : Bool} {line : String} {code : Int} (hcode : statusCode line = .ok code)
      (headers : List (String × String)) : Answers started (start line headers none)
  | write (data : Bytes) : Answers true (write data)
  | disable {started : Bool} (name : String) :
      Answers started (changeContext name .disableCaching)
  | attempt {started : Bool} {step : Step} (hstep : Answers started step) :
      Answers started (attempt step)
  | caught {started : Bool} (kind : RaisedKind) (text : String) :
      Answers started (attempt (fail kind text))

def Answering : Bool → List Step → Prop
  | _, [] => True
  | started, step :: rest => step.Answers started ∧ Answering (started || step.starts) rest

theorem answering_append : Answering started (steps ++ rest) ↔
    Answering started steps ∧ Answering (started || steps.any Step.starts) rest := by
  induction steps generalizing started with
  | nil => simp [Answering]
  | cons step further ih => simp [Answering, ih, and_assoc, Bool.or_assoc]

def Item.script (item : Item) : List HandlerStep :=
  item.steps.flatMap Step.script ++ (chunks item.chunk).map fun chunk => .call (.write chunk)

namespace Iterable

def closeSteps (iterable : Iterable) : List Step :=
  if iterable.kind = .closing then iterable.onClose else []

def script (iterable : Iterable) (items : List Item) : List HandlerStep :=
  items.flatMap Item.script ++ iterable.last.flatMap Step.script

def stepsFrom (iterable : Iterable) (items : List Item) : List Step :=
  items.flatMap Item.steps ++ iterable.last

theorem script_cons (iterable : Iterable) (item : Item) (items : List Item) :
    iterable.script (item :: items) = item.script ++ iterable.script items := by
  rw [script, script, List.flatMap_cons, List.append_assoc]

theorem stepsFrom_cons (iterable : Iterable) (item : Item) (items : List Item) :
    iterable.stepsFrom (item :: items) = item.steps ++ iterable.stepsFrom items := by
  rw [stepsFrom, stepsFrom, List.flatMap_cons, List.append_assoc]

end Iterable

namespace Application

def opening (app : Application) : List Step := app.steps ++ app.result.first

/-- Caching is disabled by the time an item has been taken, so that the rest of the iterable is
streamed. -/
def streams (app : Application) : Bool :=
  !app.result.items.isEmpty &&
    (app.opening ++ app.result.items.flatMap Item.steps).any Step.disables

def script (app : Application) : List HandlerStep :=
  app.opening.flatMap Step.script ++ (app.result.script app.result.items ++
    if app.streams then [] else app.result.closeSteps.flatMap Step.script)

def allSteps (app : Application) : List Step :=
  app.opening ++ (app.result.stepsFrom app.result.items ++ app.result.closeSteps)

/-- The application stops with no fault, and its iterable can be closed. -/
structure Answers (app : Application) : Prop where
  answering : Answering false app.allSteps
  closes : app.result.kind = .closing → app.result.closeFails = false

end Application

/-! ## Steps -/

theorem outcome_acceptStart_ok {response : Response} {line : String}
    {headers : List (String × String)} {code : Int} (hcode : statusCode line = .ok code)
    (hcalls : (response.performAll (startCalls headers (.ok code))).outcome x = (.ok (), y)) :
    (acceptStart response line headers none).outcome x =
      (.ok (), y.log (.applicationStarted line)) := by
  have hadds : (response.performAll (startCalls headers (.ok code))).outcome x =
      (response.performAll (headers.map fun (name, value) => .addHeader name value)).outcome
        (x.setStatus response code) := rfl
  rw [hadds, Asgi.outcome_addHeaders, Prod.mk.injEq] at hcalls
  unfold acceptStart
  simp only [hcode, outcome_bind, outcome_modify, outcome_log, ← hcalls.2]

/-! ## Runs without a fault -/

section Runs

variable {starter : Starter} {response : Response} {pulled depth : Nat} {chunk : Bytes}
  {left : Option (List Item × Nat)} {rest : List Item}

theorem result_of_call (hok : (call app starter depth).outcome x = (.ok iterable, y)) :
    iterable = app.result := by
  induction depth generalizing x with
  | zero =>
      obtain ⟨_, z, -, hend⟩ := exists_of_bind_ok hok
      cases hend
      rfl
  | succ depth ih =>
      rw [call, outcome_bind_ok (outcome_log _ x)] at hok
      exact ih hok

theorem exists_of_pull (hok : (item.pull starter pulled).outcome x = (.ok chunk, y)) :
    chunk = item.chunk ∧
      (run starter item.steps).outcome (x.note (.pulled pulled)) = (.ok (), y) := by
  rw [Item.pull, outcome_bind_ok (outcome_note _ x)] at hok
  obtain ⟨_, z, hrun, hend⟩ := exists_of_bind_ok hok
  cases hend
  exact ⟨rfl, hrun⟩

/-- A collection that gets past an item pulled it and wrote its chunk.  It stops there if caching is
disabled by then. -/
theorem exists_of_collect_cons
    (hok : (collect iterable starter response (item :: rest) pulled).outcome x = (.ok left, y)) :
    ∃ z w, (item.pull starter pulled).outcome x = (.ok item.chunk, z) ∧
      (if item.chunk.isEmpty then pure () else response.write item.chunk).outcome z = (.ok (), w) ∧
      (if w.context.cachingDisabled then left = some (rest, pulled + 1) ∧ y = w
        else (collect iterable starter response rest (pulled + 1)).outcome w = (.ok left, y)) := by
  obtain ⟨chunk, z, hpull, hrest⟩ := exists_of_bind_ok hok
  obtain rfl := (exists_of_pull hpull).1
  have hnext (w : Exchange) (hend : (do
        if (← get).context.cachingDisabled then return some (rest, pulled + 1)
        collect iterable starter response rest (pulled + 1) : Action _).outcome w = (.ok left, y)) :
      if w.context.cachingDisabled then left = some (rest, pulled + 1) ∧ y = w
        else (collect iterable starter response rest (pulled + 1)).outcome w = (.ok left, y) := by
    rw [outcome_bind_ok (outcome_get w)] at hend
    split
    · next hdisabled =>
      rw [if_pos hdisabled] at hend
      cases hend
      exact ⟨rfl, rfl⟩
    · next henabled => rwa [if_neg henabled] at hend
  cases hempty : item.chunk.isEmpty with
  | true =>
      rw [hempty] at hrest
      exact ⟨z, z, hpull, rfl, hnext z hrest⟩
  | false =>
      rw [hempty] at hrest
      obtain ⟨_, w, hwrite, hend⟩ := exists_of_bind_ok hrest
      exact ⟨z, w, hpull, hwrite, hnext w hend⟩

theorem disabled_of_collect
    (hok : (collect iterable starter response items pulled).outcome x = (.ok (some (rest, n)), y)) :
    y.context.cachingDisabled = true := by
  induction items generalizing x pulled with
  | nil =>
      obtain ⟨_, _, -, hend⟩ := exists_of_bind_ok hok
      cases hend
  | cons item further ih =>
      obtain ⟨_, w, -, -, hend⟩ := exists_of_collect_cons hok
      split at hend
      · next hdisabled => rwa [hend.2]
      · exact ih hend

/-! ## When caching gets disabled -/

theorem disabled_runStep (hstep : step.Answers started) (starter : Starter) (x : Exchange) :
    ((runStep starter step).outcome x).2.context.cachingDisabled =
      (x.context.cachingDisabled || step.disables) := by
  induction hstep generalizing x with
  | @start started line code hcode headers =>
      have huntouched := untouched_context x.context
      have hkept : Keeps (fun y => y.context = x.context) (runStep starter (.start line headers none)) :=
        .bind (huntouched.keeps_note rfl) fun _ => huntouched.keeps_start starter line headers none
      exact (congrArg Context.cachingDisabled (hkept x rfl)).trans (Bool.or_false _).symm
  | write data =>
      have huntouched := untouched_context x.context
      have hkept : Keeps (fun y => y.context = x.context) (runStep starter (.write data)) :=
        .bind (huntouched.keeps_note rfl) fun _ => huntouched.keeps_wsgi_write data
      exact (congrArg Context.cachingDisabled (hkept x rfl)).trans (Bool.or_false _).symm
  | disable name =>
      rw [Step.disables, Bool.or_true]
      show ((x.note _).changeContext .disableCaching).context.cachingDisabled = true
      unfold Exchange.changeContext
      split <;> rfl
  | @attempt started inner _ ih =>
      have hinner := ih (x.note (.step (Step.attempt inner).name))
      rw [runStep, outcome_bind_ok (outcome_note _ x), Action.attempt, outcome_tryCatch]
      rcases hrun : (runStep starter inner).outcome (x.note (.step (Step.attempt inner).name)) with
        ⟨fault | _, y⟩ <;> rw [hrun] at hinner <;> exact hinner
  | caught kind text => exact (Bool.or_false _).symm

theorem disabled_run (hsteps : Answering started steps)
    (hok : (run starter steps).outcome x = (.ok (), y)) :
    y.context.cachingDisabled = (x.context.cachingDisabled || steps.any Step.disables) := by
  induction steps generalizing started x with
  | nil =>
      cases hok
      exact (Bool.or_false _).symm
  | cons step rest ih =>
      obtain ⟨_, z, hfirst, hrest⟩ := exists_of_bind_ok hok
      have hstep := disabled_runStep hsteps.1 starter x
      rw [hfirst] at hstep
      rw [ih hsteps.2 hrest, hstep, List.any_cons, Bool.or_assoc]

theorem disabled_call (hsteps : Answering started app.steps)
    (hok : (call app starter depth).outcome x = (.ok iterable, y)) :
    y.context.cachingDisabled = (x.context.cachingDisabled || app.steps.any Step.disables) := by
  induction depth generalizing x with
  | zero =>
      obtain ⟨_, z, hrun, hend⟩ := exists_of_bind_ok hok
      cases hend
      exact disabled_run hsteps hrun
  | succ depth ih =>
      rw [call, outcome_bind_ok (outcome_log _ x)] at hok
      have hlogged := ih hok
      exact hlogged

/-- A collection leaves items over exactly when caching is disabled by the time one has been taken. -/
theorem isSome_of_collect (hsteps : Answering started (items.flatMap Item.steps))
    (hok : (collect iterable starter response items pulled).outcome x = (.ok left, y)) :
    left.isSome = (!items.isEmpty &&
      (x.context.cachingDisabled || (items.flatMap Item.steps).any Step.disables)) := by
  induction items generalizing started x pulled with
  | nil =>
      obtain ⟨_, _, -, hend⟩ := exists_of_bind_ok hok
      cases hend
      rfl
  | cons item further ih =>
      rw [List.flatMap_cons, answering_append] at hsteps
      obtain ⟨z, w, hpull, hwrite, hend⟩ := exists_of_collect_cons hok
      have hz := disabled_run hsteps.1 (exists_of_pull hpull).2
      have hkept : Keeps (fun u => u.context = z.context)
          (if item.chunk.isEmpty then pure () else response.write item.chunk) := by
        split
        · exact .pure ()
        · exact (untouched_context _).keeps_write response item.chunk
      have hw := hkept z rfl
      rw [hwrite] at hw
      have hdisabled : w.context.cachingDisabled =
          (x.context.cachingDisabled || item.steps.any Step.disables) := by
        rw [hw, hz]
        rfl
      rw [List.isEmpty_cons, Bool.not_false, Bool.true_and, List.flatMap_cons, List.any_append,
        ← Bool.or_assoc, ← hdisabled]
      split at hend
      · next htrue =>
        rw [hend.1, htrue]
        rfl
      · next hfalse =>
        rw [ih hsteps.2 hend]
        cases further <;> simp [hfalse]

end Runs

/-- The second exchange follows the first one, and the application writes to its response once it has
been started. -/
def Attends (i : Nat) (started disabled : Bool) (x y : Exchange) : Prop :=
  ∃ writer, Follows .wsgi writer disabled i x y ∧ (started = true → writer = some (.response [i]))

def Attending (i : Nat) (started disabled : Bool) (first : Action α) (x : Exchange)
    (second : Action α) (y : Exchange) : Prop :=
  EndAlike (Attends i started disabled) (fun _ _ _ => False) first x second y

namespace Attends

theorem note (h : Attends i started disabled x y) {entry : Entry} (hmessage : entry.message? = none)
    (hserved : entry.isServed = false) : Attends i started disabled x (y.note entry) := by
  obtain ⟨writer, hfollows, hwriter⟩ := h
  exact ⟨writer, hfollows.note_right hmessage hserved, hwriter⟩

theorem log (h : Attends i started disabled x y) (event : LogEvent) :
    Attends i started disabled x (y.log event) := h.note rfl rfl

theorem keeps {first second : Action α} {writer : Option Writer}
    (hwriter : started = true → writer = some (.response [i]))
    (h : (following .wsgi writer disabled i).Alike first x second y) :
    Attending i started disabled first x second y :=
  EndAlike.mono h (fun _ _ hz => ⟨writer, hz, hwriter⟩) fun _ _ _ h => h.1

end Attends

section Steps

variable (filter style request)

theorem start_attends {line : String} {headers : List (String × String)} {code : Int}
    (h : Attends i started disabled x y) (hcode : statusCode line = .ok code) :
    Attending i true disabled
      (Handler.run filter style request [i] (Step.start line headers none).script) x
      (start (.response [i]) line headers none) y := by
  obtain ⟨writer, hfollows, -⟩ := h
  let L := following .wsgi writer disabled i
  let calls : List Call := startCalls headers (.ok code)
  have hscript : (Step.start line headers none).script = calls.map .call := by
    rw [Step.script, hcode]
  have hsteps : ∀ step ∈ calls.map HandlerStep.call, L.Takes step := by
    intro step hstep
    obtain ⟨call, hcall, rfl⟩ := List.mem_map.1 hstep
    rcases List.mem_cons.1 hcall with rfl | hheader
    · exact .call (.setStatus code)
    · obtain ⟨header, -, rfl⟩ := List.mem_map.1 hheader
      exact .call (.addHeader trivial trivial)
  have hkeeps : L.Keeps (Handler.run filter style request [i] (calls.map .call)) x y :=
    L.run hfollows [i] hsteps
  obtain ⟨_, z, w, hx, hy, hrel⟩ := hkeeps.ends fun _ _ _ h => h.1
  rw [Handler.run_calls] at hy
  have hw : Follows .wsgi writer disabled i z (w.log (.applicationStarted line)) := hrel.log_right _
  let u : Exchange := { w.log (.applicationStarted line) with writer := some (.response [i]) }
  have hu : Follows .wsgi (some (.response [i])) disabled i z u :=
    { hw with
      writer_eq := rfl
      delivering := hw.delivering.congr rfl rfl rfl rfl rfl }
  have hstart : (start (.response [i]) line headers none).outcome y = (.ok (), u) :=
    outcome_bind_ok (outcome_acceptStart_ok hcode hy)
  rw [hscript]
  exact .value hx hstart ⟨_, hu, fun _ => rfl⟩

theorem runStep_attends (h : Attends i started disabled x y) (hstep : step.Answers started) :
    Attending i (started || step.starts) disabled
      (Handler.run filter style request [i] step.script) x (runStep (.response [i]) step) y := by
  have hnote (step : Step) {x y : Exchange} (h : Attends i started disabled x y) :
      Attends i started disabled x (y.note (.step step.name)) := h.note rfl rfl
  have hrun (step : Step) (y : Exchange) (action : Action Unit)
      (hstart : runStep (.response [i]) step = (do Action.note (.step step.name); action)) :
      (runStep (.response [i]) step).outcome y = action.outcome (y.note (.step step.name)) := by
    rw [hstart, outcome_bind_ok (outcome_note _ y)]
  induction hstep generalizing x y with
  | @start started line code hcode headers =>
      rw [Step.starts, Bool.or_true]
      exact (start_attends filter style request (hnote _ h) hcode).of_outcome rfl (hrun _ y _ rfl)
  | write data =>
      obtain ⟨writer, hfollows, hwriter⟩ := hnote (.write data) h
      have hwrite : (Wsgi.write data).outcome (y.note (.step (Step.write data).name)) =
          (Response.write [i] data).outcome (y.note (.step (Step.write data).name)) := by
        simp only [Wsgi.write, outcome_bind, outcome_get, hfollows.writer_eq, hwriter rfl]
      refine (Attends.keeps (fun _ => hwriter rfl) ((following .wsgi writer disabled i).responseWrite
        hfollows [i] data)).of_outcome ?_ ((hrun _ y _ rfl).trans hwrite)
      rw [Step.script, Handler.run_singleton, Handler.runStep]
      rfl
  | disable name =>
      obtain ⟨writer, hfollows, hwriter⟩ := hnote (.changeContext name .disableCaching) h
      have hx : (Handler.run filter style request [i] [.changeContext .disableCaching]).outcome x =
          (.ok (), x.changeContext .disableCaching) := by
        rw [Handler.run_singleton, Handler.runStep, outcome_modify]
      have hy := hrun (.changeContext name .disableCaching) y
        (modify (·.changeContext .disableCaching)) rfl
      have hstarts : (Step.changeContext name .disableCaching).starts = false := rfl
      rw [hstarts, Bool.or_false]
      exact .value hx hy ⟨writer, hfollows.disableCaching, hwriter⟩
  | @attempt started inner _ ih =>
      obtain ⟨_, z, w, hx, hinner, hrel⟩ := (ih (hnote _ h) hnote).ends fun _ _ _ h => h
      have hattempt : (Action.attempt (runStep (.response [i]) inner)).outcome
          (y.note (.step (Step.attempt inner).name)) = (.ok (), w) := by
        rw [Action.attempt, outcome_tryCatch, hinner]
      exact .value hx ((hrun _ y _ rfl).trans hattempt) hrel
  | caught kind text =>
      have hcaught : (runStep (.response [i]) (.attempt (.fail kind text))).outcome y =
          (.ok (), ((y.note (.step "try")).note (.step "raise")).note (.caught (.raised kind text))) :=
        rfl
      have hstarts : (Step.attempt (.fail kind text)).starts = false := rfl
      rw [hstarts, Bool.or_false]
      exact .value rfl hcaught (((h.note rfl rfl).note rfl rfl).note rfl rfl)

theorem run_attends (h : Attends i started disabled x y) (hsteps : Answering started steps) :
    Attending i (started || steps.any Step.starts) disabled
      (Handler.run filter style request [i] (steps.flatMap Step.script)) x
      (run (.response [i]) steps) y := by
  induction steps generalizing started x y with
  | nil =>
      rw [List.any_nil, Bool.or_false, List.flatMap_nil, Handler.run]
      exact .value rfl rfl h
  | cons step rest ih =>
      have hstep := runStep_attends filter style request h hsteps.1
      rw [List.any_cons, ← Bool.or_assoc, List.flatMap_cons]
      exact (EndAlike.bind hstep fun _ z w hz => ih hz hsteps.2).of_outcome
        (Handler.outcome_run_append filter style request [i] _ _ x) rfl

end Steps

/-! ## Items -/

section Items

variable (filter style request)

theorem close_attends (h : Attends i started disabled x y)
    (hsteps : Answering started iterable.closeSteps)
    (hcloses : iterable.kind = .closing → iterable.closeFails = false) :
    Attending i (started || iterable.closeSteps.any Step.starts) disabled
      (Handler.run filter style request [i] (iterable.closeSteps.flatMap Step.script)) x
      (iterable.close (.response [i])) y := by
  have hnote : Attends i started disabled x (y.note .closed) := h.note rfl rfl
  unfold Iterable.closeSteps at hsteps ⊢
  by_cases hclosing : iterable.kind = .closing
  · rw [if_pos hclosing] at hsteps ⊢
    refine (run_attends filter style request hnote hsteps).of_outcome rfl ?_
    rw [Iterable.close, if_pos hclosing, hcloses hclosing, if_neg Bool.false_ne_true,
      outcome_bind_ok (outcome_note _ y), bind_pure_unit]
  · rw [if_neg hclosing, Iterable.close, if_neg hclosing, List.any_nil, Bool.or_false, List.flatMap_nil,
      Handler.run]
    exact .value rfl rfl h

theorem pull_attends (h : Attends i started disabled x y) (hsteps : Answering started item.steps)
    (before : Nat) :
    ∃ z w, (item.pull (.response [i]) before).outcome y = (.ok item.chunk, w) ∧
      (Handler.run filter style request [i] (item.steps.flatMap Step.script)).outcome x =
        (.ok (), z) ∧
      Attends i (started || item.steps.any Step.starts) disabled z w := by
  have hnote : Attends i started disabled x (y.note (.pulled before)) := h.note rfl rfl
  obtain ⟨_, z, w, hx, hy, hrel⟩ :=
    (run_attends filter style request hnote hsteps).ends fun _ _ _ h => h
  refine ⟨z, w, ?_, hx, hrel⟩
  simp only [Item.pull, outcome_bind, outcome_note, hy, outcome_pure]

theorem exhaust_attends (h : Attends i started disabled x y) (hsteps : Answering started iterable.last)
    (before : Nat) :
    Attending i (started || iterable.last.any Step.starts) disabled
      (Handler.run filter style request [i] (iterable.last.flatMap Step.script)) x
      (iterable.exhaust (.response [i]) before) y := by
  have hnote : Attends i started disabled x (y.note (.pulled before)) := h.note rfl rfl
  exact (run_attends filter style request hnote hsteps).of_outcome rfl
    (outcome_bind_ok (outcome_note _ y))

theorem chunk_attends (h : Attends i started disabled x y) (chunk : Bytes) :
    Attending i started disabled
      (Handler.run filter style request [i] ((chunks chunk).map fun chunk => .call (.write chunk))) x
      (if !chunk.isEmpty then Response.write [i] chunk else pure ()) y := by
  by_cases hempty : chunk = []
  · have hnothing : (if !chunk.isEmpty then Response.write [i] chunk else pure ()) = pure () := by
      simp [hempty]
    rw [hnothing, chunks, if_pos hempty, List.map_nil, Handler.run]
    exact .pure h ()
  · have hwrite : (if !chunk.isEmpty then Response.write [i] chunk else pure ()) =
        Response.write [i] chunk := by
      simp [hempty]
    obtain ⟨writer, hfollows, hwriter⟩ := h
    rw [hwrite, chunks, if_neg hempty, List.map_singleton, Handler.run_singleton, Handler.runStep]
    exact Attends.keeps hwriter ((following .wsgi writer disabled i).responseWrite hfollows [i] chunk)

/-- An item is pulled and its chunk written, and the items after it are still to come. -/
theorem item_attends (h : Attends i started disabled x y) (hsteps : Answering started item.steps)
    (iterable : Iterable) (before : Nat) :
    ∃ z w₁ w, (item.pull (.response [i]) before).outcome y = (.ok item.chunk, w₁) ∧
      (if !item.chunk.isEmpty then Response.write [i] item.chunk else pure ()).outcome w₁ =
        (.ok (), w) ∧
      (∀ items, (Handler.run filter style request [i] (iterable.script (item :: items))).outcome x =
        (Handler.run filter style request [i] (iterable.script items)).outcome z) ∧
      Attends i (started || item.steps.any Step.starts) disabled z w := by
  obtain ⟨z₁, w₁, hpull, hx₁, hrel₁⟩ := pull_attends filter style request h hsteps before
  obtain ⟨_, z, w, hx, hy, hrel⟩ :=
    (chunk_attends filter style request hrel₁ item.chunk).ends fun _ _ _ h => h
  refine ⟨z, w₁, w, hpull, hy, fun items => ?_, hrel⟩
  rw [Iterable.script_cons, Handler.outcome_run_append, Item.script, outcome_bind,
    Handler.outcome_run_append, outcome_bind_ok hx₁, hx]

def Iterable.leftScript (iterable : Iterable) : Option (List Item × Nat) → List HandlerStep
  | none => []
  | some (items, _) => iterable.script items

def Iterable.leftSteps (iterable : Iterable) : Option (List Item × Nat) → List Step
  | none => []
  | some (items, _) => iterable.stepsFrom items

/-- A collection goes through the items to the end, or up to one after which caching is disabled.  The
application can go on from there. -/
theorem collect_attends {further : List Step} (h : Attends i started disabled x y)
    (hsteps : Answering started (iterable.stepsFrom items ++ further)) (pulled : Nat) :
    ∃ left z w started,
      (collect iterable (.response [i]) [i] items pulled).outcome y = (.ok left, w) ∧
      (Handler.run filter style request [i] (iterable.script items)).outcome x =
        (Handler.run filter style request [i] (iterable.leftScript left)).outcome z ∧
      Attends i started disabled z w ∧ Answering started (iterable.leftSteps left ++ further) ∧
      (left.isSome = true → w.context.cachingDisabled = true) := by
  induction items generalizing started x y pulled with
  | nil =>
      have hlast : Answering started (iterable.last ++ further) := hsteps
      rw [answering_append] at hlast
      obtain ⟨_, z, w, hx, hy, hrel⟩ :=
        (exhaust_attends filter style request h hlast.1 pulled).ends fun _ _ _ h => h
      refine ⟨none, z, w, _, ?_, ?_, hrel, hlast.2, nofun⟩
      · simp only [collect, outcome_bind, hy, outcome_pure]
      · rw [Iterable.leftScript, Handler.run, outcome_pure]
        exact hx
  | cons item rest ih =>
      rw [Iterable.stepsFrom_cons, List.append_assoc, answering_append] at hsteps
      obtain ⟨z, w₁, w, hpull, hy, hitem, hrel⟩ :=
        item_attends filter style request h hsteps.1 iterable pulled
      have hcollect : (collect iterable (.response [i]) [i] (item :: rest) pulled).outcome y =
          (if w.context.cachingDisabled then return some (rest, pulled + 1)
            else collect iterable (.response [i]) [i] rest (pulled + 1)).outcome w := by
        rw [collect, outcome_bind_ok hpull]
        cases hempty : item.chunk.isEmpty with
        | false =>
            rw [hempty, Bool.not_false, if_pos rfl] at hy
            exact (outcome_bind_ok hy).trans (outcome_bind_ok (outcome_get w))
        | true =>
            rw [hempty, Bool.not_true, if_neg (by decide), outcome_pure] at hy
            cases hy
            exact outcome_bind_ok (outcome_get w₁)
      rcases Bool.eq_false_or_eq_true w.context.cachingDisabled with hdisabled | henabled
      · rw [if_pos hdisabled] at hcollect
        exact ⟨some (rest, pulled + 1), z, w, _, hcollect, hitem rest, hrel, hsteps.2,
          fun _ => hdisabled⟩
      · rw [if_neg (by simp [henabled])] at hcollect
        obtain ⟨left, z', w', started', hleft, hrun, hrest⟩ := ih hrel hsteps.2 (pulled + 1)
        exact ⟨left, z', w', started', hcollect.trans hleft, (hitem rest).trans hrun, hrest⟩

end Items

/-! ## Streaming -/

section Stream

variable (filter style request)

theorem deliverWaiting_follows {writer : Option Writer} (h : Follows .wsgi writer disabled i x y) :
    ∃ w, (deliverWaiting none).outcome y = (.ok (some none), w) ∧
      Follows .wsgi writer disabled i x w ∧
      w.Collecting (x.transport.writes.flatMap chunks) [] := by
  obtain ⟨handed, waiting, hcollecting, hparts⟩ := h.delivering
  obtain ⟨w, hdeliver, hw, htransport, hbeneath⟩ := hcollecting.deliverWaiting
  rw [hparts] at hw
  refine ⟨w, hdeliver, ?_, hw⟩
  exact h.beneath hbeneath (by rw [htransport]) (by rw [htransport]) (by rw [htransport])
    ⟨_, [], hw, List.append_nil _⟩

/-- What the server pulls from an iterable is written and handed out at once, and what the
application has left behind in the end is flushed. -/
theorem deliverRest_attends {further : List Step} (h : Attends i started true x y)
    (hsteps : Answering started (iterable.stepsFrom items ++ further)) (pulled : Nat) (s : Streaming)
    (hs : s.iterable = iterable ∧ s.starter = .response [i] ∧ s.response = [i]) :
    ∃ z w started, (s.deliverRest items pulled none).outcome y = (.ok true, w) ∧
      (Handler.play filter style request [i] (iterable.script items)).outcome x = (.ok (), z) ∧
      Attends i started true z w ∧ Answering started further ∧ z.transport.committed = true ∧
      w.Collecting (z.transport.writes.flatMap chunks) [] := by
  obtain ⟨hiterable, hstarter, hresponse⟩ := hs
  induction items generalizing started x y pulled with
  | nil =>
      have hlast : Answering started (iterable.last ++ further) := hsteps
      rw [answering_append] at hlast
      obtain ⟨_, z₁, w₁, hx₁, hy₁, writer, hrel₁, hwriter⟩ :=
        (exhaust_attends filter style request h hlast.1 pulled).ends fun _ _ _ h => h
      obtain ⟨_, z, w₂, hx, hy, hrel, hcommitted⟩ := hrel₁.responseFlush.ends fun _ _ _ h => h
      obtain ⟨w, hdeliver, hw, hcollecting⟩ := deliverWaiting_follows hrel
      refine ⟨z, w, _, ?_, ?_, ⟨writer, hw, hwriter⟩, hlast.2, hcommitted, hcollecting⟩
      · simp only [Streaming.deliverRest, hiterable, hstarter, hresponse, outcome_bind, hy₁, hy,
          hdeliver, outcome_pure, Option.isSome_some]
      · have hscript : iterable.script [] = iterable.last.flatMap Step.script := rfl
        rw [Handler.play, hscript, outcome_bind_ok hx₁, outcome_bind_ok (outcome_get z₁),
          hrel₁.disabled_eq rfl, if_pos rfl, hx]
  | cons item rest ih =>
      rw [Iterable.stepsFrom_cons, List.append_assoc, answering_append] at hsteps
      obtain ⟨z, w₁, w, hpull, hy, hitem, hrel⟩ :=
        item_attends filter style request h hsteps.1 iterable pulled
      have hscript :
          (Handler.play filter style request [i] (iterable.script (item :: rest))).outcome x =
            (Handler.play filter style request [i] (iterable.script rest)).outcome z := by
        rw [Handler.play, Handler.play, outcome_bind, outcome_bind, hitem rest]
      rw [hscript, Streaming.deliverRest, hstarter, hresponse, outcome_bind_ok hpull]
      cases hempty : item.chunk.isEmpty with
      | true =>
          rw [hempty, Bool.not_true, if_neg (by decide), outcome_pure] at hy
          cases hy
          exact ih hrel hsteps.2 (pulled + 1)
      | false =>
          rw [hempty, Bool.not_false, if_pos rfl] at hy
          obtain ⟨writer, hfollows, hwriter⟩ := hrel
          obtain ⟨u, hdeliver, hu, -⟩ := deliverWaiting_follows hfollows
          rw [if_neg (by decide), outcome_bind_ok hy, outcome_bind_ok hdeliver]
          exact ih ⟨writer, hu, hwriter⟩ hsteps.2 (pulled + 1)

end Stream

/-! ## The middleware and the server -/

section Middleware

variable (filter style request)

theorem call_attends (h : Attends i started disabled x y) (hsteps : Answering started app.steps)
    (depth : Nat) :
    ∃ z w, (call app (.response [i]) depth).outcome y = (.ok app.result, w) ∧
      (Handler.run filter style request [i] (app.steps.flatMap Step.script)).outcome x =
        (.ok (), z) ∧
      Attends i (started || app.steps.any Step.starts) disabled z w := by
  induction depth generalizing y with
  | zero =>
      obtain ⟨_, z, w, hx, hy, hrel⟩ :=
        (run_attends filter style request h hsteps).ends fun _ _ _ h => h
      exact ⟨z, w, by simp only [call, outcome_bind, hy, outcome_pure], hx, hrel⟩
  | succ depth ih =>
      obtain ⟨z, w, hcall, hx, hrel⟩ := ih (h.log .passingThrough)
      exact ⟨z, w, (outcome_bind_ok (outcome_log _ y)).trans hcall, hx, hrel⟩

theorem opening_attends (h : Attends i started disabled x y)
    (hsteps : Answering started app.opening) (depth : Nat) :
    ∃ z w₁ w, (call app (.response [i]) depth).outcome y = (.ok app.result, w₁) ∧
      (app.result.begin (.response [i])).outcome w₁ = (.ok (), w) ∧
      (Handler.run filter style request [i] (app.opening.flatMap Step.script)).outcome x =
        (.ok (), z) ∧
      Attends i (started || app.opening.any Step.starts) disabled z w ∧
      w.context.cachingDisabled = (y.context.cachingDisabled || app.opening.any Step.disables) := by
  rw [Application.opening, answering_append] at hsteps
  obtain ⟨z₁, w₁, hcall, hx₁, hrel₁⟩ := call_attends filter style request h hsteps.1 depth
  obtain ⟨_, z, w, hx, hbegin, hrel⟩ :=
    (run_attends filter style request hrel₁ hsteps.2).ends fun _ _ _ h => h
  refine ⟨z, w₁, w, hcall, hbegin, ?_, ?_, ?_⟩
  · rw [Application.opening, List.flatMap_append, Handler.outcome_run_append, outcome_bind_ok hx₁, hx]
  · rwa [Application.opening, List.any_append, ← Bool.or_assoc]
  · rw [disabled_run hsteps.2 hbegin, disabled_call hsteps.1 hcall, Application.opening, List.any_append,
      Bool.or_assoc]

/-- An iterable that was read to its end is closed, and then the response is committed if caching is
disabled. -/
theorem finish_attends (h : Attends i started false x y)
    (hsteps : Answering started iterable.closeSteps)
    (hcloses : iterable.kind = .closing → iterable.closeFails = false) :
    ∃ z w writer, (do
        iterable.close (.response [i])
        if (← get).context.cachingDisabled then Response.flush [i]
        return none : Action (Option Streaming)).outcome y = (.ok none, w) ∧
      (Handler.play filter style request [i] (iterable.closeSteps.flatMap Step.script)).outcome x =
        (.ok (), z) ∧
      Follows .wsgi writer false i z w := by
  obtain ⟨_, z₁, w₁, hx, hclose, writer, hfollows, -⟩ :=
    (close_attends filter style request h hsteps hcloses).ends fun _ _ _ h => h
  obtain ⟨_, z, w, hz, hw, hrel⟩ := ((following .wsgi writer false i).flushDisabled hfollows
    [i]).ends fun _ _ _ h => h.1
  refine ⟨z, w, writer, ?_, (outcome_bind_ok hx).trans hz, hrel⟩
  rw [outcome_bind_ok hclose]
  rw [outcome_bind_ok (outcome_get w₁)] at hw ⊢
  cases hdisabled : w₁.context.cachingDisabled with
  | true =>
      rw [hdisabled, if_pos rfl] at hw
      exact outcome_bind_ok hw
  | false =>
      rw [hdisabled, if_neg (by decide), outcome_pure] at hw
      cases hw
      rfl

/-- The middleware either has the whole response when its iterable is closed, or leaves items to the
server because caching is disabled. -/
theorem answer_attends (h : Attends i false false x y) (henabled : y.context.cachingDisabled = false)
    (happ : app.Answers) (depth : Nat) :
    (∃ z w writer, (answer (fun starter => call app starter depth) [i]).outcome y = (.ok none, w) ∧
      (Handler.play filter style request [i] app.script).outcome x = (.ok (), z) ∧
      Follows .wsgi writer false i z w) ∨
    ∃ rest pulled z w started, (answer (fun starter => call app starter depth) [i]).outcome y =
        (.ok (some ⟨app.result, rest, pulled, .response [i], [i]⟩), w) ∧
      (Handler.run filter style request [i] app.script).outcome x =
        (Handler.run filter style request [i] (app.result.script rest)).outcome z ∧
      Attends i started true z w ∧
      Answering started (app.result.stepsFrom rest ++ app.result.closeSteps) := by
  have hanswering := happ.answering
  rw [Application.allSteps, answering_append] at hanswering
  obtain ⟨z₁, w₀, w₁, hcall, hbegin, hx₁, hrel₁, hflag⟩ :=
    opening_attends filter style request h hanswering.1 depth
  obtain ⟨left, z, w, started, hcollect, hx, hrel, hleft, hdisabled⟩ :=
    collect_attends filter style request hrel₁ hanswering.2 0
  have hstreams : app.streams = left.isSome := by
    have hitems := hanswering.2
    rw [Iterable.stepsFrom, List.append_assoc, answering_append] at hitems
    rw [isSome_of_collect hitems.1 hcollect, hflag, henabled, Bool.false_or, Application.streams,
      List.any_append]
  have hscript : (Handler.run filter style request [i] app.script).outcome x =
      (Handler.run filter style request [i] (app.result.leftScript left ++
        if app.streams then [] else app.result.closeSteps.flatMap Step.script)).outcome z := by
    rw [Application.script, Handler.outcome_run_append, outcome_bind_ok hx₁,
      Handler.outcome_run_append, Handler.outcome_run_append, outcome_bind, hx, ← outcome_bind]
  cases left with
  | none =>
      obtain ⟨z', w', writer, hfinish, hplay, hrel'⟩ :=
        finish_attends filter style request hrel hleft happ.closes
      rw [hstreams, Iterable.leftScript, List.nil_append, Option.isSome_none,
        if_neg Bool.false_ne_true] at hscript
      refine .inl ⟨z', w', writer, ?_, ?_, hrel'⟩
      · rw [answer, outcome_bind_ok hcall, outcome_bind_ok hbegin,
          outcome_bind_ok (outcome_onFault_ok hcollect)]
        exact hfinish
      · rw [Handler.play, outcome_bind, hscript, ← outcome_bind]
        exact hplay
  | some left =>
      obtain ⟨rest, pulled⟩ := left
      obtain ⟨writer, hfollows, hwriter⟩ := hrel
      have hdisabledx : z.context.cachingDisabled = true := by
        rw [← hfollows.context_eq, hdisabled rfl]
      rw [hstreams, Iterable.leftScript, Option.isSome_some, if_pos rfl, List.append_nil] at hscript
      refine .inr ⟨rest, pulled, z, w, started, ?_, hscript,
        ⟨writer, { hfollows with disabled_eq := fun _ => hdisabledx }, hwriter⟩, hleft⟩
      rw [answer, outcome_bind_ok hcall, outcome_bind_ok hbegin,
        outcome_bind_ok (outcome_onFault_ok hcollect)]
      rfl

section Handle

variable {handler : Starter → Action Iterable} {fault : Fault} {P : Exchange → Prop}

theorem outcome_handle_stream {streaming : Streaming}
    (hdispatch : (filter.dispatch .sync request [] (answer handler)).outcome
      (Asgi.entered x request) = (.ok (some streaming), y)) :
    (handle filter request handler).outcome x =
      (.ok (.stream streaming), y.log (.streaming request.method request.url)) := by
  rw [Asgi.entered] at hdispatch
  simp [handle, onFault, outcome_bind, outcome_tryCatch, hdispatch]

theorem outcome_handle_body
    (hdispatch : (filter.dispatch .sync request [] (answer handler)).outcome
      (Asgi.entered x request) = (.ok none, y))
    (hflush : Transport.flush.outcome y = (.ok (), w)) :
    (handle filter request handler).outcome x =
      (.ok (.body w.transport.chunks),
        w.log (.processed request.method request.url w.transport.status)) := by
  rw [Asgi.entered] at hdispatch
  simp [handle, onFault, outcome_bind, outcome_tryCatch, hdispatch, hflush]

theorem outcome_handle_fault
    (hdispatch : (filter.dispatch .sync request [] (answer handler)).outcome
      (Asgi.entered x request) = (.error fault, y)) :
    (handle filter request handler).outcome x =
      (.error fault, y.logFailure request.method request.url fault) := by
  rw [Asgi.entered] at hdispatch
  simp [handle, onFault, outcome_bind, outcome_tryCatch, hdispatch]

theorem outcome_handle_unflushed
    (hdispatch : (filter.dispatch .sync request [] (answer handler)).outcome
      (Asgi.entered x request) = (.ok none, y))
    (hflush : Transport.flush.outcome y = (.error fault, z)) :
    (handle filter request handler).outcome x =
      (.error fault, z.logFailure request.method request.url fault) := by
  rw [Asgi.entered] at hdispatch
  simp [handle, onFault, outcome_bind, outcome_tryCatch, hdispatch, hflush]

variable {filter request}

/-- The middleware fails, or gives a whole response, or leaves a stream to the server.  What the
dispatch kept is kept. -/
theorem handle_cases (hlasts : Lasting P)
    (hkept : P ((filter.dispatch .sync request [] (answer handler)).outcome
      (Asgi.entered x request)).2) :
    (∃ fault y, (handle filter request handler).outcome x = (.error fault, y) ∧ P y) ∨
    (∃ chunks y, (handle filter request handler).outcome x = (.ok (.body chunks), y) ∧ P y) ∨
    ∃ streaming y event, (filter.dispatch .sync request [] (answer handler)).outcome
        (Asgi.entered x request) = (.ok (some streaming), y) ∧
      (handle filter request handler).outcome x = (.ok (.stream streaming), y.log event) := by
  rcases hdispatch : (filter.dispatch .sync request [] (answer handler)).outcome
    (Asgi.entered x request) with ⟨fault | _ | streaming, y⟩ <;> rw [hdispatch] at hkept
  · exact .inl ⟨fault, _, outcome_handle_fault filter request hdispatch, hlasts.logFailure _ _ _ hkept⟩
  · have hflushed := hlasts.keeps_transport_flush y hkept
    rcases hflush : Transport.flush.outcome y with ⟨fault | _, z⟩ <;> rw [hflush] at hflushed
    · exact .inl ⟨fault, _, outcome_handle_unflushed filter request hdispatch hflush,
        hlasts.logFailure _ _ _ hflushed⟩
    · exact .inr (.inl ⟨_, _, outcome_handle_body filter request hdispatch hflush,
        hlasts.log _ hflushed⟩)
  · exact .inr (.inr ⟨streaming, y, _, rfl, outcome_handle_stream filter request hdispatch⟩)

end Handle

theorem chunks_note {entry : Entry} (hchunk : entry.chunk? = none) (x : Exchange) :
    (x.note entry).journal.filterMap Entry.chunk? = x.journal.filterMap Entry.chunk? := by
  simp [Exchange.note, hchunk]

/-- No chunk reaches the server by what is done through responses and by applications. -/
theorem lasting_chunks (chunks : List Bytes) :
    Lasting fun x => x.journal.filterMap Entry.chunk? = chunks := by
  refine .of_journal (fun h hjournal => by rw [hjournal, h]) fun x entry hentry h => ?_
  have hchunk : entry.chunk? = none := by
    cases entry <;> first | rfl | cases hentry
  exact (chunks_note hchunk x).trans h

/-- What closing an iterable does after the head is on its way does not reach the server. -/
theorem served_close {starter : Starter} {handed waiting further left : List Bytes}
    (hy : y.Collecting handed waiting) (hcommitted : y.transport.committed = true)
    (hclose : (iterable.close starter).outcome y = (.ok (), w)) (hw : w.Collecting further left) :
    w.served = y.served := by
  have hchunks := (lasting_chunks (y.journal.filterMap Entry.chunk?)).keeps_close
    (fun x h => (chunks_note rfl x).trans h) iterable starter y rfl
  have hhead := (lasting_head y.transport).keeps_close (fun _ h => h) iterable starter y
    ⟨hcommitted, rfl, rfl⟩
  rw [hclose] at hchunks hhead
  rw [hw.chunks_eq, hy.chunks_eq] at hchunks
  rw [hw.served_committed hhead.1, hy.served_committed hcommitted, hchunks, hhead.2.1, hhead.2.2]

/-- A server that consumes a stream to the end gets what the application leaves behind by the time the
iterable is closed. -/
theorem stream_attends (h : Attends i started true x y) (pulled : Nat)
    (hsteps : Answering started (iterable.stepsFrom items ++ iterable.closeSteps))
    (hcloses : iterable.kind = .closing → iterable.closeFails = false) :
    ∃ z w, (consume (.stream ⟨iterable, items, pulled, .response [i], [i]⟩) none).outcome y =
        (.ok (), w) ∧
      (Handler.play filter style request [i] (iterable.script items)).outcome x = (.ok (), z) ∧
      z.context.cachingDisabled = true ∧
      w.served = .responseStarted (Status.line z.transport.status) z.transport.headers.multiItems ::
        (z.transport.writes.flatMap chunks).map .chunk := by
  let s : Streaming := ⟨iterable, items, pulled, .response [i], [i]⟩
  have hnote : Attends i started true x (y.note (.returned false)) := h.note rfl rfl
  obtain ⟨writer, hfollows, hwriter⟩ := hnote
  obtain ⟨w₁, hwaiting, hw₁, -⟩ := deliverWaiting_follows hfollows
  obtain ⟨z, w₂, started', hrest, hx, hw₂, hclosing, hcommitted, hcollecting⟩ := deliverRest_attends
    filter style request ⟨writer, hw₁, hwriter⟩ hsteps pulled s ⟨rfl, rfl, rfl⟩
  obtain ⟨_, z', w, -, hclose, _, hw, -⟩ :=
    (close_attends filter style request hw₂ hclosing hcloses).ends fun _ _ _ h => h
  obtain ⟨_, hw₂, -⟩ := hw₂
  have hclosed : w₂.transport.committed = true := by rw [hw₂.committed_eq, hcommitted]
  obtain ⟨further, left, hlater, -⟩ := hw.delivering
  have hserved : w.served = w₂.served := served_close hcollecting hclosed hclose hlater
  have hrun : (s.run none).outcome (y.note (.returned false)) = (.ok false, w) := by
    unfold Streaming.run
    refine (outcome_bind_ok (outcome_onFault_ok (y := w₂) (v := true) ?_)).trans ?_
    · exact (outcome_bind_ok hwaiting).trans hrest
    · exact outcome_bind_ok hclose
  refine ⟨z, w.note .serverClosed, ?_, hx, hw₂.disabled_eq rfl, ?_⟩
  · show (consume (.stream s) none).outcome y = _
    rw [consume, outcome_bind_ok (outcome_note _ y)]
    exact (outcome_bind_ok (outcome_onFault_ok hrun)).trans rfl
  · rw [served_note, hserved, hcollecting.served_committed hclosed, hw₂.status_eq, hw₂.headers_eq]
    simp [Entry.isServed]

theorem body_delivering {parts : List Bytes} (h : y.Delivering .wsgi parts)
    (hcommitted : y.transport.committed = true) :
    ∃ w, (consume (.body y.transport.chunks) none).outcome y = (.ok (), w) ∧
      w.transport = y.transport ∧
      w.served = .responseStarted (Status.line y.transport.status) y.transport.headers.multiItems ::
        parts.map .chunk := by
  obtain ⟨handed, waiting, hcollecting, hparts⟩ := h
  have hchunks : y.transport.chunks = waiting := by rw [Transport.chunks, hcollecting.medium_eq]
  refine ⟨(y.note (.returned true)).handing waiting, ?_, rfl, ?_⟩
  · rw [hchunks, consume, outcome_bind_ok (outcome_note _ y)]
    show (discard (deliver waiting none)).outcome _ = _
    simp [discard, LawfulFunctor.map_const, outcome_map, outcome_deliver]
  · have hnote : (y.note (.returned true)).served = y.served := by simp [served_note, Entry.isServed]
    rw [served_handing, hnote, hcollecting.served_committed hcommitted, ← hparts, List.map_append]
    rfl

end Middleware

def called (context : Context) (server : Server) (request : Request) : Exchange :=
  (Asgi.entered (freshExchange context .absent server) request).buffered request

theorem outcome_prepare_entered (context : Context) (server : Server) (request : Request) :
    (EtagFilter.prepare request []).outcome
        (Asgi.entered (freshExchange context .absent server) request) =
      (.ok [0], called context server request) :=
  EtagFilter.outcome_prepare_fresh rfl rfl

/-- A dispatch that gives a stream has left the rest of a collection to it. -/
theorem exists_of_dispatch_stream {context : Context} {server : Server} {streaming : Streaming}
    {handler : Starter → Action Iterable}
    (hok : (filter.dispatch .sync request [] (answer handler)).outcome
      (Asgi.entered (freshExchange context .absent server) request) = (.ok (some streaming), y)) :
    ∃ v z w event, (handler (.response [0])).outcome (called context server request) =
        (.ok streaming.iterable, v) ∧
      (streaming.iterable.begin (.response [0])).outcome v = (.ok (), z) ∧
      (collect streaming.iterable (.response [0]) [0] streaming.iterable.items 0).outcome z =
        (.ok (some (streaming.rest, streaming.pulled)), w) ∧ w.context.cachingDisabled = true ∧
      streaming.starter = .response [0] ∧ streaming.response = [0] ∧ y = w.log event := by
  rw [EtagFilter.outcome_dispatch (outcome_prepare_entered context server request)] at hok
  obtain ⟨_, v, hanswer, hconcluded⟩ := exists_of_bind_ok hok
  obtain ⟨_, u, hconclude, hend⟩ := exists_of_bind_ok hconcluded
  cases hend
  obtain ⟨iterable, v₁, hhandler, hbegun⟩ := exists_of_bind_ok hanswer
  obtain ⟨_, z, hbegin, hrest⟩ := exists_of_bind_ok hbegun
  obtain ⟨left, w, hcollect, hleft⟩ := exists_of_bind_ok hrest
  have hcollect := outcome_of_onFault hcollect
  cases left with
  | none =>
      obtain ⟨_, u, -, hflush⟩ := exists_of_bind_ok hleft
      rw [outcome_bind_ok (outcome_get u)] at hflush
      split at hflush
      · obtain ⟨_, _, -, hend⟩ := exists_of_bind_ok hflush
        cases hend
      · cases hflush
  | some left =>
      cases hleft
      have hdisabled := disabled_of_collect hcollect
      obtain ⟨event, hlog⟩ :=
        EtagFilter.outcome_conclude_disabled filter .sync request [0] hdisabled
      rw [hlog] at hconclude
      cases hconclude
      exact ⟨v₁, z, _, event, hhandler, hbegin, hcollect, hdisabled, rfl, rfl, rfl⟩

/-- What the middleware goes on with after its handler and the evaluation are through. -/
theorem outcome_dispatch_concluded {context : Context} {server : Server} {depth : Nat}
    {streaming : Option Streaming}
    (hanswer : (answer (fun starter => call app starter depth) [0]).outcome
      (called context server request) = (.ok streaming, z))
    (hconclude : (filter.conclude .sync request [0]).outcome z = (.ok (), y)) :
    (filter.dispatch .sync request [] (answer fun starter => call app starter depth)).outcome
      (Asgi.entered (freshExchange context .absent server) request) = (.ok streaming, y) := by
  rw [EtagFilter.outcome_dispatch (outcome_prepare_entered context server request),
    outcome_bind_ok hanswer, outcome_bind_ok hconclude]
  rfl

/-- A server gets a whole response once the handler and the evaluation are through. -/
theorem served_of_concluded {environ : Environ} {context : Context} {server : Server} {depth : Nat}
    {parts : List Bytes}
    (hanswer : (answer (fun starter => call app starter depth) [0]).outcome
      (called context server environ.toRequest) = (.ok none, z))
    (hconclude : (filter.conclude .sync environ.toRequest [0]).outcome z = (.ok (), w))
    (hw : w.Delivering .wsgi parts) :
    ∃ y, (exchange filter environ app (depth + 1) none).outcome
        (freshExchange context .absent server) = (.ok (), y) ∧
      y.transport.status = w.transport.status ∧
      y.served = .responseStarted (Status.line w.transport.status) w.transport.headers.multiItems ::
        parts.map .chunk := by
  let request := environ.toRequest
  obtain ⟨u, hflush, hu, hcommits, -⟩ := hw.flush
  have hdispatch := outcome_dispatch_concluded hanswer hconclude
  have hhandle := outcome_handle_body filter request hdispatch hflush
  obtain ⟨y, hconsume, htransport, hserved⟩ := body_delivering
    (hu.log (.processed request.method request.url u.transport.status)) hcommits.committed_eq
  refine ⟨y, (outcome_bind_ok hhandle).trans hconsume, ?_, ?_⟩
  · rw [htransport, log_transport, hcommits.status_eq]
  · rw [hserved, log_transport, hcommits.status_eq, hcommits.headers_eq]

/-- The server of a synchronous application gets what the application leaves on a recorder. -/
theorem served_of_recorded (filter : EtagFilter) (environ : Environ) (happ : app.Answers)
    (hrequests : request.Alike environ.toRequest) (style : CallStyle) (depth : Nat)
    (context : Context) (server : Server) (hrefuses : server.refusesStart = false) :
    ∃ y z, (exchange filter environ app (depth + 1) none).outcome
        (freshExchange context .absent server) = (.ok (), y) ∧
      (Handler.record filter style request app.script).outcome Handler.recording = (.ok (), z) ∧
      y.served = .responseStarted (Status.line z.transport.status) z.transport.headers.multiItems ::
        (z.transport.writes.flatMap chunks).map .chunk := by
  let received := environ.toRequest
  let x₀ := Handler.recording.buffered request
  let y₀ := called context server received
  have hdelivering : y₀.Delivering .wsgi [] :=
    ⟨[], [], ⟨rfl, hrefuses, fun _ => ⟨rfl, rfl, rfl⟩, nofun⟩, rfl⟩
  have hstart : Follows .wsgi none false 0 x₀ y₀ :=
    .start rfl rfl rfl rfl rfl rfl hdelivering request
  rcases answer_attends filter style request ⟨none, hstart, nofun⟩ rfl happ depth with
    ⟨z₁, w₁, writer, hanswer, hplay, hrel⟩ | ⟨rest, pulled, z₁, w₁, started, hanswer, hrun, hrel, hrest⟩
  · obtain ⟨_, z, w, hz, hw, hrel⟩ : ∃ v z w,
        (filter.conclude style request [0]).outcome z₁ = (.ok v, z) ∧
        (filter.conclude .sync received [0]).outcome w₁ = (.ok v, w) ∧
        Follows .wsgi writer false 0 z w :=
      (hrel.conclude hrequests (fun _ => trivial) style .sync).ends fun _ _ _ h => h.1
    obtain ⟨y, hexchange, -, hserved⟩ := served_of_concluded hanswer hw hrel.delivering
    refine ⟨y, z, hexchange, ?_, ?_⟩
    · rw [Handler.outcome_record, outcome_bind_ok hplay, hz]
    · rw [hserved, hrel.status_eq, hrel.headers_eq]
  · have hdisabled : w₁.context.cachingDisabled = true := by
      obtain ⟨_, hfollows, -⟩ := hrel
      rw [hfollows.context_eq, hfollows.disabled_eq rfl]
    obtain ⟨event, hconclude⟩ :=
      EtagFilter.outcome_conclude_disabled filter .sync received [0] hdisabled
    have hdispatch := outcome_dispatch_concluded hanswer hconclude
    have hhandle := outcome_handle_stream filter received hdispatch
    have hlogged : Attends 0 started true z₁
        ((w₁.log event).log (.streaming received.method received.url)) :=
      (hrel.log event).log _
    obtain ⟨z, y, hconsume, hplay, hz, hserved⟩ :=
      stream_attends filter style request hlogged pulled hrest happ.closes
    obtain ⟨last, hlast⟩ := EtagFilter.outcome_conclude_disabled filter style request [0] hz
    refine ⟨y, z.log last, (outcome_bind_ok hhandle).trans hconsume, ?_, hserved⟩
    have hall : (Handler.play filter style request [0] app.script).outcome x₀ = (.ok (), z) := by
      rw [← hplay, Handler.play, Handler.play, outcome_bind, outcome_bind, hrun]
    rw [Handler.outcome_record, outcome_bind_ok hall, hlast]

end Revalidation.Wsgi
