import Revalidation.Proofs.Iteration

/-!
# Stages of a response

What an application produces, and what of it a synchronous server has got, can be told from the
application alone.  A stage says how far a response has come: whether it was started, whether caching is
disabled, whether the buffer has passed on what it held, and the bytes.  Every step takes one stage to
the next one, and the exchange follows as long as the server does not refuse the start.
-/

namespace Revalidation

namespace Wsgi

/-- How far an application has come with its response. -/
structure Stage where
  /-- The response was started, so that the application can write. -/
  started : Bool := false
  /-- Caching is disabled. -/
  disabled : Bool := false
  /-- The buffer has passed on what it held, and what is written later goes straight through it. -/
  passed : Bool := false
  /-- The bytes that were written or came as chunks, in order. -/
  produced : Bytes := []
  /-- Those of them that the server has got. -/
  handed : Bytes := []
  deriving DecidableEq, Repr

namespace Stage

/-- Bytes are written to the response.  The buffer holds them back unless caching is disabled. -/
def write (s : Stage) (data : Bytes) : Stage :=
  { s with passed := s.passed || s.disabled, produced := s.produced ++ data }

def handOver (s : Stage) : Stage := if s.passed then { s with handed := s.produced } else s

def begin (s : Stage) (line : String) : Option Stage :=
  match statusCode line with
  | .error _ => none
  | .ok _ => some { s with started := true }

def step (s : Stage) : Step → Option Stage
  | .start line _ cause => if cause.isSome && s.passed then none else s.begin line
  | .write data => if s.started then some (s.write data) else none
  | .changeContext _ change => some { s with disabled := s.disabled || change = .disableCaching }
  | .fail _ _ => none
  | .attempt inner => some ((s.step inner).getD s)

def run (s : Stage) (steps : List Step) : Option Stage := steps.foldlM step s

def take (s : Stage) (item : Item) : Option Stage := do
  let s ← s.run item.steps
  return if item.chunk.isEmpty then s else s.write item.chunk

/-- Items that a stream asks for.  After a chunk that is not empty the server takes what is there. -/
def stream (s : Stage) : List Item → Option Stage
  | [] => some s
  | item :: rest => do
    let s ← s.take item
    (if item.chunk.isEmpty then s else s.handOver).stream rest

/-- Items that the middleware asks for until caching is disabled, and a stream from then on. -/
def iterate (s : Stage) : List Item → Option Stage
  | [] => none
  | item :: rest => do
    let s ← s.take item
    if s.disabled then s.handOver.stream rest else s.iterate rest

end Stage

/-- The stage of the response when a stream asks for an item and the given number was taken before. -/
def Application.stageAt (app : Application) (pulled : Nat) : Option Stage := do
  let s ← ({} : Stage).run app.opening
  s.iterate (app.result.items.take pulled)

end Wsgi

open Revalidation.Action Exchange Wsgi

variable {x y : Exchange} {s t : Stage} {b c : Buffer} {handed waiting : List Bytes} {step : Step}
  {steps : List Step} {item : Item} {items rest : List Item} {iterable : Iterable} {app : Application}
  {pulled n : Nat} {complete : Bool}

namespace Exchange

/-- The exchange has come to a stage of the response: what was produced has been handed out, waits at
the transport or is held in the buffer. -/
structure AtStage (s : Stage) (b : Buffer) (handed waiting : List Bytes) (x : Exchange) : Prop where
  decorators_eq : x.decorators = [.buffer b]
  forRequest_eq : b.forRequest = true
  copied_eq : b.copied = s.passed
  empty_of_passed : s.passed = true → b.content = []
  collecting : x.Collecting handed waiting
  committed_eq : x.transport.committed = s.passed
  handed_eq : handed.flatten = s.handed
  produced_eq : s.handed ++ (waiting.flatten ++ b.content) = s.produced
  disabled_eq : x.context.cachingDisabled = s.disabled
  attached : x.published = .attached
  writer_eq : x.writer = if s.started then some (.response [0]) else none

/-- The exchange has come to a stage, whatever is where. -/
def Reached (s : Stage) (x : Exchange) : Prop := ∃ b handed waiting, x.AtStage s b handed waiting

namespace AtStage

theorem note (h : x.AtStage s b handed waiting) {entry : Entry} (hserved : entry.isServed = false) :
    (x.note entry).AtStage s b handed waiting :=
  { h with collecting := h.collecting.congr rfl rfl (by simp [served_note, hserved]) }

theorem log (h : x.AtStage s b handed waiting) (event : LogEvent) :
    (x.log event).AtStage s b handed waiting := h.note rfl

theorem decorator_eq (h : x.AtStage s b handed waiting) : x.decorator 0 = .buffer b := by
  rw [decorator, h.decorators_eq]
  rfl

theorem forwarding_eq (h : x.AtStage s b handed waiting) :
    b.forwarding x.context = (s.passed || s.disabled) := by
  rw [Buffer.forwarding, h.copied_eq, h.forRequest_eq, h.disabled_eq, Bool.true_and]

/-- The head of an open transport may change, and a committed one only notes the attempt. -/
theorem changeTransport (h : x.AtStage s b handed waiting) (event : LogEvent)
    {change : Transport → Transport} (hmedium : ∀ t, (change t).medium = t.medium)
    (hcommitted : ∀ t, (change t).committed = t.committed) :
    (x.changeTransport event change).AtStage s b handed waiting := by
  unfold Exchange.changeTransport ignore
  split
  · split
    · exact h.log event
    · exact h
  · next hopen =>
    exact
      { h with
        collecting := h.collecting.setTransport (by simpa using hopen) (hmedium _) (hcommitted _)
        committed_eq := (hcommitted _).trans h.committed_eq }

theorem putBuffer (h : x.AtStage s b handed waiting) (hrequest : c.forRequest = b.forRequest)
    (hcopied : c.copied = b.copied) (hcontent : c.content = b.content) :
    (x.putBuffer 0 c).AtStage s c handed waiting :=
  { h with
    decorators_eq := by simp [Exchange.putBuffer, h.decorators_eq]
    forRequest_eq := hrequest.trans h.forRequest_eq
    copied_eq := hcopied.trans h.copied_eq
    empty_of_passed := fun hpassed => hcontent.trans (h.empty_of_passed hpassed)
    collecting := h.collecting.congr rfl rfl rfl
    produced_eq := by rw [hcontent, h.produced_eq] }

theorem setStatus (h : x.AtStage s b handed waiting) (status : Int) :
    (x.setStatus [0] status).Reached s := by
  simp only [Exchange.setStatus, h.decorator_eq]
  split
  · have htransport : (x.setTransportStatus status).AtStage s b handed waiting :=
      h.changeTransport (.statusIgnored status) (fun _ => rfl) fun _ => rfl
    exact ⟨_, _, _, htransport.putBuffer rfl rfl rfl⟩
  · exact ⟨_, _, _, h.putBuffer rfl rfl rfl⟩

theorem addHeader (h : x.AtStage s b handed waiting) (name value : String) :
    (x.addHeader [0] name value).Reached s := by
  simp only [Exchange.addHeader, h.decorator_eq]
  split
  · exact ⟨_, _, _, h.putBuffer rfl rfl rfl⟩
  · exact ⟨_, _, _, h.changeTransport (.headerIgnored name) (fun _ => rfl) fun _ => rfl⟩

theorem resetHeaders (h : x.AtStage s b handed waiting) : x.resetHeaders.AtStage s b handed waiting :=
  h.changeTransport .resetIgnored (fun _ => rfl) fun _ => rfl

end AtStage

theorem Collecting.copyBuffer (h : x.Collecting handed waiting) (hcopied : b.copied = false) (i : Nat)
    (complete : Bool) :
    ∃ y, (Response.copyBuffer (Response.write []) i b [] complete).outcome x =
        (.ok (), y.putBuffer i b.afterCopy) ∧
      y.Collecting handed (waiting ++ chunks b.content) ∧ Beneath x y := by
  have hbeneath : Beneath x (x.passHead b [] complete) := by
    rw [passHead_transport]
    exact ⟨rfl, rfl, rfl, rfl⟩
  have hhead : (x.passHead b [] complete).Collecting handed waiting := by
    rw [passHead_transport]
    rcases Bool.eq_false_or_eq_true x.transport.committed with hcommitted | hopen
    · have hsame : x.transport.takeHead b complete = x.transport := if_pos hcommitted
      rw [hsame]
      exact h
    · exact h.setTransport hopen (Transport.takeHead_medium _ b complete)
        (Transport.takeHead_committed _ b complete)
  by_cases hempty : b.content = []
  · refine ⟨_, Response.outcome_copyBuffer_empty hcopied hempty, ?_, hbeneath⟩
    rwa [hempty, chunks, if_pos rfl, List.append_nil]
  · let z := (x.passHead b [] complete).log (.copying b.content.length complete)
    have hz : z.Collecting handed waiting := hhead.congr rfl rfl (served_log _)
    have hlogged : Beneath x z := hbeneath.trans ⟨rfl, rfl, rfl, rfl⟩
    obtain ⟨y, hwrite, hy, -, hwritten⟩ := hz.write b.content
    exact ⟨y, Response.outcome_copyBuffer_ok hcopied hempty hwrite, hy, hlogged.trans hwritten⟩

namespace AtStage

theorem copied (h : x.AtStage s b handed waiting) :
    ∃ y c waiting', (Response.copyBuffer (Response.write []) 0 b [] false).outcome x = (.ok (), y) ∧
      y.decorators = [.buffer c] ∧ c.forRequest = true ∧ c.copied = true ∧ c.content = [] ∧
      y.Collecting handed waiting' ∧ s.handed ++ waiting'.flatten = s.produced ∧
      y.context = x.context ∧ y.published = x.published ∧ y.writer = x.writer := by
  have hproduced := h.produced_eq
  rcases Bool.eq_false_or_eq_true s.passed with hpassed | hholds
  · have hcopied : b.copied = true := h.copied_eq.trans hpassed
    rw [h.empty_of_passed hpassed, List.append_nil] at hproduced
    exact ⟨x, b, waiting, Response.outcome_copyBuffer_copied hcopied, h.decorators_eq, h.forRequest_eq,
      hcopied, h.empty_of_passed hpassed, h.collecting, hproduced, rfl, rfl, rfl⟩
  · obtain ⟨y, hcopy, hy, hbeneath⟩ :=
      h.collecting.copyBuffer (h.copied_eq.trans hholds) 0 false
    refine ⟨_, b.afterCopy, _, hcopy, ?_, h.forRequest_eq, rfl, rfl, hy.congr rfl rfl rfl, ?_,
      hbeneath.context_eq, hbeneath.published_eq, hbeneath.writer_eq⟩
    · simp [Exchange.putBuffer, hbeneath.decorators_eq, h.decorators_eq]
    · rw [List.flatten_append, flatten_chunks, hproduced]

/-- What is written counts as produced, and passes the buffer when caching is disabled. -/
theorem responseWrite (h : x.AtStage s b handed waiting) (data : Bytes) :
    ∃ y, (Response.write [0] data).outcome x = (.ok (), y) ∧ y.Reached (s.write data) := by
  have hforwarding := h.forwarding_eq
  rcases Bool.eq_false_or_eq_true (s.passed || s.disabled) with hpasses | hholds
  · rw [hpasses] at hforwarding
    obtain ⟨z, c, waiting', hcopy, hc, hrequest, hcopied, hempty, hz, hproduced, hcontext, hpublished,
      hwriter⟩ := h.copied
    obtain ⟨y, hwrite, hy, htransport, hbeneath⟩ := hz.write data
    refine ⟨y, ?_, c, handed, waiting' ++ chunks data, ?_⟩
    · rw [Response.outcome_write_forwarding h.decorator_eq hforwarding, outcome_bind_ok hcopy]
      exact hwrite
    · exact
        { decorators_eq := hbeneath.decorators_eq.trans hc
          forRequest_eq := hrequest
          copied_eq := hcopied.trans hpasses.symm
          empty_of_passed := fun _ => hempty
          collecting := hy
          committed_eq := by rw [htransport, Stage.write, hpasses]
          handed_eq := h.handed_eq
          produced_eq := by
            rw [Stage.write, hempty, List.append_nil, List.flatten_append, flatten_chunks,
              ← List.append_assoc, hproduced]
          disabled_eq := by rw [hbeneath.context_eq, hcontext, h.disabled_eq]; rfl
          attached := by rw [hbeneath.published_eq, hpublished, h.attached]
          writer_eq := by rw [hbeneath.writer_eq, hwriter, h.writer_eq]; rfl }
  · rw [hholds] at hforwarding
    obtain ⟨hpassed, hdisabled⟩ := Bool.or_eq_false_iff.1 hholds
    refine ⟨_, Response.outcome_write_held h.decorator_eq hforwarding data,
      { b with content := b.content ++ data }, handed, waiting, ?_⟩
    exact
      { h with
        decorators_eq := by simp [Exchange.putBuffer, h.decorators_eq]
        copied_eq := by rw [Stage.write, hholds, ← hpassed, ← h.copied_eq]
        empty_of_passed := fun hpasses => by
          rw [Stage.write, hholds] at hpasses
          cases hpasses
        collecting := h.collecting.congr rfl rfl rfl
        committed_eq := by rw [putBuffer_transport, h.committed_eq, Stage.write, hpassed, hdisabled]; rfl
        produced_eq := by
          rw [Stage.write, ← h.produced_eq, List.append_assoc, List.append_assoc] }

theorem handing (h : x.AtStage s b handed waiting) :
    (x.takeChunks.2.handing x.takeChunks.1).Reached s.handOver := by
  obtain ⟨hcollecting, htransport, hbeneath⟩ := h.collecting.handing
  have hcommitted : (x.takeChunks.2.handing x.takeChunks.1).transport.committed = s.passed := by
    rw [htransport, h.committed_eq]
  rcases Bool.eq_false_or_eq_true s.passed with hpassed | hholds
  · have hstage : s.handOver = { s with handed := s.produced } := if_pos hpassed
    have hproduced := h.produced_eq
    rw [h.empty_of_passed hpassed, List.append_nil] at hproduced
    rw [hstage]
    refine ⟨b, _, _, ⟨hbeneath.decorators_eq.trans h.decorators_eq, h.forRequest_eq, h.copied_eq,
      h.empty_of_passed, hcollecting, hcommitted, ?_, ?_, ?_, ?_, ?_⟩⟩
    · rw [List.flatten_append, h.handed_eq, hproduced]
    · simp [h.empty_of_passed hpassed]
    · rw [hbeneath.context_eq, h.disabled_eq]
    · rw [hbeneath.published_eq, h.attached]
    · rw [hbeneath.writer_eq, h.writer_eq]
  · -- Nothing waits for the server as long as the buffer holds everything back.
    have hstage : s.handOver = s := if_neg (by simp [hholds])
    obtain ⟨-, rfl, rfl⟩ := h.collecting.served_open (h.committed_eq.trans hholds)
    rw [hstage]
    refine ⟨b, _, _, ⟨hbeneath.decorators_eq.trans h.decorators_eq, h.forRequest_eq, h.copied_eq,
      h.empty_of_passed, hcollecting, hcommitted, h.handed_eq, h.produced_eq, ?_, ?_, ?_⟩⟩
    · rw [hbeneath.context_eq, h.disabled_eq]
    · rw [hbeneath.published_eq, h.attached]
    · rw [hbeneath.writer_eq, h.writer_eq]

end AtStage

/-! ## Steps -/

namespace Reached

theorem note (h : x.Reached s) {entry : Entry} (hserved : entry.isServed = false) :
    (x.note entry).Reached s := by
  obtain ⟨b, handed, waiting, h⟩ := h
  exact ⟨b, handed, waiting, h.note hserved⟩

theorem disabled_eq (h : x.Reached s) : x.context.cachingDisabled = s.disabled := by
  obtain ⟨b, handed, waiting, h⟩ := h
  exact h.disabled_eq

theorem addHeaders (h : x.Reached s) (headers : List (String × String)) :
    (headers.foldl (fun x (name, value) => x.addHeader [0] name value) x).Reached s := by
  induction headers generalizing x with
  | nil => exact h
  | cons header rest ih =>
      obtain ⟨b, handed, waiting, h⟩ := h
      exact ih (h.addHeader header.1 header.2)

theorem changeContext (h : x.Reached s) (change : Context.Change) :
    (x.changeContext change).Reached
      { s with disabled := s.disabled || change = .disableCaching } := by
  obtain ⟨b, handed, waiting, h⟩ := h
  have hchange : x.changeContext change = { x with context := x.context.apply change } := by
    rw [Exchange.changeContext, h.attached]
  rw [hchange]
  refine ⟨b, handed, waiting, { h with collecting := h.collecting.congr rfl rfl rfl, disabled_eq := ?_ }⟩
  cases change <;> simp [Context.apply, h.disabled_eq]

end Reached
end Exchange

namespace Wsgi

/-- The action ends without a fault if there is a next stage, and the exchange has come to it then; a
fault leaves the exchange at its stage. -/
def Attains (action : Action Unit) (x : Exchange) (s : Stage) (next : Option Stage) : Prop :=
  (action.outcome x).2.Reached (next.getD s) ∧ (action.outcome x).1.isOk = next.isSome

theorem attains_start_first (h : x.Reached s) (line : String) (headers : List (String × String)) :
    Attains (start (.response [0]) line headers none) x s (s.begin line) := by
  obtain ⟨b, handed, waiting, hstage⟩ := h
  unfold Attains Stage.begin start acceptStart
  cases statusCode line with
  | error fault => exact ⟨⟨b, handed, waiting, hstage⟩, rfl⟩
  | ok code =>
      obtain ⟨c, handed, waiting, hhead⟩ := (hstage.setStatus code).addHeaders headers
      have hlogged := hhead.log (.applicationStarted line)
      refine ⟨⟨c, handed, waiting, ?_⟩, rfl⟩
      exact { hlogged with collecting := hlogged.collecting.congr rfl rfl rfl, writer_eq := rfl }

theorem attains_start (h : x.Reached s) (line : String) (headers : List (String × String))
    (cause : Option Fault) :
    Attains (start (.response [0]) line headers cause) x s (s.step (.start line headers cause)) := by
  cases cause with
  | none =>
      have hstep : s.step (.start line headers none) = s.begin line := if_neg Bool.false_ne_true
      rw [hstep]
      exact attains_start_first h line headers
  | some fault =>
      obtain ⟨b, handed, waiting, hstage⟩ := h
      rcases Bool.eq_false_or_eq_true s.passed with hpassed | hholds
      · have hstart : (start (.response [0]) line headers (some fault)).outcome x =
            (.error fault, x) :=
          outcome_bind_error (outcome_acceptStart_committed (hstage.committed_eq.trans hpassed))
        rw [Attains, hstart, Stage.step, if_pos (by simp [hpassed])]
        exact ⟨⟨b, handed, waiting, hstage⟩, rfl⟩
      · rw [Attains, outcome_start_again (hstage.committed_eq.trans hholds), Stage.step,
          if_neg (by simp [hholds])]
        exact attains_start_first ⟨b, handed, waiting, hstage.resetHeaders⟩ line headers

theorem attains_write (h : x.Reached s) (data : Bytes) :
    Attains (write data) x s (s.step (.write data)) := by
  obtain ⟨b, handed, waiting, hstage⟩ := h
  have hwriter := hstage.writer_eq
  rw [Stage.step]
  cases hstarted : s.started with
  | false =>
      rw [hstarted, if_neg Bool.false_ne_true] at hwriter
      have hwrite : (write data).outcome x = (.error .noWriter, x) := by
        simp only [write, outcome_bind, outcome_get, hwriter, outcome_throw]
      rw [Attains, hwrite, if_neg Bool.false_ne_true]
      exact ⟨⟨b, handed, waiting, hstage⟩, rfl⟩
  | true =>
      rw [hstarted, if_pos rfl] at hwriter
      have hwrite : (write data).outcome x = (Response.write [0] data).outcome x := by
        simp only [write, outcome_bind, outcome_get, hwriter]
      obtain ⟨y, hok, hy⟩ := hstage.responseWrite data
      rw [Attains, hwrite, hok, if_pos rfl]
      exact ⟨hy, rfl⟩

/-- A step attains the next stage. -/
theorem attains_runStep (h : x.Reached s) (step : Step) :
    Attains (runStep (.response [0]) step) x s (s.step step) := by
  induction step generalizing x with
  | start line headers cause => exact attains_start (h.note rfl) line headers cause
  | write data => exact attains_write (h.note rfl) data
  | changeContext name change => exact ⟨(h.note rfl).changeContext change, rfl⟩
  | fail kind text => exact ⟨h.note rfl, rfl⟩
  | attempt inner ih =>
      have hnote : (x.note (.step (Step.attempt inner).name)).Reached s := h.note rfl
      have hinner := ih hnote
      have hattempt : (runStep (.response [0]) (.attempt inner)).outcome x =
          (Action.attempt (runStep (.response [0]) inner)).outcome
            (x.note (.step (Step.attempt inner).name)) := by
        rw [runStep, outcome_bind_ok (outcome_note _ x)]
      rw [Attains, hattempt, Action.attempt, outcome_tryCatch]
      rcases hrun : (runStep (.response [0]) inner).outcome (x.note (.step (Step.attempt inner).name))
        with ⟨fault | _, y⟩ <;> rw [Attains, hrun] at hinner
      · exact ⟨hinner.1.note rfl, rfl⟩
      · exact ⟨hinner.1, rfl⟩

theorem reached_run (h : x.Reached s) (hok : (run (.response [0]) steps).outcome x = (.ok (), y)) :
    ∃ t, s.run steps = some t ∧ y.Reached t := by
  induction steps generalizing x s with
  | nil =>
      cases hok
      exact ⟨s, rfl, h⟩
  | cons step rest ih =>
      obtain ⟨_, z, hfirst, hrest⟩ := exists_of_bind_ok hok
      obtain ⟨hz, hsome⟩ := attains_runStep h step
      rw [hfirst] at hz hsome
      obtain ⟨t, ht⟩ := Option.isSome_iff_exists.1 hsome.symm
      rw [ht] at hz
      obtain ⟨u, hu, hy⟩ := ih hz hrest
      exact ⟨u, by rw [Stage.run, List.foldlM_cons, ht]; exact hu, hy⟩

/-! ## Items -/

theorem reached_call (h : x.Reached s) {depth : Nat} {result : Iterable}
    (hok : (call app (.response [0]) depth).outcome x = (.ok result, y)) :
    ∃ t, s.run app.steps = some t ∧ y.Reached t := by
  induction depth generalizing x with
  | zero =>
      obtain ⟨_, z, hrun, hend⟩ := exists_of_bind_ok hok
      cases hend
      exact reached_run h hrun
  | succ depth ih =>
      rw [call, outcome_bind_ok (outcome_log _ x)] at hok
      exact ih (h.note rfl) hok

theorem reached_opening (h : x.Reached s) {z : Exchange} {depth : Nat}
    (hcall : (call app (.response [0]) depth).outcome x = (.ok app.result, y))
    (hbegin : (app.result.begin (.response [0])).outcome y = (.ok (), z)) :
    ∃ t, s.run app.opening = some t ∧ z.Reached t := by
  obtain ⟨t, ht, hy⟩ := reached_call h hcall
  obtain ⟨u, hu, hz⟩ := reached_run hy hbegin
  refine ⟨u, ?_, hz⟩
  rw [Stage.run] at ht hu ⊢
  rw [Application.opening, List.foldlM_append, ht]
  exact hu

theorem reached_take {z : Exchange} (h : x.Reached s)
    (hpull : (item.pull (.response [0]) pulled).outcome x = (.ok item.chunk, y))
    (hwrite : (if item.chunk.isEmpty then pure () else Response.write [0] item.chunk).outcome y =
      (.ok (), z)) :
    ∃ t, s.take item = some t ∧ z.Reached t := by
  obtain ⟨t, ht, b, handed, waiting, hy⟩ :=
    reached_run (h.note rfl) (exists_of_pull hpull).2
  rw [Stage.take, ht, Option.bind_eq_bind, Option.bind_some]
  cases hempty : item.chunk.isEmpty with
  | true =>
      rw [hempty] at hwrite
      cases hwrite
      exact ⟨t, rfl, b, handed, waiting, hy⟩
  | false =>
      rw [hempty] at hwrite
      obtain ⟨w, hok, hw⟩ := hy.responseWrite item.chunk
      have hsame : w = z := congrArg Prod.snd (hok.symm.trans hwrite)
      exact ⟨t.write item.chunk, rfl, hsame ▸ hw⟩

/-- A collection that leaves items over has come to the stage at which they are streamed. -/
theorem reached_collect (h : x.Reached s)
    (hok : (collect iterable (.response [0]) [0] items pulled).outcome x =
      (.ok (some (rest, n)), y)) :
    ∃ taken t, items = taken ++ rest ∧ n = pulled + taken.length ∧ y.Reached t ∧
      ∀ asked, s.iterate (taken ++ asked) = t.handOver.stream asked := by
  induction items generalizing x s pulled with
  | nil =>
      obtain ⟨_, _, -, hend⟩ := exists_of_bind_ok hok
      cases hend
  | cons item further ih =>
      obtain ⟨z, w, hpull, hwrite, hend⟩ := exists_of_collect_cons hok
      obtain ⟨t, ht, hw⟩ := reached_take h hpull hwrite
      split at hend
      · next hdisabled =>
        obtain ⟨hleft, rfl⟩ := hend
        cases hleft
        refine ⟨[item], t, rfl, rfl, hw, fun asked => ?_⟩
        have ht' : t.disabled = true := hw.disabled_eq.symm.trans hdisabled
        rw [List.singleton_append, Stage.iterate, ht, Option.bind_eq_bind, Option.bind_some, if_pos ht']
      · next henabled =>
        obtain ⟨taken, u, hitems, hn, hy, hasked⟩ := ih hw hend
        refine ⟨item :: taken, u, by rw [hitems]; rfl, by rw [hn, List.length_cons]; omega, hy,
          fun asked => ?_⟩
        have ht' : ¬t.disabled = true := fun ht' => henabled (hw.disabled_eq.trans ht')
        rw [List.cons_append, Stage.iterate, ht, Option.bind_eq_bind, Option.bind_some, if_neg ht']
        exact hasked asked

end Wsgi
end Revalidation
