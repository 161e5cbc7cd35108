import Revalidation.Proofs.Answer
import Revalidation.Proofs.Restart

/-!
# What a restart leaves over

An application that starts its response over gets to the server just as if it had made the last start
only, with one exception: if that start gives no content length and no body follows, then the buffer
passes on the content length of an earlier start.
-/

namespace Revalidation

open Revalidation.Action Exchange Wsgi

variable {x y : Exchange} {server : Server} {b : Buffer} {t : Transport} {p : Progress}
  {length? extra : Option String} {entry : Entry} {items : List Item} {iterable : Iterable}
  {filter : EtagFilter} {request : Request}

/-! ## Applications with the same last start -/

namespace Wsgi

theorem run_append (starter : Starter) (steps rest : List Step) :
    run starter (steps ++ rest) = (do
      run starter steps
      run starter rest) := by
  simp [run]

theorem run_singleton (starter : Starter) (step : Step) : run starter [step] = runStep starter step := by
  simp [run]

/-- An application that starts its response any number of times, the last time because of a fault. -/
structure Restart where
  /-- The steps before the last start. -/
  earlier : List Step
  line : String
  headers : List (String × String)
  cause : Fault
  /-- The steps after the last start. -/
  later : List Step
  result : Iterable

namespace Restart

variable (r : Restart)

def restarting : Application :=
  ⟨r.earlier ++ .start r.line r.headers (some r.cause) :: r.later, r.result⟩

def starting : Application := ⟨.start r.line r.headers none :: r.later, r.result⟩

def bodySteps : List Step := r.later ++ r.result.bodySteps

/-- The steps before the last start only start the response, and those after it leave the head as it is
and caching enabled. -/
structure Proper : Prop where
  earlier : ∀ step ∈ r.earlier, step.onlyStarts false = true
  body : ∀ step ∈ r.bodySteps, step.leavesHead = true

/-- The content length that the starts leave in the buffer: the last one that any of them gave. -/
def heldLength? : Option String :=
  (lastLength? (startCalls r.headers (statusCode r.line))).or
    (lastLength? (r.earlier.flatMap Step.headCalls))

variable {r}

/-- After the last start the two exchanges are abreast, unless its status line gives no code. -/
theorem starts_abreast (hr : r.Proper) (h : x.Opening server none) (htransport : x.transport = .wsgi) :
    EndAlike
      (fun z w => ∃ code, statusCode r.line = .ok code ∧ Abreast server
        (headTransport r.headers code) (headBuffer r.headers code) r.heldLength? {} z w)
      (fun _ => Unserved) (runStep (.response [0]) (.start r.line r.headers none)) x
      (run (.response [0]) (r.earlier ++ [.start r.line r.headers (some r.cause)])) x := by
  obtain ⟨y, hearlier, hy⟩ := h.run hr.earlier
  rw [Option.or_none] at hy
  let noted (x : Exchange) : Exchange := x.note (.step "start")
  have hnoted : (noted x).Opening server none := h.note rfl
  have hagain : (noted y).Opening server (lastLength? (r.earlier.flatMap Step.headCalls)) := hy.note rfl
  have hfirst : (runStep (.response [0]) (.start r.line r.headers none)).outcome x =
      (start (.response [0]) r.line r.headers none).outcome (noted x) :=
    outcome_bind_ok (outcome_note _ x)
  have hlast : (run (.response [0]) (r.earlier ++ [.start r.line r.headers (some r.cause)])).outcome x =
      (start (.response [0]) r.line r.headers none).outcome (noted y).resetHeaders := by
    rw [run_append, outcome_bind_ok hearlier, run_singleton, ← outcome_start_again hagain.committed_eq]
    exact outcome_bind_ok (outcome_note _ y)
  obtain ⟨hreset, hwsgi⟩ := hagain.resetHeaders
  refine EndAlike.of_outcome ?_ hfirst hlast
  cases hcode : statusCode r.line with
  | error fault =>
      exact .fault (outcome_start_unreadable hcode _ _) (outcome_start_unreadable hcode _ _)
        ⟨hnoted.served_eq, hreset.served_eq⟩
  | ok code =>
      obtain ⟨z, hz, -, hx⟩ := hnoted.start hcode r.headers
      obtain ⟨w, hw, -, hy⟩ := hreset.start hcode r.headers
      have hheld : r.heldLength? = (lastLength? (startCalls r.headers (.ok code))).or
          (lastLength? (r.earlier.flatMap Step.headCalls)) := by
        rw [heldLength?, hcode]
      exact .value hz hw ⟨code, rfl, hx htransport, hheld ▸ hy hwsgi⟩

end Restart

/-- What the middleware does with the iterable that an application returned. -/
def gather (response : Response) (iterable : Iterable) : Action (Option Streaming) := do
  let starter := Starter.response response
  iterable.begin starter
  let left ← (collect iterable starter response iterable.items 0).onFault fun _ =>
    iterable.close starter
  match left with
  | some (rest, pulled) => return some ⟨iterable, rest, pulled, starter, response⟩
  | none =>
    iterable.close starter
    if (← get).context.cachingDisabled then response.flush
    return none

theorem answer_eq (handler : Starter → Action Iterable) (response : Response) :
    answer handler response = handler (.response response) >>= gather response := rfl

theorem gather_abreast (h : Abreast server t b length? p x y)
    (hsteps : ∀ step ∈ iterable.bodySteps, step.leavesHead = true) :
    EndAlike (Abreast server t b length? (p.run iterable.bodySteps))
      (fun _ => Together server t b length?) (gather [0] iterable) x (gather [0] iterable) y := by
  unfold Iterable.bodySteps at hsteps ⊢
  rw [List.forall_mem_append, List.forall_mem_append] at hsteps
  obtain ⟨hfirst, hitems, hclose⟩ := hsteps
  rw [Progress.run_append, Progress.run_append]
  refine EndAlike.bind (h.run hfirst) fun _ z w hrel => ?_
  have hclosed (fault : Fault) (z w : Exchange) (hfailed : Together server t b length? z w) :
      EndAlike (Together server t b length?) (fun _ => Together server t b length?)
        (iterable.close (.response [0])) z (iterable.close (.response [0])) w := by
    obtain ⟨_, hfailed⟩ := hfailed
    exact (hfailed.close hclose).mono (fun _ _ h => ⟨_, h⟩) fun _ _ _ h => h
  refine ((hrel.collect hitems 0).onFault hclosed).bind_of_ok fun left z w hz hrel => ?_
  cases left with
  | some left =>
      have hdisabled := disabled_of_collect (outcome_of_onFault hz)
      rw [hrel.1.context_eq, hrel.1.enabled] at hdisabled
      cases hdisabled
  | none =>
      refine (hrel.close hclose).bind fun _ _ _ hrel => .read ?_
      rw [hrel.1.context_eq, hrel.2.context_eq, hrel.1.enabled, if_neg Bool.false_ne_true]
      exact .pure hrel none

theorem outcome_call (h : x.Opening server length?) (starter : Starter) (depth : Nat) :
    ∃ z : Exchange, z.Opening server length? ∧ z.transport = x.transport ∧ ∀ app : Application,
      (call app starter depth).outcome x =
        (do
          run starter app.steps
          return app.result).outcome z := by
  induction depth generalizing x with
  | zero => exact ⟨x, h, rfl, fun app => rfl⟩
  | succ depth ih =>
      have hlog : (x.log .passingThrough).Opening server length? := h.note rfl
      obtain ⟨z, hz, htransport, hcall⟩ := ih hlog
      exact ⟨z, hz, htransport, fun app => (outcome_bind_ok (outcome_log _ x)).trans (hcall app)⟩

theorem opening_called (context : Context) (server : Server) (request : Request) :
    (called context server request).Opening server none where
  buffer := ⟨{ forRequest := true }, rfl, rfl, rfl, rfl, rfl⟩
  transport_eq := rfl
  context_eq := rfl
  attached := rfl
  server_eq := rfl
  served_eq := rfl

/-- The middleware has gathered the same from both applications before it evaluates it, but for the content
length that is held back. -/
theorem answer_abreast {r : Restart} (hr : r.Proper) (context : Context) (server : Server)
    (request : Request) (depth : Nat) :
    EndAlike
      (fun z w => ∃ code, statusCode r.line = .ok code ∧ Abreast server
        (headTransport r.headers code) (headBuffer r.headers code) r.heldLength?
        (({} : Progress).run r.bodySteps) z w)
      (fun _ => Unserved)
      (answer (fun starter => call r.starting starter depth) [0]) (called context server request)
      (answer (fun starter => call r.restarting starter depth) [0]) (called context server request) := by
  have hbody := hr.body
  rw [Restart.bodySteps, List.forall_mem_append] at hbody
  obtain ⟨x, hx, htransport, hcall⟩ :=
    outcome_call (opening_called context server request) (.response [0]) depth
  have hanswer (app : Application) (steps : List Step) (hsteps : app.steps = steps ++ r.later)
      (hresult : app.result = r.result) :
      (answer (fun starter => call app starter depth) [0]).outcome (called context server request) =
        (do
          run (.response [0]) steps
          run (.response [0]) r.later
          gather [0] r.result).outcome x := by
    rw [answer_eq, outcome_bind, hcall, ← outcome_bind, hsteps, hresult, run_append]
    simp only [bind_assoc, pure_bind]
  refine EndAlike.of_outcome ?_ (hanswer r.starting [.start r.line r.headers none] rfl rfl)
    (hanswer r.restarting (r.earlier ++ [.start r.line r.headers (some r.cause)])
      (by simp [Restart.restarting]) rfl)
  rw [run_singleton]
  refine (Restart.starts_abreast hr hx htransport).bind fun _ z w hrel => ?_
  obtain ⟨code, hcode, hrel⟩ := hrel
  have hlater := (hrel.run hbody.1).mono (fun _ _ h => h) fun _ _ _ h => h.unserved
  refine hlater.bind fun _ z w hrel => ?_
  refine (gather_abreast hrel hbody.2).mono (fun _ _ h => ⟨code, hcode, ?_⟩) fun _ _ _ h => h.unserved
  rwa [Restart.bodySteps, Progress.run_append]

end Wsgi

/-! ## What the server hears -/

/-- An entry with a content length as a further header, if it is the start of a response. -/
def Entry.withLength (length? : Option String) : Entry → Entry
  | responseStarted line headers => responseStarted line (headers ++ lengthField length?)
  | entry => entry

theorem Entry.isServed_withLength : (entry.withLength length?).isServed = entry.isServed := by
  cases entry <;> rfl

namespace Exchange

/-- The server gets from the second exchange what it gets from the first one, and a content length as
a further header if there is one. -/
def Heard (length? : Option String) (x y : Exchange) : Prop :=
  y.served = x.served.map (Entry.withLength length?)

theorem Heard.log (h : Heard length? x y) (event other : LogEvent) :
    Heard length? (x.log event) (y.log other) := by
  rw [Heard, served_log, served_log, h]

theorem Heard.logFailure (h : Heard length? x y) (method url : String) (fault : Fault) :
    Heard length? (x.logFailure method url fault) (y.logFailure method url fault) := by
  unfold Exchange.logFailure
  split
  · exact h.log _ _
  · exact h

theorem Unserved.heard (h : Unserved x y) (length? : Option String) : Heard length? x y := by
  rw [Heard, h.1, h.2]
  rfl

/-- The transports of two exchanges are alike to the server, but for a content length that the second
one has as a further header. -/
structure Echo (length? : Option String) (x y : Exchange) : Prop where
  collects : ∃ chunks, x.transport.medium = .wsgi chunks
  medium_eq : y.transport.medium = x.transport.medium
  status_eq : y.transport.status = x.transport.status
  committed_eq : y.transport.committed = x.transport.committed
  items_eq : y.transport.headers.multiItems =
    x.transport.headers.multiItems ++ lengthField length?
  server_eq : y.server = x.server
  enabled : x.context.cachingDisabled = false
  heard : Heard length? x y

namespace Echo

theorem note (h : Echo length? x y) (entry : Entry) :
    Echo length? (x.note entry) (y.note (entry.withLength length?)) :=
  { h with
    heard := by
      rw [Heard, served_note, served_note, Entry.isServed_withLength, List.map_append, h.heard]
      split <;> rfl }

theorem log (h : Echo length? x y) (event other : LogEvent) :
    Echo length? (x.log event) (y.log other) := { h with heard := h.heard.log event other }

theorem putBuffer (h : Echo length? x y) (i : Nat) (b c : Buffer) :
    Echo length? (x.putBuffer i b) (y.putBuffer i c) := { h with }

theorem startResponse (h : Echo length? x y) (line : String) (headers : List (String × String)) :
    EndAlike (Echo length?) (fun _ => Echo length?) (Transport.startResponse line headers) x
      (Transport.startResponse line (headers ++ lengthField length?)) y := by
  refine .read ?_
  rw [h.server_eq]
  have hstarted {z w : Exchange} (h : Echo length? z w) :
      EndAlike (Echo length?) (fun _ => Echo length?)
        (Action.note (.responseStarted line headers)) z
        (Action.note (.responseStarted line (headers ++ lengthField length?))) w :=
    .modify (h.note (.responseStarted line headers))
  have hrefused : EndAlike (Echo length?) (fun _ => Echo length?) (Action.note .startFailed) x
      (Action.note .startFailed) y := .modify (h.note .startFailed)
  split
  · exact hrefused.bind fun _ _ _ hrel => EndAlike.bind (.throw hrel) fun _ _ _ hrel => hstarted hrel
  · exact hstarted h

theorem announce (h : Echo length? x y) :
    EndAlike (Echo length?) (fun _ => Echo length?) (Transport.announce .wsgi) x
      (Transport.announce .wsgi) y := by
  have hcommitted : Echo length? { x with transport := { x.transport with committed := true } }
      { y with transport := { y.transport with committed := true } } :=
    { h with committed_eq := rfl }
  refine .read (EndAlike.bind (.modify hcommitted) fun _ z w hrel => ?_)
  dsimp only
  rw [h.status_eq, h.items_eq]
  exact (hrel.startResponse _ _).bind fun _ _ _ hrel => .modify (hrel.log _ _)

theorem flush (h : Echo length? x y) :
    EndAlike (Echo length?) (fun _ => Echo length?) Transport.flush x Transport.flush y := by
  obtain ⟨chunks, hmedium⟩ := h.collects
  refine .read ?_
  dsimp only
  rw [h.medium_eq, hmedium, h.committed_eq]
  cases x.transport.committed with
  | true => exact .pure h ()
  | false => exact h.announce

theorem write (h : Echo length? x y) (data : Bytes) :
    EndAlike (Echo length?) (fun _ => Echo length?) (Transport.write data) x
      (Transport.write data) y := by
  obtain ⟨chunks, hmedium⟩ := h.collects
  refine .read ?_
  dsimp only
  rw [h.medium_eq, hmedium]
  refine h.flush.bind fun _ z w hrel => ?_
  cases data.isEmpty with
  | true => exact .pure hrel ()
  | false => exact .modify { hrel with collects := ⟨_, rfl⟩, medium_eq := rfl }

end Echo
end Exchange

/-! ## The evaluation -/

def Buffer.leftover (b : Buffer) (length? : Option String) : Option String :=
  if b.content = [] ∧ b.contentLength = none then length? else none

/-- The headers after two buffers that have the same body and may have different content lengths. -/
theorem Headers.multiItems_passedLength {headers : Headers}
    (hmissing : headers.getList? contentLengthName = none)
    (hlength : b.contentLength = none ∨ length? = b.contentLength) :
    (headers.withLength ({ b with contentLength := length? }.passedLength true)).multiItems =
      (headers.withLength (b.passedLength true)).multiItems ++ lengthField (b.leftover length?) := by
  unfold Buffer.passedLength Buffer.leftover
  by_cases hempty : b.content = []
  · simp only [hempty, List.isEmpty_nil, Bool.not_true, Bool.and_false, Bool.false_eq_true, if_false,
      true_and]
    rcases hlength with hnone | hsame
    · rw [hnone, if_pos rfl]
      exact multiItems_withLength_last hmissing length?
    · rw [hsame]
      split
      · next hnone =>
        rw [hnone]
        exact (List.append_nil _).symm
      · exact (List.append_nil _).symm
  · simp [hempty, lengthField]

namespace Exchange

/-- Nothing has been sent from either exchange, and their transports are the same. -/
structure Level (x y : Exchange) : Prop where
  collects : ∃ chunks, x.transport.medium = .wsgi chunks
  open_eq : x.transport.committed = false
  lengthless : x.transport.headers.getList? contentLengthName = none
  transport_eq : y.transport = x.transport
  server_eq : y.server = x.server
  enabled : x.context.cachingDisabled = false
  unserved : Unserved x y

namespace Level

theorem log (h : Level x y) (event other : LogEvent) : Level (x.log event) (y.log other) :=
  { h with unserved := by simpa [Unserved] using h.unserved }

theorem echo (h : Level x y) : Echo none x y where
  collects := h.collects
  medium_eq := by rw [h.transport_eq]
  status_eq := by rw [h.transport_eq]
  committed_eq := by rw [h.transport_eq]
  items_eq := by
    rw [h.transport_eq]
    exact (List.append_nil _).symm
  server_eq := h.server_eq
  enabled := h.enabled
  heard := h.unserved.heard none

theorem passHead (h : Level x y) (hlength : b.contentLength = none ∨ length? = b.contentLength) :
    Echo (b.leftover length?) (x.passHead b [] true)
      (y.passHead { b with contentLength := length? } [] true) := by
  have hopen : y.transport.committed = false := by rw [h.transport_eq, h.open_eq]
  rw [passHead_transport, passHead_transport]
  exact
    { collects := by simpa using h.collects
      medium_eq := by simp [h.transport_eq]
      status_eq := by simp [Transport.takeHead, h.transport_eq, h.open_eq]
      committed_eq := by simp [h.transport_eq]
      items_eq := by
        show (y.transport.takeHead _ true).headers.multiItems =
          (x.transport.takeHead b true).headers.multiItems ++ _
        rw [Transport.takeHead_headers hopen, Transport.takeHead_headers h.open_eq, h.transport_eq]
        exact Headers.multiItems_passedLength h.lengthless hlength
      server_eq := h.server_eq
      enabled := h.enabled
      heard := h.unserved.heard _ }

theorem copyBody (h : Level x y) (hx : x.decorator 0 = .buffer b)
    (hy : y.decorator 0 = .buffer { b with contentLength := length? }) (hcopied : b.copied = false)
    (hlength : b.contentLength = none ∨ length? = b.contentLength) :
    EndAlike (Echo (b.leftover length?)) (fun _ => Echo (b.leftover length?))
      (Response.copyBody [0] true) x (Response.copyBody [0] true) y := by
  let c : Buffer := { b with contentLength := length? }
  have hcopy (d : Buffer) (hd : d.copied = false) :
      Response.copyBuffer (Response.write []) 0 d [] true = (do
        modify fun x => x.passHead d [] true
        if !d.content.isEmpty then
          Action.log (.copying d.content.length true)
          Response.write [] d.content
        modify fun x => x.putBuffer 0 d.afterCopy) := by
    unfold Response.copyBuffer
    rw [hd, if_neg Bool.false_ne_true]
    rfl
  refine EndAlike.of_outcome ?_ (Response.outcome_copyBody_buffer hx)
    (Response.outcome_copyBody_buffer hy)
  rw [hcopy b hcopied, hcopy c hcopied]
  have hhead : EndAlike (Echo (b.leftover length?)) (fun _ => Echo (b.leftover length?))
      (modify fun x => x.passHead b [] true) x (modify fun x => x.passHead c [] true) y :=
    .modify (h.passHead hlength)
  have hdone {z w : Exchange} (hrel : Echo (b.leftover length?) z w) :
      EndAlike (Echo (b.leftover length?)) (fun _ => Echo (b.leftover length?))
        (modify fun x => x.putBuffer 0 b.afterCopy) z (modify fun x => x.putBuffer 0 c.afterCopy) w :=
    .modify (hrel.putBuffer 0 _ _)
  have hlog {z w : Exchange} (hrel : Echo (b.leftover length?) z w) :
      EndAlike (Echo (b.leftover length?)) (fun _ => Echo (b.leftover length?))
        (Action.log (.copying b.content.length true)) z
        (Action.log (.copying b.content.length true)) w := .modify (hrel.log _ _)
  refine hhead.bind fun _ z w hrel => ?_
  cases hempty : b.content.isEmpty with
  | true => exact hdone hrel
  | false =>
      simp only [c, Bool.not_false, if_true]
      exact (hlog hrel).bind fun _ _ _ hrel =>
        (hrel.write b.content).bind fun _ _ _ hrel => hdone hrel

theorem setTransport (h : Level x y) {u : Transport} (hmedium : u.medium = x.transport.medium)
    (hopen : u.committed = false) (hlengthless : u.headers.getList? contentLengthName = none) :
    Level { x with transport := u } { y with transport := u } :=
  { h with
    collects := by simpa [hmedium] using h.collects
    open_eq := hopen
    lengthless := hlengthless
    transport_eq := rfl }

theorem setTag (h : Level x y) (tag : String) :
    Level { x with transport := x.transport.setTag tag } { y with transport := y.transport.setTag tag } := by
  have hne : Text.lower "ETag" ≠ Text.lower contentLengthName := by decide
  rw [h.transport_eq]
  exact h.setTransport rfl h.open_eq ((Headers.getList?_set_ne hne).trans h.lengthless)

theorem setUnmodified (h : Level x y) (tag : String) :
    Level { x with transport := x.transport.setUnmodified tag }
      { y with transport := y.transport.setUnmodified tag } := by
  have htag := h.setTag tag
  rw [h.transport_eq] at htag ⊢
  exact htag.setTransport rfl htag.open_eq htag.lengthless

theorem evaluate (h : Level x y) (hx : x.decorator 0 = .buffer b)
    (hy : y.decorator 0 = .buffer { b with contentLength := length? }) (hcopied : b.copied = false)
    (hlength : b.contentLength = none ∨ length? = b.contentLength) (filter : EtagFilter)
    (request : Request) :
    let left := if filter.NotModified request x.transport b then none else b.leftover length?
    EndAlike (Echo left) (fun _ => Echo left) (filter.evaluate request 0 []) x
      (filter.evaluate request 0 []) y := by
  let c : Buffer := { b with contentLength := length? }
  have hopen : y.transport.committed = false := by rw [h.transport_eq, h.open_eq]
  by_cases hmatch : filter.NotModified request x.transport b
  · have hother : filter.NotModified request y.transport c := by
      rw [h.transport_eq]
      exact hmatch
    rw [if_pos hmatch]
    exact .value (EtagFilter.outcome_evaluate_notModified hx hmatch)
      (EtagFilter.outcome_evaluate_notModified hy hother)
      (((h.setUnmodified _).log _ _).echo.putBuffer 0 _ _)
  · rw [if_neg hmatch]
    have hsame : filter.accepts request y.transport c = filter.accepts request x.transport b := by
      rw [h.transport_eq]
      rfl
    rcases Bool.eq_false_or_eq_true (filter.accepts request x.transport b) with haccepts | hrefuses
    · have hdiffers : ¬filter.Matches request b.content := fun hm => hmatch ⟨h.open_eq, haccepts, hm⟩
      have hother : ¬filter.Matches request c.content := hdiffers
      have hcopies := EtagFilter.outcome_evaluate_modified hy hopen (hsame.trans haccepts) hother
      exact (((h.setTag _).log _ _).copyBody hx hy hcopied hlength).of_outcome
        (EtagFilter.outcome_evaluate_modified hx h.open_eq haccepts hdiffers) hcopies
    · exact ((h.log _ _).copyBody hx hy hcopied hlength).of_outcome
        (EtagFilter.outcome_evaluate_ineligible hx h.open_eq hrefuses)
        (EtagFilter.outcome_evaluate_ineligible hy hopen (hsame.trans hrefuses))

end Level

theorem Abreast.conclude (h : Abreast server t b length? p x y) (hmedium : t.medium = .wsgi [])
    (hopen : t.committed = false) (hlengthless : t.headers.getList? contentLengthName = none)
    (hlength : b.contentLength = none ∨ length? = b.contentLength) (filter : EtagFilter)
    (request : Request) :
    let body : Buffer := { b with content := p.content }
    let left := if p.context.asyncStarted = true ∨ filter.NotModified request t body then none
      else body.leftover length?
    EndAlike (Echo left) (fun _ => Echo left) (filter.conclude .sync request [0]) x
      (filter.conclude .sync request [0]) y := by
  intro body left
  obtain ⟨hx, hy⟩ := h
  have hlevel : Level x y :=
    { collects := ⟨[], by rw [hx.transport_eq, hmedium]⟩
      open_eq := by rw [hx.transport_eq, hopen]
      lengthless := by rw [hx.transport_eq, hlengthless]
      transport_eq := by rw [hy.transport_eq, hx.transport_eq]
      server_eq := by rw [hy.server_eq, hx.server_eq]
      enabled := by rw [hx.context_eq, hx.enabled]
      unserved := ⟨hx.served_eq, hy.served_eq⟩ }
  have hcontexts : y.context = x.context := by rw [hy.context_eq, hx.context_eq]
  rcases Bool.eq_false_or_eq_true p.context.asyncStarted with hasync | hawake
  · have hnone : left = none := if_pos (.inl hasync)
    rw [hnone]
    have hdeferred : x.context.asyncStarted = true := by rw [hx.context_eq, hasync]
    exact .value (EtagFilter.outcome_conclude_deferred hdeferred)
      (EtagFilter.outcome_conclude_deferred (hcontexts ▸ hdeferred)) (hlevel.log _ _).echo
  · have hevaluated : x.context.asyncStarted = false := by rw [hx.context_eq, hawake]
    have hleft : left = if filter.NotModified request x.transport body then none
        else body.leftover length? := by
      simp only [left, hawake, Bool.false_eq_true, false_or, hx.transport_eq]
    rw [hleft]
    exact (hlevel.evaluate hx.decorator_eq hy.decorator_eq hx.copied_eq hlength filter request).of_outcome
      (EtagFilter.outcome_conclude_evaluate hx.decorator_eq hevaluated hlevel.enabled)
      (EtagFilter.outcome_conclude_evaluate hy.decorator_eq (hcontexts ▸ hevaluated)
        (hcontexts ▸ hlevel.enabled))

/-! ## The server -/

namespace Echo

theorem deliver (h : Echo length? x y) (chunks : List Bytes) (appetite : Appetite) :
    EndAlike (Echo length?) (fun _ => Echo length?) (Wsgi.deliver chunks appetite) x
      (Wsgi.deliver chunks appetite) y := by
  induction chunks generalizing x y appetite with
  | nil => exact .pure h (some appetite)
  | cons chunk rest ih =>
      have hnote : EndAlike (Echo length?) (fun _ => Echo length?) (Action.note (.chunk chunk)) x
          (Action.note (.chunk chunk)) y := .modify (h.note (.chunk chunk))
      refine hnote.bind fun _ _ _ hrel => ?_
      split
      · exact .pure hrel none
      · exact ih hrel _

theorem consume (h : Echo length? x y) (chunks : List Bytes) (appetite : Appetite) :
    EndAlike (Echo length?) (fun _ => Echo length?) (Wsgi.consume (.body chunks) appetite) x
      (Wsgi.consume (.body chunks) appetite) y := by
  have hnote : EndAlike (Echo length?) (fun _ => Echo length?) (Action.note (.returned true)) x
      (Action.note (.returned true)) y := .modify (h.note (.returned true))
  refine hnote.bind fun _ _ _ hrel => ?_
  unfold deliverAll
  split
  · exact .pure hrel ()
  · next left _ =>
    rw [discard, LawfulFunctor.map_const]
    refine EndAlike.of_outcome ?_ rfl rfl
    simp only [Function.comp, map_eq_pure_bind]
    exact (hrel.deliver chunks left).bind fun _ _ _ hrel => .pure hrel _

end Echo
end Exchange

/-! ## The exchange -/

namespace Wsgi

/-- The content length of an earlier start that reaches the server: the one that is left in the buffer,
if the last start gave none, no body follows and the response is evaluated, but not found unmodified. -/
def Restart.leftLength? (r : Restart) (filter : EtagFilter) (request : Request) : Option String :=
  match statusCode r.line with
  | .error _ => none
  | .ok code =>
    let p := ({} : Progress).run r.bodySteps
    let body : Buffer := { headBuffer r.headers code with content := p.content }
    if p.context.asyncStarted = true ∨
        filter.NotModified request (headTransport r.headers code) body then none
    else body.leftover r.heldLength?

variable {r : Restart} {depth : Nat} {context : Context}

theorem Restart.leftLength?_eq {code : Int} (hcode : statusCode r.line = .ok code) :
    let p := ({} : Progress).run r.bodySteps
    let body : Buffer := { headBuffer r.headers code with content := p.content }
    r.leftLength? filter request =
      if p.context.asyncStarted = true ∨
          filter.NotModified request (headTransport r.headers code) body then none
      else body.leftover r.heldLength? := by
  rw [leftLength?, hcode]

theorem dispatch_echo (hr : r.Proper) (filter : EtagFilter) (request : Request) (depth : Nat)
    (context : Context) (server : Server) :
    let left := r.leftLength? filter request
    let x := Asgi.entered (freshExchange context .absent server) request
    EndAlike (Echo left) (fun _ => Heard left)
      (filter.dispatch .sync request [] (answer fun starter => call r.starting starter depth)) x
      (filter.dispatch .sync request [] (answer fun starter => call r.restarting starter depth)) x := by
  intro left x
  refine EndAlike.of_outcome ?_
    (EtagFilter.outcome_dispatch (outcome_prepare_entered context server request))
    (EtagFilter.outcome_dispatch (outcome_prepare_entered context server request))
  have hanswer := answer_abreast hr context server request depth
  refine (hanswer.mono (fun _ _ h => h) fun _ _ _ h => h.heard left).bind fun streaming z w hrel => ?_
  obtain ⟨code, hcode, hrel⟩ := hrel
  have hlengthless : (headTransport r.headers code).headers.getList? contentLengthName = none :=
    passedHeaders_contentLength {} _
  have hlength : (headBuffer r.headers code).contentLength = none ∨
      r.heldLength? = (headBuffer r.headers code).contentLength := by
    have hheld : (headBuffer r.headers code).contentLength =
        lastLength? (startCalls r.headers (.ok code)) := Option.or_none
    rw [hheld, Restart.heldLength?, hcode]
    cases lastLength? (startCalls r.headers (.ok code)) with
    | none => exact .inl rfl
    | some value => exact .inr rfl
  have hleft : left = _ := Restart.leftLength?_eq hcode
  rw [hleft]
  have hconclude := hrel.conclude rfl rfl hlengthless hlength filter request
  refine (hconclude.mono (fun _ _ h => h) fun _ _ _ h => h.heard).bind fun _ _ _ hrel => ?_
  exact .pure hrel streaming

/-- What is left to do after the dispatches: the responses are committed and consumed. -/
theorem exchange_echo (hr : r.Proper) (filter : EtagFilter) (environ : Environ) (depth : Nat)
    (appetite : Appetite) (context : Context) (server : Server) :
    let left := r.leftLength? filter environ.toRequest
    let x := freshExchange context .absent server
    EndAlike (Heard left) (fun _ => Heard left)
      (exchange filter environ r.starting (depth + 1) appetite) x
      (exchange filter environ r.restarting (depth + 1) appetite) x := by
  intro left x
  let request := environ.toRequest
  have hserve {app : Application} {served : Served} {y : Exchange}
      (hok : (handle filter request fun starter => call app starter depth).outcome x =
        (.ok served, y)) : (exchange filter environ app (depth + 1) appetite).outcome x =
          (Wsgi.consume served appetite).outcome y := outcome_bind_ok hok
  have hfails {app : Application} {fault : Fault} {y : Exchange}
      (hfault : (handle filter request fun starter => call app starter depth).outcome x =
        (.error fault, y)) : (exchange filter environ app (depth + 1) appetite).outcome x =
          (.error fault, y) := outcome_bind_error hfault
  cases dispatch_echo hr filter request depth context server with
  | fault hx hy hheard =>
      exact .fault (hfails (outcome_handle_fault filter request hx))
        (hfails (outcome_handle_fault filter request hy)) (hheard.logFailure _ _ _)
  | @value streaming z w hx hy hrel =>
      cases streaming with
      | some streaming =>
          -- A stream is left only when caching is disabled.
          obtain ⟨_, _, v, event, -, -, -, hdisabled, -, -, rfl⟩ := exists_of_dispatch_stream hx
          have henabled : v.context.cachingDisabled = false := hrel.enabled
          rw [henabled] at hdisabled
          cases hdisabled
      | none =>
          cases hrel.flush with
          | fault hflush hother hrel =>
              exact .fault (hfails (outcome_handle_unflushed filter request hx hflush))
                (hfails (outcome_handle_unflushed filter request hy hother))
                (hrel.heard.logFailure _ _ _)
          | @value _ u v hflush hother hrel =>
              have hchunks : v.transport.chunks = u.transport.chunks := by
                rw [Transport.chunks, hrel.medium_eq, Transport.chunks]
              have hconsume := (hrel.log
                (.processed request.method request.url u.transport.status)
                (.processed request.method request.url v.transport.status)).consume
                u.transport.chunks appetite
              refine (hconsume.mono (fun _ _ h => h.heard) fun _ _ _ h => h.heard).of_outcome
                (hserve (outcome_handle_body filter request hx hflush)) ?_
              rw [hserve (outcome_handle_body filter request hy hother), hchunks]

/-- An application may start its response any number of times as long as nothing is committed.  If it
starts it once more because of a fault and leaves the head alone from then on, then the exchange ends as
for the application that makes this last start only.  The server gets the same start of the response and
the same chunks, but for the content length of an earlier start when `leftLength?` gives one. -/
theorem served_of_restart (r : Restart) (hr : r.Proper) (filter : EtagFilter) (environ : Environ)
    (depth : Nat) (appetite : Appetite) (context : Context) (server : Server) :
    let x := freshExchange context .absent server
    let once := (exchange filter environ r.starting (depth + 1) appetite).outcome x
    let again := (exchange filter environ r.restarting (depth + 1) appetite).outcome x
    again.1 = once.1 ∧ again.2.served =
      once.2.served.map (Entry.withLength (r.leftLength? filter environ.toRequest)) :=
  have hends := exchange_echo hr filter environ depth appetite context server
  ⟨hends.result_eq, hends.rel_outcome fun _ _ _ h => h⟩

/-- A start over without headers and without a body gets the content length of the start before. -/
theorem served_of_restart_length :
    let r : Restart := ⟨[.start "200 OK" [("Content-Length", "5")] none], "500 Internal Server Error", [],
      .raised .value "x", [], {}⟩
    let environ : Environ := ⟨[("REQUEST_METHOD", "GET")]⟩
    let x := freshExchange {} .absent {}
    r.Proper ∧
      ((exchange {} environ r.starting 1 none).outcome x).2.served =
        [.responseStarted "500 Internal Server Error" []] ∧
      ((exchange {} environ r.restarting 1 none).outcome x).2.served =
        [.responseStarted "500 Internal Server Error" [("content-length", "5")]] := by
  intro r environ x
  have hr : r.Proper := ⟨by decide +kernel, by decide +kernel⟩
  have honce : ((exchange {} environ r.starting (0 + 1) none).outcome x).2.served =
      [.responseStarted "500 Internal Server Error" []] := by decide +kernel
  have hleft : r.leftLength? {} environ.toRequest = some "5" := by decide +kernel
  obtain ⟨-, hserved⟩ := served_of_restart r hr {} environ 0 none {} {}
  rw [honce, hleft] at hserved
  exact ⟨hr, honce, hserved⟩

end Wsgi
end Revalidation
