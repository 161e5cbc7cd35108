import Revalidation.Proofs.Iteration

/-!
# Starting a response over

As long as nothing is committed an application may start its response again because of a fault, and
the last start counts.  Two applications that come to the same last start run on alike from there, while
caching stays enabled: their buffers hold the same body, and only the content lengths that they hold back
may be different, because the buffer keeps that of an earlier start.
-/

namespace Revalidation

open Revalidation.Action

/-! ## Steps before and after the last start -/

namespace Wsgi

/-- Whether a step does nothing but start the response, with a status line that gives a code unless its
fault is caught. -/
def Step.onlyStarts (caught : Bool) : Step → Bool
  | start line _ _ => caught || (statusCode line).isOk
  | attempt inner => inner.onlyStarts true
  | _ => false

def Step.headCalls : Step → List Call
  | start line headers _ => startCalls headers (statusCode line)
  | attempt inner => inner.headCalls
  | _ => []

def Step.leavesHead : Step → Bool
  | start _ _ _ => false
  | changeContext _ change => change ≠ .disableCaching
  | attempt inner => inner.leavesHead
  | _ => true

/-- How far the body of a response has come while it is held back. -/
structure Progress where
  content : Bytes := []
  context : Context := {}
  deriving DecidableEq, Repr

namespace Progress

def step (p : Progress) : Step → Progress
  | .write data => { p with content := p.content ++ data }
  | .changeContext _ change => { p with context := p.context.apply change }
  | .attempt inner => p.step inner
  | _ => p

def run (p : Progress) (steps : List Step) : Progress := steps.foldl step p

theorem run_append (p : Progress) (steps rest : List Step) :
    p.run (steps ++ rest) = (p.run steps).run rest := List.foldl_append

theorem step_enabled {p : Progress} {step : Step} (hstep : step.leavesHead = true)
    (henabled : p.context.cachingDisabled = false) : (p.step step).context.cachingDisabled = false := by
  induction step with
  | changeContext name change => cases change <;> first | exact henabled | cases hstep
  | attempt inner ih => exact ih hstep
  | _ => exact henabled

end Progress

def Item.wholeSteps (item : Item) : List Step := item.steps ++ [.write item.chunk]

def Iterable.wholeSteps (iterable : Iterable) (items : List Item) : List Step :=
  items.flatMap Item.wholeSteps ++ iterable.last

theorem Iterable.wholeSteps_cons (iterable : Iterable) (item : Item) (items : List Item) :
    iterable.wholeSteps (item :: items) =
      item.steps ++ .write item.chunk :: iterable.wholeSteps items := by
  simp [wholeSteps, Item.wholeSteps]

def Iterable.bodySteps (iterable : Iterable) : List Step :=
  iterable.first ++ (iterable.wholeSteps iterable.items ++ iterable.closeSteps)

end Wsgi

open Wsgi

variable {x y : Exchange} {server : Server} {b : Buffer} {t : Transport} {p : Progress}
  {length? : Option String} {entry other : Entry} {step : Step} {steps : List Step} {item : Item}
  {items : List Item} {iterable : Iterable} {data : Bytes}

/-! ## The head -/

namespace Exchange

/-- Nothing has been written, and the buffer holds a content length back that an earlier start may have
left. -/
structure Opening (server : Server) (length? : Option String) (x : Exchange) : Prop where
  buffer : ∃ b : Buffer, x.decorators = [.buffer b] ∧ b.forRequest = true ∧ b.copied = false ∧
    b.content = [] ∧ b.contentLength = length?
  transport_eq : x.transport = { Transport.wsgi with headers := x.transport.headers }
  context_eq : x.context = {}
  attached : x.published = .attached
  server_eq : x.server = server
  served_eq : x.served = []

namespace Opening

theorem note (h : x.Opening server length?) (hserved : entry.isServed = false) :
    (x.note entry).Opening server length? :=
  { h with served_eq := by rw [served_note, h.served_eq, hserved]; rfl }

theorem committed_eq (h : x.Opening server length?) : x.transport.committed = false := by
  rw [h.transport_eq]
  rfl

theorem resetHeaders (h : x.Opening server length?) :
    x.resetHeaders.Opening server length? ∧ x.resetHeaders.transport = .wsgi := by
  have hreset : x.resetHeaders = { x with transport := { x.transport with headers := {} } } :=
    changeTransport_open h.committed_eq _ _
  have htransport : x.resetHeaders.transport = .wsgi := by
    rw [hreset, h.transport_eq]
    rfl
  refine ⟨?_, htransport⟩
  rw [hreset] at htransport ⊢
  exact { h with transport_eq := by rw [htransport] }

theorem outcome_start {line : String} {code : Int} (h : x.Opening server length?)
    (hb : x.decorators = [.buffer b]) (hcopied : b.copied = false) (hcode : statusCode line = .ok code)
    (headers : List (String × String)) :
    (start (.response [0]) line headers none).outcome x =
      (.ok (), { (x.compose 0 b .utf8 (startCalls headers (.ok code))).log
        (.applicationStarted line) with writer := some (.response [0]) }) := by
  have hdecorator : x.decorator 0 = .buffer b := by
    rw [decorator, hb]
    rfl
  have hholds : b.forwarding x.context = false := by simp [Buffer.forwarding, hcopied, h.context_eq]
  have hcharset : x.transport.charset = .utf8 := by
    rw [h.transport_eq]
    rfl
  have hcalls : ∀ call ∈ startCalls headers (.ok code), call.Composes .utf8 := by
    rw [startCalls, List.forall_mem_cons, List.forall_mem_map]
    exact ⟨.setStatus code, fun header _ => .addHeader _ _⟩
  have hperform := Response.outcome_performAll_composes hdecorator hholds h.committed_eq hcharset hcalls
  exact outcome_bind_ok (outcome_acceptStart_ok hcode hperform)

end Opening
end Exchange

namespace Wsgi

theorem writtenBytes_startCalls (headers : List (String × String)) (code : Except Fault Int) :
    writtenBytes .utf8 (startCalls headers code) = [] := by
  cases code with
  | error fault => rfl
  | ok code =>
      rw [writtenBytes, startCalls, List.flatMap_cons, List.flatMap_map]
      exact List.flatMap_eq_nil_iff.2 fun _ _ => rfl

theorem lastStatus?_startCalls (headers : List (String × String)) (code : Int) :
    lastStatus? (startCalls headers (.ok code)) = some code := by
  have hstatus : Call.status? (.setStatus code) = some code := rfl
  rw [lastStatus?, startCalls, List.filterMap_cons_some hstatus, List.filterMap_eq_nil_iff.2]
  · rfl
  · exact List.forall_mem_map.2 fun _ _ => rfl

def headBuffer (headers : List (String × String)) (code : Int) : Buffer :=
  ({ forRequest := true } : Buffer).compose .utf8 (startCalls headers (.ok code))

def headTransport (headers : List (String × String)) (code : Int) : Transport :=
  { Transport.wsgi with headers := passedHeaders {} (startCalls headers (.ok code)) }

/-- A buffer without content has after a start what it would have after that start alone, but for the
content length it may have from before. -/
theorem compose_startCalls (hrequest : b.forRequest = true) (hcopied : b.copied = false)
    (hcontent : b.content = []) (hlength : b.contentLength = length?)
    (headers : List (String × String)) (code : Int) :
    b.compose .utf8 (startCalls headers (.ok code)) =
      { headBuffer headers code with
        contentLength := (lastLength? (startCalls headers (.ok code))).or length? } := by
  obtain ⟨_, _, _, _, _⟩ := b
  cases hrequest
  cases hcopied
  cases hcontent
  cases hlength
  simp [headBuffer, Buffer.compose, lastStatus?_startCalls]

theorem outcome_start_unreadable {line : String} {fault : Fault} (hcode : statusCode line = .error fault)
    (headers : List (String × String)) (x : Exchange) :
    (start (.response [0]) line headers none).outcome x = (.error fault, x) := by
  unfold start acceptStart
  simp only [hcode, outcome_bind, outcome_throw]

end Wsgi

namespace Exchange

/-- After the last start: the buffer holds the body back that has come about so far, and all else is as
the start left it. -/
structure Underway (server : Server) (t : Transport) (b : Buffer) (p : Progress) (x : Exchange) :
    Prop where
  decorators_eq : x.decorators = [.buffer { b with content := p.content }]
  copied_eq : b.copied = false
  transport_eq : x.transport = t
  context_eq : x.context = p.context
  enabled : p.context.cachingDisabled = false
  attached : x.published = .attached
  server_eq : x.server = server
  writer_eq : x.writer = some (.response [0])
  served_eq : x.served = []

namespace Opening

theorem start {line : String} {code : Int} (h : x.Opening server length?)
    (hcode : statusCode line = .ok code) (headers : List (String × String)) :
    ∃ y, (Wsgi.start (.response [0]) line headers none).outcome x = (.ok (), y) ∧
      y.Opening server ((lastLength? (startCalls headers (.ok code))).or length?) ∧
      (x.transport = .wsgi → y.Underway server (headTransport headers code)
        { headBuffer headers code with
          contentLength := (lastLength? (startCalls headers (.ok code))).or length? } {}) := by
  obtain ⟨b, hb, hrequest, hcopied, hcontent, hlength⟩ := h.buffer
  have hbuffer := compose_startCalls hrequest hcopied hcontent hlength headers code
  have hempty : (headBuffer headers code).content = [] := writtenBytes_startCalls headers _
  refine ⟨_, h.outcome_start hb hcopied hcode headers, ?_, fun htransport => ?_⟩
  · exact
      { buffer := ⟨b.compose .utf8 (startCalls headers (.ok code)), by
          simp [compose, putBuffer, log, Exchange.note, hb], hrequest, hcopied,
          by rw [hbuffer, hempty], by rw [hbuffer]⟩
        transport_eq := by
          show ({ x.transport with headers := _ } : Transport) = _
          rw [h.transport_eq]
          rfl
        context_eq := h.context_eq
        attached := h.attached
        server_eq := h.server_eq
        served_eq := (served_log _).trans h.served_eq }
  · exact
      { decorators_eq := by
          simp [compose, putBuffer, log, Exchange.note, hb, hbuffer, hempty]
        copied_eq := rfl
        transport_eq := by
          show ({ x.transport with headers := passedHeaders x.transport.headers _ } : Transport) = _
          rw [htransport]
          rfl
        context_eq := h.context_eq
        enabled := rfl
        attached := h.attached
        server_eq := h.server_eq
        writer_eq := rfl
        served_eq := (served_log _).trans h.served_eq }

/-- A start gives the buffer its content length, or fails and leaves the one that is there. -/
theorem start_kept (h : x.Opening server length?) (line : String) (headers : List (String × String))
    (cause : Option Fault) :
    ∃ result y, (Wsgi.start (.response [0]) line headers cause).outcome x = (result, y) ∧
      y.Opening server ((lastLength? (startCalls headers (statusCode line))).or length?) ∧
      result.isOk = (statusCode line).isOk := by
  have hfirst (z : Exchange) (hz : z.Opening server length?) :
      ∃ result y, (Wsgi.start (.response [0]) line headers none).outcome z = (result, y) ∧
        y.Opening server ((lastLength? (startCalls headers (statusCode line))).or length?) ∧
        result.isOk = (statusCode line).isOk := by
    cases hcode : statusCode line with
    | error fault => exact ⟨.error fault, z, outcome_start_unreadable hcode headers z, hz, rfl⟩
    | ok code =>
        obtain ⟨y, hstart, hy, -⟩ := hz.start hcode headers
        exact ⟨.ok (), y, hstart, hy, rfl⟩
  cases cause with
  | none => exact hfirst x h
  | some fault =>
      rw [outcome_start_again h.committed_eq]
      exact hfirst _ h.resetHeaders.1

/-- A step that only starts the response leaves at most a content length behind. -/
theorem runStep (h : x.Opening server length?) {caught : Bool} (hstep : step.onlyStarts caught = true) :
    ∃ result y, (Wsgi.runStep (.response [0]) step).outcome x = (result, y) ∧
      y.Opening server ((lastLength? step.headCalls).or length?) ∧
      (caught = false → result = .ok ()) := by
  have hnote : (x.note (.step step.name)).Opening server length? := h.note rfl
  induction step generalizing x caught with
  | start line headers cause =>
      obtain ⟨result, y, hstart, hy, hok⟩ := hnote.start_kept line headers cause
      refine ⟨result, y, (outcome_bind_ok (outcome_note _ x)).trans hstart, hy, ?_⟩
      rintro rfl
      rw [Step.onlyStarts, Bool.false_or] at hstep
      rw [hstep] at hok
      cases result with
      | error fault => cases hok
      | ok _ => rfl
  | attempt inner ih =>
      obtain ⟨result, y, hinner, hy, -⟩ := ih hnote hstep (hnote.note rfl)
      have hattempt : (Wsgi.runStep (.response [0]) (.attempt inner)).outcome x =
          (Action.attempt (Wsgi.runStep (.response [0]) inner)).outcome
            (x.note (.step (Step.attempt inner).name)) := outcome_bind_ok (outcome_note _ x)
      rw [hattempt, Action.attempt, outcome_tryCatch, hinner]
      cases result with
      | error fault => exact ⟨_, _, rfl, hy.note rfl, fun _ => rfl⟩
      | ok _ => exact ⟨_, _, rfl, hy, fun _ => rfl⟩
  | _ => cases hstep

/-- Steps that only start the response leave behind the last content length that they gave. -/
theorem run (h : x.Opening server length?) (hsteps : ∀ step ∈ steps, step.onlyStarts false = true) :
    ∃ y, (Wsgi.run (.response [0]) steps).outcome x = (.ok (), y) ∧
      y.Opening server ((lastLength? (steps.flatMap Step.headCalls)).or length?) := by
  induction steps generalizing x length? with
  | nil => exact ⟨x, rfl, h⟩
  | cons step rest ih =>
      rw [List.forall_mem_cons] at hsteps
      obtain ⟨result, y, hstep, hy, hok⟩ := h.runStep hsteps.1
      obtain rfl := hok rfl
      obtain ⟨z, hrest, hz⟩ := ih hy hsteps.2
      refine ⟨z, (outcome_bind_ok hstep).trans hrest, ?_⟩
      rw [List.flatMap_cons, lastLength?_append, Option.or_assoc]
      exact hz

end Opening

/-! ## The body -/

namespace Underway

theorem note (h : x.Underway server t b p) (hserved : entry.isServed = false) :
    (x.note entry).Underway server t b p :=
  { h with served_eq := by rw [served_note, h.served_eq, hserved]; rfl }

theorem decorator_eq (h : x.Underway server t b p) :
    x.decorator 0 = .buffer { b with content := p.content } := by
  rw [decorator, h.decorators_eq]
  rfl

theorem write (h : x.Underway server t b p) (data : Bytes) :
    ∃ y, (Response.write [0] data).outcome x = (.ok (), y) ∧
      y.Underway server t b (p.step (.write data)) := by
  have hholds : Buffer.forwarding { b with content := p.content } x.context = false := by
    simp [Buffer.forwarding, h.copied_eq, h.context_eq, h.enabled]
  refine ⟨_, Response.outcome_write_held h.decorator_eq hholds data, ?_⟩
  exact
    { h with
      decorators_eq := by simp [putBuffer, h.decorators_eq, Progress.step]
      enabled := h.enabled }

theorem changeContext (h : x.Underway server t b p) {name : String} {change : Context.Change}
    (hchange : change ≠ .disableCaching) :
    (x.changeContext change).Underway server t b (p.step (.changeContext name change)) := by
  have hattached : x.changeContext change = { x with context := x.context.apply change } := by
    rw [Exchange.changeContext, h.attached]
  rw [hattached]
  exact
    { h with
      context_eq := by
        show x.context.apply change = _
        rw [h.context_eq]
        rfl
      enabled := Progress.step_enabled (decide_eq_true hchange) h.enabled }

end Underway

/-- Two exchanges are under way alike, but for the content length that the second one holds back. -/
def Abreast (server : Server) (t : Transport) (b : Buffer) (length? : Option String) (p : Progress)
    (x y : Exchange) : Prop :=
  x.Underway server t b p ∧ y.Underway server t { b with contentLength := length? } p

def Together (server : Server) (t : Transport) (b : Buffer) (length? : Option String)
    (x y : Exchange) : Prop := ∃ p, Abreast server t b length? p x y

def Unserved (x y : Exchange) : Prop := x.served = [] ∧ y.served = []

namespace Abreast

theorem unserved (h : Abreast server t b length? p x y) : Unserved x y :=
  ⟨h.1.served_eq, h.2.served_eq⟩

theorem note (h : Abreast server t b length? p x y) (hserved : entry.isServed = false) :
    Abreast server t b length? p (x.note entry) (y.note entry) := ⟨h.1.note hserved, h.2.note hserved⟩

theorem write {failed : Fault → Exchange → Exchange → Prop} (h : Abreast server t b length? p x y)
    (data : Bytes) :
    EndAlike (Abreast server t b length? (p.step (.write data))) failed (Response.write [0] data) x
      (Response.write [0] data) y := by
  obtain ⟨z, hx, hz⟩ := h.1.write data
  obtain ⟨w, hy, hw⟩ := h.2.write data
  exact .value hx hy ⟨hz, hw⟩

/-- A step ends alike, and a fault leaves the exchanges abreast. -/
theorem runStep (h : Abreast server t b length? p x y) (hstep : step.leavesHead = true) :
    EndAlike (Abreast server t b length? (p.step step))
      (fun _ => Abreast server t b length? (p.step step))
      (Wsgi.runStep (.response [0]) step) x (Wsgi.runStep (.response [0]) step) y := by
  have hnote (entry : Entry) (hserved : entry.isServed = false) {p : Progress} {x y : Exchange}
      (h : Abreast server t b length? p x y) {failed : Fault → Exchange → Exchange → Prop} :
      EndAlike (Abreast server t b length? p) failed (Action.note entry) x (Action.note entry) y :=
    .modify (h.note hserved)
  induction step generalizing x y with
  | start line headers cause => cases hstep
  | write data =>
      refine (hnote _ rfl h).bind fun _ z w hrel => ?_
      have hwrite {x : Exchange} (hwriter : x.writer = some (.response [0])) :
          (Wsgi.write data).outcome x = (Response.write [0] data).outcome x := by
        simp only [Wsgi.write, outcome_bind, outcome_get, hwriter]
      exact (hrel.write data).of_outcome (hwrite hrel.1.writer_eq) (hwrite hrel.2.writer_eq)
  | changeContext name change =>
      refine (hnote _ rfl h).bind fun _ z w hrel => .modify ?_
      have hchange : change ≠ .disableCaching := of_decide_eq_true hstep
      exact ⟨hrel.1.changeContext hchange, hrel.2.changeContext hchange⟩
  | fail kind text => exact (hnote _ rfl h).bind fun _ _ _ hrel => .throw hrel
  | attempt inner ih =>
      refine (hnote _ rfl h).bind fun _ z w hrel => ?_
      exact (ih hrel hstep).tryCatch fun _ _ _ hfailed => hnote _ rfl hfailed

theorem run (h : Abreast server t b length? p x y) (hsteps : ∀ step ∈ steps, step.leavesHead = true) :
    EndAlike (Abreast server t b length? (p.run steps)) (fun _ => Together server t b length?)
      (Wsgi.run (.response [0]) steps) x (Wsgi.run (.response [0]) steps) y := by
  induction steps generalizing p x y with
  | nil => exact .pure h ()
  | cons step rest ih =>
      rw [List.forall_mem_cons] at hsteps
      refine EndAlike.bind ?_ fun _ z w hrel => ih hrel hsteps.2
      exact (h.runStep hsteps.1).mono (fun _ _ h => h) fun _ _ _ h => ⟨_, h⟩

/-- A collection goes through all items, since caching stays enabled. -/
theorem collect (h : Abreast server t b length? p x y)
    (hsteps : ∀ step ∈ iterable.wholeSteps items, step.leavesHead = true) (pulled : Nat) :
    EndAlike (Abreast server t b length? (p.run (iterable.wholeSteps items)))
      (fun _ => Together server t b length?)
      (Wsgi.collect iterable (.response [0]) [0] items pulled) x
      (Wsgi.collect iterable (.response [0]) [0] items pulled) y := by
  induction items generalizing p x y pulled with
  | nil =>
      have hnote : Abreast server t b length? p (x.note (.pulled pulled)) (y.note (.pulled pulled)) :=
        h.note rfl
      refine EndAlike.bind (EndAlike.bind (.modify hnote) fun _ _ _ hrel => hrel.run hsteps) ?_
      exact fun _ _ _ hrel => .pure hrel none
  | cons item rest ih =>
      rw [Iterable.wholeSteps_cons] at hsteps ⊢
      rw [List.forall_mem_append, List.forall_mem_cons] at hsteps
      have hnext {p : Progress} {x y : Exchange} (h : Abreast server t b length? p x y) : EndAlike
          (Abreast server t b length? (p.run (iterable.wholeSteps rest)))
          (fun _ => Together server t b length?)
          (do
            if (← get).context.cachingDisabled then return some (rest, pulled + 1)
            Wsgi.collect iterable (.response [0]) [0] rest (pulled + 1)) x
          (do
            if (← get).context.cachingDisabled then return some (rest, pulled + 1)
            Wsgi.collect iterable (.response [0]) [0] rest (pulled + 1)) y := by
        refine .read ?_
        rw [h.1.context_eq, h.2.context_eq, h.1.enabled, if_neg Bool.false_ne_true]
        exact ih h hsteps.2.2 (pulled + 1)
      have hrun (p : Progress) : p.run (item.steps ++ .write item.chunk :: iterable.wholeSteps rest) =
          ((p.run item.steps).step (.write item.chunk)).run (iterable.wholeSteps rest) :=
        p.run_append _ _
      simp only [Wsgi.collect, Item.pull, bind_assoc, pure_bind]
      have hnote : Abreast server t b length? p (x.note (.pulled pulled)) (y.note (.pulled pulled)) :=
        h.note rfl
      refine EndAlike.bind (.modify hnote) fun _ _ _ hrel => ?_
      refine (hrel.run hsteps.1).bind fun _ _ _ hrel => ?_
      rw [hrun]
      cases hempty : item.chunk.isEmpty with
      | true =>
          have hwritten (p : Progress) : p.step (.write item.chunk) = p := by
            simp [Progress.step, List.isEmpty_iff.1 hempty]
          rw [hwritten]
          exact hnext hrel
      | false => exact (hrel.write item.chunk).bind fun _ _ _ hrel => hnext hrel

theorem close (h : Abreast server t b length? p x y)
    (hsteps : ∀ step ∈ iterable.closeSteps, step.leavesHead = true) :
    EndAlike (Abreast server t b length? (p.run iterable.closeSteps))
      (fun _ => Together server t b length?) (iterable.close (.response [0])) x
      (iterable.close (.response [0])) y := by
  unfold Iterable.closeSteps at hsteps ⊢
  unfold Iterable.close
  by_cases hkind : iterable.kind = .closing
  · rw [if_pos hkind] at hsteps
    simp only [if_pos hkind]
    refine EndAlike.bind (.modify (h.note rfl)) fun _ _ _ hrel => ?_
    refine (hrel.run hsteps).bind fun _ _ _ hrel => ?_
    split
    · exact .throw ⟨_, hrel⟩
    · exact .pure hrel ()
  · simp only [if_neg hkind]
    exact .pure h ()

end Abreast

theorem Together.unserved (h : Together server t b length? x y) : Unserved x y := h.elim fun _ h => h.unserved

end Exchange

end Revalidation
