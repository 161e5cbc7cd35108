import Mathlib.Data.List.Induction
import Revalidation.Proofs.Evaluation
import Revalidation.Proofs.Keeping
import Revalidation.Proofs.Stack

/-!
# Commitment

A buffer lies over a sink in memory, and caching may be disabled at any time.  Sooner or later a write
or a flush commits the sink.  The status it has then is the last one set on the buffer, and each header
has the value it was set to last, with one exception: a content length that the buffer held back when
caching was disabled is passed on at the commitment, whatever was set after it.
-/

namespace Revalidation

variable {x y : Exchange} {response : Response} {status : Int} {charset : Charset} {context : Context}
  {name value : String} {step : StackStep} {steps rest : List StackStep} {b : Buffer}

/-! ## What the steps set -/

def Call.value? (name : String) : Call → Option String
  | setHeader other value => if Text.lower other = Text.lower name then some value else none
  | _ => none

def lastValue? (name : String) (calls : List Call) : Option String :=
  (calls.filterMap (Call.value? name)).getLast?

theorem lastValue?_append {calls more : List Call} :
    lastValue? name (calls ++ more) = (lastValue? name more).or (lastValue? name calls) := by
  rw [lastValue?, List.filterMap_append, List.getLast?_append]
  rfl

namespace StackStep

def call? : StackStep → Option Call
  | setStatus 0 status => some (.setStatus status)
  | setHeader 0 name value => some (.setHeader name value)
  | addHeader 0 name value => some (.addHeader name value)
  | flush 0 => some .flush
  | copyBody 0 complete => some (.copyBody complete)
  | write data => some (.write data)
  | writeText text => some (.writeText text)
  | _ => none

def calls (steps : List StackStep) : List Call := steps.filterMap call?

def disables : StackStep → Bool
  | changeContext .disableCaching => true
  | _ => false

/-- The steps of a handler at its buffer that leave the rest to it: it sets the status and headers,
writes, flushes and disables caching. -/
inductive OnBuffer : StackStep → Prop
  | setStatus (status : Int) : OnBuffer (setStatus 0 status)
  | setHeader (name value : String) : OnBuffer (setHeader 0 name value)
  | write (data : Bytes) : OnBuffer (write data)
  | flush : OnBuffer (flush 0)
  | disable : OnBuffer (changeContext .disableCaching)

/-- The content length that a buffer holds back: the last one given while caching was not disabled. -/
def heldLength? : Bool → List StackStep → Option String
  | _, [] => none
  | disabled, step :: rest =>
    (heldLength? (disabled || step.disables) rest).or
      (if disabled then none else step.call?.bind Call.length?)

/-! ### One step more -/

theorem lastStatus?_snoc : lastStatus? (calls (steps ++ [step])) =
    (step.call?.bind Call.status?).or (lastStatus? (calls steps)) := by
  rw [calls, List.filterMap_append, lastStatus?_append]
  rcases hcall : step.call? with _ | call
  · simp [lastStatus?, calls, hcall]
  · cases hstatus : call.status? <;> simp [lastStatus?, calls, hcall, hstatus]

theorem lastValue?_snoc : lastValue? name (calls (steps ++ [step])) =
    (step.call?.bind (Call.value? name)).or (lastValue? name (calls steps)) := by
  rw [calls, List.filterMap_append, lastValue?_append]
  rcases hcall : step.call? with _ | call
  · simp [lastValue?, calls, hcall]
  · cases hvalue : call.value? name <;> simp [lastValue?, calls, hcall, hvalue]

theorem heldLength?_snoc {disabled : Bool} : heldLength? disabled (steps ++ [step]) =
    (if disabled || steps.any disables then none else step.call?.bind Call.length?).or
      (heldLength? disabled steps) := by
  induction steps generalizing disabled with
  | nil => simp [heldLength?]
  | cons first further ih =>
      rw [List.cons_append, heldLength?, heldLength?, ih, List.any_cons, Bool.or_assoc, Option.or_assoc]

theorem heldLength?_snoc_of_none {disabled : Bool} (hstep : step.call?.bind Call.length? = none) :
    heldLength? disabled (steps ++ [step]) = heldLength? disabled steps := by
  rw [heldLength?_snoc, hstep]
  simp

/-! ## Steps one after another -/

theorem run_append (response : Response) (steps rest : List StackStep) (x : Exchange) :
    (run response (steps ++ rest) x).2 = (run response rest (run response steps x).2).2 := by
  induction steps generalizing x with
  | nil => rfl
  | cons step further ih => exact ih _

theorem keeps_act {P : Exchange → Prop} (h : Exchange.Lasting P) (response : Response)
    (step : StackStep) : Action.Keeps P (step.act response) := by
  cases step with
  | changeContext change => exact .modify fun _ => h.changeContext change
  | _ => exact h.keeps_perform _ _

theorem run_keeps {P : Exchange → Prop} (h : Exchange.Lasting P) (response : Response)
    (steps : List StackStep) {x : Exchange} (hx : P x) : P (run response steps x).2 := by
  induction steps generalizing x with
  | nil => exact hx
  | cons step rest ih => exact ih (keeps_act h response step x hx)

end StackStep

namespace Exchange

open StackStep Revalidation.Action

/-- The transport is committed with the head of another one. -/
structure Sealed (t : Transport) (x : Exchange) : Prop where
  committed_eq : x.transport.committed = true
  status_eq : x.transport.status = t.status
  headers_eq : x.transport.headers = t.headers

theorem lasting_sealed (t : Transport) : Lasting (Sealed t) where
  note _ h := ⟨h.committed_eq, h.status_eq, h.headers_eq⟩
  putBuffer _ _ h := ⟨h.committed_eq, h.status_eq, h.headers_eq⟩
  changeTransport event change h := by
    rw [changeTransport, if_pos h.committed_eq, ignore]
    split
    · exact ⟨h.committed_eq, h.status_eq, h.headers_eq⟩
    · exact h
  commit h := ⟨rfl, h.status_eq, h.headers_eq⟩
  setMedium _ h := ⟨h.committed_eq, h.status_eq, h.headers_eq⟩
  setSends _ h := ⟨h.committed_eq, h.status_eq, h.headers_eq⟩
  changeContext change h := by
    unfold Exchange.changeContext
    split <;> exact ⟨h.committed_eq, h.status_eq, h.headers_eq⟩
  setWriter _ h := ⟨h.committed_eq, h.status_eq, h.headers_eq⟩

/-! ## Before the commitment -/

def overSink (status : Int) (charset : Charset) (context : Context) : Exchange :=
  stacked (.recorder status charset []) context [.buffer true]

theorem decorators_putBuffer (hb : x.decorators = [.buffer b]) (c : Buffer) :
    (x.putBuffer 0 c).decorators = [.buffer c] := by
  rw [putBuffer, hb]
  rfl

/-- The exchange when steps on a buffer have not committed the sink below it.  What the buffer holds
and what it passed on are told apart. -/
structure Uncommitted (status : Int) (charset : Charset) (disabled : Bool) (steps : List StackStep)
    (x : Exchange) : Prop where
  buffer : ∃ b, x.decorators = [.buffer b] ∧ b.forRequest = true ∧ b.copied = false ∧
    b.status = lastStatus? (calls steps) ∧ b.contentLength = heldLength? disabled steps
  medium_eq : x.transport.medium = .memory charset [] 0 []
  committed_eq : x.transport.committed = false
  attached : x.published = .attached
  disabled_eq : x.context.cachingDisabled = (disabled || steps.any disables)
  status_eq : (lastStatus? (calls steps)).getD x.transport.status =
    (lastStatus? (calls steps)).getD status
  value_eq (name : String) :
    Text.lower name ≠ "content-length" ∨ heldLength? disabled steps = none →
      x.transport.headers.getList? name = (lastValue? name (calls steps)).map ([·])

namespace Uncommitted

variable {disabled : Bool}

theorem start (status : Int) (charset : Charset) (context : Context) :
    (overSink status charset context).Uncommitted status charset context.cachingDisabled [] where
  buffer := ⟨_, rfl, rfl, rfl, rfl, rfl⟩
  medium_eq := rfl
  committed_eq := rfl
  attached := rfl
  disabled_eq := (Bool.or_false _).symm
  status_eq := rfl
  value_eq _ _ := rfl

theorem forwarding_eq (h : x.Uncommitted status charset disabled steps)
    (hrequest : b.forRequest = true) (hcopied : b.copied = false) :
    b.forwarding x.context = (disabled || steps.any disables) := by
  rw [Buffer.forwarding, hrequest, hcopied, h.disabled_eq, Bool.true_and, Bool.false_or]

theorem setStatus (h : x.Uncommitted status charset disabled steps) (code : Int) :
    (x.setStatus [0] code).Uncommitted status charset disabled (steps ++ [.setStatus 0 code]) := by
  obtain ⟨b, hb, hrequest, hcopied, hstatus, hlength⟩ := h.buffer
  have hd : x.decorator 0 = .buffer b := by rw [decorator, hb]; rfl
  -- A buffer that forwards sets the status of the transport as well, which counts for nothing then.
  obtain ⟨t, hsame, hmedium, hopen, hheaders⟩ : ∃ t, x.setStatus [0] code =
      { x with transport := t }.putBuffer 0 { b with status := some code } ∧
      t.medium = x.transport.medium ∧ t.committed = false ∧ t.headers = x.transport.headers := by
    simp only [Exchange.setStatus, hd]
    split
    · rw [setTransportStatus_open h.committed_eq]
      exact ⟨_, rfl, rfl, h.committed_eq, rfl⟩
    · exact ⟨_, rfl, rfl, h.committed_eq, rfl⟩
  have hheld : heldLength? disabled (steps ++ [.setStatus 0 code]) = heldLength? disabled steps :=
    heldLength?_snoc_of_none rfl
  have hlast : lastStatus? (calls (steps ++ [.setStatus 0 code])) = some code := lastStatus?_snoc
  rw [hsame]
  refine ⟨⟨_, decorators_putBuffer hb _, hrequest, hcopied, hlast.symm, hlength.trans hheld.symm⟩,
    hmedium.trans h.medium_eq, hopen, h.attached, ?_, ?_, fun name hname => ?_⟩
  · simp [disables, h.disabled_eq]
  · rw [hlast]
    rfl
  · rw [hheld] at hname
    rw [putBuffer_transport, hheaders, h.value_eq name hname, lastValue?_snoc]
    rfl

theorem setHeader (h : x.Uncommitted status charset disabled steps) (name value : String) :
    (x.setHeader [0] name value).Uncommitted status charset disabled
      (steps ++ [.setHeader 0 name value]) := by
  obtain ⟨b, hb, hrequest, hcopied, hstatus, hlength⟩ := h.buffer
  have hd : x.decorator 0 = .buffer b := by rw [decorator, hb]; rfl
  have hlast : lastStatus? (calls (steps ++ [.setHeader 0 name value])) =
      lastStatus? (calls steps) := lastStatus?_snoc
  have hdisables : x.context.cachingDisabled =
      (disabled || (steps ++ [StackStep.setHeader 0 name value]).any disables) := by
    simp [disables, h.disabled_eq]
  have hheld : b.holds x.context name = true ↔
      (disabled || steps.any disables) = false ∧ Text.lower name = "content-length" := by
    simp [Buffer.holds, h.forwarding_eq hrequest hcopied]
  rw [Exchange.setHeader, hd]
  dsimp only
  split
  · next hholds =>
    obtain ⟨henabled, hname⟩ := hheld.1 hholds
    have hsome : heldLength? disabled (steps ++ [.setHeader 0 name value]) = some value := by
      simp [heldLength?_snoc, henabled, call?, Call.length?, hname]
    refine ⟨⟨_, decorators_putBuffer hb _, hrequest, hcopied, hstatus.trans hlast.symm, hsome.symm⟩,
      h.medium_eq, h.committed_eq, h.attached, hdisables, ?_, fun other hother => ?_⟩
    · rw [hlast]
      exact h.status_eq
    · rw [hsome] at hother
      have hne : Text.lower other ≠ "content-length" := hother.resolve_right (Option.some_ne_none value)
      have hvalue : (Call.setHeader name value).value? other = none :=
        if_neg (hname ▸ hne.symm)
      rw [putBuffer_transport, h.value_eq other (.inl hne), lastValue?_snoc, call?, Option.bind_some,
        hvalue, Option.none_or]
  · next hpasses =>
    have hsame : heldLength? disabled (steps ++ [.setHeader 0 name value]) =
        heldLength? disabled steps := by
      rw [heldLength?_snoc]
      split
      · rfl
      · next henabled =>
        have hname : Text.lower name ≠ "content-length" := fun hname =>
          hpasses (hheld.2 ⟨by simpa using henabled, hname⟩)
        simp [call?, Call.length?, hname]
    rw [Exchange.setHeader, setTransportHeader_open h.committed_eq]
    refine ⟨⟨b, hb, hrequest, hcopied, hstatus.trans hlast.symm, hlength.trans hsame.symm⟩,
      h.medium_eq, h.committed_eq, h.attached, hdisables, ?_, fun other hother => ?_⟩
    · rw [hlast]
      exact h.status_eq
    · rw [hsame] at hother
      rw [lastValue?_snoc, call?, Option.bind_some, Call.value?]
      by_cases hsame : Text.lower name = Text.lower other
      · rw [if_pos hsame, Headers.getList?, ← hsame]
        exact Headers.getList?_set_self
      · rw [if_neg hsame, Option.none_or, ← h.value_eq other hother]
        exact Headers.getList?_set_ne hsame

theorem write_held (h : x.Uncommitted status charset disabled steps) (hb : x.decorators = [.buffer b])
    (data : Bytes) :
    (x.putBuffer 0 { b with content := b.content ++ data }).Uncommitted status charset disabled
      (steps ++ [.write data]) := by
  obtain ⟨c, hc, hrequest, hcopied, hstatus, hlength⟩ := h.buffer
  obtain rfl : b = c := by
    rw [hb] at hc
    cases hc
    rfl
  have hlast : lastStatus? (calls (steps ++ [.write data])) = lastStatus? (calls steps) :=
    lastStatus?_snoc
  have hheld : heldLength? disabled (steps ++ [.write data]) = heldLength? disabled steps :=
    heldLength?_snoc_of_none rfl
  refine ⟨⟨_, decorators_putBuffer hb _, hrequest, hcopied, hstatus.trans hlast.symm,
    hlength.trans hheld.symm⟩, h.medium_eq, h.committed_eq, h.attached, ?_, ?_, fun name hname => ?_⟩
  · simp [disables, h.disabled_eq]
  · rw [hlast]
    exact h.status_eq
  · rw [hheld] at hname
    rw [putBuffer_transport, h.value_eq name hname, lastValue?_snoc]
    rfl

theorem disable (h : x.Uncommitted status charset disabled steps) :
    (x.changeContext .disableCaching).Uncommitted status charset disabled
      (steps ++ [.changeContext .disableCaching]) := by
  obtain ⟨b, hb, hrequest, hcopied, hstatus, hlength⟩ := h.buffer
  have hlast : lastStatus? (calls (steps ++ [.changeContext .disableCaching])) =
      lastStatus? (calls steps) := lastStatus?_snoc
  have hheld : heldLength? disabled (steps ++ [.changeContext .disableCaching]) =
      heldLength? disabled steps := heldLength?_snoc_of_none rfl
  have hchange : x.changeContext .disableCaching =
      { x with context := x.context.apply .disableCaching } := by
    rw [changeContext, h.attached]
  rw [hchange]
  refine ⟨⟨b, hb, hrequest, hcopied, hstatus.trans hlast.symm, hlength.trans hheld.symm⟩,
    h.medium_eq, h.committed_eq, h.attached, ?_, ?_, fun name hname => ?_⟩
  · simp [disables, Context.apply]
  · rw [hlast]
    exact h.status_eq
  · rw [hheld] at hname
    rw [h.value_eq name hname, lastValue?_snoc]
    rfl

end Uncommitted
end Exchange

/-! ## The commitment -/

/-- The head that steps on a buffer leave to a sink with a status of its own. -/
structure Transport.HasHead (t : Transport) (status : Int) (disabled : Bool) (steps : List StackStep) :
    Prop where
  status_eq : t.status = (lastStatus? (StackStep.calls steps)).getD status
  value_eq (name : String) : t.headers.getList? name =
    (if Text.lower name = "content-length" then
        (StackStep.heldLength? disabled steps).or (lastValue? name (StackStep.calls steps))
      else lastValue? name (StackStep.calls steps)).map ([·])

namespace Exchange

open StackStep Revalidation.Action

variable {disabled : Bool} {i : Nat} {calls : Nat} {writes : List Bytes}

/-- The head that a buffer passes on. -/
theorem Uncommitted.hasHead (h : x.Uncommitted status charset disabled steps)
    (hb : x.decorators = [.buffer b]) :
    (x.transport.takeHead b false).HasHead status disabled steps := by
  obtain ⟨c, hc, -, -, hstatus, hlength⟩ := h.buffer
  obtain rfl : b = c := by
    rw [hb] at hc
    cases hc
    rfl
  have hheaders : (x.transport.takeHead b false).headers =
      x.transport.headers.withLength (heldLength? disabled steps) := by
    rw [Transport.takeHead_headers h.committed_eq, Buffer.passedLength, Bool.false_and,
      if_neg Bool.false_ne_true, hlength]
  refine ⟨?_, fun name => ?_⟩
  · rw [Transport.takeHead, if_neg (by simp [h.committed_eq]), hstatus]
    exact h.status_eq
  · rw [hheaders]
    cases hheld : heldLength? disabled steps with
    | none =>
        rw [Headers.withLength, h.value_eq name (.inr hheld), Option.none_or, ite_self]
    | some value =>
        rw [Headers.withLength, Option.some_or]
        by_cases hname : Text.lower name = "content-length"
        · rw [if_pos hname, Headers.getList?, hname, ← Headers.lower_contentLength]
          exact Headers.getList?_set_self
        · rw [if_neg hname, ← h.value_eq name (.inl hname)]
          exact Headers.getList?_set_ne (by rw [Headers.lower_contentLength]; exact Ne.symm hname)

/-- Over a sink that refuses nothing a copy leaves the head that the buffer passed on. -/
theorem outcome_copyBuffer_recorder (hmedium : x.transport.medium = .memory charset [] calls writes)
    (hcopied : b.copied = false) :
    ∃ y calls writes, (Response.copyBuffer (Response.write []) i b [] false).outcome x = (.ok (), y) ∧
      y.transport.medium = .memory charset [] calls writes ∧
      y.transport.status = (x.transport.takeHead b false).status ∧
      y.transport.headers = (x.transport.takeHead b false).headers := by
  by_cases hempty : b.content = []
  · rw [Response.outcome_copyBuffer_empty hcopied hempty, passHead_transport]
    exact ⟨_, calls, writes, rfl, (Transport.takeHead_medium _ b false).trans hmedium, rfl, rfl⟩
  · let z := (x.passHead b [] false).log (.copying b.content.length false)
    have hz : z.transport = x.transport.takeHead b false := by
      rw [log_transport, passHead_transport]
    have hzmedium : z.transport.medium = .memory charset [] calls writes := by
      rw [hz, Transport.takeHead_medium, hmedium]
    have hwrite : (Response.write [] b.content).outcome z = _ :=
      Transport.outcome_write_accepted ⟨_, _, _, _, hzmedium⟩
        (by simp [Transport.refuses, hzmedium]) b.content
    refine ⟨_, calls + 1, writes ++ [b.content],
      Response.outcome_copyBuffer_ok hcopied hempty hwrite, ?_, ?_, ?_⟩
    · simp only [putBuffer_transport, Transport.accept, hzmedium]
    · rw [putBuffer_transport, Transport.accept_status, hz]
    · rw [putBuffer_transport, Transport.accept_headers, hz]

/-- A step either leaves the sink open, or commits it with the head that the steps before it left. -/
theorem Uncommitted.act (h : x.Uncommitted status charset disabled steps) (hstep : step.OnBuffer) :
    ((step.act [0]).outcome x).2.Uncommitted status charset disabled (steps ++ [step]) ∨
      ∃ t : Transport, t.HasHead status disabled steps ∧ Sealed t ((step.act [0]).outcome x).2 := by
  obtain ⟨b, hb, hrequest, hcopied, -, -⟩ := h.buffer
  have hd : x.decorator 0 = .buffer b := by rw [decorator, hb]; rfl
  obtain ⟨y, calls, writes, hcopy, hmedium, hstatus, hheaders⟩ :=
    outcome_copyBuffer_recorder (i := 0) h.medium_eq hcopied
  have hhead := h.hasHead hb
  cases hstep with
  | setStatus code => exact .inl (h.setStatus code)
  | setHeader name value => exact .inl (h.setHeader name value)
  | disable => exact .inl h.disable
  | write data =>
      rcases Bool.eq_false_or_eq_true (b.forwarding x.context) with hforwarding | hholds
      · have hwrite : ((StackStep.write data).act [0]).outcome x =
            (.ok (), { y with transport := y.transport.accept data }) := by
          show (Response.write [0] data).outcome x = _
          rw [Response.outcome_write_forwarding hd hforwarding, outcome_bind_ok hcopy]
          exact Transport.outcome_write_accepted ⟨_, _, _, _, hmedium⟩
            (by simp [Transport.refuses, hmedium]) data
        rw [hwrite]
        refine .inr ⟨_, hhead, Transport.accept_committed _ data, ?_, ?_⟩
        · rw [Transport.accept_status, hstatus]
        · rw [Transport.accept_headers, hheaders]
      · have hwrite : ((StackStep.write data).act [0]).outcome x = _ :=
          Response.outcome_write_held hd hholds data
        rw [hwrite]
        exact .inl (h.write_held hb data)
  | flush =>
      have hflush : ((StackStep.flush 0).act [0]).outcome x =
          (.ok (), { y with transport := { y.transport with committed := true } }) := by
        show (Response.flush [0]).outcome x = _
        rw [Response.outcome_flush_buffer hd, outcome_bind_ok hcopy]
        exact Transport.outcome_flush_recorder ⟨_, _, _, _, hmedium⟩
      rw [hflush]
      exact .inr ⟨_, hhead, rfl, hstatus, hheaders⟩

theorem committed_run (hcommitted : x.transport.committed = true) (response : Response)
    (steps : List StackStep) : (run response steps x).2.transport.committed = true :=
  (run_keeps (lasting_sealed x.transport) response steps ⟨hcommitted, rfl, rfl⟩).committed_eq

theorem uncommitted_run (hsteps : ∀ step ∈ steps, step.OnBuffer)
    (hopen : (run [0] steps (overSink status charset context)).2.transport.committed = false) :
    (run [0] steps (overSink status charset context)).2.Uncommitted status charset
      context.cachingDisabled steps := by
  induction steps using List.reverseRecOn with
  | nil => exact .start status charset context
  | append_singleton steps step ih =>
      rw [run_append] at hopen ⊢
      let y := (run [0] steps (overSink status charset context)).2
      have hbefore : y.transport.committed = false := by
        rcases Bool.eq_false_or_eq_true y.transport.committed with hcommitted | hbefore
        · have hclosed := committed_run hcommitted [0] [step]
          rw [hopen] at hclosed
          cases hclosed
        · exact hbefore
      have hy := ih (fun other hmem => hsteps other (List.mem_append_left _ hmem)) hbefore
      rcases hy.act (hsteps step (by simp)) with hafter | ⟨t, -, hsealed⟩
      · exact hafter
      · have hclosed : (run [0] [step] y).2.transport.committed = true := hsealed.committed_eq
        rw [hopen] at hclosed
        cases hclosed

end Exchange

/-! ## The head of the commitment -/

open Exchange StackStep

/-- When a step commits the sink below a buffer, the sink has the last status that was set on the buffer,
and its own if there was none.  Each header has the value it was set to last; only a content length
that the buffer held back when caching was disabled comes before one that was set later.  Whatever
steps follow, the sink keeps this head. -/
theorem head_of_commitment {status : Int} {charset : Charset} {context : Context}
    {steps : List StackStep} {step : StackStep} (later : List StackStep)
    (hsteps : ∀ step ∈ steps, step.OnBuffer) (hstep : step.OnBuffer)
    (hopen : (run [0] steps (overSink status charset context)).2.transport.committed = false)
    (hcommits :
      (run [0] (steps ++ [step]) (overSink status charset context)).2.transport.committed = true) :
    let t := (run [0] (steps ++ step :: later) (overSink status charset context)).2.transport
    t.committed = true ∧ t.status = (lastStatus? (calls steps)).getD status ∧
      ∀ name, t.headers.getList? name =
        (if Text.lower name = "content-length" then
            (heldLength? context.cachingDisabled steps).or (lastValue? name (calls steps))
          else lastValue? name (calls steps)).map ([·]) := by
  intro t
  have hbefore := uncommitted_run hsteps hopen
  rw [run_append] at hcommits
  rcases hbefore.act hstep with hafter | ⟨u, hhead, hsealed⟩
  · have hstill := hafter.committed_eq
    have hclosed : ((step.act [0]).outcome _).2.transport.committed = true := hcommits
    rw [hstill] at hclosed
    cases hclosed
  · have hfinal :
        Sealed u (run [0] (steps ++ step :: later) (overSink status charset context)).2 := by
      rw [run_append]
      exact run_keeps (lasting_sealed u) [0] later hsealed
    refine ⟨hfinal.committed_eq, hfinal.status_eq.trans hhead.status_eq, fun name => ?_⟩
    rw [← hhead.value_eq name]
    exact congrArg (·.getList? name) hfinal.headers_eq

/-- A handler gives a content length, disables caching and then gives another one: the first one is
committed. -/
theorem head_of_commitment_held :
    let steps : List StackStep := [.setHeader 0 "Content-Length" "5",
      .changeContext .disableCaching, .setHeader 0 "Content-Length" "7"]
    let x := Exchange.overSink 200 .utf8 {}
    (∀ step ∈ steps, step.OnBuffer) ∧ (StackStep.flush 0).OnBuffer ∧
      (StackStep.run [0] steps x).2.transport.committed = false ∧
      (StackStep.run [0] (steps ++ [.flush 0]) x).2.transport.committed = true ∧
      (StackStep.run [0] (steps ++ [.flush 0]) x).2.transport.headers.getList? "content-length" =
        some ["5"] := by
  intro steps x
  have hsteps : ∀ step ∈ steps, step.OnBuffer := by
    simp only [steps, List.forall_mem_cons]
    exact ⟨.setHeader _ _, .disable, .setHeader _ _, nofun⟩
  have hopen : (StackStep.run [0] steps x).2.transport.committed = false := by decide +kernel
  have hcommits : (StackStep.run [0] (steps ++ [.flush 0]) x).2.transport.committed = true := by
    decide +kernel
  obtain ⟨-, -, hvalue⟩ := head_of_commitment [] hsteps .flush hopen hcommits
  refine ⟨hsteps, .flush, hopen, hcommits, ?_⟩
  rw [hvalue "content-length"]
  decide +kernel

end Revalidation
