import Revalidation.Proofs.FieldValues
import Revalidation.Proofs.Iteration
import Revalidation.Proofs.Keeping

/-!
# Responses that are retained

While a buffer holds a response back, an application reaches the server only with messages that are
about no response.  A property of such exchanges has to survive little: that the response is composed,
that the journal goes on without a part of the response or an error, and a few changes beside the
response.  Every step of an application then keeps it, whether the step ends with a fault or not.
-/

namespace Revalidation

def Message.InResponse (message : Message) : Prop :=
  message.type = some Message.startType ∨ message.type = some Message.bodyType

instance (message : Message) : Decidable message.InResponse :=
  inferInstanceAs (Decidable (_ ∨ _))

/-- Whether an entry shows nothing of a response that reaches the server, and no error. -/
def Entry.isSilent : Entry → Bool
  | logged event => event.level ≠ .error
  | sent message => ¬message.InResponse
  | entry => !entry.isServed

inductive Call.Composed (gateway : Gateway) : Call → Prop
  | setStatus (status : Int) : Composed gateway (setStatus status)
  | addHeader {name value : String} (hname : gateway.Carries name)
      (hvalue : gateway.Carries value) : Composed gateway (addHeader name value)
  | write (data : Bytes) : Composed gateway (write data)

theorem Call.Composed.composes {gateway : Gateway} {made : Call} (h : made.Composed gateway) :
    made.Composes .utf8 := by
  cases h with
  | setStatus status => exact .setStatus status
  | addHeader hname hvalue => exact .addHeader _ _
  | write data => exact .write data

theorem Asgi.composed_calls (message : Message) : ∀ call ∈ message.calls, call.Composed .asgi := by
  intro call hcall
  cases message.calls_ofMessage call hcall with
  | setStatus status => exact .setStatus status
  | addHeader hname hvalue => exact .addHeader hname hvalue
  | write data => exact .write data

/-- Whether a step, and any step within it, makes only allowed changes of the exchange context. -/
def Asgi.Step.changesOnly (allowed : Context.Change → Bool) : Asgi.Step → Bool
  | changeContext _ change => allowed change
  | attempt step => step.changesOnly allowed
  | _ => true

/-- Whether a step, and any step within it, makes only allowed changes of the exchange context. -/
def Wsgi.Step.changesOnly (allowed : Context.Change → Bool) : Wsgi.Step → Bool
  | changeContext _ change => allowed change
  | attempt step => step.changesOnly allowed
  | _ => true

namespace Exchange

open Revalidation.Action

/-- A property of exchanges with a response that is retained at their only buffer, while the
application makes allowed changes of the context. -/
structure Retained (gateway : Gateway) (allowed : Context.Change → Bool) (P : Exchange → Prop) :
    Prop where
  attached {x : Exchange} : P x → x.published = .attached
  committed_eq {x : Exchange} : P x → x.transport.committed = false
  writer_eq {x : Exchange} : P x → ∀ writer, x.writer = some writer → writer = .response [0]
  note {x : Exchange} {entry : Entry} : entry.isSilent = true → P x → P (x.note entry)
  performAll {x : Exchange} {calls : List Call} : (∀ call ∈ calls, call.Composed gateway) → P x →
    ∃ y, (Response.performAll [0] calls).outcome x = (.ok (), y) ∧ P y
  changeContext {x : Exchange} {change : Context.Change} : allowed change = true → P x →
    P (x.changeContext change)
  resetHeaders {x : Exchange} : P x → P x.resetHeaders
  setWriter {x : Exchange} : P x → P { x with writer := some (.response [0]) }
  setSends {x : Exchange} (sends : Nat) : P x → P { x with server := { x.server with sends := sends } }
  setIncoming {x : Exchange} (incoming : List Message) : P x →
    P { x with server := { x.server with incoming := incoming } }

namespace Retained

variable {gateway : Gateway} {allowed : Context.Change → Bool} {P : Exchange → Prop} {entry : Entry}

theorem keeps_note (h : Retained gateway allowed P) (hsilent : entry.isSilent = true) :
    Keeps P (Action.note entry) := .modify fun _ => h.note hsilent

theorem keeps_attempt (h : Retained gateway allowed P) {action : Action Unit} (hkeeps : Keeps P action) :
    Keeps P (attempt action) := .tryCatch hkeeps fun _ => h.keeps_note rfl

/-! ## Asynchronous applications -/

section Asynchronous

open Asgi

variable (h : Retained .asgi allowed P) {scope : Scope} {app : Application} {step : Step}

include h

theorem keeps_send {message : Message} (hother : ¬message.InResponse) :
    Keeps P (Transport.send message) := by
  have hsilent : (Entry.sent message).isSilent = true := decide_eq_true hother
  intro x hx
  have hcounted := h.setSends (x.server.sends + 1) hx
  obtain ⟨-, hsend⟩ | ⟨-, hsend⟩ := Transport.outcome_send_counted x message <;> rw [hsend]
  · exact h.note rfl hcounted
  · exact h.note hsilent hcounted

theorem keeps_accept (message : Message) : Keeps P (accept [0] message) := by
  intro x hx
  obtain ⟨y, hperform, hy⟩ := h.performAll (composed_calls message) hx
  cases htype : message.type with
  | none => simpa [accept, htype] using hx
  | some type =>
      by_cases hstart : type = Message.startType
      · rw [hstart] at htype
        cases hstatus : message.status with
        | none => simpa [accept, acceptStart, htype, hstatus] using hx
        | some status =>
            rw [outcome_accept_start htype hstatus hperform]
            exact h.note rfl hy
      by_cases hbody : type = Message.bodyType
      · rw [hbody] at htype
        rw [outcome_accept_body htype, hperform]
        exact hy
      · have hother : ¬message.InResponse := by
          simp [Message.InResponse, htype, hstart, hbody]
        have haccept : accept [0] message = Transport.send message := by
          simp [accept, htype, hstart, hbody]
        rw [haccept]
        exact h.keeps_send hother x hx

theorem keeps_receive : Keeps P receive := by
  refine .read fun x hx => ?_
  cases x.server.incoming with
  | nil => exact h.note rfl hx
  | cons message rest => exact h.note rfl (h.setIncoming rest hx)

theorem keeps_asgiStep (hstep : step.changesOnly allowed = true) :
    Keeps P (runStep (.response [0]) step) := by
  induction step with
  | send message => exact .bind (h.keeps_note rfl) fun _ => h.keeps_accept message
  | receive => exact .bind (h.keeps_note rfl) fun _ => h.keeps_receive
  | changeContext name change =>
      exact .bind (h.keeps_note rfl) fun _ => .modify fun _ => h.changeContext hstep
  | fail kind text => exact .bind (h.keeps_note rfl) fun _ => .throw _
  | attempt step ih => exact .bind (h.keeps_note rfl) fun _ => h.keeps_attempt (ih hstep)

theorem keeps_serve (htype : scope.type = some "http")
    (happ : ∀ step ∈ app, step.changesOnly allowed = true) (filter : EtagFilter) (depth : Nat) :
    Keeps P (serve filter scope app depth (.response [0])) := by
  induction depth with
  | zero => exact .forM fun step hstep => h.keeps_asgiStep (happ step hstep)
  | succ depth ih =>
      -- The exchange is attached already, so a middleware further in does not handle it again.
      intro x hx
      rw [outcome_serve_inner htype depth _ (h.attached hx)]
      exact ih _ (h.note rfl hx)

end Asynchronous

/-! ## Synchronous applications -/

section Synchronous

open Wsgi

variable (h : Retained .wsgi allowed P) {app : Application} {step : Step} {steps : List Step}
  {iterable : Iterable} {items : List Item} {item : Item}

include h

theorem keeps_acceptStart (line : String) (headers : List (String × String)) (cause : Option Fault) :
    Keeps P (acceptStart [0] line headers cause) := by
  -- A start over drops the headers first, which goes through as long as nothing is committed.
  have hbegin (x : Exchange) (hx : P x) : ∃ y, P y ∧
      (acceptStart [0] line headers cause).outcome x =
        (acceptStart [0] line headers none).outcome y := by
    cases cause with
    | none => exact ⟨x, hx, rfl⟩
    | some fault =>
        exact ⟨x.resetHeaders, h.resetHeaders hx, outcome_acceptStart_again (h.committed_eq hx)⟩
  intro x hx
  obtain ⟨y, hy, hstart⟩ := hbegin x hx
  rw [hstart]
  cases hcode : statusCode line with
  | error fault =>
      have haccept : (acceptStart [0] line headers none).outcome y = (.error fault, y) := by
        unfold acceptStart
        rw [hcode]
        rfl
      rw [haccept]
      exact hy
  | ok code =>
      have hcalls : ∀ call ∈ startCalls headers (.ok code), call.Composed .wsgi := by
        rw [startCalls, List.forall_mem_cons, List.forall_mem_map]
        exact ⟨.setStatus code, fun header _ => .addHeader trivial trivial⟩
      obtain ⟨z, hperform, hz⟩ := h.performAll hcalls hy
      rw [outcome_acceptStart_ok hcode hperform]
      exact h.note rfl hz

theorem keeps_response_write (data : Bytes) : Keeps P (Response.write [0] data) := by
  intro x hx
  have hcall : ∀ call ∈ [Call.write data], call.Composed .wsgi :=
    List.forall_mem_cons.2 ⟨.write data, nofun⟩
  obtain ⟨y, hperform, hy⟩ := h.performAll hcall hx
  obtain ⟨_, _, hwrite, hend⟩ := exists_of_bind_ok hperform
  cases hend
  rw [show (Response.write [0] data).outcome x = _ from hwrite]
  exact hy

theorem keeps_write (data : Bytes) : Keeps P (write data) := by
  refine .read fun x hx => ?_
  cases hwriter : x.writer with
  | none => exact hx
  | some writer =>
      rw [h.writer_eq hx writer hwriter]
      exact h.keeps_response_write data x hx

theorem keeps_wsgiStep (hstep : step.changesOnly allowed = true) :
    Keeps P (runStep (.response [0]) step) := by
  induction step with
  | start line headers cause =>
      refine .bind (h.keeps_note rfl) fun _ => ?_
      exact .bind (h.keeps_acceptStart line headers cause) fun _ => .modify fun _ => h.setWriter
  | write data => exact .bind (h.keeps_note rfl) fun _ => h.keeps_write data
  | changeContext name change =>
      exact .bind (h.keeps_note rfl) fun _ => .modify fun _ => h.changeContext hstep
  | fail kind text => exact .bind (h.keeps_note rfl) fun _ => .throw _
  | attempt step ih => exact .bind (h.keeps_note rfl) fun _ => h.keeps_attempt (ih hstep)

theorem keeps_run (hsteps : ∀ step ∈ steps, step.changesOnly allowed = true) :
    Keeps P (run (.response [0]) steps) :=
  .forM fun step hstep => h.keeps_wsgiStep (hsteps step hstep)

theorem keeps_call (hsteps : ∀ step ∈ app.steps, step.changesOnly allowed = true) (depth : Nat) :
    Keeps P (call app (.response [0]) depth) := by
  induction depth with
  | zero => exact .bind (h.keeps_run hsteps) fun _ => .pure _
  | succ depth ih => exact .bind (h.keeps_note rfl) fun _ => ih

theorem keeps_close (hsteps : ∀ step ∈ iterable.closeSteps, step.changesOnly allowed = true) :
    Keeps P (iterable.close (.response [0])) := by
  unfold Iterable.closeSteps at hsteps
  unfold Iterable.close
  split
  · next hkind =>
    rw [if_pos hkind] at hsteps
    refine .bind (.modify fun _ => h.note rfl) fun _ => .bind (h.keeps_run hsteps) fun _ => ?_
    split
    · exact .throw _
    · exact .pure ()
  · exact .pure ()

theorem keeps_pull (hsteps : ∀ step ∈ item.steps, step.changesOnly allowed = true) (before : Nat) :
    Keeps P (item.pull (.response [0]) before) :=
  .bind (.modify fun _ => h.note rfl) fun _ => .bind (h.keeps_run hsteps) fun _ => .pure _

theorem keeps_exhaust (hsteps : ∀ step ∈ iterable.last, step.changesOnly allowed = true)
    (before : Nat) : Keeps P (iterable.exhaust (.response [0]) before) :=
  .bind (.modify fun _ => h.note rfl) fun _ => h.keeps_run hsteps

theorem keeps_chunk (item : Item) :
    Keeps P (if item.chunk.isEmpty then pure () else Response.write [0] item.chunk) := by
  split
  · exact .pure ()
  · exact h.keeps_response_write item.chunk

theorem keeps_collect (hsteps : ∀ step ∈ iterable.stepsFrom items, step.changesOnly allowed = true)
    (pulled : Nat) : Keeps P (collect iterable (.response [0]) [0] items pulled) := by
  induction items generalizing pulled with
  | nil => exact .bind (h.keeps_exhaust hsteps pulled) fun _ => .pure _
  | cons item rest ih =>
      rw [Iterable.stepsFrom_cons, List.forall_mem_append] at hsteps
      have hnext : Keeps P (do
          if (← get).context.cachingDisabled then return some (rest, pulled + 1)
          collect iterable (.response [0]) [0] rest (pulled + 1)) := by
        refine .read fun x hx => ?_
        split
        · exact hx
        · exact ih hsteps.2 (pulled + 1) x hx
      refine .bind (h.keeps_pull hsteps.1 pulled) fun chunk => ?_
      split
      · have hwrite : Keeps P (Response.write [0] chunk) := h.keeps_response_write chunk
        exact .bind hwrite fun _ => hnext
      · exact hnext

end Synchronous

end Retained
end Exchange
end Revalidation
