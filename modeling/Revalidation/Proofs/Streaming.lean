import Revalidation.Proofs.Composition
import Revalidation.Proofs.Relay

/-!
# Streaming through a buffer

Once caching is disabled, a buffer over an asynchronous server holds nothing new back: the next write
first sends what was held and then itself.  `Streaming` is what stays true from then on, and no byte
is lost on the way, since the parts sent and the content still held make up all that was written.
-/

namespace Revalidation

inductive Call.OfMessage : Call → Prop
  | setStatus (status : Int) : OfMessage (setStatus status)
  | addHeader {name value : String} (hname : Latin1 name) (hvalue : Latin1 value) :
      OfMessage (addHeader name value)
  | write (data : Bytes) : OfMessage (write data)

variable {x y : Exchange} {i : Nat} {b : Buffer} {parts : List Bytes} {call : Call}
  {calls : List Call}

theorem Call.OfMessage.composes (h : call.OfMessage) : call.Composes .utf8 := by
  cases h with
  | setStatus status => exact .setStatus status
  | addHeader hname hvalue => exact .addHeader _ _
  | write data => exact .write data

theorem latin1_passedHeaders (hcalls : ∀ call ∈ calls, call.OfMessage) {h : Headers} (hh : h.Latin1) :
    (passedHeaders h calls).Latin1 := by
  induction calls generalizing h with
  | nil => exact hh
  | cons call rest ih =>
      refine ih (fun other hmem => hcalls other (List.mem_cons_of_mem call hmem)) ?_
      cases hcalls call List.mem_cons_self with
      | setStatus status | write data => exact hh
      | addHeader hname hvalue =>
          simp only [Call.passHeader]
          split
          · exact hh
          · exact hh.add hname hvalue

theorem latin1_lastLength? (hcalls : ∀ call ∈ calls, call.OfMessage)
    {value : String} (hlength : lastLength? calls = some value) : Latin1 value := by
  have hmem : value ∈ calls.filterMap Call.length? := List.mem_of_getLast? hlength
  obtain ⟨call, hcall, hvalue⟩ := List.mem_filterMap.1 hmem
  cases hcalls call hcall with
  | setStatus status | write data => cases hvalue
  | addHeader hname hlatin1 =>
      simp only [Call.length?] at hvalue
      split at hvalue
      · rwa [← Option.some.inj hvalue]
      · cases hvalue

/-! ## Copies to the server -/

namespace Exchange.Relaying

open Exchange Revalidation.Action

theorem changeTransport (h : x.Relaying parts) (event : LogEvent) {change : Transport → Transport}
    (hmedium : (change x.transport).medium = x.transport.medium)
    (hcommitted : (change x.transport).committed = x.transport.committed)
    (hlatin1 : (change x.transport).headers.Latin1) :
    (x.changeTransport event change).Relaying parts := by
  rcases Bool.eq_false_or_eq_true x.transport.committed with hclosed | hopen
  · rw [Exchange.changeTransport, if_pos hclosed, ignore]
    split
    · exact h.log event
    · exact h
  · rw [changeTransport_open hopen]
    refine h.setTransport hmedium hlatin1 hcommitted fun hclosed => ?_
    rw [hopen] at hclosed
    cases hclosed

theorem quiet (h : x.Relaying []) (hopen : x.transport.committed = false) (hquiet : Quiet [] x y)
    (hlatin1 : y.transport.headers.Latin1) : y.Relaying [] where
  medium_eq := by rw [hquiet.medium_eq, h.medium_eq]
  failing_eq := by rw [hquiet.server_eq, h.failing_eq]
  latin1 := hlatin1
  parts_ne := nofun
  sent_open _ := ⟨by rw [hquiet.sent_eq, (h.sent_open hopen).1], rfl⟩
  sent_committed hcommitted := by
    rw [hquiet.committed_eq, hopen] at hcommitted
    cases hcommitted

theorem changeContext (h : x.Relaying parts) (change : Context.Change) :
    (x.changeContext change).Relaying parts := by
  unfold Exchange.changeContext
  split <;> exact h.congr rfl rfl rfl

theorem passHead (h : x.Relaying parts) (hlength : ∀ value, b.contentLength = some value → Latin1 value)
    (complete : Bool) : (x.passHead b [] complete).Relaying parts := by
  rw [passHead_transport]
  rcases Bool.eq_false_or_eq_true x.transport.committed with hclosed | hopen
  · have hsame : x.transport.takeHead b complete = x.transport := if_pos hclosed
    rw [hsame]
    exact h
  · refine h.setTransport (Transport.takeHead_medium _ b complete) ?_
      (Transport.takeHead_committed _ b complete) fun hclosed => ?_
    · rw [Transport.takeHead_headers hopen]
      have hname : Latin1 contentLengthName := by decide
      have hpassed (value : String) (hvalue : b.passedLength complete = some value) : Latin1 value := by
        unfold Buffer.passedLength at hvalue
        split at hvalue
        · rw [← Option.some.inj hvalue]
          exact Latin1.decimal _
        · exact hlength value hvalue
      cases hvalue : b.passedLength complete with
      | none => exact h.latin1
      | some value => exact h.latin1.set hname (hpassed value hvalue)
    · rw [hopen] at hclosed
      cases hclosed

/-- A copy sends what the buffer holds in one part, once the head has been passed on. -/
theorem copyBuffer (h : x.Relaying parts) (hb : x.decorator i = .buffer b) (hcopied : b.copied = false)
    (hlength : ∀ value, b.contentLength = some value → Latin1 value) (complete : Bool) :
    ∃ y, (Response.copyBuffer (Response.write []) i b [] complete).outcome x = (.ok (), y) ∧
      y.Relaying (parts ++ chunks b.content) ∧ y.decorator i = .buffer b.afterCopy ∧
      y.context = x.context ∧
      y.transport.headers = (x.transport.takeHead b complete).headers := by
  have hhead := h.passHead hlength complete
  by_cases hempty : b.content = []
  · refine ⟨_, Response.outcome_copyBuffer_empty hcopied hempty, ?_, ?_, ?_, ?_⟩
    · simpa [chunks, hempty] using hhead.putBuffer
    · rw [passHead_transport]
      exact decorator_putBuffer_self hb
    · rw [passHead_transport]
      rfl
    · rw [passHead_transport]
      rfl
  · obtain ⟨y, hwrite, hy, htransport, hbeneath⟩ :=
      (hhead.log (.copying b.content.length complete)).write b.content
    have hdecorator : y.decorator i = .buffer b := by
      rw [hbeneath.within.decorator_eq i List.not_mem_nil, passHead_transport]
      exact hb
    refine ⟨_, Response.outcome_copyBuffer_ok hcopied hempty hwrite, hy.putBuffer,
      decorator_putBuffer_self hdecorator, ?_, ?_⟩
    · rw [putBuffer_context, hbeneath.context_eq, passHead_transport]
      rfl
    · rw [putBuffer_transport, htransport, passHead_transport]
      rfl

end Exchange.Relaying

/-! ## A buffer that forwards -/

namespace Exchange

open Revalidation.Action

/-- Caching is disabled at a buffer over an asynchronous server, and a buffer that has been copied
holds nothing. -/
structure Streaming (x : Exchange) (i : Nat) (parts : List Bytes) (b : Buffer) : Prop where
  relaying : x.Relaying parts
  decorator_eq : x.decorator i = .buffer b
  forRequest_eq : b.forRequest = true
  disabled : x.context.cachingDisabled = true
  synchronous : x.context.asyncStarted = false
  empty_of_copied : b.copied = true → b.content = []
  latin1_length : ∀ value, b.contentLength = some value → Latin1 value

namespace Streaming

theorem forwarding (h : x.Streaming i parts b) : b.forwarding x.context = true := by
  simp [Buffer.forwarding, h.forRequest_eq, h.disabled]

theorem note (h : x.Streaming i parts b) {entry : Entry} (hentry : entry.message? = none) :
    (x.note entry).Streaming i parts b :=
  { h with relaying := h.relaying.note hentry }

theorem changeContext (h : x.Streaming i parts b) :
    (x.changeContext .disableCaching).Streaming i parts b where
  relaying := h.relaying.changeContext .disableCaching
  decorator_eq := by rw [changeContext_decorator, h.decorator_eq]
  forRequest_eq := h.forRequest_eq
  disabled := by
    unfold Exchange.changeContext
    split <;> rfl
  synchronous := by
    unfold Exchange.changeContext
    split
    · exact h.synchronous
    · rfl
  empty_of_copied := h.empty_of_copied
  latin1_length := h.latin1_length

theorem setStatus (h : x.Streaming i parts b) (status : Int) :
    (x.setStatus [i] status).Streaming i parts { b with status := some status } := by
  have hstatus : x.setStatus [i] status =
      (x.setTransportStatus status).putBuffer i { b with status := some status } := by
    simp [Exchange.setStatus, h.decorator_eq, h.forwarding]
  have hquiet : Quiet [] x (x.setTransportStatus status) := quiet_setStatus [] x status
  have hb : (x.setTransportStatus status).decorator i = .buffer b := by
    rw [hquiet.decorator_eq i List.not_mem_nil, h.decorator_eq]
  have hrelaying : (x.setTransportStatus status).Relaying parts :=
    h.relaying.changeTransport _ rfl rfl h.relaying.latin1
  rw [hstatus]
  exact
    { relaying := hrelaying.putBuffer
      decorator_eq := decorator_putBuffer_self hb
      forRequest_eq := h.forRequest_eq
      disabled := by rw [putBuffer_context, hquiet.context_eq, h.disabled]
      synchronous := by rw [putBuffer_context, hquiet.context_eq, h.synchronous]
      empty_of_copied := h.empty_of_copied
      latin1_length := h.latin1_length }

theorem addHeader (h : x.Streaming i parts b) {name value : String} (hname : Latin1 name)
    (hvalue : Latin1 value) : (x.addHeader [i] name value).Streaming i parts b := by
  have hheader : x.addHeader [i] name value = x.addTransportHeader name value := by
    simp [Exchange.addHeader, h.decorator_eq, Buffer.holds, h.forwarding]
  have hquiet : Quiet [] x (x.addTransportHeader name value) := quiet_addHeader [] x name value
  rw [hheader]
  exact
    { relaying := h.relaying.changeTransport _ rfl rfl (h.relaying.latin1.add hname hvalue)
      decorator_eq := by rw [hquiet.decorator_eq i List.not_mem_nil, h.decorator_eq]
      forRequest_eq := h.forRequest_eq
      disabled := by rw [hquiet.context_eq, h.disabled]
      synchronous := by rw [hquiet.context_eq, h.synchronous]
      empty_of_copied := h.empty_of_copied
      latin1_length := h.latin1_length }

theorem within (h : x.Streaming i parts b) {sent : List Bytes} (hy : y.Relaying sent)
    (hwithin : Within [] x y) : y.Streaming i sent b :=
  { h with
    relaying := hy
    decorator_eq := by rw [hwithin.decorator_eq i List.not_mem_nil, h.decorator_eq]
    disabled := by rw [hwithin.context_eq, h.disabled]
    synchronous := by rw [hwithin.context_eq, h.synchronous] }

theorem copy (h : x.Streaming i parts b) :
    ∃ y, (Response.copyBuffer (Response.write []) i b [] false).outcome x = (.ok (), y) ∧
      y.Streaming i (parts ++ chunks b.content) b.afterCopy := by
  -- A buffer that has been copied forwards its writes at once, so it has nothing left to send.
  rcases Bool.eq_false_or_eq_true b.copied with hcopied | hcopied
  · have hempty := h.empty_of_copied hcopied
    have hsame : b.afterCopy = b := by rw [Buffer.afterCopy, ← hempty, ← hcopied]
    refine ⟨x, Response.outcome_copyBuffer_copied hcopied, ?_⟩
    simpa [hsame, hempty, chunks] using h
  · obtain ⟨y, hcopy, hy, hdecorator, hcontext, -⟩ :=
      h.relaying.copyBuffer h.decorator_eq hcopied h.latin1_length false
    refine ⟨y, hcopy, ?_⟩
    exact
      { relaying := hy
        decorator_eq := hdecorator
        forRequest_eq := h.forRequest_eq
        disabled := by rw [hcontext, h.disabled]
        synchronous := by rw [hcontext, h.synchronous]
        empty_of_copied := fun _ => rfl
        latin1_length := h.latin1_length }

theorem write (h : x.Streaming i parts b) (data : Bytes) :
    ∃ y, (Response.write [i] data).outcome x = (.ok (), y) ∧
      y.Streaming i (parts ++ chunks b.content ++ chunks data) b.afterCopy := by
  obtain ⟨y, hcopy, hy⟩ := h.copy
  obtain ⟨z, hwrite, hz, -, hbeneath⟩ := hy.relaying.write data
  refine ⟨z, ?_, hy.within hz hbeneath.within⟩
  rw [Response.outcome_write_forwarding h.decorator_eq h.forwarding, outcome_bind_ok hcopy]
  exact hwrite

theorem flush (h : x.Streaming i parts b) :
    ∃ y, (Response.flush [i]).outcome x = (.ok (), y) ∧
      y.Streaming i (parts ++ chunks b.content) b.afterCopy := by
  obtain ⟨y, hcopy, hy⟩ := h.copy
  obtain ⟨z, hflush, hz, -, hbeneath⟩ := hy.relaying.flush
  refine ⟨z, ?_, hy.within hz hbeneath.within⟩
  rw [Response.outcome_flush_buffer h.decorator_eq, outcome_bind_ok hcopy]
  exact hflush

theorem perform (h : x.Streaming i parts b) (hcall : call.OfMessage) :
    ∃ y sent c, (Response.perform [i] call).outcome x = (.ok (), y) ∧ y.Streaming i sent c ∧
      sent.flatten ++ c.content = parts.flatten ++ b.content ++ call.bytes .utf8 := by
  cases hcall with
  | setStatus status =>
      exact ⟨_, parts, _, rfl, h.setStatus status, by simp [Call.bytes]⟩
  | addHeader hname hvalue =>
      exact ⟨_, parts, b, rfl, h.addHeader hname hvalue, by simp [Call.bytes]⟩
  | write data =>
      obtain ⟨y, hwrite, hy⟩ := h.write data
      exact ⟨y, _, _, hwrite, hy, by simp [Call.bytes, Buffer.afterCopy]⟩

theorem performAll (h : x.Streaming i parts b) (hcalls : ∀ call ∈ calls, call.OfMessage) :
    ∃ y sent c, (Response.performAll [i] calls).outcome x = (.ok (), y) ∧ y.Streaming i sent c ∧
      sent.flatten ++ c.content = parts.flatten ++ b.content ++ writtenBytes .utf8 calls := by
  induction calls generalizing x parts b with
  | nil => exact ⟨x, parts, b, rfl, h, by simp [writtenBytes]⟩
  | cons call rest ih =>
      obtain ⟨y, sent, c, hfirst, hy, hbody⟩ := h.perform (hcalls call List.mem_cons_self)
      obtain ⟨z, all, d, hrest, hz, htotal⟩ :=
        ih hy fun other hmem => hcalls other (List.mem_cons_of_mem call hmem)
      refine ⟨z, all, d, ?_, hz, ?_⟩
      · show Action.outcome (Response.perform [i] call >>= fun _ => Response.performAll [i] rest) x = _
        rw [outcome_bind_ok hfirst, hrest]
      · rw [htotal, hbody, List.append_assoc]
        rfl

end Streaming
end Exchange
end Revalidation
