import Revalidation.Proofs.Answer
import Revalidation.Proofs.Relay

/-!
# Flushing early

A handler that flushes commits what it has composed until then.  The buffer is copied before its body
is complete, so that no length is computed, and from then on it forwards: a committed sink takes no
status and no header, and it records every later write as it comes.  The evaluation after the handler
meets a committed sink under a copied buffer and adds nothing.
-/

namespace Revalidation

open Revalidation.Action Exchange

variable {x y : Exchange} {i : Nat} {b : Buffer} {status : Int} {headers : Headers} {charset : Charset}
  {failing : List Nat} {writes : List Bytes} {data : Bytes} {call : Call} {calls before after : List Call}
  {filter : EtagFilter} {style : CallStyle} {request : Request}

/-! ## A committed sink -/

def Transport.released (status : Int) (headers : Headers) (charset : Charset) (failing : List Nat)
    (writes : List Bytes) : Transport where
  medium := .memory charset failing writes.length writes
  status := status
  headers := headers
  committed := true

namespace Transport

theorem released_records : (released status headers charset failing writes).Records :=
  ⟨charset, failing, writes.length, writes, rfl⟩

theorem refuses_released (hnumber : writes.length + 1 ∉ failing) :
    (released status headers charset failing writes).refuses = false := by
  simp [refuses, released, hnumber]

theorem accept_released (data : Bytes) :
    (released status headers charset failing writes).accept data =
      released status headers charset failing (writes ++ [data]) := by
  simp [accept, released]

end Transport

namespace Exchange

/-- The response is on its way: the buffer was copied to a sink that is committed. -/
structure Released (x : Exchange) (i : Nat) (t : Transport) : Prop where
  copied : ∃ b, x.decorator i = .buffer b ∧ b.copied = true
  transport_eq : x.transport = t
  context_eq : x.context = {}

namespace Released

theorem changeTransport_eq (h : x.Released i (.released status headers charset failing writes))
    (event : LogEvent) (change : Transport → Transport) : x.changeTransport event change = x := by
  have hcommitted : x.transport.committed = true := by rw [h.transport_eq]; rfl
  have hlogs : x.transport.logsIgnored = false := by rw [h.transport_eq]; rfl
  rw [Exchange.changeTransport, if_pos hcommitted, ignore, if_neg (by simp [hlogs])]

theorem exists_forwarding (h : x.Released i (.released status headers charset failing writes)) :
    ∃ b, x.decorator i = .buffer b ∧ b.copied = true ∧ b.forwarding x.context = true := by
  obtain ⟨b, hb, hcopied⟩ := h.copied
  exact ⟨b, hb, hcopied, by simp [Buffer.forwarding, hcopied]⟩

theorem setStatus (h : x.Released i (.released status headers charset failing writes)) (late : Int) :
    (x.setStatus [i] late).Released i (.released status headers charset failing writes) := by
  obtain ⟨b, hb, hcopied, hforwarding⟩ := h.exists_forwarding
  have hsame : x.setTransportStatus late = x := h.changeTransport_eq _ _
  simp only [Exchange.setStatus, hb, hforwarding, if_true, hsame]
  exact ⟨⟨_, decorator_putBuffer_self hb, hcopied⟩, h.transport_eq, h.context_eq⟩

theorem setHeader (h : x.Released i (.released status headers charset failing writes))
    (name value : String) : x.setHeader [i] name value = x := by
  obtain ⟨b, hb, -, hforwarding⟩ := h.exists_forwarding
  simp only [Exchange.setHeader, hb, Buffer.holds, hforwarding, Bool.not_true, Bool.false_and,
    Bool.false_eq_true, if_false]
  exact h.changeTransport_eq _ _

theorem addHeader (h : x.Released i (.released status headers charset failing writes))
    (name value : String) : x.addHeader [i] name value = x := by
  obtain ⟨b, hb, -, hforwarding⟩ := h.exists_forwarding
  simp only [Exchange.addHeader, hb, Buffer.holds, hforwarding, Bool.not_true, Bool.false_and,
    Bool.false_eq_true, if_false]
  exact h.changeTransport_eq _ _

theorem write (h : x.Released i (.released status headers charset failing writes))
    (hnumber : writes.length + 1 ∉ failing) (data : Bytes) :
    ∃ y, (Response.write [i] data).outcome x = (.ok (), y) ∧
      y.Released i (.released status headers charset failing (writes ++ [data])) := by
  obtain ⟨b, hb, hcopied, hforwarding⟩ := h.exists_forwarding
  have hrecords : x.Records := by
    rw [Records, h.transport_eq]
    exact Transport.released_records
  have haccepts : x.transport.refuses = false := by
    rw [h.transport_eq]
    exact Transport.refuses_released hnumber
  rw [Response.outcome_write_forwarding hb hforwarding,
    outcome_bind_ok (Response.outcome_copyBuffer_copied hcopied), Response.write_nil,
    Transport.outcome_write_accepted hrecords haccepts]
  refine ⟨_, rfl, ⟨b, hb, hcopied⟩, ?_, h.context_eq⟩
  show x.transport.accept data = _
  rw [h.transport_eq, Transport.accept_released]

theorem flush (h : x.Released i (.released status headers charset failing writes)) :
    (Response.flush [i]).outcome x = (.ok (), x) := by
  obtain ⟨b, hb, hcopied, -⟩ := h.exists_forwarding
  have hrecords : x.Records := by
    rw [Records, h.transport_eq]
    exact Transport.released_records
  have hsame : ({ x with transport := { x.transport with committed := true } } : Exchange) = x := by
    have hcommitted : x.transport.committed = true := by rw [h.transport_eq]; rfl
    rw [← hcommitted]
  rw [Response.outcome_flush_buffer hb, outcome_bind_ok (Response.outcome_copyBuffer_copied hcopied),
    Response.flush, Transport.outcome_flush_recorder hrecords, hsame]

theorem perform (h : x.Released i (.released status headers charset failing writes))
    (hcall : call.Composes charset ∨ call = .flush)
    (hnumber : (call.written? charset).isSome = true → writes.length + 1 ∉ failing) :
    ∃ y, (Response.perform [i] call).outcome x = (.ok (), y) ∧
      y.Released i (.released status headers charset failing
        (writes ++ (call.written? charset).toList)) := by
  obtain hcomposes | rfl := hcall
  · cases hcomposes with
    | setStatus late =>
        exact ⟨_, rfl, by simpa [Call.written?] using h.setStatus late⟩
    | setHeader name value =>
        exact ⟨_, rfl, by simpa [Call.written?, h.setHeader name value] using h⟩
    | addHeader name value =>
        exact ⟨_, rfl, by simpa [Call.written?, h.addHeader name value] using h⟩
    | write data => exact h.write (hnumber rfl) data
    | @writeText text data hencode =>
        obtain ⟨b, hb, -⟩ := h.copied
        have hwritten : (Call.writeText text).written? charset = some data := by
          simp [Call.written?, hencode, Except.toOption]
        have hchar : x.charset [i] = charset := by
          simp [Exchange.charset, buffer?, hb, h.transport_eq]
          rfl
        have htext : (Response.writeText [i] text).outcome x = (Response.write [i] data).outcome x := by
          simp [Response.writeText, outcome_bind, hchar, hencode]
        rw [Response.perform, htext, hwritten]
        exact h.write (hnumber (by rw [hwritten]; rfl)) data
  · exact ⟨x, h.flush, by simpa [Call.written?] using h⟩

/-- Calls after the flush leave the head of the response alone, and their writes are recorded one by
one. -/
theorem performAll (h : x.Released i (.released status headers charset failing writes))
    (hcalls : ∀ call ∈ calls, call.Composes charset ∨ call = .flush)
    (hfailing : ∀ number, 0 < number →
      number ≤ (writes ++ writtenPieces charset calls).length → number ∉ failing) :
    ∃ y, (Response.performAll [i] calls).outcome x = (.ok (), y) ∧
      y.Released i (.released status headers charset failing
        (writes ++ writtenPieces charset calls)) := by
  induction calls generalizing x writes with
  | nil => exact ⟨x, rfl, by simpa [writtenPieces] using h⟩
  | cons call rest ih =>
      have hpieces : writes ++ writtenPieces charset (call :: rest) =
          writes ++ (call.written? charset).toList ++ writtenPieces charset rest := by
        rw [writtenPieces, List.filterMap_cons, ← writtenPieces]
        cases call.written? charset <;> simp
      rw [hpieces] at hfailing ⊢
      have hnumber (hsome : (call.written? charset).isSome = true) : writes.length + 1 ∉ failing := by
        obtain ⟨data, hdata⟩ := Option.isSome_iff_exists.1 hsome
        apply hfailing _ (Nat.succ_pos _)
        simp only [hdata, List.length_append, Option.toList_some, List.length_singleton]
        omega
      obtain ⟨y, hfirst, hy⟩ := h.perform (hcalls call List.mem_cons_self) hnumber
      obtain ⟨z, hrest, hz⟩ := ih hy (fun other hmem => hcalls other (List.mem_cons_of_mem call hmem))
        hfailing
      refine ⟨z, ?_, hz⟩
      show (Response.perform [i] call >>= fun _ => Response.performAll [i] rest).outcome x = _
      rw [outcome_bind_ok hfirst, hrest]

theorem conclude (h : x.Released i (.released status headers charset failing writes))
    (filter : EtagFilter) (style : CallStyle) (request : Request) :
    (filter.conclude style request [i]).outcome x = (.ok (), x.log (.alreadyCommitted request.url)) := by
  obtain ⟨b, hb, hcopied, -⟩ := h.exists_forwarding
  have hcommitted : x.transport.committed = true := by rw [h.transport_eq]; rfl
  rw [EtagFilter.outcome_conclude_evaluate hb (by rw [h.context_eq]) (by rw [h.context_eq]),
    EtagFilter.outcome_evaluate_committed hcommitted, Response.outcome_copyBody_buffer (by exact hb),
    Response.outcome_copyBuffer_copied hcopied]

end Released
end Exchange

/-! ## The first flush -/

/-- The first flush passes the recorded status and the content length of the handler on, and what the
buffer holds as one write. -/
theorem Response.outcome_flush_held (hb : x.decorator i = .buffer b) (hcopied : b.copied = false)
    (htransport : x.transport = { Transport.recorder status charset failing with headers := headers })
    (hcontext : x.context = {}) (hnumber : b.content ≠ [] → 1 ∉ failing) :
    ∃ y, (Response.flush [i]).outcome x = (.ok (), y) ∧
      y.Released i (.released (b.status.getD status) (headers.withLength b.contentLength) charset failing
        (chunks b.content)) := by
  have hrecords : x.Records := ⟨charset, failing, 0, [], by rw [htransport]; rfl⟩
  have hopen : x.transport.committed = false := by rw [htransport]; rfl
  have hhead : x.transport.takeHead b false =
      { Transport.recorder (b.status.getD status) charset failing with
        headers := headers.withLength b.contentLength } := by
    rw [Transport.takeHead, if_neg (by simp [hopen]), htransport]
    rfl
  rw [outcome_flush_buffer hb]
  by_cases hempty : b.content = []
  · rw [outcome_bind_ok (outcome_copyBuffer_empty hcopied hempty), passHead_transport, hhead, flush,
      Transport.outcome_flush_recorder ⟨charset, failing, 0, [], rfl⟩]
    refine ⟨_, rfl, ⟨b.afterCopy, decorator_putBuffer_self hb, rfl⟩, ?_, hcontext⟩
    simp [chunks, hempty, Transport.released, Transport.recorder]
  · let z := (x.passHead b [] false).log (.copying b.content.length false)
    have hquiet : Quiet [] x z := (quiet_passHead x b [] false).trans (.log [] _ _)
    have hz : z.transport = _ := (congrArg Exchange.transport (passHead_transport x b false)).trans hhead
    have haccepts : z.transport.refuses = false := by
      rw [hz]
      simpa [Transport.refuses, Transport.recorder] using hnumber hempty
    have hwrite : (Response.write [] b.content).outcome z = _ :=
      Transport.outcome_write_accepted (hquiet.records hrecords) haccepts b.content
    have hzb : z.decorator i = .buffer b := by rw [hquiet.decorator_eq i List.not_mem_nil, hb]
    let w := ({ z with transport := z.transport.accept b.content } : Exchange).putBuffer i b.afterCopy
    have hw : w.Records := (hquiet.records hrecords).accept b.content
    rw [outcome_bind_ok (outcome_copyBuffer_ok hcopied hempty hwrite), flush,
      Transport.outcome_flush_recorder hw]
    refine ⟨_, rfl, ⟨b.afterCopy, decorator_putBuffer_self hzb, rfl⟩, ?_, ?_⟩
    · show { z.transport.accept b.content with committed := true } = _
      rw [hz]
      simp [chunks, hempty, Transport.released, Transport.recorder, Transport.accept]
    · exact hquiet.context_eq.trans hcontext

/-- A handler that flushes sends the status and the headers of the calls before its first flush, a
content length only if it gave one itself, and no tag.  The body is all that it writes: what came before
the flush at once, and each later write by itself. -/
theorem answer_of_early_flush (filter : EtagFilter) (style : CallStyle) (request : Request)
    (hsink : x.transport = .recorder status charset failing) (hcontext : x.context = {})
    (hbefore : ∀ call ∈ before, call.Composes charset)
    (hafter : ∀ call ∈ after, call.Composes charset ∨ call = .flush)
    (hfailing : ∀ number, 0 < number →
      number ≤ (chunks (writtenBytes charset before) ++ writtenPieces charset after).length →
      number ∉ failing) :
    let calls := before ++ .flush :: after
    let headers := passedHeaders {} before
    ∃ y, (Handler.dispatch filter style request [] (calls.map .call)).outcome x = (.ok (), y) ∧
      y.transport.committed = true ∧
      y.transport.status = (lastStatus? before).getD status ∧
      y.transport.headers = headers.withLength (lastLength? before) ∧
      y.transport.headers.multiItems = headers.multiItems ++ lengthField (lastLength? before) ∧
      y.transport.writes = chunks (writtenBytes charset before) ++ writtenPieces charset after ∧
      y.transport.body = writtenBytes charset calls := by
  intro calls headers
  let i := x.decorators.length
  let b : Buffer := Buffer.compose { forRequest := true } charset before
  obtain ⟨hheld, hb, htransport, hcontext'⟩ :=
    outcome_performAll_buffered request hsink hcontext hbefore
  have hcontent : b.content = writtenBytes charset before := by simp [b, Buffer.compose]
  have hlength : b.contentLength = lastLength? before := by simp [b, Buffer.compose]
  have hstatus : b.status = lastStatus? before := by simp [b, Buffer.compose]
  have hnumber (hsome : b.content ≠ []) : 1 ∉ failing := by
    apply hfailing 1 Nat.one_pos
    rw [hcontent] at hsome
    simp [chunks, hsome]
  obtain ⟨y, hflush, hy⟩ := Response.outcome_flush_held hb rfl htransport hcontext' hnumber
  rw [hcontent, hlength, hstatus] at hy
  obtain ⟨z, hrest, hz⟩ := hy.performAll hafter hfailing
  have hrun : (Handler.run filter style request [i] (calls.map .call)).outcome (x.buffered request) =
      (.ok (), z) := by
    rw [Handler.run_calls, Response.performAll_append, outcome_bind_ok hheld]
    show (Response.flush [i] >>= fun _ => Response.performAll [i] after).outcome _ = _
    rw [outcome_bind_ok hflush, hrest]
  have hprepare : (EtagFilter.prepare request []).outcome x = (.ok [i], x.buffered request) :=
    EtagFilter.outcome_prepare_fresh (by rw [hcontext]) rfl
  refine ⟨z.log (.alreadyCommitted request.url), ?_, ?_⟩
  · rw [Handler.dispatch, EtagFilter.outcome_dispatch hprepare, outcome_bind_ok hrun,
      outcome_bind_ok (hz.conclude filter style request), outcome_pure]
  · have hmissing : headers.getList? contentLengthName = none := passedHeaders_contentLength {} before
    rw [log_transport, hz.transport_eq]
    refine ⟨rfl, rfl, rfl, Headers.multiItems_withLength_last hmissing _, rfl, ?_⟩
    show (chunks (writtenBytes charset before) ++ writtenPieces charset after).flatten = _
    rw [List.flatten_append, flatten_chunks, flatten_writtenPieces, ← writtenBytes_append]
    simp [calls, writtenBytes, Call.bytes]

/-- The request names the tag of the body, and the sink would refuse a fourth write: the client gets the
status, the length and the first piece from before the flush, and then two more pieces. -/
theorem answer_of_early_flush_hi :
    let request : Request :=
      ⟨"GET", "/", ({} : Headers).set "If-None-Match" (EntityTag.ofBytes [104, 105])⟩
    let before : List Call :=
      [.setStatus 201, .setHeader "CONTENT-length" "2", .setHeader "Vary" "*", .write [104]]
    let after : List Call := [.writeText "i", .setStatus 500, .flush, .write []]
    let x : Exchange := { transport := .recorder 200 .ascii [0, 4] }
    (∀ call ∈ before, call.Composes .ascii) ∧ (∀ call ∈ after, call.Composes .ascii ∨ call = .flush) ∧
      (∀ number, 0 < number → number ≤ 3 → number ∉ [0, 4]) ∧
      ∃ y, (Handler.dispatch {} .async request []
          ((before ++ .flush :: after).map .call)).outcome x = (.ok (), y) ∧
        y.transport.status = 201 ∧
        y.transport.headers.multiItems = [("vary", "*"), ("content-length", "2")] ∧
        y.transport.writes = [[104], [105], []] := by
  intro request before after x
  have hbefore : ∀ call ∈ before, call.Composes .ascii := by
    simp only [before, List.forall_mem_cons]
    exact ⟨.setStatus 201, .setHeader _ _, .setHeader _ _, .write _, nofun⟩
  have hafter : ∀ call ∈ after, call.Composes .ascii ∨ call = .flush := by
    simp only [after, List.forall_mem_cons]
    exact ⟨.inl (.writeText rfl), .inl (.setStatus 500), .inr trivial, .inl (.write _), nofun⟩
  have hfailing : ∀ number, 0 < number → number ≤ 3 → number ∉ [0, 4] := by
    intro number hpos hle
    simp
    omega
  obtain ⟨y, hdispatch, -, hstatus, -, hitems, hwrites, -⟩ :=
    answer_of_early_flush {} .async request (x := x) rfl rfl hbefore hafter hfailing
  exact ⟨hbefore, hafter, hfailing, y, hdispatch, hstatus, hitems, hwrites⟩

end Revalidation
