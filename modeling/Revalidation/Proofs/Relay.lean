import Revalidation.Proofs.Evaluation
import Revalidation.Proofs.Latin1

/-!
# Sending to an asynchronous server

What a transport over an asynchronous server has sent at any time: nothing as long as it is open, and
then the start of the response with the parts of the body that were written, before and after the body
was ended.  `Sending` is the invariant, and each operation of the transport keeps it while the server
refuses nothing.  `Relaying` is the case in which the body has not been ended.
-/

namespace Revalidation

variable {x y : Exchange} {i : Nat} {b : Buffer} {parts : List Bytes} {message : Message}
  {fields : List (Bytes × Bytes)} {t : Transport}

/-- The parts in which a piece of the body is sent: an empty one is left out. -/
def chunks (data : Bytes) : List Bytes := if data = [] then [] else [data]

@[simp] theorem flatten_chunks (data : Bytes) : (chunks data).flatten = data := by
  by_cases hempty : data = [] <;> simp [chunks, hempty]

@[simp] theorem flatten_flatMap_chunks (writes : List Bytes) :
    (writes.flatMap chunks).flatten = writes.flatten := by
  induction writes with
  | nil => rfl
  | cons data rest ih =>
      rw [List.flatMap_cons, List.flatten_append, flatten_chunks, ih, List.flatten_cons]

theorem ne_of_mem_chunks {data part : Bytes} (h : part ∈ chunks data) : part ≠ [] := by
  unfold chunks at h
  split at h
  · cases h
  · next hne => rwa [List.mem_singleton.1 h]

/-- What a transport has sent to an asynchronous server: the start, the parts of the body, and the parts
that came after the end of the body once that has been sent. -/
structure Emission where
  start? : Option (Int × List (Bytes × Bytes)) := none
  parts : List Bytes := []
  rest? : Option (List Bytes) := none

namespace Emission

variable {e : Emission}

def messages (e : Emission) : List Message :=
  e.start?.toList.map (fun start => .start start.1 start.2) ++ e.parts.map (.part · true) ++
    match e.rest? with
    | none => []
    | some rest => .part [] false :: rest.map (.part · true)

def pieces (e : Emission) : List Bytes := e.parts ++ e.rest?.getD []

def write (e : Emission) (data : Bytes) : Emission :=
  match e.rest? with
  | none => { e with parts := e.parts ++ [data] }
  | some rest => { e with rest? := some (rest ++ [data]) }

def finish (e : Emission) : Emission := { e with rest? := some [] }

theorem messages_write (e : Emission) (data : Bytes) :
    (e.write data).messages = e.messages ++ [.part data true] := by
  cases hrest : e.rest? <;> simp [write, messages, hrest]

theorem messages_finish (hrest : e.rest? = none) : e.finish.messages = e.messages ++ [.part [] false] := by
  simp [finish, messages, hrest]

theorem pieces_write (e : Emission) (data : Bytes) : (e.write data).pieces = e.pieces ++ [data] := by
  cases hrest : e.rest? <;> simp [write, Emission.pieces, hrest]

theorem pieces_foldl_write (e : Emission) (more : List Bytes) :
    (more.foldl write e).pieces = e.pieces ++ more := by
  induction more generalizing e with
  | nil => exact (List.append_nil _).symm
  | cons data rest ih => rw [List.foldl_cons, ih, pieces_write, List.append_assoc, List.singleton_append]

theorem pieces_finish (hrest : e.rest? = none) : e.finish.pieces = e.pieces := by
  simp [finish, pieces, hrest]

theorem start?_write (e : Emission) (data : Bytes) : (e.write data).start? = e.start? := by
  unfold write
  split <;> rfl

theorem isSome_rest?_write (e : Emission) (data : Bytes) :
    (e.write data).rest?.isSome = e.rest?.isSome := by
  cases hrest : e.rest? <;> simp [write, hrest]

end Emission

namespace Exchange

theorem sent_note (entry : Entry) : (x.note entry).sent = x.sent ++ entry.message?.toList := by
  cases hmessage : entry.message? <;> simp [sent, note, hmessage]

@[simp] theorem sent_log (event : LogEvent) : (x.log event).sent = x.sent := by
  simp [log, sent_note, Entry.message?]

def sending (x : Exchange) (message : Message) : Exchange :=
  { x with server := { x.server with sends := x.server.sends + 1 } }.note (.sent message)

def announced (x : Exchange) (fields : List (Bytes × Bytes)) : Exchange :=
  ({ x with transport := { x.transport with committed := true } }.sending
    (.start x.transport.status fields)).log
    (.started .asgi x.transport.status x.transport.headers.size)

@[simp] theorem sending_sent : (x.sending message).sent = x.sent ++ [message] := by
  simp only [sending, sent_note, Entry.message?]
  rfl

end Exchange

namespace Transport

open Exchange Revalidation.Action

theorem outcome_send (hfailing : x.server.failing = []) (message : Message) :
    (send message).outcome x = (.ok (), x.sending message) := by
  simp [send, outcome_bind, hfailing, sending]

theorem outcome_announce (hfailing : x.server.failing = [])
    (hfields : encodeHeaders x.transport.headers.multiItems = .ok fields) :
    (announce .asgi).outcome x = (.ok (), x.announced fields) := by
  simp only [announce, outcome_bind, outcome_get, markCommitted, outcome_modify, hfields]
  rw [outcome_send (by exact hfailing)]
  rfl

end Transport

namespace Exchange

open Revalidation.Action

variable {e d : Emission}

/-- The server refuses nothing and has got nothing as long as the transport is open, and then the start
with the head of the transport and parts of the body. -/
structure Sending (x : Exchange) (e : Emission) : Prop where
  medium_eq : x.transport.medium = .asgi e.rest?.isSome
  failing_eq : x.server.failing = []
  latin1 : x.transport.headers.Latin1
  pieces_ne : ∀ part ∈ e.pieces, part ≠ []
  sent_eq : x.sent = e.messages
  of_open : x.transport.committed = false → e = {}
  of_committed : x.transport.committed = true →
    ∃ fields, Asgi.Scope.decodeHeaders fields = x.transport.headers.multiItems ∧
      e.start? = some (x.transport.status, fields)

namespace Sending

theorem congr (h : x.Sending e) (htransport : y.transport = x.transport)
    (hserver : y.server.failing = x.server.failing) (hsent : y.sent = x.sent) : y.Sending e := by
  refine ⟨?_, hserver.trans h.failing_eq, ?_, h.pieces_ne, hsent.trans h.sent_eq, ?_, ?_⟩ <;> rw [htransport]
  · exact h.medium_eq
  · exact h.latin1
  · exact h.of_open
  · exact h.of_committed

theorem setTransport (h : x.Sending e) (hmedium : t.medium = x.transport.medium)
    (hlatin1 : t.headers.Latin1) (hopen : t.committed = x.transport.committed)
    (hcommitted : x.transport.committed = true → t = x.transport) :
    ({ x with transport := t } : Exchange).Sending e where
  medium_eq := hmedium.trans h.medium_eq
  failing_eq := h.failing_eq
  latin1 := hlatin1
  pieces_ne := h.pieces_ne
  sent_eq := h.sent_eq
  of_open ht := h.of_open (hopen ▸ ht)
  of_committed ht := by
    have hx : x.transport.committed = true := hopen ▸ ht
    rw [show t = x.transport from hcommitted hx]
    exact h.of_committed hx

theorem flush (h : x.Sending e) :
    ∃ y fields, Transport.flush.outcome x = (.ok (), y) ∧
      y.Sending { e with start? := some (x.transport.status, fields) } ∧
      y.transport = { x.transport with committed := true } ∧ Beneath x y := by
  rcases Bool.eq_false_or_eq_true x.transport.committed with hcommitted | hopen
  · obtain ⟨fields, -, hstart⟩ := h.of_committed hcommitted
    refine ⟨x, fields, ?_, ?_, ?_, .refl x⟩
    · simp [Transport.flush, outcome_bind, h.medium_eq, hcommitted]
    · rwa [← hstart]
    · rw [← hcommitted]
  · obtain ⟨fields, hfields, hback⟩ := h.latin1.encode
    obtain rfl := h.of_open hopen
    refine ⟨x.announced fields, fields, ?_, ?_, rfl, ⟨rfl, rfl, rfl, rfl⟩⟩
    · simp [Transport.flush, outcome_bind, h.medium_eq, hopen,
        Transport.outcome_announce h.failing_eq hfields]
    · refine ⟨h.medium_eq, h.failing_eq, h.latin1, h.pieces_ne, ?_, (fun hopen => by cases hopen),
        fun _ => ⟨fields, hback, rfl⟩⟩
      rw [announced, sent_log, sending_sent]
      show x.sent ++ _ = _
      rw [h.sent_eq]
      rfl

/-- An empty part of the body is not sent, but it commits the transport like any other. -/
theorem write (h : x.Sending e) (data : Bytes) :
    ∃ y fields, (Transport.write data).outcome x = (.ok (), y) ∧
      y.Sending ((chunks data).foldl Emission.write
        { e with start? := some (x.transport.status, fields) }) ∧
      y.transport = { x.transport with committed := true } ∧ Beneath x y := by
  obtain ⟨y, fields, hflush, hy, htransport, hbeneath⟩ := h.flush
  by_cases hempty : data = []
  · refine ⟨y, fields, ?_, by simpa [chunks, hempty] using hy, htransport, hbeneath⟩
    simp [Transport.write, outcome_bind, h.medium_eq, hflush, hempty]
  · refine ⟨(y.sending (.part data true)).log (.sentChunk data.length), fields, ?_, ?_, htransport,
      hbeneath.trans ⟨rfl, rfl, rfl, rfl⟩⟩
    · simp [Transport.write, outcome_bind, h.medium_eq, hflush, hempty,
        Transport.outcome_send hy.failing_eq]
    · -- The flush has committed the transport, so that only the parts grow from here on.
      rw [chunks, if_neg hempty, List.foldl_cons, List.foldl_nil]
      refine ⟨?_, hy.failing_eq, hy.latin1, ?_, ?_, ?_, ?_⟩
      · rw [Emission.isSome_rest?_write]
        exact hy.medium_eq
      · intro part hpart
        rw [Emission.pieces_write, List.mem_append, List.mem_singleton] at hpart
        obtain hpart | rfl := hpart
        · exact hy.pieces_ne part hpart
        · exact hempty
      · rw [sent_log, sending_sent, hy.sent_eq, Emission.messages_write]
      · intro hopen
        have hopen : y.transport.committed = false := hopen
        rw [htransport] at hopen
        cases hopen
      · rw [Emission.start?_write]
        exact hy.of_committed

theorem close (h : x.Sending e) :
    ∃ y fields, Transport.close.outcome x = (.ok (), y) ∧
      y.Sending { e with
        start? := some (x.transport.status, fields)
        rest? := some (e.rest?.getD []) } ∧
      y.transport = { x.transport with medium := .asgi true, committed := true } ∧ Beneath x y := by
  obtain ⟨y, fields, hflush, hy, htransport, hbeneath⟩ := h.flush
  cases hrest : e.rest? with
  | some rest =>
      have hmedium : y.transport.medium = .asgi true := by rw [hy.medium_eq, hrest]; rfl
      refine ⟨y, fields, ?_, ?_, ?_, hbeneath⟩
      · simp [Transport.close, outcome_bind, hflush, hmedium]
      · rw [Option.getD_some, ← hrest]
        exact hy
      · rw [← hmedium, htransport]
  | none =>
      have hmedium : y.transport.medium = .asgi false := by rw [hy.medium_eq, hrest]; rfl
      let z : Exchange := { y with transport := { y.transport with medium := .asgi true } }
      have hz : (z.sending (.part [] false)).Sending
          (Emission.finish { e with start? := some (x.transport.status, fields) }) := by
        refine ⟨rfl, hy.failing_eq, hy.latin1, ?_, ?_, ?_, hy.of_committed⟩
        · rw [Emission.pieces_finish (by exact hrest)]
          exact hy.pieces_ne
        · rw [sending_sent, Emission.messages_finish (by exact hrest), ← hy.sent_eq]
          rfl
        · intro hopen
          have hopen : y.transport.committed = false := hopen
          rw [htransport] at hopen
          cases hopen
      refine ⟨z.sending (.part [] false), fields, ?_, hz, ?_, hbeneath.trans ⟨rfl, rfl, rfl, rfl⟩⟩
      · simp only [Transport.close, outcome_bind, hflush, outcome_get, hmedium, Transport.setMedium,
          outcome_modify]
        exact Transport.outcome_send (x := z) hy.failing_eq _
      · show { y.transport with medium := .asgi true } = _
        rw [htransport]

end Sending

/-- The server refuses nothing and has got the start of the response and the parts of the body, or
nothing as long as the transport is open. -/
structure Relaying (x : Exchange) (parts : List Bytes) : Prop where
  medium_eq : x.transport.medium = .asgi false
  failing_eq : x.server.failing = []
  latin1 : x.transport.headers.Latin1
  parts_ne : ∀ part ∈ parts, part ≠ []
  sent_open : x.transport.committed = false → x.sent = [] ∧ parts = []
  sent_committed : x.transport.committed = true →
    ∃ fields, Asgi.Scope.decodeHeaders fields = x.transport.headers.multiItems ∧
      x.sent = .start x.transport.status fields :: parts.map (.part · true)

theorem Sending.relaying (h : x.Sending e) (hrest : e.rest? = none) : x.Relaying e.pieces where
  medium_eq := by rw [h.medium_eq, hrest]; rfl
  failing_eq := h.failing_eq
  latin1 := h.latin1
  parts_ne := h.pieces_ne
  sent_open hopen := by
    rw [h.sent_eq, h.of_open hopen]
    exact ⟨rfl, rfl⟩
  sent_committed hcommitted := by
    obtain ⟨fields, hfields, hstart⟩ := h.of_committed hcommitted
    refine ⟨fields, hfields, ?_⟩
    simp [h.sent_eq, Emission.messages, Emission.pieces, hstart, hrest]

namespace Relaying

theorem sending (h : x.Relaying parts) : ∃ e, x.Sending e ∧ e.rest? = none ∧ e.pieces = parts := by
  rcases Bool.eq_false_or_eq_true x.transport.committed with hcommitted | hopen
  · obtain ⟨fields, hfields, hsent⟩ := h.sent_committed hcommitted
    refine ⟨{ start? := some (x.transport.status, fields), parts := parts }, ⟨h.medium_eq, h.failing_eq,
      h.latin1, ?_, ?_, ?_, fun _ => ⟨fields, hfields, rfl⟩⟩, rfl, List.append_nil parts⟩
    · simpa [Emission.pieces] using h.parts_ne
    · simp [hsent, Emission.messages]
    · intro hopen
      rw [hcommitted] at hopen
      cases hopen
  · obtain ⟨hsent, rfl⟩ := h.sent_open hopen
    refine ⟨{}, ⟨h.medium_eq, h.failing_eq, h.latin1, h.parts_ne, hsent, fun _ => rfl, ?_⟩, rfl, rfl⟩
    intro hcommitted
    rw [hopen] at hcommitted
    cases hcommitted

theorem congr (h : x.Relaying parts) (htransport : y.transport = x.transport)
    (hserver : y.server.failing = x.server.failing) (hsent : y.sent = x.sent) : y.Relaying parts := by
  obtain ⟨e, he, hrest, rfl⟩ := h.sending
  exact (he.congr htransport hserver hsent).relaying hrest

theorem note (h : x.Relaying parts) {entry : Entry} (hentry : entry.message? = none) :
    (x.note entry).Relaying parts := h.congr rfl rfl (by simp [sent_note, hentry])

theorem log (h : x.Relaying parts) (event : LogEvent) : (x.log event).Relaying parts := h.note rfl

theorem setTransport (h : x.Relaying parts) (hmedium : t.medium = x.transport.medium)
    (hlatin1 : t.headers.Latin1) (hopen : t.committed = x.transport.committed)
    (hcommitted : x.transport.committed = true → t = x.transport) :
    ({ x with transport := t } : Exchange).Relaying parts := by
  obtain ⟨e, he, hrest, rfl⟩ := h.sending
  exact (he.setTransport hmedium hlatin1 hopen hcommitted).relaying hrest

theorem putBuffer (h : x.Relaying parts) : (x.putBuffer i b).Relaying parts := h.congr rfl rfl rfl

theorem flush (h : x.Relaying parts) :
    ∃ y, Transport.flush.outcome x = (.ok (), y) ∧ y.Relaying parts ∧
      y.transport = { x.transport with committed := true } ∧ Beneath x y := by
  obtain ⟨e, he, hrest, rfl⟩ := h.sending
  obtain ⟨y, fields, hflush, hy, htransport, hbeneath⟩ := he.flush
  exact ⟨y, hflush, hy.relaying hrest, htransport, hbeneath⟩

theorem write (h : x.Relaying parts) (data : Bytes) :
    ∃ y, (Transport.write data).outcome x = (.ok (), y) ∧ y.Relaying (parts ++ chunks data) ∧
      y.transport = { x.transport with committed := true } ∧ Beneath x y := by
  obtain ⟨e, he, hrest, rfl⟩ := h.sending
  obtain ⟨y, fields, hwrite, hy, htransport, hbeneath⟩ := he.write data
  have hnone : ((chunks data).foldl Emission.write
      { e with start? := some (x.transport.status, fields) }).rest? = none := by
    unfold chunks
    split <;> simp [Emission.write, hrest]
  have hrelaying := hy.relaying hnone
  rw [Emission.pieces_foldl_write] at hrelaying
  exact ⟨y, hwrite, hrelaying, htransport, hbeneath⟩

theorem close (h : x.Relaying parts) :
    ∃ y fields, Transport.close.outcome x = (.ok (), y) ∧
      Asgi.Scope.decodeHeaders fields = x.transport.headers.multiItems ∧
      y.sent = .start x.transport.status fields :: parts.map (.part · true) ++ [.part [] false] := by
  obtain ⟨e, he, hrest, rfl⟩ := h.sending
  obtain ⟨y, fields, hclose, hy, htransport, -⟩ := he.close
  obtain ⟨other, hfields, hstart⟩ := hy.of_committed (by rw [htransport])
  rw [htransport] at hfields hstart
  cases hstart
  refine ⟨y, fields, hclose, hfields, ?_⟩
  simp [hy.sent_eq, Emission.messages, Emission.pieces, hrest]

end Relaying
end Exchange
end Revalidation
