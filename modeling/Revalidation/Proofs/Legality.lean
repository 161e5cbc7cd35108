import Mathlib.Data.List.Chain
import Revalidation.Proofs.Relay

/-!
# Legal responses

An asynchronous server takes the start of a response, parts of the body, and nothing after the part
that ends the body.  A sink marks itself as committed before it sends the start, so that a start which
has no encoding or is refused never gets through; and a write does not ask whether the body has ended.
A run of calls stays legal exactly if no call sends anything in one of these two situations.
-/

namespace Revalidation

open Revalidation.Action Exchange

variable {x y z : Exchange} {data : Bytes} {message : Message} {calls : List Call} {call : Call}

/-- The messages are the beginning of a legal response: a start, parts of the body, and a part that ends
the body. -/
def LegalPrefix (messages : List Message) : Prop :=
  ∃ (status : Int) (fields : List (Bytes × Bytes)) (parts : List Bytes) (last : Bytes),
    messages <+: .start status fields :: parts.map (.part · true) ++ [.part last false]

/-- The sink has nothing left that it could legally send: it is committed and its start did not get
through, or its body has ended. -/
def Outside.Astray (o : Outside) : Prop :=
  o.transport.committed = true ∧
    ((∀ message ∈ o.sent, message.type ≠ some Message.startType) ∨
      ∃ message ∈ o.sent, message.moreBody = some false)

theorem Message.part_type_ne (data : Bytes) (more : Bool) :
    (Message.part data more).type ≠ some Message.startType := by
  simp [Message.part, Message.bodyType, Message.startType]

/-! ## What a sink sends -/

namespace Emission

variable {e d : Emission} {start : Int × List (Bytes × Bytes)} {committed : Bool}

/-- Nothing comes before the start or after the end of the body. -/
def Legal (e : Emission) : Prop :=
  (e.start? = none → e.parts = [] ∧ e.rest? = none) ∧ ∀ rest, e.rest? = some rest → rest = []

/-- There is no start, or the body has ended. -/
def Astray (e : Emission) : Prop := e.start? = none ∨ e.rest? ≠ none

theorem mem_messages : message ∈ e.messages ↔
    (∃ start, e.start? = some start ∧ message = .start start.1 start.2) ∨
      (∃ data ∈ e.parts, message = .part data true) ∨
      ∃ rest, e.rest? = some rest ∧
        (message = .part [] false ∨ ∃ data ∈ rest, message = .part data true) := by
  cases hstart : e.start? <;> cases hrest : e.rest? <;> simp [messages, hstart, hrest, eq_comm]

theorem start?_eq_none_iff :
    e.start? = none ↔ ∀ message ∈ e.messages, message.type ≠ some Message.startType := by
  constructor
  · intro hnone message hmem
    obtain ⟨start, hstart, -⟩ | ⟨data, -, rfl⟩ | ⟨rest, -, rfl | ⟨data, -, rfl⟩⟩ := mem_messages.1 hmem
    · rw [hnone] at hstart
      cases hstart
    · exact Message.part_type_ne data true
    · exact Message.part_type_ne [] false
    · exact Message.part_type_ne data true
  · intro hall
    cases hstart : e.start? with
    | none => rfl
    | some start => exact absurd rfl (hall _ (mem_messages.2 (.inl ⟨start, hstart, rfl⟩)))

theorem rest?_ne_none_iff : e.rest? ≠ none ↔ ∃ message ∈ e.messages, message.moreBody = some false := by
  constructor
  · intro hsome
    obtain ⟨rest, hrest⟩ := Option.ne_none_iff_exists'.1 hsome
    exact ⟨_, mem_messages.2 (.inr (.inr ⟨rest, hrest, .inl rfl⟩)), rfl⟩
  · rintro ⟨message, hmem, hlast⟩
    obtain ⟨start, -, rfl⟩ | ⟨data, -, rfl⟩ | ⟨rest, hrest, -⟩ := mem_messages.1 hmem
    · cases hlast
    · cases hlast
    · simp [hrest]

theorem LegalPrefix.pairwise {messages : List Message} (h : LegalPrefix messages) :
    messages.Pairwise fun earlier _ => earlier.moreBody ≠ some false := by
  obtain ⟨status, fields, parts, last, hprefix⟩ := h
  refine List.Pairwise.sublist hprefix.sublist ?_
  simp [List.pairwise_append, List.pairwise_map, Message.start, Message.part, List.pairwise_of_forall]

theorem legalPrefix_messages (e : Emission) : LegalPrefix e.messages ↔ e.Legal := by
  constructor
  · intro h
    refine ⟨fun hstart => ?_, fun rest hrest => ?_⟩
    · obtain ⟨status, fields, parts, last, hprefix⟩ := h
      cases hparts : e.parts with
      | cons data more => simp [messages, hstart, hparts, Message.start, Message.part] at hprefix
      | nil =>
          refine ⟨rfl, ?_⟩
          cases hrest : e.rest? with
          | none => rfl
          | some rest =>
              simp [messages, hstart, hparts, hrest, Message.start, Message.part] at hprefix
    · have hpairwise := LegalPrefix.pairwise h
      rw [messages, hrest, List.pairwise_append] at hpairwise
      have hlast := (List.pairwise_cons.1 hpairwise.2.1).1
      cases rest with
      | nil => rfl
      | cons data more => exact absurd rfl (hlast _ (List.mem_map_of_mem List.mem_cons_self))
  · rintro ⟨hstarted, hended⟩
    cases hstart : e.start? with
    | none =>
        obtain ⟨hparts, hrest⟩ := hstarted hstart
        exact ⟨0, [], [], [], by simp [messages, hstart, hparts, hrest]⟩
    | some start =>
        refine ⟨start.1, start.2, e.parts, [], ?_⟩
        cases hrest : e.rest? with
        | none => simp [messages, hstart, hrest]
        | some rest =>
            simp [messages, hstart, hrest, hended rest hrest]

inductive Sends (e : Emission) : Emission → Prop
  | nothing : Sends e e
  | part (data : Bytes) : Sends e (e.write data)
  | last (hrest : e.rest? = none) : Sends e e.finish

/-- What a call can send: nothing, the start with at most one message about the body if the sink was
open, and at most one message about the body if it was committed. -/
inductive Step (committed : Bool) (e : Emission) : Emission → Prop
  | nothing : Step committed e e
  | starts (hopen : committed = false) (start : Int × List (Bytes × Bytes)) {d : Emission}
      (h : Sends { start? := some start } d) : Step committed e d
  | sends (hcommitted : committed = true) {d : Emission} (h : Sends e d) : Step committed e d

theorem legal_write (e : Emission) (data : Bytes) : (e.write data).Legal ↔ e.Legal ∧ ¬e.Astray := by
  obtain ⟨start, parts, rest⟩ := e
  cases start <;> cases rest <;> simp [Legal, write, Astray]

theorem legal_finish (hrest : e.rest? = none) : e.finish.Legal ↔ e.Legal ∧ ¬e.Astray := by
  simp [Legal, finish, Astray, hrest]
  exact fun hstart hnone => absurd hnone hstart

/-- A message about the body is legal unless the response has gone astray. -/
theorem legal_of_sends (h : Sends e d) : d.Legal ↔ e.Legal ∧ (e.Astray → d.messages = e.messages) := by
  cases h with
  | nothing => simp
  | part data => simp [legal_write, messages_write]
  | last hrest => simp [legal_finish hrest, messages_finish hrest]

theorem legal_of_step (hopen : committed = false → e = {}) (h : Step committed e d) :
    d.Legal ↔ e.Legal ∧ (committed = true ∧ e.Astray → d.messages = e.messages) := by
  cases h with
  | nothing => simp
  | starts hfalse start hsends =>
      have hlegal : ({} : Emission).Legal := ⟨fun _ => ⟨rfl, rfl⟩, nofun⟩
      have hstarted : ({ start? := some start } : Emission).Legal := ⟨nofun, nofun⟩
      rw [legal_of_sends hsends, hopen hfalse, hfalse]
      simp [hlegal, hstarted, Astray]
  | sends hcommitted hsends => simp [legal_of_sends hsends, hcommitted]

end Emission

/-! ## The sink -/

namespace Transport

theorem outcome_send_cases (x : Exchange) (message : Message) :
    (∃ y, (send message).outcome x = (.ok (), y) ∧ y.sent = x.sent ++ [message] ∧
      y.transport = x.transport) ∨
    ∃ fault y, (send message).outcome x = (.error fault, y) ∧ y.sent = x.sent ∧
      y.transport = x.transport := by
  let counted : Exchange := { x with server := { x.server with sends := x.server.sends + 1 } }
  obtain ⟨-, hsend⟩ | ⟨-, hsend⟩ := outcome_send_counted x message
  · have hsent : (counted.note .sendFailed).sent = x.sent := (sent_note _).trans (List.append_nil _)
    exact .inr ⟨.sendFailed, counted.note .sendFailed, hsend, hsent, rfl⟩
  · exact .inl ⟨counted.note (.sent message), hsend, sent_note _, rfl⟩

end Transport

namespace Exchange

variable {e d : Emission} {action next : Action Unit}

/-- The sink of an exchange is one over an asynchronous server, and this is what it has sent. -/
structure Emitting (x : Exchange) (e : Emission) : Prop where
  medium_eq : ∃ finished, x.transport.medium = .asgi finished ∧ (finished = false → e.rest? = none)
  sent_eq : x.sent = e.messages
  of_open : x.transport.committed = false → e = {}

/-- An action sends no more than a call can. -/
def Emits (action : Action Unit) (x : Exchange) (e : Emission) : Prop :=
  ∃ result y d, action.outcome x = (result, y) ∧ y.Emitting d ∧ e.Step x.transport.committed d

namespace Emitting

theorem congr (h : x.Emitting e) (hmedium : y.transport.medium = x.transport.medium)
    (hcommitted : y.transport.committed = x.transport.committed) (hsent : y.sent = x.sent) :
    y.Emitting e where
  medium_eq := by rw [hmedium]; exact h.medium_eq
  sent_eq := hsent.trans h.sent_eq
  of_open hopen := h.of_open (hcommitted ▸ hopen)

theorem astray_iff (h : x.Emitting e) :
    x.outside.Astray ↔ x.transport.committed = true ∧ e.Astray := by
  have hsent : x.outside.sent = e.messages := h.sent_eq
  rw [Outside.Astray, hsent, Emission.Astray, Emission.start?_eq_none_iff, Emission.rest?_ne_none_iff]
  rfl

theorem emits_ok (h : x.Emitting e) (hok : action.outcome x = (.ok (), y))
    (hmedium : y.transport.medium = x.transport.medium)
    (hcommitted : y.transport.committed = x.transport.committed) (hsent : y.sent = x.sent) :
    Emits action x e := ⟨_, y, e, hok, h.congr hmedium hcommitted hsent, .nothing⟩

theorem emits_modify (h : x.Emitting e) {f : Exchange → Exchange} (hquiet : Quiet [] x (f x)) :
    Emits (modify f) x e :=
  h.emits_ok rfl hquiet.medium_eq hquiet.committed_eq hquiet.sent_eq

theorem outcome_announce (h : x.Emitting e) (hopen : x.transport.committed = false) :
    (∃ y start, (Transport.announce .asgi).outcome x = (.ok (), y) ∧
      y.Emitting { start? := some start } ∧
      y.transport = { x.transport with committed := true }) ∨
    ∃ fault y, (Transport.announce .asgi).outcome x = (.error fault, y) ∧ y.Emitting {} ∧
      y.transport = { x.transport with committed := true } := by
  obtain ⟨finished, hmedium, -⟩ := h.medium_eq
  have hnone := h.of_open hopen
  let z : Exchange := { x with transport := { x.transport with committed := true } }
  have hz : z.sent = [] := by
    show x.sent = []
    rw [h.sent_eq, hnone]
    rfl
  have hemitting {y : Exchange} (htransport : y.transport = z.transport) (e : Emission)
      (hrest : e.rest? = none) (hsent : y.sent = e.messages) : y.Emitting e := by
    refine ⟨⟨finished, by rw [htransport]; exact hmedium, fun _ => hrest⟩, hsent, fun hcommitted => ?_⟩
    rw [htransport] at hcommitted
    cases hcommitted
  cases hfields : encodeHeaders x.transport.headers.multiItems with
  | error cause =>
      refine .inr ⟨.encoding cause, z, ?_, hemitting rfl {} rfl hz, rfl⟩
      simp [Transport.announce, outcome_bind, Transport.markCommitted, hfields, z]
  | ok fields =>
      obtain ⟨y, hsend, hsent, htransport⟩ | ⟨fault, y, hsend, hsent, htransport⟩ :=
        Transport.outcome_send_cases z (.start x.transport.status fields)
      · let w := y.log (.started .asgi x.transport.status x.transport.headers.size)
        have hw : w.sent = Emission.messages { start? := some (x.transport.status, fields) } := by
          rw [sent_log, hsent, hz]
          rfl
        refine .inl ⟨w, (x.transport.status, fields), ?_, hemitting (by exact htransport) _ rfl hw,
          htransport⟩
        simp [Transport.announce, outcome_bind, Transport.markCommitted, hfields, z, hsend, w]
      · refine .inr ⟨fault, y, ?_, hemitting htransport {} rfl (hsent.trans hz), htransport⟩
        simp [Transport.announce, outcome_bind, Transport.markCommitted, hfields, z, hsend]

/-- What comes after a flush that went well sends at most one message about the body. -/
theorem emits_flush_bind (h : x.Emitting e)
    (hnext : ∀ z d, z.Emitting d → z.transport = { x.transport with committed := true } →
      ∃ result y d', next.outcome z = (result, y) ∧ y.Emitting d' ∧ d.Sends d') :
    Emits (Transport.flush >>= fun _ => next) x e := by
  obtain ⟨finished, hmedium, -⟩ := h.medium_eq
  rcases Bool.eq_false_or_eq_true x.transport.committed with hcommitted | hopen
  · have hflush : Transport.flush.outcome x = (.ok (), x) := by
      simp [Transport.flush, outcome_bind, hmedium, hcommitted]
    obtain ⟨result, y, d, hy, hd, hsends⟩ := hnext x e h (by rw [← hcommitted])
    exact ⟨result, y, d, (outcome_bind_ok hflush).trans hy, hd, .sends hcommitted hsends⟩
  · have hflush : Transport.flush.outcome x = (Transport.announce .asgi).outcome x := by
      simp [Transport.flush, outcome_bind, hmedium, hopen]
    obtain ⟨z, start, hz, hstarted, htransport⟩ | ⟨fault, z, hz, hlost, htransport⟩ :=
      h.outcome_announce hopen
    · obtain ⟨result, y, d, hy, hd, hsends⟩ := hnext z _ hstarted htransport
      exact ⟨result, y, d, (outcome_bind_ok (hflush.trans hz)).trans hy, hd, .starts hopen start hsends⟩
    · rw [← h.of_open hopen] at hlost
      exact ⟨_, z, e, outcome_bind_error (hflush.trans hz), hlost, .nothing⟩

theorem emits_flush (h : x.Emitting e) : Emits Transport.flush x e := by
  have hflush : Emits (Transport.flush >>= fun _ => pure ()) x e :=
    h.emits_flush_bind fun z d hz _ => ⟨_, z, d, rfl, hz, .nothing⟩
  rwa [bind_pure] at hflush

theorem outcome_send (h : x.Emitting e) (hcommitted : x.transport.committed = true)
    (hmessages : d.messages = e.messages ++ [message])
    (hmedium : ∀ finished, x.transport.medium = .asgi finished → finished = false → d.rest? = none) :
    (∃ y, (Transport.send message).outcome x = (.ok (), y) ∧ y.Emitting d) ∨
      ∃ fault y, (Transport.send message).outcome x = (.error fault, y) ∧ y.Emitting e := by
  obtain ⟨finished, hfinished, -⟩ := h.medium_eq
  obtain ⟨y, hsend, hsent, htransport⟩ | ⟨fault, y, hsend, hsent, htransport⟩ :=
    Transport.outcome_send_cases x message
  · refine .inl ⟨y, hsend, ⟨finished, ?_, hmedium finished hfinished⟩, ?_, ?_⟩
    · rw [htransport, hfinished]
    · rw [hsent, h.sent_eq, hmessages]
    · intro hopen
      rw [htransport, hcommitted] at hopen
      cases hopen
  · exact .inr ⟨fault, y, hsend, h.congr (by rw [htransport]) (by rw [htransport]) hsent⟩

theorem emits_write (h : x.Emitting e) (data : Bytes) : Emits (Transport.write data) x e := by
  obtain ⟨finished, hmedium, -⟩ := h.medium_eq
  have hwrite : (Transport.write data).outcome x =
      (Transport.flush >>= fun _ =>
        if !data.isEmpty then do
          Transport.send (.part data true)
          Action.log (.sentChunk data.length)
        else return).outcome x := by
    simp only [Transport.write, outcome_bind, outcome_get, hmedium]
  rw [Emits, hwrite]
  refine h.emits_flush_bind fun z d hz htransport => ?_
  cases hempty : data.isEmpty with
  | true => exact ⟨_, z, d, rfl, hz, .nothing⟩
  | false =>
      obtain ⟨finished, hfinished, hnone⟩ := hz.medium_eq
      have hmedium (other : Bool) (hother : z.transport.medium = .asgi other) (hfalse : other = false) :
          (d.write data).rest? = none := by
        rw [hfinished] at hother
        cases hother
        simp [Emission.write, hnone hfalse]
      have hcommitted : z.transport.committed = true := by rw [htransport]
      obtain ⟨y, hsend, hy⟩ | ⟨fault, y, hsend, hy⟩ :=
        hz.outcome_send hcommitted (d.messages_write data) hmedium
      · exact ⟨_, y.log (.sentChunk data.length), _, outcome_bind_ok hsend,
          hy.congr rfl rfl (sent_log _), .part data⟩
      · exact ⟨_, y, d, outcome_bind_error hsend, hy, .nothing⟩

theorem emits_close (h : x.Emitting e) : Emits Transport.close x e := by
  refine h.emits_flush_bind fun z d hz htransport => ?_
  obtain ⟨finished, hfinished, hnone⟩ := hz.medium_eq
  cases finished with
  | true =>
      refine ⟨.ok (), z, d, ?_, hz, .nothing⟩
      simp [outcome_bind, hfinished]
  | false =>
      let w : Exchange := { z with transport := { z.transport with medium := .asgi true } }
      have hw : w.Emitting d := ⟨⟨true, rfl, fun htrue => by cases htrue⟩, hz.sent_eq, hz.of_open⟩
      have hcommitted : w.transport.committed = true := by
        show z.transport.committed = true
        rw [htransport]
      have hmedium (other : Bool) (hother : w.transport.medium = .asgi other) (hfalse : other = false) :
          d.finish.rest? = none := by
        cases hother
        cases hfalse
      obtain ⟨y, hsend, hy⟩ | ⟨fault, y, hsend, hy⟩ :=
        hw.outcome_send hcommitted (Emission.messages_finish (hnone rfl)) hmedium
      · refine ⟨.ok (), y, _, ?_, hy, .last (hnone rfl)⟩
        simp [outcome_bind, hfinished, Transport.setMedium, hsend, w]
      · refine ⟨.error fault, y, d, ?_, hy, .nothing⟩
        simp [outcome_bind, hfinished, Transport.setMedium, hsend, w]

theorem emits_perform (h : x.Emitting e) (call : Call) : Emits (Response.perform [] call) x e := by
  cases call with
  | setStatus status => exact h.emits_modify (quiet_setStatus [] x status)
  | setHeader name value => exact h.emits_modify (quiet_setHeader [] x name value)
  | addHeader name value => exact h.emits_modify (quiet_addHeader [] x name value)
  | write data => exact h.emits_write data
  | writeText text =>
      rw [Emits, Response.perform, Response.writeText, outcome_bind_ok (outcome_get x)]
      cases (x.charset []).encode text with
      | error cause => exact ⟨_, x, e, rfl, h, .nothing⟩
      | ok data => exact h.emits_write data
  | flush => exact h.emits_flush
  | copyBody complete => exact h.emits_ok rfl rfl rfl rfl
  | resetBuffer => exact h.emits_ok rfl rfl rfl rfl
  | close => exact h.emits_close
  | takeChunks =>
      obtain ⟨finished, hmedium, -⟩ := h.medium_eq
      have hsame : x.takeChunks.2 = x := by simp [takeChunks, hmedium]
      exact h.emits_ok (y := x) (by rw [Response.perform, outcome_modify, hsame]) rfl rfl rfl
  | resetHeaders =>
      exact h.emits_modify (quiet_changeTransport _ (fun t => { t with headers := {} }) (fun _ => rfl)
        fun _ => rfl)

/-- Each call keeps what has been sent legal unless it sends something on a sink that is astray. -/
theorem observe (h : x.Emitting e) (calls : List Call) :
    ∃ observations y d, (Response.observe [] calls).outcome x = (.ok observations, y) ∧ y.Emitting d ∧
      (d.Legal ↔ e.Legal ∧ List.IsChain (fun o p => o.Astray → p.sent = o.sent)
        (x.outside :: observations.map Prod.snd)) := by
  induction calls generalizing x e with
  | nil => exact ⟨[], x, e, rfl, h, by simp⟩
  | cons call rest ih =>
      obtain ⟨result, y, d, hcall, hy, hstep⟩ := h.emits_perform call
      obtain ⟨later, z, f, hrest, hz, hlegal⟩ := ih hy
      refine ⟨_, z, f, Response.outcome_observe_cons hcall hrest, hz, ?_⟩
      have hsent : y.outside.sent = x.outside.sent ↔ d.messages = e.messages := by
        rw [← hy.sent_eq, ← h.sent_eq]
        rfl
      rw [hlegal, Emission.legal_of_step h.of_open hstep, List.map_cons, List.isChain_cons_cons,
        h.astray_iff, hsent, and_assoc]

end Emitting
end Exchange

/-- Whatever is called on a sink over an asynchronous server and whatever the server refuses, the server
has got at most a start, parts of the body, an end of the body, and further parts after the end.  These
messages are the beginning of a legal response exactly if no call sent anything on a sink that was
astray. -/
theorem legal_iff_not_astray (server : Server) (calls : List Call) :
    let x : Exchange := { transport := .asgi, server := server }
    ∃ observations y e, (Response.observe [] calls).outcome x = (.ok observations, y) ∧
      y.sent = Emission.messages e ∧
      (LegalPrefix y.sent ↔ List.IsChain (fun o p => o.Astray → p.sent = o.sent)
        (x.outside :: observations.map Prod.snd)) := by
  intro x
  have hx : x.Emitting {} := ⟨⟨false, rfl, fun _ => rfl⟩, rfl, fun _ => rfl⟩
  obtain ⟨observations, y, e, hobserve, hy, hlegal⟩ := hx.observe calls
  have hfresh : ({} : Emission).Legal := ⟨fun _ => ⟨rfl, rfl⟩, nofun⟩
  refine ⟨observations, y, e, hobserve, hy.sent_eq, ?_⟩
  rw [hy.sent_eq, Emission.legalPrefix_messages, hlegal]
  exact and_iff_right hfresh

/-- A write after the close sends a part of the body after its end. -/
example : ((Response.observe [] [.close, .write [97]]).outcome { transport := .asgi }).2.sent =
    [.start 200 [], .part [] false, .part [97] true] := rfl

/-- After a start that the server refused, a write sends a part of the body without one. -/
example : ((Response.observe [] [.flush, .write [97]]).outcome
    { transport := .asgi, server := { failing := [1] } }).2.sent = [.part [97] true] := rfl

end Revalidation
