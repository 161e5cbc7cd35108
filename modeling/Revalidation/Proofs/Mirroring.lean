import Revalidation.Proofs.Collection
import Revalidation.Proofs.Likeness

/-!
# Servers mirror a recorder

The same operations on responses bring the same about over a transport that records in memory and over
one to a server: the head is the same, and the server gets the writes that are recorded, where empty
ones are left out.  What it means that a server has got parts of the body is left open here.  An
`Outlet` is any such meaning that a write and a flush of the transport keep up, and `Mirrors` is the
relation between the two exchanges, which is a likeness.
-/

namespace Revalidation

/-- The texts that header fields can hold at a gateway. -/
def Gateway.Carries : Gateway → String → Prop
  | asgi, text => Latin1 text
  | wsgi, _ => True

def Gateway.CarriesHeaders : Gateway → Headers → Prop
  | asgi, headers => headers.Latin1
  | wsgi, _ => True

def Gateway.medium : Gateway → Medium
  | asgi => .asgi false
  | wsgi => .wsgi []

theorem Gateway.carries_lengthName (gateway : Gateway) : gateway.Carries contentLengthName := by
  cases gateway with
  | asgi => exact (by decide : Latin1 contentLengthName)
  | wsgi => trivial

theorem Gateway.carries_size (gateway : Gateway) (n : Nat) : gateway.Carries (toString n) := by
  cases gateway with
  | asgi => exact Latin1.decimal n
  | wsgi => trivial

namespace Gateway.CarriesHeaders

variable {gateway : Gateway} {headers : Headers} {name value : String}

theorem set (h : gateway.CarriesHeaders headers) (hname : gateway.Carries name)
    (hvalue : gateway.Carries value) : gateway.CarriesHeaders (headers.set name value) := by
  cases gateway with
  | asgi => exact Headers.Latin1.set h hname hvalue
  | wsgi => trivial

theorem add (h : gateway.CarriesHeaders headers) (hname : gateway.Carries name)
    (hvalue : gateway.Carries value) : gateway.CarriesHeaders (headers.add name value) := by
  cases gateway with
  | asgi => exact Headers.Latin1.add h hname hvalue
  | wsgi => trivial

end Gateway.CarriesHeaders

/-- `u` is `t` once it is committed, up to where the body goes. -/
structure Transport.Commits (t u : Transport) : Prop where
  status_eq : u.status = t.status
  headers_eq : u.headers = t.headers
  committed_eq : u.committed = true

theorem Transport.Commits.of_eq {t u : Transport} {medium : Medium}
    (h : u = { t with medium := medium, committed := true }) : t.Commits u := by
  subst h
  exact ⟨rfl, rfl, rfl⟩

/-- What it means that a server of the gateway has got parts of the body.  A write of the transport adds
a part unless it is empty, and a flush commits the transport. -/
structure Outlet (gateway : Gateway) where
  gets : Exchange → List Bytes → Prop
  congr {x y : Exchange} {parts : List Bytes} : gets x parts → y.transport = x.transport →
    y.server = x.server → y.sent = x.sent → y.served = x.served → gets y parts
  carriesHeaders {x : Exchange} {parts : List Bytes} :
    gets x parts → gateway.CarriesHeaders x.transport.headers
  charset_eq {x : Exchange} {parts : List Bytes} : gets x parts → x.transport.charset = .utf8
  setTransport {x : Exchange} {parts : List Bytes} {t : Transport} :
    gets x parts → x.transport.committed = false → t.medium = x.transport.medium →
      t.committed = x.transport.committed → gateway.CarriesHeaders t.headers →
        gets { x with transport := t } parts
  flush {x : Exchange} {parts : List Bytes} : gets x parts →
    ∃ y, Transport.flush.outcome x = (.ok (), y) ∧ gets y parts ∧ x.transport.Commits y.transport ∧
      Exchange.Beneath x y
  write {x : Exchange} {parts : List Bytes} (data : Bytes) : gets x parts →
    ∃ y, (Transport.write data).outcome x = (.ok (), y) ∧ gets y (parts ++ chunks data) ∧
      x.transport.Commits y.transport ∧ Exchange.Beneath x y

/-- What two exchanges have in common besides, where nothing that goes on beneath their layers
matters. -/
structure Frame where
  rel : Exchange → Exchange → Prop
  beneath {x y z w : Exchange} : rel x y → Exchange.Beneath x z → Exchange.Beneath y w → rel z w
  putBuffer {x y : Exchange} (i : Nat) (b : Buffer) : rel x y → rel (x.putBuffer i b) (y.putBuffer i b)

namespace Exchange

open Revalidation.Action

variable {x y z w : Exchange} {gateway : Gateway} {O : Outlet gateway} {F : Frame} {i : Nat} {b : Buffer}

/-- The second exchange goes over a server of the gateway and has the same layers, context and head as
the first one, which goes over a transport that records everything.  The server gets the writes that
are recorded. -/
structure Mirrors (O : Outlet gateway) (F : Frame) (x y : Exchange) : Prop where
  medium_eq : ∃ calls, x.transport.medium = .memory .utf8 [] calls x.transport.writes
  decorators_eq : y.decorators = x.decorators
  context_eq : y.context = x.context
  published_eq : y.published = x.published
  status_eq : y.transport.status = x.transport.status
  headers_eq : y.transport.headers = x.transport.headers
  committed_eq : y.transport.committed = x.transport.committed
  carries_length : ∀ i b value, x.decorator i = .buffer b → b.contentLength = some value →
    gateway.Carries value
  gets : O.gets y (x.transport.writes.flatMap chunks)
  frame : F.rel x y

namespace Mirrors

theorem records (h : Mirrors O F x y) : x.Records := by
  obtain ⟨calls, hmedium⟩ := h.medium_eq
  exact ⟨.utf8, [], calls, x.transport.writes, hmedium⟩

theorem accepts (h : Mirrors O F x y) : x.transport.refuses = false := by
  obtain ⟨calls, hmedium⟩ := h.medium_eq
  simp [Transport.refuses, hmedium]

/-- What goes on beneath the layers of the second exchange makes no difference while its server gets
the same, in whichever meaning. -/
theorem beneath {P : Outlet gateway} (h : Mirrors O F x y) (hbeneath : Beneath y z)
    (hstatus : z.transport.status = y.transport.status)
    (hheaders : z.transport.headers = y.transport.headers)
    (hcommitted : z.transport.committed = y.transport.committed)
    (hgets : P.gets z (x.transport.writes.flatMap chunks)) : Mirrors P F x z :=
  { h with
    decorators_eq := by rw [hbeneath.decorators_eq, h.decorators_eq]
    context_eq := by rw [hbeneath.context_eq, h.context_eq]
    published_eq := by rw [hbeneath.published_eq, h.published_eq]
    status_eq := by rw [hstatus, h.status_eq]
    headers_eq := by rw [hheaders, h.headers_eq]
    committed_eq := by rw [hcommitted, h.committed_eq]
    gets := hgets
    frame := F.beneath h.frame (.refl x) hbeneath }

theorem log_right (h : Mirrors O F x y) (event : LogEvent) : Mirrors O F x (y.log event) :=
  h.beneath ⟨rfl, rfl, rfl, rfl⟩ rfl rfl rfl
    (O.congr h.gets rfl rfl (sent_log event) (served_log event))

theorem log_left (h : Mirrors O F x y) (event : LogEvent) : Mirrors O F (x.log event) y :=
  { h with frame := F.beneath h.frame ⟨rfl, rfl, rfl, rfl⟩ (.refl y) }

theorem putBuffer (h : Mirrors O F x y) (j : Nat)
    (hlength : ∀ value, b.contentLength = some value → gateway.Carries value) :
    Mirrors O F (x.putBuffer j b) (y.putBuffer j b) := by
  refine { h with decorators_eq := ?_, carries_length := ?_, gets := ?_, frame := ?_ }
  · rw [Exchange.putBuffer, Exchange.putBuffer, h.decorators_eq]
  · intro k c value hc hvalue
    by_cases hk : k = j
    · subst hk
      rw [eq_of_decorator_putBuffer hc] at hvalue
      exact hlength value hvalue
    · rw [decorator_putBuffer_ne hk] at hc
      exact h.carries_length k c value hc hvalue
  · exact O.congr h.gets rfl rfl rfl rfl
  · exact F.putBuffer j b h.frame

theorem changeContext (h : Mirrors O F x y) (change : Context.Change)
    (hframe : F.rel (x.changeContext change) (y.changeContext change)) :
    Mirrors O F (x.changeContext change) (y.changeContext change) := by
  unfold Exchange.changeContext at hframe ⊢
  have hpublished := h.published_eq
  cases hx : x.published <;> rw [hx] at hpublished <;>
    simp only [hx, hpublished, h.context_eq] at hframe ⊢ <;>
    exact { h with
      context_eq := rfl, published_eq := rfl, gets := O.congr h.gets rfl rfl rfl rfl, frame := hframe }

theorem changeTransport (h : Mirrors O F x y) (event : LogEvent)
    {change : Transport → Transport} (hmedium : ∀ t, (change t).medium = t.medium)
    (hcommitted : ∀ t, (change t).committed = t.committed)
    (hhead : ∀ t u : Transport, u.status = t.status → u.headers = t.headers →
      (change u).status = (change t).status ∧ (change u).headers = (change t).headers)
    (hheaders : gateway.CarriesHeaders (change y.transport).headers) :
    Mirrors O F (x.changeTransport event change) (y.changeTransport event change) := by
  rcases Bool.eq_false_or_eq_true x.transport.committed with hclosed | hopen
  · obtain ⟨calls, hx⟩ := h.medium_eq
    have hy : y.transport.committed = true := by rw [h.committed_eq, hclosed]
    have hsilent : x.transport.logsIgnored = false := by rw [Transport.logsIgnored, hx]
    simp only [Exchange.changeTransport, hclosed, hy, if_true, ignore, hsilent, Bool.false_eq_true,
      if_false]
    split
    · exact h.log_right event
    · exact h
  · have hy : y.transport.committed = false := by rw [h.committed_eq, hopen]
    have hwrites : (change x.transport).writes = x.transport.writes := by
      rw [Transport.writes, hmedium, Transport.writes]
    obtain ⟨hstatus, hequal⟩ := hhead x.transport y.transport h.status_eq h.headers_eq
    obtain ⟨calls, hx⟩ := h.medium_eq
    rw [changeTransport_open hopen, changeTransport_open hy]
    exact
      { h with
        medium_eq := ⟨calls, by rw [hmedium, hx, hwrites]⟩
        status_eq := hstatus
        headers_eq := hequal
        committed_eq := by rw [hcommitted, hcommitted, h.committed_eq]
        gets := by
          rw [hwrites]
          exact O.setTransport h.gets hy (hmedium _) (hcommitted _) hheaders
        frame := F.beneath h.frame ⟨rfl, rfl, rfl, rfl⟩ ⟨rfl, rfl, rfl, rfl⟩ }

theorem write (h : Mirrors O F x y) (data : Bytes) {failed : Fault → Exchange → Exchange → Prop} :
    EndAlike (Mirrors O F) failed (Transport.write data) x (Transport.write data) y := by
  obtain ⟨w, hwrite, hw, hcommits, hbeneath⟩ := O.write data h.gets
  have hwrites : (x.transport.accept data).writes = x.transport.writes ++ [data] :=
    Transport.accept_writes h.records data
  refine .value (Transport.outcome_write_accepted h.records h.accepts data) hwrite ?_
  obtain ⟨calls, hx⟩ := h.medium_eq
  exact
    { medium_eq := ⟨calls + 1, by rw [hwrites]; simp [Transport.accept, hx]⟩
      decorators_eq := by rw [hbeneath.decorators_eq, h.decorators_eq]
      context_eq := by rw [hbeneath.context_eq, h.context_eq]
      published_eq := by rw [hbeneath.published_eq, h.published_eq]
      status_eq := by rw [hcommits.status_eq, h.status_eq, Transport.accept_status]
      headers_eq := by rw [hcommits.headers_eq, h.headers_eq, Transport.accept_headers]
      committed_eq := by rw [hcommits.committed_eq, Transport.accept_committed]
      carries_length := h.carries_length
      gets := by rw [hwrites]; simpa using hw
      frame := F.beneath h.frame ⟨rfl, rfl, rfl, rfl⟩ hbeneath }

theorem commit (h : Mirrors O F x y) (hw : O.gets w (x.transport.writes.flatMap chunks))
    (hcommits : y.transport.Commits w.transport) (hbeneath : Beneath y w) :
    Mirrors O F { x with transport := { x.transport with committed := true } } w :=
  { h with
    decorators_eq := by rw [hbeneath.decorators_eq, h.decorators_eq]
    context_eq := by rw [hbeneath.context_eq, h.context_eq]
    published_eq := by rw [hbeneath.published_eq, h.published_eq]
    status_eq := by rw [hcommits.status_eq, h.status_eq]
    headers_eq := by rw [hcommits.headers_eq, h.headers_eq]
    committed_eq := hcommits.committed_eq
    gets := hw
    frame := F.beneath h.frame ⟨rfl, rfl, rfl, rfl⟩ hbeneath }

theorem flush (h : Mirrors O F x y) {failed : Fault → Exchange → Exchange → Prop} :
    EndAlike (Mirrors O F) failed Transport.flush x Transport.flush y := by
  obtain ⟨w, hflush, hw, hcommits, hbeneath⟩ := O.flush h.gets
  exact .value (Transport.outcome_flush_recorder h.records) hflush (h.commit hw hcommits hbeneath)

end Mirrors

/-- Responses do not see whether their writes are recorded or go to a server. -/
def mirroring (O : Outlet gateway) (F : Frame) (stops : Fault → Prop)
    (hframe : ∀ {x y : Exchange}, Mirrors O F x y →
      F.rel (x.changeContext .disableCaching) (y.changeContext .disableCaching)) : Likeness where
  rel := Mirrors O F
  carries := gateway.Carries
  stops := stops
  decorators_eq h := h.decorators_eq
  disabled_eq h := by rw [h.context_eq]
  status_eq h := h.status_eq
  headers_eq h := h.headers_eq
  committed_eq h := h.committed_eq
  charset_eq h := by
    obtain ⟨calls, hx⟩ := h.medium_eq
    rw [O.charset_eq h.gets, Transport.charset, hx]
  carries_lengthName := gateway.carries_lengthName
  carries_size n := gateway.carries_size n
  carries_length h hb hvalue := h.carries_length _ _ _ hb hvalue
  log event other h := (h.log_left event).log_right other
  putBuffer j _ h hlength := h.putBuffer j hlength
  disableCaching h := h.changeContext .disableCaching (hframe h)
  setTransportStatus status h :=
    h.changeTransport _ (fun _ => rfl) (fun _ => rfl) (fun _ _ _ hheaders => ⟨rfl, hheaders⟩)
      (O.carriesHeaders h.gets)
  setTransportHeader h hname hvalue :=
    h.changeTransport _ (fun _ => rfl) (fun _ => rfl)
      (fun _ _ hstatus hheaders => ⟨hstatus, by rw [hheaders]⟩)
      ((O.carriesHeaders h.gets).set hname hvalue)
  addTransportHeader h hname hvalue :=
    h.changeTransport _ (fun _ => rfl) (fun _ => rfl)
      (fun _ _ hstatus hheaders => ⟨hstatus, by rw [hheaders]⟩)
      ((O.carriesHeaders h.gets).add hname hvalue)
  write data h := h.write data
  flush h := h.flush

end Exchange
end Revalidation
