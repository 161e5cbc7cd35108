import Revalidation.Proofs.Mirroring

/-!
# Servers follow a recorder

The server of either gateway gets the status and headers that a recorder in the place of its transport
has, and the writes that are recorded, where empty ones are left out.  `Follows` is the relation for a
handler at its buffer, and it is a likeness, so that whatever is shown of runs over a recorder holds of
what servers get.
-/

namespace Revalidation

namespace Exchange

open Revalidation.Action

variable {x y z : Exchange} {gateway : Gateway} {writer : Option Writer} {parts : List Bytes}
  {t : Transport} {disabled : Bool} {i : Nat} {b : Buffer}

/-! ## What servers get -/

/-- The server of a gateway gets the parts of the body, and the head once the transport is
committed. -/
def Delivering (x : Exchange) (gateway : Gateway) (parts : List Bytes) : Prop :=
  match gateway with
  | .asgi => x.Relaying parts
  | .wsgi => ∃ handed waiting, x.Collecting handed waiting ∧ handed ++ waiting = parts

namespace Delivering

theorem congr (h : x.Delivering gateway parts) (htransport : y.transport = x.transport)
    (hfailing : y.server.failing = x.server.failing)
    (hrefuses : y.server.refusesStart = x.server.refusesStart) (hsent : y.sent = x.sent)
    (hserved : y.served = x.served) : y.Delivering gateway parts := by
  cases gateway with
  | asgi => exact Relaying.congr h htransport hfailing hsent
  | wsgi =>
      obtain ⟨handed, waiting, hcollecting, hparts⟩ := h
      exact ⟨handed, waiting, hcollecting.congr htransport hrefuses hserved, hparts⟩

theorem note (h : x.Delivering gateway parts) {entry : Entry} (hmessage : entry.message? = none)
    (hserved : entry.isServed = false) : (x.note entry).Delivering gateway parts :=
  h.congr rfl rfl rfl (by simp [sent_note, hmessage]) (by simp [served_note, hserved])

theorem log (h : x.Delivering gateway parts) (event : LogEvent) :
    (x.log event).Delivering gateway parts := h.note rfl rfl

theorem carriesHeaders (h : x.Delivering gateway parts) :
    gateway.CarriesHeaders x.transport.headers := by
  cases gateway with
  | asgi => exact Relaying.latin1 h
  | wsgi => trivial

theorem charset_eq (h : x.Delivering gateway parts) : x.transport.charset = .utf8 := by
  cases gateway with
  | asgi => rw [Transport.charset, Relaying.medium_eq h]
  | wsgi =>
      obtain ⟨_, _, hcollecting, -⟩ := h
      rw [Transport.charset, hcollecting.medium_eq]

theorem setTransport (h : x.Delivering gateway parts) (hopen : x.transport.committed = false)
    (hmedium : t.medium = x.transport.medium) (hcommitted : t.committed = x.transport.committed)
    (hheaders : gateway.CarriesHeaders t.headers) :
    ({ x with transport := t } : Exchange).Delivering gateway parts := by
  cases gateway with
  | asgi =>
      refine Relaying.setTransport h hmedium hheaders hcommitted fun hclosed => ?_
      rw [hopen] at hclosed
      cases hclosed
  | wsgi =>
      obtain ⟨handed, waiting, hcollecting, hparts⟩ := h
      exact ⟨handed, waiting, hcollecting.setTransport hopen hmedium hcommitted, hparts⟩

theorem flush (h : x.Delivering gateway parts) :
    ∃ y, Transport.flush.outcome x = (.ok (), y) ∧ y.Delivering gateway parts ∧
      x.transport.Commits y.transport ∧ Beneath x y := by
  cases gateway with
  | asgi =>
      obtain ⟨y, hflush, hy, htransport, hbeneath⟩ := Relaying.flush h
      exact ⟨y, hflush, hy, .of_eq htransport, hbeneath⟩
  | wsgi =>
      obtain ⟨handed, waiting, hcollecting, hparts⟩ := h
      obtain ⟨y, hflush, hy, htransport, hbeneath⟩ := hcollecting.flush
      exact ⟨y, hflush, ⟨handed, waiting, hy, hparts⟩, .of_eq htransport,
        hbeneath⟩

theorem write (h : x.Delivering gateway parts) (data : Bytes) :
    ∃ y, (Transport.write data).outcome x = (.ok (), y) ∧
      y.Delivering gateway (parts ++ chunks data) ∧ x.transport.Commits y.transport ∧
      Beneath x y := by
  cases gateway with
  | asgi =>
      obtain ⟨y, hwrite, hy, htransport, hbeneath⟩ := Relaying.write h data
      exact ⟨y, hwrite, hy, .of_eq htransport, hbeneath⟩
  | wsgi =>
      obtain ⟨handed, waiting, hcollecting, hparts⟩ := h
      obtain ⟨y, hwrite, hy, htransport, hbeneath⟩ := hcollecting.write data
      exact ⟨y, hwrite, ⟨handed, _, hy, by rw [← hparts, List.append_assoc]⟩,
        .of_eq htransport, hbeneath⟩

end Delivering

/-! ## The likeness -/

/-- The second exchange goes over a server of the gateway and has the same layers and head as the first
one, which goes over a transport that records everything.  The server gets the writes that are
recorded.  Once it is disabled, caching stays disabled. -/
structure Follows (gateway : Gateway) (writer : Option Writer) (disabled : Bool) (i : Nat)
    (x y : Exchange) : Prop where
  isBuffer : x.isBuffer [i] = true
  medium_eq : ∃ calls, x.transport.medium = .memory .utf8 [] calls x.transport.writes
  decorators_eq : y.decorators = x.decorators
  context_eq : y.context = x.context
  disabled_eq : disabled = true → x.context.cachingDisabled = true
  attached : x.published = .attached
  published_eq : y.published = .attached
  writer_eq : y.writer = writer
  status_eq : y.transport.status = x.transport.status
  headers_eq : y.transport.headers = x.transport.headers
  committed_eq : y.transport.committed = x.transport.committed
  carries_length : ∀ i b value, x.decorator i = .buffer b → b.contentLength = some value →
    gateway.Carries value
  delivering : y.Delivering gateway (x.transport.writes.flatMap chunks)

/-- What the server of a gateway gets is a meaning that the transport keeps up. -/
def deliveryOutlet (gateway : Gateway) : Outlet gateway where
  gets x parts := x.Delivering gateway parts
  congr h htransport hserver hsent hserved :=
    h.congr htransport (by rw [hserver]) (by rw [hserver]) hsent hserved
  carriesHeaders h := h.carriesHeaders
  charset_eq h := h.charset_eq
  setTransport h hopen hmedium hcommitted hheaders := h.setTransport hopen hmedium hcommitted hheaders
  flush h := h.flush
  write data h := h.write data

/-- A handler works on a buffer of the first exchange, and both exchanges have their context in the
scope. -/
def handlerFrame (writer : Option Writer) (disabled : Bool) (i : Nat) : Frame where
  rel x y := x.isBuffer [i] = true ∧ (disabled = true → x.context.cachingDisabled = true) ∧
    x.published = .attached ∧ y.published = .attached ∧ y.writer = writer
  beneath := by
    rintro x y z w ⟨hbuffer, hdisabled, hx, hy, hwriter⟩ hxz hyw
    refine ⟨?_, by rwa [hxz.context_eq], hxz.published_eq.trans hx, hyw.published_eq.trans hy,
      hyw.writer_eq.trans hwriter⟩
    rwa [isBuffer, buffer?, decorator, hxz.decorators_eq, ← decorator, ← buffer?, ← isBuffer]
  putBuffer j b := by
    rintro ⟨hbuffer, hrest⟩
    exact ⟨isBuffer_putBuffer hbuffer, hrest⟩

namespace Follows

theorem mirrors (h : Follows gateway writer disabled i x y) :
    Mirrors (deliveryOutlet gateway) (handlerFrame writer disabled i) x y :=
  { h with
    published_eq := h.published_eq.trans h.attached.symm
    gets := h.delivering
    frame := ⟨h.isBuffer, h.disabled_eq, h.attached, h.published_eq, h.writer_eq⟩ }

theorem of_mirrors (h : Mirrors (deliveryOutlet gateway) (handlerFrame writer disabled i) x y) :
    Follows gateway writer disabled i x y := by
  obtain ⟨hbuffer, hdisabled, hx, hy, hwriter⟩ := h.frame
  exact
    { h with
      isBuffer := hbuffer, disabled_eq := hdisabled, attached := hx, published_eq := hy
      writer_eq := hwriter, delivering := h.gets }

theorem records (h : Follows gateway writer disabled i x y) : x.Records := h.mirrors.records

/-- What goes on beneath the layers of the second exchange makes no difference while its server gets
the same. -/
theorem beneath (h : Follows gateway writer disabled i x y) (hbeneath : Beneath y z)
    (hstatus : z.transport.status = y.transport.status)
    (hheaders : z.transport.headers = y.transport.headers)
    (hcommitted : z.transport.committed = y.transport.committed)
    (hdelivering : z.Delivering gateway (x.transport.writes.flatMap chunks)) :
    Follows gateway writer disabled i x z :=
  of_mirrors (h.mirrors.beneath hbeneath hstatus hheaders hcommitted hdelivering)

theorem note_right (h : Follows gateway writer disabled i x y) {entry : Entry}
    (hmessage : entry.message? = none) (hserved : entry.isServed = false) :
    Follows gateway writer disabled i x (y.note entry) :=
  h.beneath ⟨rfl, rfl, rfl, rfl⟩ rfl rfl rfl (h.delivering.note hmessage hserved)

theorem log_right (h : Follows gateway writer disabled i x y) (event : LogEvent) :
    Follows gateway writer disabled i x (y.log event) := h.note_right rfl rfl

theorem disableCaching (h : Follows gateway writer disabled i x y) :
    Follows gateway writer disabled i (x.changeContext .disableCaching)
      (y.changeContext .disableCaching) := by
  refine of_mirrors (h.mirrors.changeContext .disableCaching ⟨?_, ?_, ?_, ?_, ?_⟩)
  · simpa [Exchange.isBuffer, buffer?] using h.isBuffer
  · intro _
    rw [changeContext_attached h.attached]
    rfl
  · exact changeContext_published .disableCaching
  · exact changeContext_published .disableCaching
  · rw [← h.writer_eq]
    unfold Exchange.changeContext
    split <;> rfl

theorem write (h : Follows gateway writer disabled i x y) (data : Bytes) :
    EndAlike (Follows gateway writer disabled i)
      (fun _ z w => False ∧ Follows gateway writer disabled i z w)
      (Transport.write data) x (Transport.write data) y :=
  (h.mirrors.write data).mono (fun _ _ => of_mirrors) fun _ _ _ hfailed => hfailed

theorem flush (h : Follows gateway writer disabled i x y) :
    EndAlike (Follows gateway writer disabled i)
      (fun _ z w => False ∧ Follows gateway writer disabled i z w)
      Transport.flush x Transport.flush y :=
  h.mirrors.flush.mono (fun _ _ => of_mirrors) fun _ _ _ hfailed => hfailed

end Follows

/-- Responses do not see whether their writes are recorded or go to a server. -/
def following (gateway : Gateway) (writer : Option Writer) (disabled : Bool) (i : Nat) : Likeness :=
  let L := mirroring (deliveryOutlet gateway) (handlerFrame writer disabled i) (fun _ => False)
    fun h => ((Follows.of_mirrors h).disableCaching).mirrors.frame
  { L with
    rel := Follows gateway writer disabled i
    stops := fun _ => False
    decorators_eq := fun h => L.decorators_eq h.mirrors
    disabled_eq := fun h => L.disabled_eq h.mirrors
    status_eq := fun h => L.status_eq h.mirrors
    headers_eq := fun h => L.headers_eq h.mirrors
    committed_eq := fun h => L.committed_eq h.mirrors
    charset_eq := fun h => L.charset_eq h.mirrors
    carries_length := fun h => L.carries_length h.mirrors
    log := fun event other h => .of_mirrors (L.log event other h.mirrors)
    putBuffer := fun j _ h hlength => .of_mirrors (L.putBuffer j h.mirrors hlength)
    disableCaching := fun h => h.disableCaching
    setTransportStatus := fun status h => .of_mirrors (L.setTransportStatus status h.mirrors)
    setTransportHeader := fun h hname hvalue =>
      .of_mirrors (L.setTransportHeader h.mirrors hname hvalue)
    addTransportHeader := fun h hname hvalue =>
      .of_mirrors (L.addTransportHeader h.mirrors hname hvalue)
    write := fun data h => h.write data
    flush := fun h => h.flush }

end Exchange
end Revalidation
