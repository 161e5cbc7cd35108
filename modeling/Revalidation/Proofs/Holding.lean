import Revalidation.Proofs.HeaderLookup
import Revalidation.Proofs.Recorder

/-!
# A handler at its buffer

A handler works on a buffer over a transport that records.  Whatever calls it makes, a buffer that has
been copied is empty, and no content length reaches the transport while the buffer holds the body back.
-/

namespace Revalidation

variable {x y : Exchange} {i : Nat} {b c : Buffer} {complete : Bool}

namespace Exchange

/-- The invariant of a handler at a buffer over a transport that records. -/
structure Holding (x : Exchange) (i : Nat) (b : Buffer) : Prop where
  buffer_eq : x.decorator i = .buffer b
  records : x.Records
  empty_of_copied : b.copied = true → b.content = []
  lengthless : b.forwarding x.context = false →
    x.transport.headers.getList? contentLengthName = none

namespace Holding

theorem of_copied (hb : x.decorator i = .buffer b) (hrecords : x.Records) (hcopied : b.copied = true)
    (hempty : b.content = []) : x.Holding i b where
  buffer_eq := hb
  records := hrecords
  empty_of_copied _ := hempty
  lengthless hholds := by simp [Buffer.forwarding, hcopied] at hholds

theorem changeTransport (h : x.Holding i b) (event : LogEvent) {change : Transport → Transport}
    (hmedium : ∀ t, (change t).medium = t.medium)
    (hlength : b.forwarding x.context = false →
      (change x.transport).headers.getList? contentLengthName = none) :
    (x.changeTransport event change).Holding i b := by
  unfold Exchange.changeTransport ignore
  split
  · split
    · exact ⟨h.buffer_eq, h.records, h.empty_of_copied, h.lengthless⟩
    · exact h
  · obtain ⟨charset, failing, calls, writes, hrecords⟩ := h.records
    refine ⟨h.buffer_eq, ⟨charset, failing, calls, writes, ?_⟩, h.empty_of_copied, hlength⟩
    rw [← hrecords]
    exact hmedium x.transport

theorem putBuffer (h : x.Holding i b) (hforwarding : c.forwarding x.context = b.forwarding x.context)
    (hempty : c.copied = true → c.content = []) : (x.putBuffer i c).Holding i c where
  buffer_eq := decorator_putBuffer_self h.buffer_eq
  records := h.records
  empty_of_copied := hempty
  lengthless hholds := h.lengthless (hforwarding ▸ hholds)

theorem not_copied (hholds : b.forwarding x.context = false) : b.copied = false := by
  simp only [Buffer.forwarding, Bool.or_eq_false_iff] at hholds
  exact hholds.1

theorem setStatus (h : x.Holding i b) (status : Int) :
    (x.setStatus [i] status).Holding i { b with status := some status } := by
  simp only [Exchange.setStatus, h.buffer_eq]
  split
  · next hforwarding =>
    have htransport : (x.setTransportStatus status).Holding i b :=
      h.changeTransport (.statusIgnored status) (fun _ => rfl) h.lengthless
    exact htransport.putBuffer rfl h.empty_of_copied
  · exact h.putBuffer rfl h.empty_of_copied

/-- A header other than the content length passes through, and leaves the transport without one. -/
theorem passHeader (h : x.Holding i b) {name : String} {event : LogEvent}
    {change : Transport → Transport} (hpasses : b.holds x.context name = false)
    (hmedium : ∀ t, (change t).medium = t.medium)
    (hother : Text.lower name ≠ Text.lower contentLengthName →
      (change x.transport).headers.getList? contentLengthName =
        x.transport.headers.getList? contentLengthName) :
    (x.changeTransport event change).Holding i b := by
  refine h.changeTransport event hmedium fun hholds => ?_
  have hne : Text.lower name ≠ Text.lower contentLengthName := by
    rw [Headers.lower_contentLength]
    simpa [Buffer.holds, hholds] using hpasses
  rw [hother hne, h.lengthless hholds]

theorem setHeader (h : x.Holding i b) (name value : String) :
    ∃ c, (x.setHeader [i] name value).Holding i c := by
  simp only [Exchange.setHeader, h.buffer_eq]
  split
  · exact ⟨_, h.putBuffer rfl h.empty_of_copied⟩
  · next hpasses =>
    exact ⟨b, h.passHeader (by simpa using hpasses) (fun _ => rfl) fun hne =>
      Headers.getList?_set_ne hne⟩

theorem addHeader (h : x.Holding i b) (name value : String) :
    ∃ c, (x.addHeader [i] name value).Holding i c := by
  simp only [Exchange.addHeader, h.buffer_eq]
  split
  · exact ⟨_, h.putBuffer rfl h.empty_of_copied⟩
  · next hpasses =>
    exact ⟨b, h.passHeader (by simpa using hpasses) (fun _ => rfl) fun hne =>
      Headers.getList?_add_ne hne⟩

theorem resetBuffer (h : x.Holding i b) : ∃ c, (x.resetBuffer [i]).Holding i c := by
  simp only [Exchange.resetBuffer, h.buffer_eq]
  exact ⟨_, h.putBuffer rfl fun _ => rfl⟩

theorem resetHeaders (h : x.Holding i b) : x.resetHeaders.Holding i b :=
  h.changeTransport .resetIgnored (fun _ => rfl) fun _ => rfl

end Holding

end Exchange

namespace Response

open Exchange Revalidation.Action

theorem write_nil_ok (hrecords : x.Records) {data : Bytes}
    (hok : (write [] data).outcome x = (.ok (), y)) :
    y = { x with transport := x.transport.accept data } := by
  rcases Bool.eq_false_or_eq_true x.transport.refuses with hrefuses | haccepts
  · rw [write_nil, Transport.outcome_write_refused hrecords hrefuses] at hok
    cases hok
  · rw [write_nil, Transport.outcome_write_accepted hrecords haccepts] at hok
    exact (Prod.mk.inj hok).2.symm

theorem copied_of_copyBuffer (h : x.Holding i b)
    (hok : (copyBuffer (write []) i b [] complete).outcome x = (.ok (), y)) :
    ∃ c, y.Holding i c ∧ c.copied = true ∧ y.context = x.context := by
  rcases Bool.eq_false_or_eq_true b.copied with hcopied | hcopied
  · rw [outcome_copyBuffer_copied hcopied] at hok
    cases hok
    exact ⟨b, h, hcopied, rfl⟩
  have hquiet := quiet_passHead x b [] complete
  by_cases hempty : b.content = []
  · rw [outcome_copyBuffer_empty hcopied hempty] at hok
    cases hok
    have hb : (x.passHead b [] complete).decorator i = .buffer b := by
      rw [hquiet.decorator_eq i List.not_mem_nil, h.buffer_eq]
    exact ⟨b.afterCopy, .of_copied (decorator_putBuffer_self hb) (hquiet.records h.records) rfl rfl,
      rfl, hquiet.context_eq⟩
  · let z := (x.passHead b [] complete).log (.copying b.content.length complete)
    have hz : Quiet [] x z := hquiet.trans (.log [] _ _)
    rcases hw : (write [] b.content).outcome z with ⟨fault | _, w⟩
    · rw [outcome_copyBuffer_error hcopied hempty hw] at hok
      cases hok
    · rw [outcome_copyBuffer_ok hcopied hempty hw] at hok
      cases hok
      have hrecords := hz.records h.records
      rw [write_nil_ok hrecords hw]
      have hb : z.decorator i = .buffer b := by
        rw [hz.decorator_eq i List.not_mem_nil, h.buffer_eq]
      exact ⟨b.afterCopy, .of_copied (decorator_putBuffer_self hb) (hrecords.accept _) rfl rfl, rfl,
        hz.context_eq⟩

theorem holding_write (h : x.Holding i b) {data : Bytes}
    (hok : (write [i] data).outcome x = (.ok (), y)) : ∃ c, y.Holding i c ∧ y.context = x.context := by
  rcases Bool.eq_false_or_eq_true (b.forwarding x.context) with hforwarding | hholds
  · rw [outcome_write_forwarding h.buffer_eq hforwarding] at hok
    rcases hc : (copyBuffer (write []) i b [] false).outcome x with ⟨fault | _, z⟩
    · rw [outcome_bind_error hc] at hok
      cases hok
    · rw [outcome_bind_ok hc] at hok
      obtain ⟨c, hz, hcopied, hcontext⟩ := copied_of_copyBuffer h hc
      rw [write_nil_ok hz.records hok]
      exact ⟨c, .of_copied hz.buffer_eq (hz.records.accept data) hcopied (hz.empty_of_copied hcopied),
        hcontext⟩
  · rw [outcome_write_held h.buffer_eq hholds] at hok
    cases hok
    refine ⟨_, h.putBuffer rfl fun hcopied => ?_, rfl⟩
    rw [Holding.not_copied hholds] at hcopied
    cases hcopied

theorem holding_flush (h : x.Holding i b) (hok : (flush [i]).outcome x = (.ok (), y)) :
    ∃ c, y.Holding i c ∧ y.context = x.context := by
  rw [outcome_flush_buffer h.buffer_eq] at hok
  rcases hc : (copyBuffer (write []) i b [] false).outcome x with ⟨fault | _, z⟩
  · rw [outcome_bind_error hc] at hok
    cases hok
  · obtain ⟨c, hz, hcopied, hcontext⟩ := copied_of_copyBuffer h hc
    rw [outcome_bind_ok hc, flush, Transport.outcome_flush_recorder hz.records] at hok
    cases hok
    exact ⟨c, .of_copied hz.buffer_eq hz.records hcopied (hz.empty_of_copied hcopied), hcontext⟩

theorem holding_close (h : x.Holding i b) (hok : Transport.close.outcome x = (.ok (), y)) :
    y.Holding i b ∧ y.context = x.context := by
  have hflush := Transport.outcome_flush_recorder h.records
  obtain ⟨charset, failing, calls, writes, hmedium⟩ := h.records
  simp only [Transport.close, outcome_bind, hflush, outcome_get, hmedium, outcome_pure] at hok
  cases hok
  exact ⟨⟨h.buffer_eq, ⟨charset, failing, calls, writes, rfl⟩, h.empty_of_copied, h.lengthless⟩, rfl⟩

/-- Every call of a handler that ends without a fault keeps the invariant. -/
theorem holding_perform (h : x.Holding i b) {call : Call}
    (hok : (Response.perform [i] call).outcome x = (.ok (), y)) :
    ∃ c, y.Holding i c ∧ y.context = x.context := by
  have hchange {f : Exchange → Exchange} (hf : (modify f : Action Unit).outcome x = (.ok (), y))
      (hholding : ∃ c, (f x).Holding i c) (hcontext : (f x).context = x.context) :
      ∃ c, y.Holding i c ∧ y.context = x.context := by
    cases hf
    obtain ⟨c, hc⟩ := hholding
    exact ⟨c, hc, hcontext⟩
  cases call with
  | setStatus status =>
      exact hchange hok ⟨_, h.setStatus status⟩ (quiet_setStatus [i] x status).context_eq
  | setHeader name value =>
      exact hchange hok (h.setHeader name value) (quiet_setHeader [i] x name value).context_eq
  | addHeader name value =>
      exact hchange hok (h.addHeader name value) (quiet_addHeader [i] x name value).context_eq
  | write data => exact holding_write h hok
  | writeText text =>
      rw [perform, writeText, outcome_bind, outcome_get] at hok
      cases hencode : (x.charset [i]).encode text with
      | error cause =>
          simp only [hencode, outcome_throw] at hok
          cases hok
      | ok data =>
          simp only [hencode] at hok
          exact holding_write h hok
  | flush => exact holding_flush h hok
  | copyBody complete =>
      rw [perform, outcome_copyBody_buffer h.buffer_eq] at hok
      obtain ⟨c, hy, -, hcontext⟩ := copied_of_copyBuffer h hok
      exact ⟨c, hy, hcontext⟩
  | resetBuffer =>
      refine hchange hok h.resetBuffer ?_
      simp [resetBuffer, h.buffer_eq]
  | close => exact ⟨b, holding_close h hok⟩
  | takeChunks =>
      obtain ⟨charset, failing, calls, writes, hmedium⟩ := h.records
      have hsame : x.takeChunks.2 = x := by simp [takeChunks, hmedium]
      exact hchange hok ⟨b, by rwa [hsame]⟩ (by rw [hsame])
  | resetHeaders =>
      have hquiet : Quiet [] x x.resetHeaders :=
        quiet_changeTransport .resetIgnored (fun t => { t with headers := {} }) (fun _ => rfl)
          fun _ => rfl
      exact hchange hok ⟨b, h.resetHeaders⟩ hquiet.context_eq

end Response
end Revalidation
