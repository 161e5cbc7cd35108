import Revalidation.Proofs.Endings
import Revalidation.Proofs.FieldBytes
import Revalidation.Proofs.Legality

/-!
# Responses that bear given headers

A response that was started with given headers keeps them, and nothing but an entity tag and a content
length joins them.  `Bearing` is what holds from the start on, whether the body is held back, copied,
dropped or streamed: but for the two names, the transport has the headers that were given, and all of
them have an encoding.
-/

namespace Revalidation

open Revalidation.Action Exchange

variable {x : Exchange} {h : Headers} {failing : List Nat} {b : Buffer} {name value : String}

namespace Exchange

def startMessages (x : Exchange) : List Message :=
  x.sent.filter (·.type = some Message.startType)

theorem startMessages_note (entry : Entry) : (x.note entry).startMessages =
    x.startMessages ++ entry.message?.toList.filter (·.type = some Message.startType) := by
  rw [startMessages, sent_note, List.filter_append, startMessages]

theorem startMessages_plain {entry : Entry} (hplain : entry.isPlain = true) :
    (x.note entry).startMessages = x.startMessages := by
  have hnone : entry.message?.toList.filter (·.type = some Message.startType) = [] := by
    cases entry with
    | sent message => simpa [Entry.message?, Entry.isPlain] using hplain
    | _ => rfl
  rw [startMessages_note, hnone, List.append_nil]

def Uncaught (x : Exchange) : Prop := ∀ fault, .caught fault ∈ x.journal → fault.isEncoding = false

theorem Uncaught.note (hx : x.Uncaught) {entry : Entry}
    (hentry : ∀ fault, entry = .caught fault → fault.isEncoding = false) : (x.note entry).Uncaught := by
  intro fault hmem
  obtain hearlier | hnew := List.mem_append.mp hmem
  · exact hx fault hearlier
  · exact hentry fault (List.mem_singleton.mp hnew).symm

theorem Uncaught.note_plain (hx : x.Uncaught) {entry : Entry} (hplain : entry.isPlain = true) :
    (x.note entry).Uncaught :=
  hx.note fun fault heq => by simpa [heq, Entry.isPlain] using hplain

/-! ## Before and after the start -/

/-- The server has got at most one start, and it has the headers that were given, but for the ones that
the filter adds. -/
structure Faithful (h : Headers) (x : Exchange) : Prop where
  starts : x.startMessages = [] ∨ ∃ status fields, x.startMessages = [.start status fields] ∧
    Asgi.Scope.decodeHeaders (fields.filter Asgi.isForeign) = h.multiItems
  uncaught : x.Uncaught

/-- The application is called and has not started its response. -/
structure Unstarted (failing : List Nat) (x : Exchange) : Prop where
  transport_eq : x.transport = .asgi
  decorators_eq : x.decorators = [.buffer { forRequest := true }]
  attached : x.published = .attached
  failing_eq : x.server.failing = failing
  starts : x.startMessages = []
  uncaught : x.Uncaught

/-- The application has started its response with the given headers, and the transport has them, but for
the ones that the filter adds. -/
structure Bearing (h : Headers) (failing : List Nat) (x : Exchange) : Prop extends Faithful h x where
  medium_eq : ∃ finished, x.transport.medium = .asgi finished
  buffer : ∃ b, x.decorators = [.buffer b] ∧ ∀ value, b.contentLength = some value → Latin1 value
  attached : x.published = .attached
  failing_eq : x.server.failing = failing
  latin1 : x.transport.headers.Latin1
  nodup : x.transport.headers.names.Nodup
  kept : x.transport.headers.multiItems.filter (·.1 ∉ Asgi.addedNames) = h.multiItems
  of_open : x.transport.committed = false → x.startMessages = []
  of_committed : x.transport.committed = true → failing = [] → x.startMessages ≠ []

theorem Faithful.note (hx : x.Faithful h) {entry : Entry} (hplain : entry.isPlain = true) :
    (x.note entry).Faithful h where
  starts := (startMessages_plain hplain).symm ▸ hx.starts
  uncaught := hx.uncaught.note_plain hplain

theorem Unstarted.faithful (hx : x.Unstarted failing) (h : Headers) : x.Faithful h :=
  ⟨.inl hx.starts, hx.uncaught⟩

theorem Unstarted.steady : Steady (Unstarted failing) where
  attached hx := hx.attached
  note hplain hx :=
    { hx with
      starts := (startMessages_plain hplain).trans hx.starts
      uncaught := hx.uncaught.note_plain hplain }
  setContext _ hx := { hx with }
  setSends _ hx := { hx with }
  setIncoming _ hx := { hx with }

namespace Bearing

theorem steady (h : Headers) (failing : List Nat) : Steady (Bearing h failing) where
  attached hx := hx.attached
  note hplain hx :=
    { hx with
      toFaithful := hx.toFaithful.note hplain
      of_open := fun hopen => (startMessages_plain hplain).trans (hx.of_open hopen)
      of_committed := fun hcommitted hfailing =>
        (startMessages_plain hplain).symm ▸ hx.of_committed hcommitted hfailing }
  setContext _ hx := { hx with toFaithful := ⟨hx.starts, hx.uncaught⟩ }
  setSends _ hx := { hx with toFaithful := ⟨hx.starts, hx.uncaught⟩ }
  setIncoming _ hx := { hx with toFaithful := ⟨hx.starts, hx.uncaught⟩ }

theorem steady_committed (h : Headers) (failing : List Nat) :
    Steady fun x => x.Bearing h failing ∧ x.transport.committed = true where
  attached hx := hx.1.attached
  note hplain hx := ⟨(steady h failing).note hplain hx.1, hx.2⟩
  setContext context hx := ⟨(steady h failing).setContext context hx.1, hx.2⟩
  setSends sends hx := ⟨(steady h failing).setSends sends hx.1, hx.2⟩
  setIncoming incoming hx := ⟨(steady h failing).setIncoming incoming hx.1, hx.2⟩

theorem putBuffer (hx : x.Bearing h failing)
    (hvalue : ∀ value, b.contentLength = some value → Latin1 value) :
    (x.putBuffer 0 b).Bearing h failing :=
  { hx with
    toFaithful := ⟨hx.starts, hx.uncaught⟩
    buffer := by
      obtain ⟨old, hold, -⟩ := hx.buffer
      exact ⟨b, by rw [Exchange.putBuffer, hold]; rfl, hvalue⟩ }

theorem exists_buffer (hx : x.Bearing h failing) : ∃ b, x.decorator 0 = .buffer b ∧
    ∀ value, b.contentLength = some value → Latin1 value := by
  obtain ⟨b, hb, hvalue⟩ := hx.buffer
  exact ⟨b, by rw [decorator, hb]; rfl, hvalue⟩

theorem setMedium (hx : x.Bearing h failing) (finished : Bool) :
    Bearing h failing { x with transport := { x.transport with medium := .asgi finished } } :=
  { hx with toFaithful := ⟨hx.starts, hx.uncaught⟩, medium_eq := ⟨finished, rfl⟩ }

theorem setStatus (hx : x.Bearing h failing) (status : Int) :
    (x.setTransportStatus status).Bearing h failing := by
  unfold setTransportStatus changeTransport ignore
  split
  · split
    · exact (steady h failing).log _ hx
    · exact hx
  · exact { hx with toFaithful := ⟨hx.starts, hx.uncaught⟩ }

theorem setHeader (hx : x.Bearing h failing) (hadded : Text.lower name ∈ Asgi.addedNames)
    (hname : Latin1 name) (hvalue : Latin1 value) :
    (x.setTransportHeader name value).Bearing h failing := by
  unfold setTransportHeader changeTransport ignore
  split
  · split
    · exact (steady h failing).log _ hx
    · exact hx
  · have hnames : (x.transport.headers.set name value).names =
        Headers.placed x.transport.headers.names (Text.lower name) := Headers.names_modifyKey _ _ _
    have hspares : Headers.Spares Asgi.addedNames x.transport.headers
        (x.transport.headers.set name value) :=
      (Headers.Spares.modifyKey _ _ _).mono (by simpa using hadded)
    have hnodup : (x.transport.headers.set name value).names.Nodup :=
      hnames ▸ Headers.nodup_placed hx.nodup
    exact
      { hx with
        toFaithful := ⟨hx.starts, hx.uncaught⟩
        latin1 := hx.latin1.set hname hvalue
        nodup := hnodup
        kept := (hspares.multiItems hx.nodup hnodup).trans hx.kept }

theorem passHead (hx : x.Bearing h failing)
    (hvalue : ∀ value, b.contentLength = some value → Latin1 value) (complete : Bool) :
    (x.passHead b [] complete).Bearing h failing := by
  have hstatus : (x.passStatus b []).Bearing h failing := by
    unfold passStatus
    split
    · exact hx.setStatus _
    · exact hx
  have hadded : Text.lower contentLengthName ∈ Asgi.addedNames := by
    rw [Headers.lower_contentLength]
    decide
  rw [passHead_eq]
  split
  · exact hx
  · split
    · next value hlength =>
      refine hstatus.setHeader hadded (by decide) ?_
      unfold Buffer.passedLength at hlength
      split at hlength
      · rw [← Option.some.inj hlength]
        exact .decimal _
      · exact hvalue value hlength
    · exact hstatus

/-! ## The transport -/

/-- The start of the response has the headers that were given, but for the ones that are added. -/
theorem announce (hx : x.Bearing h failing) (hopen : x.transport.committed = false) :
    Ends (Transport.announce .asgi) x (fun _ y => y.Bearing h failing ∧ y.transport.committed = true)
      (StopsIn (Bearing h failing)) := by
  obtain ⟨fields, hfields, hback⟩ := hx.latin1.encode
  have hcarried : Asgi.Scope.decodeHeaders (fields.filter Asgi.isForeign) = h.multiItems := by
    rw [← hx.kept, ← hback]
    exact Asgi.Scope.decodeHeaders_filter (fun name => decide (name ∉ Asgi.addedNames)) fields
  let start := Message.start x.transport.status fields
  let counted : Exchange := { x with
    transport := { x.transport with committed := true }
    server := { x.server with sends := x.server.sends + 1 } }
  by_cases hrefused : x.server.sends + 1 ∈ x.server.failing
  · have hannounce : (Transport.announce .asgi).outcome x =
        (.error .sendFailed, counted.note .sendFailed) := by
      simp [Transport.announce, outcome_bind, Transport.markCommitted, hfields, Transport.send, hrefused,
        counted]
    have hstarts : (counted.note .sendFailed).startMessages = [] :=
      (startMessages_plain rfl).trans (hx.of_open hopen)
    rw [Ends, hannounce]
    exact ⟨rfl, { hx with
      starts := .inl hstarts
      uncaught := hx.uncaught.note_plain rfl
      of_open := fun _ => hstarts
      of_committed := fun _ hfailing => by
        rw [hx.failing_eq, hfailing] at hrefused
        exact absurd hrefused List.not_mem_nil }⟩
  · let sent := counted.note (.sent start)
    let event := LogEvent.started .asgi x.transport.status x.transport.headers.size
    have hannounce : (Transport.announce .asgi).outcome x = (.ok (), sent.log event) := by
      simp [Transport.announce, outcome_bind, Transport.markCommitted, hfields, Transport.send, hrefused,
        counted, sent, start, event]
    have hstarts : (sent.log event).startMessages = [start] := by
      have hnone : counted.startMessages = [] := hx.of_open hopen
      rw [Exchange.log, startMessages_plain rfl, startMessages_note, hnone]
      rfl
    have huncaught : sent.Uncaught := Uncaught.note hx.uncaught fun _ hcaught => by cases hcaught
    rw [Ends, hannounce]
    exact ⟨{ hx with
      starts := .inr ⟨_, fields, hstarts, hcarried⟩
      uncaught := huncaught.note_plain rfl
      of_open := fun hopen => by cases hopen
      of_committed := fun _ _ => by simp [hstarts] }, rfl⟩

theorem flush (hx : x.Bearing h failing) :
    Ends Transport.flush x (fun _ y => y.Bearing h failing ∧ y.transport.committed = true)
      (StopsIn (Bearing h failing)) := by
  obtain ⟨finished, hmedium⟩ := hx.medium_eq
  rcases Bool.eq_false_or_eq_true x.transport.committed with hcommitted | hopen
  · have hflush : Transport.flush.outcome x = (.ok (), x) := by
      simp [Transport.flush, outcome_bind, hmedium, hcommitted]
    rw [Ends, hflush]
    exact ⟨hx, hcommitted⟩
  · refine (hx.announce hopen).of_outcome ?_
    simp [Transport.flush, outcome_bind, hmedium, hopen]

theorem carries_write (data : Bytes) : Carries (Bearing h failing) (Transport.write data) := by
  intro x hx
  obtain ⟨finished, hmedium⟩ := hx.medium_eq
  have hpart : Carries (Bearing h failing) (if !data.isEmpty then do
      Transport.send (.part data true)
      Action.log (.sentChunk data.length)
    else return) := by
    split
    · have hsend := (steady h failing).carries_send (Message.part_type_ne data true)
      exact hsend.bind fun _ => (steady h failing).carries_log _
    · exact .pure ()
  have hwrite : Ends (Transport.flush >>= fun _ => if !data.isEmpty then do
      Transport.send (.part data true)
      Action.log (.sentChunk data.length)
    else return) x (fun _ => Bearing h failing) (StopsIn (Bearing h failing)) :=
    hx.flush.bind fun _ y hy => hpart y hy.1
  refine hwrite.of_outcome ?_
  simp only [Transport.write, outcome_bind, outcome_get, hmedium]

theorem close (hx : x.Bearing h failing) :
    Ends Transport.close x (fun _ y => y.Bearing h failing ∧ y.transport.committed = true)
      (StopsIn (Bearing h failing)) := by
  refine hx.flush.bind fun _ y hy => ?_
  obtain ⟨finished, hmedium⟩ := hy.1.medium_eq
  cases finished with
  | true => simpa [Ends, outcome_bind, hmedium] using hy
  | false =>
      have hend : Ends (Transport.setMedium (.asgi true) >>= fun _ => Transport.send (.part [] false)) y
          (fun _ z => z.Bearing h failing ∧ z.transport.committed = true)
          (StopsIn fun z => z.Bearing h failing ∧ z.transport.committed = true) :=
        (steady_committed h failing).carries_send (Message.part_type_ne [] false) _
          ⟨hy.1.setMedium true, hy.2⟩
      refine (hend.mono (fun _ _ hz => hz) fun _ _ hz => ⟨hz.1, hz.2.1⟩).of_outcome ?_
      simp [outcome_bind, hmedium]

/-! ## The buffer -/

theorem carries_copyBuffer (hvalue : ∀ value, b.contentLength = some value → Latin1 value)
    (complete : Bool) :
    Carries (Bearing h failing) (Response.copyBuffer (Response.write []) 0 b [] complete) := by
  have hdone : Carries (Bearing h failing)
      (modify fun x => x.putBuffer 0 { b with content := [], copied := true }) :=
    .modify fun _ hx => hx.putBuffer hvalue
  unfold Response.copyBuffer
  split
  · exact .pure ()
  · refine .bind (.modify fun _ hx => hx.passHead hvalue complete) fun _ => ?_
    split
    · exact .bind ((steady h failing).carries_log _) fun _ => .bind (carries_write _) fun _ => hdone
    · exact hdone

theorem carries_response_write (data : Bytes) :
    Carries (Bearing h failing) (Response.write [0] data) := by
  refine .read fun x hx => ?_
  obtain ⟨b, hdecorator, hvalue⟩ := hx.exists_buffer
  rw [hdecorator]
  dsimp only
  split
  · exact Carries.bind (carries_copyBuffer hvalue false) (fun _ => carries_write data) x hx
  · exact hx.putBuffer hvalue

theorem carries_response_flush : Carries (Bearing h failing) (Response.flush [0]) := by
  refine .read fun x hx => ?_
  obtain ⟨b, hdecorator, hvalue⟩ := hx.exists_buffer
  have hflush : Carries (Bearing h failing) Transport.flush := fun x hx =>
    hx.flush.mono (fun _ _ hy => hy.1) fun _ _ hy => hy
  rw [hdecorator]
  exact Carries.bind (carries_copyBuffer hvalue false) (fun _ => hflush) x hx

theorem carries_copyBody (complete : Bool) :
    Carries (Bearing h failing) (Response.copyBody [0] complete) := by
  refine .read fun x hx => ?_
  obtain ⟨b, hdecorator, hvalue⟩ := hx.exists_buffer
  rw [hdecorator]
  exact carries_copyBuffer hvalue complete x hx

theorem carries_resetBuffer : Carries (Bearing h failing) (modify (·.resetBuffer [0])) := by
  refine .modify fun x hx => ?_
  obtain ⟨b, hdecorator, hvalue⟩ := hx.exists_buffer
  simp only [Exchange.resetBuffer, hdecorator]
  exact hx.putBuffer hvalue

/-! ## The filter -/

section Filter

variable {filter : EtagFilter} {style : CallStyle} {request : Request}

theorem carries_evaluate (htag : ∀ body, Latin1 (filter.tag body)) :
    Carries (Bearing h failing) (filter.evaluate request 0 []) := by
  have hcopy (event : LogEvent) : Carries (Bearing h failing) (do
      Action.log event
      Response.copyBody [0] true) :=
    .bind ((steady h failing).carries_log event) fun _ => carries_copyBody true
  refine .read fun x hx => ?_
  dsimp only
  split
  · exact hcopy _ x hx
  split
  · exact hcopy _ x hx
  · have hadded : Text.lower "ETag" ∈ Asgi.addedNames := by decide
    refine Carries.read (fun x hx => ?_) x hx
    refine Carries.bind (.modify fun x hx => hx.setHeader hadded (by decide) (htag _)) (fun _ => ?_) x hx
    dsimp only
    split
    · refine .bind ((steady h failing).carries_log _) fun _ => ?_
      exact .bind (.modify fun x hx => hx.setStatus _) fun _ => carries_resetBuffer
    · exact hcopy _

theorem carries_conclude (htag : ∀ body, Latin1 (filter.tag body)) :
    Carries (Bearing h failing) (filter.conclude style request [0]) := by
  refine .read fun x hx => ?_
  split
  · exact (steady h failing).carries_log _ x hx
  split
  · exact (steady h failing).carries_log _ x hx
  · obtain ⟨b, hdecorator, -⟩ := hx.exists_buffer
    exact (carries_evaluate htag x hx).of_outcome (EtagFilter.outcome_update hdecorator)

end Filter

end Bearing
end Exchange
end Revalidation
