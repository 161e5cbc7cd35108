import Revalidation.Proofs.Layers

/-!
# Actions append to the journal

No operation on a response looks at the journal: it only appends to it.  So entries that are in front
already make no difference to what an operation does.
-/

namespace Revalidation

variable {x : Exchange} {earlier : List Entry}

namespace Exchange

def after (x : Exchange) (earlier : List Entry) : Exchange :=
  { x with journal := earlier ++ x.journal }

@[simp] theorem after_transport : (x.after earlier).transport = x.transport := rfl

@[simp] theorem after_decorator (i : Nat) : (x.after earlier).decorator i = x.decorator i := rfl

@[simp] theorem after_buffer? (i : Nat) : (x.after earlier).buffer? i = x.buffer? i := rfl

@[simp] theorem after_context : (x.after earlier).context = x.context := rfl

@[simp] theorem after_server : (x.after earlier).server = x.server := rfl

@[simp] theorem after_published : (x.after earlier).published = x.published := rfl

@[simp] theorem note_after (entry : Entry) :
    (x.after earlier).note entry = (x.note entry).after earlier := by
  simp [after, note]

@[simp] theorem log_after (event : LogEvent) :
    (x.after earlier).log event = (x.log event).after earlier := note_after _

@[simp] theorem changeTransport_after (event : LogEvent) (change : Transport → Transport) :
    (x.after earlier).changeTransport event change = (x.changeTransport event change).after earlier := by
  simp only [changeTransport, ignore, after_transport, log_after]
  split
  · split <;> rfl
  · rfl

@[simp] theorem changeContext_after (change : Context.Change) :
    (x.after earlier).changeContext change = (x.changeContext change).after earlier := by
  simp only [changeContext, after_published]
  split <;> rfl

@[simp] theorem setStatus_after (response : Response) (status : Int) :
    (x.after earlier).setStatus response status = (x.setStatus response status).after earlier := by
  induction response with
  | nil => simp only [setStatus, setTransportStatus, changeTransport_after]
  | cons i below ih =>
      cases hd : x.decorator i with
      | forward => simp only [setStatus, after_decorator, hd, ih]
      | buffer b =>
          simp only [setStatus, after_decorator, after_context, hd, ih]
          split <;> rfl

@[simp] theorem setHeader_after (response : Response) (name value : String) :
    (x.after earlier).setHeader response name value =
      (x.setHeader response name value).after earlier := by
  induction response with
  | nil => simp only [setHeader, setTransportHeader, changeTransport_after]
  | cons i below ih =>
      cases hd : x.decorator i with
      | forward => simp only [setHeader, after_decorator, hd, ih]
      | buffer b =>
          simp only [setHeader, after_decorator, after_context, hd, ih]
          split <;> rfl

@[simp] theorem addHeader_after (response : Response) (name value : String) :
    (x.after earlier).addHeader response name value =
      (x.addHeader response name value).after earlier := by
  induction response with
  | nil => simp only [addHeader, addTransportHeader, changeTransport_after]
  | cons i below ih =>
      cases hd : x.decorator i with
      | forward => simp only [addHeader, after_decorator, hd, ih]
      | buffer b =>
          simp only [addHeader, after_decorator, after_context, hd, ih]
          split <;> rfl

@[simp] theorem resetBuffer_after (response : Response) :
    (x.after earlier).resetBuffer response = (x.resetBuffer response).after earlier := by
  cases response with
  | nil => rfl
  | cons i below =>
      simp only [resetBuffer, after_decorator]
      split <;> rfl

@[simp] theorem passStatus_after (b : Buffer) (below : Response) :
    (x.after earlier).passStatus b below = (x.passStatus b below).after earlier := by
  unfold passStatus
  cases b.status with
  | none => rfl
  | some status => exact setStatus_after below status

@[simp] theorem passHead_after (b : Buffer) (below : Response) (complete : Bool) :
    (x.after earlier).passHead b below complete = (x.passHead b below complete).after earlier := by
  rw [passHead_eq, passHead_eq, passStatus_after]
  by_cases hcommitted : x.transport.committed = true
  · have hafter : (x.after earlier).transport.committed = true := hcommitted
    rw [if_pos hcommitted, if_pos hafter]
  · have hafter : ¬(x.after earlier).transport.committed = true := hcommitted
    rw [if_neg hcommitted, if_neg hafter]
    cases b.passedLength complete with
    | none => rfl
    | some value => exact setHeader_after below contentLengthName value

@[simp] theorem takeChunks_after : (x.after earlier).takeChunks.2 = x.takeChunks.2.after earlier := by
  simp only [takeChunks, after_transport]
  split <;> rfl

@[simp] theorem after_charset (response : Response) :
    (x.after earlier).charset response = x.charset response := by
  induction response with
  | nil => rfl
  | cons i below ih => simp only [charset, after_buffer?, ih]

end Exchange

/-! ## Actions -/

namespace Action

open Exchange

variable {α β : Type}

/-- The action takes its course whatever entries are in front of the journal, and leaves them there. -/
def Appends (action : Action α) : Prop :=
  ∀ x earlier, action.outcome (x.after earlier) =
    ((action.outcome x).1, (action.outcome x).2.after earlier)

theorem appends_modify {f : Exchange → Exchange}
    (h : ∀ x earlier, f (x.after earlier) = (f x).after earlier) : Appends (modify f) :=
  fun x earlier => by rw [outcome_modify, h]; rfl

theorem Appends.bind {action : Action α} {next : α → Action β} (haction : Appends action)
    (hnext : ∀ v, Appends (next v)) : Appends (action >>= next) := by
  intro x earlier
  rw [outcome_bind, outcome_bind, haction x earlier]
  rcases action.outcome x with ⟨fault | v, y⟩
  · rfl
  · exact hnext v y earlier

theorem appends_read {next : Exchange → Action α}
    (hsame : ∀ x earlier, next (x.after earlier) = next x) (hnext : ∀ x, Appends (next x)) :
    Appends (get >>= next) := by
  intro x earlier
  show (next (x.after earlier)).outcome (x.after earlier) = _
  rw [hsame]
  exact hnext x x earlier

theorem appends_throw (fault : Fault) : Appends (throw fault : Action α) := fun _ _ => rfl

theorem appends_pure (v : α) : Appends (pure v) := fun _ _ => rfl

theorem appends_note (entry : Entry) : Appends (note entry) := appends_modify fun _ _ => note_after _

theorem appends_log (event : LogEvent) : Appends (log event) := appends_note _

end Action

namespace Transport

open Revalidation.Action

theorem appends_setMedium (medium : Medium) : Appends (setMedium medium) :=
  appends_modify fun _ _ => rfl

theorem appends_markCommitted : Appends markCommitted := appends_modify fun _ _ => rfl

theorem appends_send (message : Message) : Appends (send message) := by
  intro x earlier
  let y : Exchange := { x with server := { x.server with sends := x.server.sends + 1 } }
  by_cases hfail : x.server.sends + 1 ∈ x.server.failing
  · simp only [send, outcome_bind, outcome_get, outcome_set, Exchange.after_server,
      List.contains_iff_mem, hfail, if_true, outcome_note, outcome_throw]
    exact congrArg _ (Exchange.note_after (x := y) _)
  · simp only [send, outcome_bind, outcome_get, outcome_set, Exchange.after_server,
      List.contains_iff_mem, hfail, if_false, outcome_note]
    exact congrArg _ (Exchange.note_after (x := y) _)

theorem appends_startResponse (line : String) (headers : List (String × String)) :
    Appends (startResponse line headers) := by
  refine appends_read (fun _ _ => rfl) fun x => ?_
  split
  · exact (appends_note _).bind fun _ => (appends_throw _).bind fun _ => appends_note _
  · exact appends_note _

theorem appends_announce (gateway : Gateway) : Appends (announce gateway) := by
  refine appends_read (fun _ _ => rfl) fun x => appends_markCommitted.bind fun _ => ?_
  cases gateway with
  | asgi =>
      cases encodeHeaders x.transport.headers.multiItems with
      | error cause => exact (appends_throw _).bind fun _ => appends_log _
      | ok headers => exact (appends_send _).bind fun _ => appends_log _
  | wsgi => exact (appends_startResponse _ _).bind fun _ => appends_log _

theorem appends_flush : Appends flush := by
  refine appends_read (fun _ _ => rfl) fun x => ?_
  have hannounce (gateway : Gateway) :
      Appends (if !x.transport.committed then announce gateway else pure ()) := by
    split
    · exact appends_announce gateway
    · exact appends_pure ()
  dsimp only
  split
  · exact appends_markCommitted
  · exact hannounce .asgi
  · exact hannounce .wsgi

theorem appends_write (data : Bytes) : Appends (write data) := by
  refine appends_read (fun _ _ => rfl) fun x => ?_
  cases x.transport.medium with
  | memory charset failing calls writes =>
      simp only
      split
      · exact (appends_setMedium _).bind fun _ => appends_throw _
      · exact appends_markCommitted.bind fun _ => appends_setMedium _
  | asgi finished =>
      refine appends_flush.bind fun _ => ?_
      split
      · exact (appends_send _).bind fun _ => appends_log _
      · exact appends_pure _
  | wsgi chunks =>
      refine appends_flush.bind fun _ => ?_
      split
      · exact appends_setMedium _
      · exact appends_pure _

theorem appends_close : Appends close := by
  refine appends_flush.bind fun _ => appends_read (fun _ _ => rfl) fun x => ?_
  split
  · exact (appends_setMedium _).bind fun _ => appends_send _
  · exact appends_pure _

end Transport

namespace Response

open Revalidation.Action Exchange

theorem appends_copyBuffer {write : Bytes → Action Unit} (hwrite : ∀ data, Appends (write data))
    (i : Nat) (b : Buffer) (below : Response) (complete : Bool) :
    Appends (copyBuffer write i b below complete) := by
  have hput : Appends (modify fun x => x.putBuffer i { b with content := [], copied := true }) :=
    appends_modify fun _ _ => rfl
  have hhead : Appends (modify fun x => x.passHead b below complete) :=
    appends_modify fun _ _ => passHead_after b below complete
  unfold copyBuffer
  split
  · exact appends_pure ()
  · refine hhead.bind fun _ => ?_
    split
    · exact (appends_log _).bind fun _ => (hwrite _).bind fun _ => hput
    · exact hput

theorem appends_write (response : Response) (data : Bytes) : Appends (write response data) := by
  induction response generalizing data with
  | nil => exact Transport.appends_write data
  | cons i below ih =>
      intro x earlier
      cases hd : x.decorator i with
      | forward =>
          rw [outcome_write_forward hd, outcome_write_forward (x := x.after earlier) hd]
          exact ih data x earlier
      | buffer b =>
          rcases Bool.eq_false_or_eq_true (b.forwarding x.context) with hf | hf
          · rw [outcome_write_forwarding hd hf, outcome_write_forwarding (x := x.after earlier) hd hf]
            exact ((appends_copyBuffer ih i b below false).bind fun _ => ih data) x earlier
          · rw [outcome_write_held hd hf, outcome_write_held (x := x.after earlier) hd hf]
            rfl

theorem appends_flush (response : Response) : Appends (flush response) := by
  induction response with
  | nil => exact Transport.appends_flush
  | cons i below ih =>
      refine appends_read (fun _ _ => rfl) fun x => ?_
      cases x.decorator i with
      | forward => exact ih
      | buffer b => exact (appends_copyBuffer (appends_write below) i b below false).bind fun _ => ih

theorem appends_copyBody (response : Response) (complete : Bool) :
    Appends (copyBody response complete) := by
  cases response with
  | nil => exact appends_pure ()
  | cons i below =>
      refine appends_read (fun _ _ => rfl) fun x => ?_
      cases x.decorator i with
      | forward => exact appends_pure ()
      | buffer b => exact appends_copyBuffer (appends_write below) i b below complete

theorem appends_writeText (response : Response) (text : String) :
    Appends (writeText response text) := by
  refine appends_read (fun x earlier => by rw [after_charset]) fun x => ?_
  cases (x.charset response).encode text with
  | error cause => exact appends_throw _
  | ok data => exact appends_write response data

theorem appends_perform (response : Response) (call : Call) : Appends (response.perform call) := by
  cases call with
  | setStatus status => exact appends_modify fun _ _ => setStatus_after response status
  | setHeader name value => exact appends_modify fun _ _ => setHeader_after response name value
  | addHeader name value => exact appends_modify fun _ _ => addHeader_after response name value
  | write data => exact appends_write response data
  | writeText text => exact appends_writeText response text
  | flush => exact appends_flush response
  | copyBody complete => exact appends_copyBody response complete
  | resetBuffer => exact appends_modify fun _ _ => resetBuffer_after response
  | close => exact Transport.appends_close
  | takeChunks => exact appends_modify fun _ _ => takeChunks_after
  | resetHeaders => exact appends_modify fun _ _ => changeTransport_after _ _

end Response
end Revalidation
