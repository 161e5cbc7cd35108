import Revalidation.Filter.Handler
import Revalidation.Proofs.HeaderLookup
import Revalidation.Proofs.Recorder

/-!
# Evaluating a buffer over a transport

The filter evaluates a response at its buffer once the handler is done.  Either the response was not
modified, or the buffer is copied as the whole body, after the tag has been set where there is one.
Over a transport that accepts its writes this comes down to `EtagFilter.settle`, a function of the
transport and the buffer alone.
-/

namespace Revalidation

variable {x y : Exchange} {i : Nat} {b : Buffer} {filter : EtagFilter} {request : Request}

/-! ## What a copy does to the transport -/

def Headers.withLength (h : Headers) : Option String → Headers
  | some value => h.set contentLengthName value
  | none => h

def lengthField : Option String → List (String × String)
  | some value => [("content-length", value)]
  | none => []

theorem Headers.multiItems_withLength_last {headers : Headers}
    (hmissing : headers.getList? contentLengthName = none) (length? : Option String) :
    (headers.withLength length?).multiItems = headers.multiItems ++ lengthField length? := by
  cases length? with
  | none => exact (List.append_nil _).symm
  | some value =>
      rw [withLength, multiItems_set_of_missing hmissing, Headers.lower_contentLength]
      rfl

def Buffer.withoutContent (b : Buffer) : Buffer := { b with content := [] }

namespace Transport

/-- The transport after a buffer has passed its status and a content length on, which a committed
transport does not take. -/
def takeHead (t : Transport) (b : Buffer) (complete : Bool) : Transport :=
  if t.committed then t
  else
    { t with
      status := b.status.getD t.status
      headers := t.headers.withLength (b.passedLength complete) }

def setTag (t : Transport) (tag : String) : Transport :=
  { t with headers := t.headers.set "ETag" tag }

def setUnmodified (t : Transport) (tag : String) : Transport :=
  { t.setTag tag with status := notModifiedStatus }

/-- The transport and a buffer over it after the buffer has been copied as the whole body. -/
def takeCopy (t : Transport) (b : Buffer) : Transport × Buffer :=
  if b.copied then (t, b)
  else (if b.content = [] then t.takeHead b true else (t.takeHead b true).accept b.content, b.afterCopy)

@[simp] theorem takeHead_medium (t : Transport) (b : Buffer) (complete : Bool) :
    (t.takeHead b complete).medium = t.medium := by
  unfold takeHead
  split <;> rfl

@[simp] theorem takeHead_committed (t : Transport) (b : Buffer) (complete : Bool) :
    (t.takeHead b complete).committed = t.committed := by
  unfold takeHead
  split <;> rfl

theorem takeHead_headers {t : Transport} (hopen : t.committed = false) (complete : Bool) :
    (t.takeHead b complete).headers = t.headers.withLength (b.passedLength complete) := by
  rw [takeHead, if_neg (by simp [hopen])]

@[simp] theorem takeHead_refuses (t : Transport) (b : Buffer) (complete : Bool) :
    (t.takeHead b complete).refuses = t.refuses := by
  unfold refuses
  rw [takeHead_medium]

variable {t : Transport}

theorem takeCopy_copied (hcopied : b.copied = true) : t.takeCopy b = (t, b) := by
  rw [takeCopy, if_pos hcopied]

theorem takeCopy_status (hcopied : b.copied = false) (hopen : t.committed = false) :
    (t.takeCopy b).1.status = b.status.getD t.status := by
  by_cases hempty : b.content = [] <;> simp [takeCopy, takeHead, hcopied, hopen, hempty]

theorem takeCopy_headers (hcopied : b.copied = false) (hopen : t.committed = false) :
    (t.takeCopy b).1.headers = t.headers.withLength (b.passedLength true) := by
  by_cases hempty : b.content = [] <;> simp [takeCopy, takeHead, hcopied, hopen, hempty]

theorem takeCopy_committed (hcopied : b.copied = false) :
    (t.takeCopy b).1.committed = true ↔ t.committed = true ∨ b.content ≠ [] := by
  by_cases hempty : b.content = [] <;> simp [takeCopy, hcopied, hempty]

theorem takeCopy_writes (hcopied : b.copied = false) (hrecords : t.Records) :
    (t.takeCopy b).1.writes = if b.content = [] then t.writes else t.writes ++ [b.content] := by
  have hhead : (t.takeHead b true).Records := by
    rw [Records, takeHead_medium]
    exact hrecords
  have hwrites : (t.takeHead b true).writes = t.writes := by simp [writes]
  by_cases hempty : b.content = []
  · simp [takeCopy, hcopied, hempty, hwrites]
  · simp [takeCopy, hcopied, hempty, accept_writes hhead, hwrites]

end Transport

namespace Exchange

theorem passHead_transport (x : Exchange) (b : Buffer) (complete : Bool) :
    x.passHead b [] complete = { x with transport := x.transport.takeHead b complete } := by
  rw [passHead_eq, Transport.takeHead]
  rcases Bool.eq_false_or_eq_true x.transport.committed with hcommitted | hopen
  · rw [if_pos hcommitted, if_pos hcommitted]
  have hstatus : x.passStatus b [] =
      { x with transport := { x.transport with status := b.status.getD x.transport.status } } := by
    unfold passStatus
    cases b.status with
    | none => rfl
    | some status => exact setTransportStatus_open hopen status
  rw [if_neg (by simp [hopen]), if_neg (by simp [hopen]), hstatus]
  cases b.passedLength complete with
  | none => rfl
  | some value => exact setTransportHeader_open (by exact hopen) contentLengthName value

def TakesCopy (x : Exchange) (b : Buffer) : Prop :=
  b.copied = true ∨ b.content = [] ∨ x.transport.refuses = false

end Exchange

namespace Response

open Exchange Revalidation.Action

theorem outcome_copyBody_accepted (hb : x.decorator i = .buffer b) (hrecords : x.Records)
    (htakes : x.TakesCopy b) :
    ∃ y, (copyBody [i] true).outcome x = (.ok (), y) ∧ y.transport = (x.transport.takeCopy b).1 ∧
      y.decorator i = .buffer (x.transport.takeCopy b).2 ∧ y.context = x.context := by
  rw [outcome_copyBody_buffer hb]
  unfold Transport.takeCopy
  rcases Bool.eq_false_or_eq_true b.copied with hcopied | hcopied
  · rw [outcome_copyBuffer_copied hcopied, if_pos hcopied]
    exact ⟨x, rfl, rfl, hb, rfl⟩
  rw [if_neg (by simp [hcopied])]
  by_cases hempty : b.content = []
  · rw [outcome_copyBuffer_empty hcopied hempty, if_pos hempty, passHead_transport]
    exact ⟨_, rfl, rfl, decorator_putBuffer_self hb, rfl⟩
  · let z := (x.passHead b [] true).log (.copying b.content.length true)
    have hquiet : Quiet [] x z := (quiet_passHead x b [] true).trans (.log [] _ _)
    have haccepts : z.transport.refuses = false := by
      simpa [z, passHead_transport] using (htakes.resolve_left (by simp [hcopied])).resolve_left hempty
    have hwrite : (Response.write [] b.content).outcome z = _ :=
      Transport.outcome_write_accepted (hquiet.records hrecords) haccepts b.content
    rw [outcome_copyBuffer_ok hcopied hempty hwrite, if_neg hempty]
    simp only [z, passHead_transport]
    exact ⟨_, rfl, rfl, decorator_putBuffer_self hb, rfl⟩

theorem outcome_copyBody_refused (hb : x.decorator i = .buffer b) (hrecords : x.Records)
    (htakes : ¬x.TakesCopy b) :
    ∃ y, (copyBody [i] true).outcome x = (.error .sinkFailed, y) ∧
      y.transport = (x.transport.takeHead b true).refuse := by
  simp only [TakesCopy, not_or, Bool.not_eq_true, Bool.not_eq_false] at htakes
  obtain ⟨hcopied, hcontent, hrefuses⟩ := htakes
  let z := (x.passHead b [] true).log (.copying b.content.length true)
  have hquiet : Quiet [] x z := (quiet_passHead x b [] true).trans (.log [] _ _)
  have hrefused : z.transport.refuses = true := by simpa [z, passHead_transport] using hrefuses
  have hwrite : (Response.write [] b.content).outcome z = _ :=
    Transport.outcome_write_refused (hquiet.records hrecords) hrefused b.content
  rw [outcome_copyBody_buffer hb, outcome_copyBuffer_error hcopied hcontent hwrite]
  exact ⟨_, rfl, by rw [log_transport, passHead_transport]⟩

end Response

/-! ## What an evaluation does -/

namespace EtagFilter

open Exchange Revalidation.Action

variable {t : Transport}

def accepts (filter : EtagFilter) (request : Request) (t : Transport) (b : Buffer) : Bool :=
  filter.isEligible request.method (b.status.getD t.status) (t.headers.get? "Cache-Control")

def Matches (filter : EtagFilter) (request : Request) (body : Bytes) : Prop :=
  request.headers.get? "If-None-Match" = some (filter.tag body)

def NotModified (filter : EtagFilter) (request : Request) (t : Transport) (b : Buffer) : Prop :=
  t.committed = false ∧ filter.accepts request t b = true ∧ filter.Matches request b.content

instance (t : Transport) (b : Buffer) : Decidable (filter.NotModified request t b) :=
  inferInstanceAs (Decidable (_ ∧ _ ∧ _ = _))

def mark (filter : EtagFilter) (request : Request) (t : Transport) (b : Buffer) : Transport :=
  if t.committed || !filter.accepts request t b then t else t.setTag (filter.tag b.content)

theorem not_notModified (h : t.committed = true ∨ filter.accepts request t b = false) :
    ¬filter.NotModified request t b := by
  rintro ⟨hopen, haccepts, -⟩
  rw [hopen, haccepts] at h
  simp at h

theorem mark_accepted (hopen : t.committed = false) (haccepts : filter.accepts request t b = true) :
    filter.mark request t b = t.setTag (filter.tag b.content) := by
  rw [mark, if_neg (by simp [hopen, haccepts])]

theorem mark_refused (h : t.committed = true ∨ filter.accepts request t b = false) :
    filter.mark request t b = t := by
  rw [mark, if_pos (by simpa using h)]

theorem getList?_mark {name : String} (hne : Text.lower "ETag" ≠ Text.lower name) :
    (filter.mark request t b).headers.getList? name = t.headers.getList? name := by
  unfold mark
  split
  · rfl
  · exact Headers.getList?_set_ne hne

theorem status_single (hb : x.decorator i = .buffer b) :
    x.status [i] = b.status.getD x.transport.status := by
  simp [Exchange.status, buffer?, hb]

theorem outcome_evaluate_committed (hcommitted : x.transport.committed = true) :
    (filter.evaluate request i []).outcome x =
      (Response.copyBody [i] true).outcome (x.log (.alreadyCommitted request.url)) := by
  simp [evaluate, outcome_bind, hcommitted]

theorem outcome_evaluate_ineligible (hb : x.decorator i = .buffer b)
    (hopen : x.transport.committed = false) (hineligible : filter.accepts request x.transport b = false) :
    (filter.evaluate request i []).outcome x =
      (Response.copyBody [i] true).outcome
        (x.log (.notEligible (b.status.getD x.transport.status) request.url)) := by
  unfold accepts at hineligible
  simp [evaluate, outcome_bind, hopen, status_single hb, lookup, hineligible]

theorem outcome_evaluate_eligible (hb : x.decorator i = .buffer b)
    (hopen : x.transport.committed = false) (heligible : filter.accepts request x.transport b = true) :
    (filter.evaluate request i []).outcome x = (filter.applyTag request i []).outcome x := by
  unfold accepts at heligible
  simp [evaluate, outcome_bind, hopen, status_single hb, lookup, heligible]

theorem outcome_evaluate_modified (hb : x.decorator i = .buffer b)
    (hopen : x.transport.committed = false) (heligible : filter.accepts request x.transport b = true)
    (hdiffers : ¬filter.Matches request b.content) :
    (filter.evaluate request i []).outcome x =
      (Response.copyBody [i] true).outcome
        ({ x with transport := x.transport.setTag (filter.tag b.content) }.log
          (.modified (filter.tag b.content) (request.headers.get? "If-None-Match"))) := by
  have hcontent : x.content [i] = b.content := by simp [content, buffer?, hb]
  have htag : some (filter.tag b.content) ≠ request.headers.get? "If-None-Match" :=
    fun h => hdiffers h.symm
  rw [outcome_evaluate_eligible hb hopen heligible]
  simp [applyTag, outcome_bind, hcontent, htag, setHeader, setTransportHeader_open hopen,
    Transport.setTag]

theorem outcome_evaluate_notModified (hb : x.decorator i = .buffer b)
    (h : filter.NotModified request x.transport b) :
    (filter.evaluate request i []).outcome x =
      (.ok (), ({ x with transport := x.transport.setUnmodified (filter.tag b.content) }.log
        (.notModified (filter.tag b.content))).putBuffer i b.withoutContent) := by
  obtain ⟨hopen, heligible, hmatches⟩ := h
  have hcontent : x.content [i] = b.content := by simp [content, buffer?, hb]
  have htag : some (filter.tag b.content) = request.headers.get? "If-None-Match" := hmatches.symm
  have hreset (y : Exchange) (hy : y.decorator i = .buffer b) :
      y.resetBuffer [i] = y.putBuffer i b.withoutContent := by
    simp [resetBuffer, hy, Buffer.withoutContent]
  rw [outcome_evaluate_eligible hb hopen heligible]
  simp only [applyTag, outcome_bind, outcome_get, outcome_modify, outcome_log, hcontent, htag,
    if_true, setHeader, setTransportHeader_open hopen, setStatus]
  rw [setTransportStatus_open (by exact hopen), hreset _ (by exact hb)]
  rfl

/-- Unless the response was not modified, an evaluation copies the buffer once the tag is set. -/
theorem outcome_evaluate_copy (hb : x.decorator i = .buffer b)
    (h : ¬filter.NotModified request x.transport b) :
    ∃ y, (filter.evaluate request i []).outcome x = (Response.copyBody [i] true).outcome y ∧
      Quiet [] x y ∧ y.transport = filter.mark request x.transport b := by
  unfold mark
  rcases Bool.eq_false_or_eq_true x.transport.committed with hcommitted | hopen
  · rw [outcome_evaluate_committed hcommitted, if_pos (by simp [hcommitted])]
    exact ⟨_, rfl, .log [] x _, rfl⟩
  rcases Bool.eq_false_or_eq_true (filter.accepts request x.transport b) with heligible | hineligible
  · have hdiffers : ¬filter.Matches request b.content := fun hm => h ⟨hopen, heligible, hm⟩
    rw [outcome_evaluate_modified hb hopen heligible hdiffers, if_neg (by simp [hopen, heligible])]
    have hquiet := (quiet_setHeader [] x "ETag" (filter.tag b.content)).trans (.log [] _
      (.modified (filter.tag b.content) (request.headers.get? "If-None-Match")))
    rw [setHeader, setTransportHeader_open hopen] at hquiet
    exact ⟨_, rfl, hquiet, rfl⟩
  · rw [outcome_evaluate_ineligible hb hopen hineligible, if_pos (by simp [hineligible])]
    exact ⟨_, rfl, .log [] x _, rfl⟩

/-! ## Over a transport that records -/

/-- The transport and a buffer over it after an evaluation whose writes are accepted. -/
def settle (filter : EtagFilter) (request : Request) (t : Transport) (b : Buffer) :
    Transport × Buffer :=
  if filter.NotModified request t b then
    (t.setUnmodified (filter.tag b.content), b.withoutContent)
  else (filter.mark request t b).takeCopy b

theorem settle_modified (h : ¬filter.NotModified request t b) :
    filter.settle request t b = (filter.mark request t b).takeCopy b := by
  rw [settle, if_neg h]

theorem settle_unmodified (h : filter.NotModified request t b) :
    filter.settle request t b =
      (t.setUnmodified (filter.tag b.content), b.withoutContent) := by
  rw [settle, if_pos h]

theorem mark_refuses (t : Transport) : (filter.mark request t b).refuses = t.refuses := by
  unfold mark
  split <;> rfl

theorem takesCopy_mark (h : y.transport = filter.mark request x.transport b) :
    y.TakesCopy b ↔ x.TakesCopy b := by
  rw [TakesCopy, TakesCopy, h, mark_refuses]

theorem outcome_evaluate_settle (filter : EtagFilter) (request : Request)
    (hb : x.decorator i = .buffer b) (hrecords : x.Records)
    (hends : filter.NotModified request x.transport b ∨ x.TakesCopy b) :
    ∃ y, (filter.evaluate request i []).outcome x = (.ok (), y) ∧
      y.transport = (filter.settle request x.transport b).1 ∧
      y.decorator i = .buffer (filter.settle request x.transport b).2 ∧ y.context = x.context := by
  unfold settle
  by_cases h : filter.NotModified request x.transport b
  · rw [outcome_evaluate_notModified hb h, if_pos h]
    exact ⟨_, rfl, rfl, decorator_putBuffer_self hb, rfl⟩
  · obtain ⟨y, hcopy, hquiet, hmark⟩ := outcome_evaluate_copy hb h
    have hy : y.decorator i = .buffer b := by rw [hquiet.decorator_eq i List.not_mem_nil, hb]
    have htakes := (takesCopy_mark hmark).2 (hends.resolve_left h)
    rw [hcopy, if_neg h, ← hmark, ← hquiet.context_eq]
    exact Response.outcome_copyBody_accepted hy (hquiet.records hrecords) htakes

theorem outcome_evaluate_fault (hb : x.decorator i = .buffer b) (hrecords : x.Records)
    (hstops : ¬(filter.NotModified request x.transport b ∨ x.TakesCopy b)) :
    ∃ y, (filter.evaluate request i []).outcome x = (.error .sinkFailed, y) ∧
      y.transport = ((filter.mark request x.transport b).takeHead b true).refuse := by
  obtain ⟨h, htakes⟩ := not_or.1 hstops
  obtain ⟨y, hcopy, hquiet, hmark⟩ := outcome_evaluate_copy hb h
  have hy : y.decorator i = .buffer b := by rw [hquiet.decorator_eq i List.not_mem_nil, hb]
  rw [hcopy, ← hmark]
  exact Response.outcome_copyBody_refused hy (hquiet.records hrecords)
    (mt (takesCopy_mark hmark).1 htakes)

end EtagFilter
end Revalidation
