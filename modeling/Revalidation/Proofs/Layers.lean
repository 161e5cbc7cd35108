import Revalidation.Proofs.Outcome

/-!
# Layers of a response

What the operations on a response leave alone.  `Within` says that an exchange changed at most in the
layers of one response and in what lies below all layers; `Quiet` says in addition that no byte of
the body moved.  Changes of status and headers are quiet, and so is `passHead`, which only makes such
changes.
-/

namespace Revalidation

def Decorator.body? : Decorator → Option (Bytes × Bool)
  | .forward => none
  | .buffer b => some (b.content, b.copied)

/-- The content length that goes on from a buffer: its own size for a complete body, and otherwise
what the handler gave. -/
def Buffer.passedLength (b : Buffer) (complete : Bool) : Option String :=
  if complete && !b.content.isEmpty then some (toString b.content.length) else b.contentLength

namespace Exchange

variable {x y z : Exchange} {i j : Nat} {b c : Buffer} {response below : Response}

@[simp] theorem putBuffer_transport : (x.putBuffer i b).transport = x.transport := rfl

@[simp] theorem putBuffer_context : (x.putBuffer i b).context = x.context := rfl

@[simp] theorem log_transport (e : LogEvent) : (x.log e).transport = x.transport := rfl

@[simp] theorem log_context (e : LogEvent) : (x.log e).context = x.context := rfl

@[simp] theorem changeContext_transport (change : Context.Change) :
    (x.changeContext change).transport = x.transport := by
  unfold changeContext
  split <;> rfl

@[simp] theorem changeContext_decorator (change : Context.Change) :
    (x.changeContext change).decorator i = x.decorator i := by
  unfold changeContext
  split <;> rfl

@[simp] theorem changeContext_decorators (change : Context.Change) :
    (x.changeContext change).decorators = x.decorators := by
  unfold changeContext
  split <;> rfl

theorem changeContext_published (change : Context.Change) :
    (x.changeContext change).published = .attached := by
  unfold changeContext
  split
  · assumption
  · rfl

theorem changeContext_attached (h : x.published = .attached) (change : Context.Change) :
    (x.changeContext change).context = x.context.apply change := by
  rw [changeContext, h]

theorem changeContext_fresh (h : x.published ≠ .attached) (change : Context.Change) :
    (x.changeContext change).context = ({} : Context).apply change := by
  unfold changeContext
  split
  · contradiction
  · rfl

/-! ## Decorators by number -/

theorem lt_of_decorator_eq (h : x.decorator i = .buffer b) : i < x.decorators.length := by
  rcases Nat.lt_or_ge i x.decorators.length with hlt | hge
  · exact hlt
  · simp [decorator, List.getElem?_eq_none hge] at h

theorem decorator_putBuffer_self (h : x.decorator i = .buffer b) :
    (x.putBuffer i c).decorator i = .buffer c := by
  have hi := lt_of_decorator_eq h
  simp [decorator, putBuffer, hi]

theorem eq_of_decorator_putBuffer (h : (x.putBuffer i c).decorator i = .buffer b) : b = c := by
  have hi : i < x.decorators.length := by simpa [putBuffer] using lt_of_decorator_eq h
  have hset : (x.putBuffer i c).decorator i = .buffer c := by simp [decorator, putBuffer, hi]
  rw [hset] at h
  exact (Decorator.buffer.inj h).symm

theorem decorator_putBuffer_ne (h : j ≠ i) : (x.putBuffer i c).decorator j = x.decorator j := by
  simp [decorator, putBuffer, List.getElem?_set_ne (Ne.symm h)]

theorem exists_buffer (h : x.isBuffer [i] = true) : ∃ b, x.decorator i = .buffer b := by
  cases hd : x.decorator i with
  | forward => simp [isBuffer, buffer?, hd] at h
  | buffer b => exact ⟨b, rfl⟩

theorem isBuffer_putBuffer (h : x.isBuffer [i] = true) : (x.putBuffer j c).isBuffer [i] = true := by
  by_cases hj : i = j
  · subst hj
    obtain ⟨b, hd⟩ := exists_buffer h
    simp [isBuffer, buffer?, decorator_putBuffer_self hd]
  · simpa only [isBuffer, buffer?, decorator_putBuffer_ne hj] using h

theorem putBuffer_self (h : x.decorator i = .buffer b) : x.putBuffer i b = x := by
  have hi := lt_of_decorator_eq h
  have hget : x.decorators[i] = .buffer b := by
    rw [← h, decorator, List.getD_eq_getElem?_getD, List.getElem?_eq_getElem hi, Option.getD_some]
  rw [putBuffer, ← hget, List.set_getElem_self]

/-! ## What an operation may change -/

structure Within (response : Response) (x y : Exchange) : Prop where
  decorator_eq : ∀ i ∉ response, y.decorator i = x.decorator i
  context_eq : y.context = x.context

namespace Within

theorem refl (response : Response) (x : Exchange) : Within response x x :=
  ⟨fun _ _ => rfl, rfl⟩

theorem trans (hxy : Within response x y) (hyz : Within response y z) : Within response x z where
  decorator_eq i hi := by rw [hyz.decorator_eq i hi, hxy.decorator_eq i hi]
  context_eq := by rw [hyz.context_eq, hxy.context_eq]

theorem mono {larger : Response} (hsub : ∀ i ∈ response, i ∈ larger)
    (h : Within response x y) : Within larger x y where
  decorator_eq i hi := h.decorator_eq i fun hmem => hi (hsub i hmem)
  context_eq := h.context_eq

theorem cons (h : Within below x y) : Within (i :: below) x y :=
  h.mono fun _ hmem => List.mem_cons_of_mem _ hmem

theorem putBuffer (b : Buffer) (x : Exchange) : Within (i :: below) x (x.putBuffer i b) where
  decorator_eq j hj := by
    have hne : j ≠ i := fun h => hj (h ▸ List.mem_cons_self)
    rw [decorator_putBuffer_ne hne]
  context_eq := rfl

end Within

/-- `y` comes from `x` by what happens below all layers: on the transport, at the server and in the
journal. -/
structure Beneath (x y : Exchange) : Prop where
  decorators_eq : y.decorators = x.decorators
  context_eq : y.context = x.context
  published_eq : y.published = x.published
  writer_eq : y.writer = x.writer

namespace Beneath

theorem refl (x : Exchange) : Beneath x x := ⟨rfl, rfl, rfl, rfl⟩

theorem trans (hxy : Beneath x y) (hyz : Beneath y z) : Beneath x z where
  decorators_eq := by rw [hyz.decorators_eq, hxy.decorators_eq]
  context_eq := by rw [hyz.context_eq, hxy.context_eq]
  published_eq := by rw [hyz.published_eq, hxy.published_eq]
  writer_eq := by rw [hyz.writer_eq, hxy.writer_eq]

theorem within (h : Beneath x y) : Within [] x y where
  decorator_eq i _ := by rw [decorator, h.decorators_eq, decorator]
  context_eq := h.context_eq

end Beneath

/-- Nothing but statuses, held lengths, headers and the log changed from `x` to `y`: no byte of the
body moved, nothing was committed, and nothing reached the server. -/
structure Quiet (response : Response) (x y : Exchange) : Prop extends Within response x y where
  medium_eq : y.transport.medium = x.transport.medium
  committed_eq : y.transport.committed = x.transport.committed
  body?_eq : ∀ i, (y.decorator i).body? = (x.decorator i).body?
  server_eq : y.server = x.server
  sent_eq : y.sent = x.sent

namespace Quiet

theorem refl (response : Response) (x : Exchange) : Quiet response x x :=
  ⟨.refl response x, rfl, rfl, fun _ => rfl, rfl, rfl⟩

theorem trans (hxy : Quiet response x y) (hyz : Quiet response y z) : Quiet response x z where
  toWithin := hxy.toWithin.trans hyz.toWithin
  medium_eq := by rw [hyz.medium_eq, hxy.medium_eq]
  committed_eq := by rw [hyz.committed_eq, hxy.committed_eq]
  body?_eq i := by rw [hyz.body?_eq, hxy.body?_eq]
  server_eq := by rw [hyz.server_eq, hxy.server_eq]
  sent_eq := by rw [hyz.sent_eq, hxy.sent_eq]

theorem cons (h : Quiet below x y) : Quiet (i :: below) x y :=
  { h with toWithin := h.toWithin.cons }

theorem putBuffer (h : (x.decorator i).body? = some (b.content, b.copied)) :
    Quiet (i :: below) x (x.putBuffer i b) where
  toWithin := .putBuffer b x
  medium_eq := rfl
  committed_eq := rfl
  body?_eq j := by
    by_cases hj : j = i
    · subst hj
      cases hd : x.decorator j with
      | forward => rw [hd] at h; cases h
      | buffer c => rw [decorator_putBuffer_self hd, ← hd, h]; rfl
    · rw [decorator_putBuffer_ne hj]
  server_eq := rfl
  sent_eq := rfl

theorem log (response : Response) (x : Exchange) (event : LogEvent) :
    Quiet response x (x.log event) where
  toWithin := ⟨fun _ _ => rfl, rfl⟩
  medium_eq := rfl
  committed_eq := rfl
  body?_eq _ := rfl
  server_eq := rfl
  sent_eq := by simp [sent, Exchange.log, note, Entry.message?]

end Quiet

/-! ## Status and headers -/

theorem changeTransport_open (hopen : x.transport.committed = false) (event : LogEvent)
    (change : Transport → Transport) :
    x.changeTransport event change = { x with transport := change x.transport } := by
  rw [changeTransport, if_neg (by simp [hopen])]

theorem setTransportStatus_open (hopen : x.transport.committed = false) (status : Int) :
    x.setTransportStatus status =
      { x with transport := { x.transport with status := status } } :=
  changeTransport_open hopen _ _

theorem setTransportHeader_open (hopen : x.transport.committed = false) (name value : String) :
    x.setTransportHeader name value =
      { x with transport :=
        { x.transport with headers := x.transport.headers.set name value } } :=
  changeTransport_open hopen _ _

theorem addTransportHeader_open (hopen : x.transport.committed = false) (name value : String) :
    x.addTransportHeader name value =
      { x with transport :=
        { x.transport with headers := x.transport.headers.add name value } } :=
  changeTransport_open hopen _ _

theorem quiet_changeTransport (event : LogEvent) (change : Transport → Transport)
    (hmedium : ∀ t, (change t).medium = t.medium)
    (hcommitted : ∀ t, (change t).committed = t.committed) :
    Quiet response x (x.changeTransport event change) := by
  unfold changeTransport ignore
  split
  · split
    · exact .log response x event
    · exact .refl response x
  · exact ⟨⟨fun _ _ => rfl, rfl⟩, hmedium _, hcommitted _, fun _ => rfl, rfl, rfl⟩

theorem quiet_setStatus (response : Response) (x : Exchange) (status : Int) :
    Quiet response x (x.setStatus response status) := by
  induction response with
  | nil =>
      exact quiet_changeTransport (.statusIgnored status) (fun t => { t with status := status })
        (fun _ => rfl) fun _ => rfl
  | cons i below ih =>
      cases hd : x.decorator i with
      | forward => simpa only [setStatus, hd] using ih.cons
      | buffer b =>
          simp only [setStatus, hd]
          split
          · refine ih.cons.trans (.putBuffer ?_)
            rw [ih.body?_eq, hd]
            rfl
          · exact .putBuffer (by rw [hd]; rfl)

theorem quiet_setHeader (response : Response) (x : Exchange) (name value : String) :
    Quiet response x (x.setHeader response name value) := by
  induction response with
  | nil =>
      exact quiet_changeTransport (.headerIgnored name) (fun t => { t with headers := t.headers.set name value })
        (fun _ => rfl) fun _ => rfl
  | cons i below ih =>
      cases hd : x.decorator i with
      | forward => simpa only [setHeader, hd] using ih.cons
      | buffer b =>
          simp only [setHeader, hd]
          split
          · exact .putBuffer (by rw [hd]; rfl)
          · exact ih.cons

theorem quiet_addHeader (response : Response) (x : Exchange) (name value : String) :
    Quiet response x (x.addHeader response name value) := by
  induction response with
  | nil =>
      exact quiet_changeTransport (.headerIgnored name) (fun t => { t with headers := t.headers.add name value })
        (fun _ => rfl) fun _ => rfl
  | cons i below ih =>
      cases hd : x.decorator i with
      | forward => simpa only [addHeader, hd] using ih.cons
      | buffer b =>
          simp only [addHeader, hd]
          split
          · exact .putBuffer (by rw [hd]; rfl)
          · exact ih.cons

def passStatus (x : Exchange) (b : Buffer) (below : Response) : Exchange :=
  match b.status with
  | some status => x.setStatus below status
  | none => x

theorem passHead_eq (x : Exchange) (b : Buffer) (below : Response) (complete : Bool) :
    x.passHead b below complete =
      if x.transport.committed then x
      else match b.passedLength complete with
        | some value => (x.passStatus b below).setHeader below contentLengthName value
        | none => x.passStatus b below := by
  unfold passHead passStatus Buffer.passedLength
  split
  · rfl
  · cases complete && !b.content.isEmpty <;> rfl

theorem quiet_passStatus (x : Exchange) (b : Buffer) (below : Response) :
    Quiet below x (x.passStatus b below) := by
  unfold passStatus
  split
  · exact quiet_setStatus below x _
  · exact .refl below x

theorem quiet_passHead (x : Exchange) (b : Buffer) (below : Response) (complete : Bool) :
    Quiet below x (x.passHead b below complete) := by
  rw [passHead_eq]
  split
  · exact .refl below x
  · split
    · exact (quiet_passStatus x b below).trans (quiet_setHeader below _ _ _)
    · exact quiet_passStatus x b below

end Exchange
end Revalidation
