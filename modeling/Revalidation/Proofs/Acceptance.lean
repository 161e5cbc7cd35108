import Revalidation.Proofs.Keeping
import Revalidation.Proofs.Recorder

/-!
# Handlers over a sink that accepts everything

Over a sink in memory that refuses no write, everything that is done with a response comes to its end, but
for texts that cannot be encoded.  A layer never becomes one of another kind, and the sink loses nothing that
it has kept.  A handler may put further layers around its response, and so may the dispatches in it.
-/

namespace Revalidation

def Decorator.isBuffer : Decorator → Bool
  | forward => false
  | buffer _ => true

namespace Action

variable {P : Exchange → Prop} {action : Action Unit}

/-- The action ends without a fault, and keeps a property of exchanges. -/
def Completes (P : Exchange → Prop) (action : Action Unit) : Prop :=
  ∀ x, P x → ∃ y, action.outcome x = (.ok (), y) ∧ P y

namespace Completes

theorem keeps (h : Completes P action) : Keeps P action := by
  intro x hx
  obtain ⟨y, haction, hy⟩ := h x hx
  rwa [haction]

theorem modify {f : Exchange → Exchange} (hf : ∀ x, P x → P (f x)) : Completes P (modify f) :=
  fun x hx => ⟨f x, rfl, hf x hx⟩

theorem bind {next : Unit → Action Unit} (h : Completes P action) (hnext : Completes P (next ())) :
    Completes P (action >>= next) := by
  intro x hx
  obtain ⟨y, haction, hy⟩ := h x hx
  rw [outcome_bind_ok haction]
  exact hnext y hy

theorem read {next : Exchange → Action Unit}
    (hnext : ∀ x, P x → ∃ y, (next x).outcome x = (.ok (), y) ∧ P y) : Completes P (get >>= next) :=
  hnext

end Completes
end Action

namespace Exchange

open Revalidation.Action

def kinds (x : Exchange) : List Bool := x.decorators.map Decorator.isBuffer

variable {x y : Exchange} {i : Nat} {b : Buffer} {response below : Response} {ks : List Bool}
  {charset : Charset} {kept : List Bytes}

/-! ## Kinds of layers -/

theorem isBuffer_decorator (x : Exchange) (i : Nat) :
    (x.decorator i).isBuffer = x.kinds.getD i false := by
  rw [decorator, kinds, List.getD_eq_getElem?_getD, List.getD_eq_getElem?_getD, List.getElem?_map]
  cases x.decorators[i]? <;> rfl

theorem isBuffer_cons (x : Exchange) (i : Nat) (below : Response) :
    x.isBuffer (i :: below) = (x.decorator i).isBuffer := by
  rw [Exchange.isBuffer, buffer?]
  cases x.decorator i <;> rfl

theorem kinds_putBuffer (hi : (x.decorator i).isBuffer = true) (b : Buffer) :
    (x.putBuffer i b).kinds = x.kinds := by
  rw [isBuffer_decorator, List.getD_eq_getElem?_getD] at hi
  obtain ⟨hlt, htrue⟩ : ∃ h : i < x.kinds.length, x.kinds[i] = true := by
    cases hkind : x.kinds[i]? with
    | none =>
        rw [hkind] at hi
        cases hi
    | some kind =>
        rw [hkind] at hi
        exact List.getElem?_eq_some_iff.1 (hkind.trans (congrArg some hi))
  calc (x.putBuffer i b).kinds = x.kinds.set i true := List.map_set
    _ = x.kinds.set i x.kinds[i] := by rw [htrue]
    _ = x.kinds := List.set_getElem_self hlt

theorem kinds_changeTransport (x : Exchange) (event : LogEvent) (change : Transport → Transport) :
    (x.changeTransport event change).kinds = x.kinds := by
  unfold changeTransport ignore
  split
  · split <;> rfl
  · rfl

theorem kinds_setStatus (response : Response) (x : Exchange) (status : Int) :
    (x.setStatus response status).kinds = x.kinds := by
  induction response with
  | nil => exact kinds_changeTransport x _ _
  | cons i below ih =>
      cases hd : x.decorator i with
      | forward => simpa only [setStatus, hd] using ih
      | buffer b =>
          have hbuffer : (x.decorator i).isBuffer = true := by rw [hd]; rfl
          simp only [setStatus, hd]
          split
          · rw [kinds_putBuffer (by rwa [isBuffer_decorator, ih, ← isBuffer_decorator]), ih]
          · exact kinds_putBuffer hbuffer _

theorem kinds_setHeader (response : Response) (x : Exchange) (name value : String) :
    (x.setHeader response name value).kinds = x.kinds := by
  induction response with
  | nil => exact kinds_changeTransport x _ _
  | cons i below ih =>
      cases hd : x.decorator i with
      | forward => simpa only [setHeader, hd] using ih
      | buffer b =>
          simp only [setHeader, hd]
          split
          · exact kinds_putBuffer (by rw [hd]; rfl) _
          · exact ih

theorem kinds_addHeader (response : Response) (x : Exchange) (name value : String) :
    (x.addHeader response name value).kinds = x.kinds := by
  induction response with
  | nil => exact kinds_changeTransport x _ _
  | cons i below ih =>
      cases hd : x.decorator i with
      | forward => simpa only [addHeader, hd] using ih
      | buffer b =>
          simp only [addHeader, hd]
          split
          · exact kinds_putBuffer (by rw [hd]; rfl) _
          · exact ih

theorem kinds_passHead (x : Exchange) (b : Buffer) (below : Response) (complete : Bool) :
    (x.passHead b below complete).kinds = x.kinds := by
  have hstatus : (x.passStatus b below).kinds = x.kinds := by
    unfold passStatus
    split
    · exact kinds_setStatus below x _
    · rfl
  rw [passHead_eq]
  split
  · rfl
  · split
    · rw [kinds_setHeader, hstatus]
    · exact hstatus

theorem kinds_changeContext (x : Exchange) (change : Context.Change) :
    (x.changeContext change).kinds = x.kinds := by
  rw [Exchange.kinds, changeContext_decorators, Exchange.kinds]

/-! ## Operations on a response -/

/-- The layers are of these kinds, and the sink in memory refuses nothing and has kept these writes. -/
structure Accepting (kinds : List Bool) (charset : Charset) (kept : List Bytes) (x : Exchange) :
    Prop where
  kinds_eq : x.kinds = kinds
  medium : ∃ calls added, x.transport.medium = .memory charset [] calls (kept ++ added)

namespace Accepting

theorem quiet (h : Accepting ks charset kept x) (hquiet : Quiet response x y)
    (hkinds : y.kinds = x.kinds) : Accepting ks charset kept y where
  kinds_eq := hkinds.trans h.kinds_eq
  medium := by
    rw [hquiet.medium_eq]
    exact h.medium

theorem records (h : Accepting ks charset kept x) : x.Records := by
  obtain ⟨calls, added, hmedium⟩ := h.medium
  exact ⟨charset, [], calls, kept ++ added, hmedium⟩

theorem accepts (h : Accepting ks charset kept x) : x.transport.refuses = false := by
  obtain ⟨calls, added, hmedium⟩ := h.medium
  rw [Transport.refuses, hmedium]
  rfl

theorem note (h : Accepting ks charset kept x) (entry : Entry) :
    Accepting ks charset kept (x.note entry) := ⟨h.kinds_eq, h.medium⟩

theorem changeContext (h : Accepting ks charset kept x) (change : Context.Change) :
    Accepting ks charset kept (x.changeContext change) where
  kinds_eq := (kinds_changeContext x change).trans h.kinds_eq
  medium := by
    rw [changeContext_transport]
    exact h.medium

theorem putBuffer (h : Accepting ks charset kept x) (hi : (x.decorator i).isBuffer = true)
    (b : Buffer) : Accepting ks charset kept (x.putBuffer i b) :=
  ⟨(kinds_putBuffer hi b).trans h.kinds_eq, h.medium⟩

theorem isBuffer_eq (hx : Accepting ks charset kept x) (hy : Accepting ks charset kept y)
    (i : Nat) : (x.decorator i).isBuffer = (y.decorator i).isBuffer := by
  rw [isBuffer_decorator, isBuffer_decorator, hx.kinds_eq, hy.kinds_eq]

end Accepting

theorem completes_log (event : LogEvent) :
    Completes (Accepting ks charset kept) (Action.log event) := .modify fun _ h => h.note _

theorem completes_transportWrite (data : Bytes) :
    Completes (Accepting ks charset kept) (Transport.write data) := by
  intro x hx
  refine ⟨_, Transport.outcome_write_accepted hx.records hx.accepts data, hx.kinds_eq, ?_⟩
  obtain ⟨calls, added, hmedium⟩ := hx.medium
  exact ⟨calls + 1, added ++ [data], by simp [Transport.accept, hmedium]⟩

theorem completes_transportFlush :
    Completes (Accepting ks charset kept) Transport.flush := fun _ hx =>
  ⟨_, Transport.outcome_flush_recorder hx.records, hx.kinds_eq, hx.medium⟩

theorem completes_copyBuffer {write : Bytes → Action Unit}
    (hwrite : ∀ data, Completes (Accepting ks charset kept) (write data))
    (hx : Accepting ks charset kept x) (hb : x.decorator i = .buffer b) (below : Response)
    (complete : Bool) :
    ∃ y, (Response.copyBuffer write i b below complete).outcome x = (.ok (), y) ∧
      Accepting ks charset kept y := by
  have hbuffer {y : Exchange} (hy : Accepting ks charset kept y) :
      (y.decorator i).isBuffer = true := by
    rw [hy.isBuffer_eq hx, hb]
    rfl
  have hpassed : Accepting ks charset kept (x.passHead b below complete) :=
    hx.quiet (quiet_passHead x b below complete) (kinds_passHead x b below complete)
  rcases Bool.eq_false_or_eq_true b.copied with hcopied | hcopied
  · exact ⟨x, Response.outcome_copyBuffer_copied hcopied, hx⟩
  by_cases hcontent : b.content = []
  · exact ⟨_, Response.outcome_copyBuffer_empty hcopied hcontent, hpassed.putBuffer (hbuffer hpassed) _⟩
  · obtain ⟨y, hy, haccepting⟩ := hwrite b.content _ (hpassed.note (.logged (.copying _ complete)))
    exact ⟨_, Response.outcome_copyBuffer_ok hcopied hcontent hy,
      haccepting.putBuffer (hbuffer haccepting) _⟩

theorem completes_write (response : Response) (data : Bytes) :
    Completes (Accepting ks charset kept) (response.write data) := by
  induction response generalizing data with
  | nil => exact completes_transportWrite data
  | cons i below ih =>
      intro x hx
      cases hd : x.decorator i with
      | forward =>
          rw [Response.outcome_write_forward hd]
          exact ih data x hx
      | buffer b =>
          rcases Bool.eq_false_or_eq_true (b.forwarding x.context) with hforwarding | hholds
          · obtain ⟨y, hcopy, hy⟩ := completes_copyBuffer ih hx hd below false
            rw [Response.outcome_write_forwarding hd hforwarding, outcome_bind_ok hcopy]
            exact ih data y hy
          · exact ⟨_, Response.outcome_write_held hd hholds data, hx.putBuffer (by rw [hd]; rfl) _⟩

theorem completes_flush (response : Response) :
    Completes (Accepting ks charset kept) response.flush := by
  induction response with
  | nil => exact completes_transportFlush
  | cons i below ih =>
      intro x hx
      cases hd : x.decorator i with
      | forward =>
          rw [Response.outcome_flush_forward hd]
          exact ih x hx
      | buffer b =>
          obtain ⟨y, hcopy, hy⟩ := completes_copyBuffer (completes_write below) hx hd below false
          rw [Response.outcome_flush_buffer hd, outcome_bind_ok hcopy]
          exact ih y hy

theorem completes_copyBody (response : Response) (complete : Bool) :
    Completes (Accepting ks charset kept) (response.copyBody complete) := by
  intro x hx
  cases response with
  | nil => exact ⟨x, rfl, hx⟩
  | cons i below =>
      cases hd : x.decorator i with
      | forward => exact ⟨x, Response.outcome_copyBody_forward hd, hx⟩
      | buffer b =>
          rw [Response.outcome_copyBody_buffer hd]
          exact completes_copyBuffer (completes_write below) hx hd below complete

theorem completes_setStatus (response : Response) (status : Int) :
    Completes (Accepting ks charset kept) (modify (·.setStatus response status)) :=
  .modify fun x hx => hx.quiet (quiet_setStatus response x status) (kinds_setStatus response x status)

theorem completes_setHeader (response : Response) (name value : String) :
    Completes (Accepting ks charset kept) (modify (·.setHeader response name value)) :=
  .modify fun x hx =>
    hx.quiet (quiet_setHeader response x name value) (kinds_setHeader response x name value)

theorem completes_resetBuffer (response : Response) :
    Completes (Accepting ks charset kept) (modify (·.resetBuffer response)) := by
  refine .modify fun x hx => ?_
  cases response with
  | nil => exact hx
  | cons i below =>
      rw [resetBuffer]
      cases hd : x.decorator i with
      | forward => exact hx
      | buffer b => exact hx.putBuffer (by rw [hd]; rfl) _

theorem completes_close : Completes (Accepting ks charset kept) Transport.close := by
  intro x hx
  obtain ⟨y, hflush, hy⟩ := completes_transportFlush x hx
  obtain ⟨calls, added, hmedium⟩ := hy.medium
  exact ⟨y, by simp [Transport.close, outcome_bind, hflush, hmedium], hy⟩

/-- A call can stop with a fault only for a text without an encoding. -/
theorem keeps_perform (response : Response) (call : Call) :
    Keeps (Accepting ks charset kept) (response.perform call) := by
  cases call with
  | setStatus status => exact (completes_setStatus response status).keeps
  | setHeader name value => exact (completes_setHeader response name value).keeps
  | addHeader name value =>
      exact .modify fun x hx =>
        hx.quiet (quiet_addHeader response x name value) (kinds_addHeader response x name value)
  | write data => exact (completes_write response data).keeps
  | writeText text =>
      refine .read fun x hx => ?_
      cases (x.charset response).encode text with
      | error cause => exact hx
      | ok data => exact (completes_write response data).keeps x hx
  | flush => exact (completes_flush response).keeps
  | copyBody complete => exact (completes_copyBody response complete).keeps
  | resetBuffer => exact (completes_resetBuffer response).keeps
  | close => exact completes_close.keeps
  | takeChunks =>
      refine .modify fun x hx => ?_
      obtain ⟨calls, added, hmedium⟩ := hx.medium
      rw [takeChunks, hmedium]
      exact hx
  | resetHeaders =>
      refine .modify fun x hx => ?_
      have hquiet : Quiet [] x x.resetHeaders :=
        quiet_changeTransport _ _ (fun _ => rfl) fun _ => rfl
      exact hx.quiet hquiet (kinds_changeTransport x _ _)

end Exchange

/-! ## Evaluations -/

namespace EtagFilter

open Revalidation.Action Exchange

variable {x : Exchange} {ks : List Bool} {charset : Charset} {kept : List Bytes}
  {response : Response}

theorem outcome_prepare_cases (x : Exchange) (request : Request) (response : Response) :
    (x.context.asyncDispatch = false ∧ x.isBuffer response = false ∧
      (prepare request response).outcome x =
        (.ok (x.decorators.length :: response), x.buffered request)) ∨
    ((x.context.asyncDispatch = true ∨ x.isBuffer response = true) ∧
      (prepare request response).outcome x =
        (.ok response, x.log (.alreadyBuffered request.method request.url))) := by
  rcases Bool.eq_false_or_eq_true (x.isBuffer response) with hbuffer | hbuffer
  · exact .inr ⟨.inr hbuffer, outcome_prepare_buffer hbuffer⟩
  rcases Bool.eq_false_or_eq_true x.context.asyncDispatch with hresumed | hfirst
  · exact .inr ⟨.inl hresumed, by simp [prepare, outcome_bind, hresumed]⟩
  · exact .inl ⟨hfirst, hbuffer, outcome_prepare_fresh hfirst hbuffer⟩

theorem completes_applyTag (filter : EtagFilter) (request : Request) (i : Nat) (below : Response) :
    Completes (Accepting ks charset kept) (filter.applyTag request i below) := by
  refine .read fun x hx => ?_
  refine (completes_setHeader below "ETag" _).bind ?_ x hx
  dsimp only
  split
  · refine (completes_log _).bind ?_
    exact (completes_setStatus below _).bind (completes_resetBuffer _)
  · exact (completes_log _).bind (completes_copyBody _ true)

theorem completes_evaluate (filter : EtagFilter) (request : Request) (i : Nat) (below : Response) :
    Completes (Accepting ks charset kept) (filter.evaluate request i below) := by
  refine .read fun x hx => ?_
  dsimp only
  split
  · exact (completes_log _).bind (completes_copyBody _ true) x hx
  split
  · exact (completes_log _).bind (completes_copyBody _ true) x hx
  · exact completes_applyTag filter request i below x hx

theorem keeps_conclude (filter : EtagFilter) (style : CallStyle) (request : Request)
    (response : Response) :
    Keeps (Accepting ks charset kept) (filter.conclude style request response) := by
  refine .read fun x hx => ?_
  split
  · exact hx.note _
  split
  · exact hx.note _
  refine Keeps.read (fun x hx => ?_) x hx
  split
  · exact (completes_evaluate filter request _ _).keeps x hx
  · exact hx

end EtagFilter

/-! ## Handlers -/

namespace Exchange

open Revalidation.Action

variable {x : Exchange} {i : Nat} {ks : List Bool} {charset : Charset} {kept : List Bytes}

/-- The first layers are of these kinds, and further ones were made since.  The sink in memory refuses
nothing and has kept these writes. -/
def AcceptingFrom (kinds : List Bool) (charset : Charset) (kept : List Bytes) (x : Exchange) : Prop :=
  kinds <+: x.kinds ∧ Accepting x.kinds charset kept x

namespace AcceptingFrom

theorem keeps {α : Type} {action : Action α}
    (h : ∀ ks, Keeps (Accepting ks charset kept) action) :
    Keeps (AcceptingFrom ks charset kept) action := by
  intro x hx
  have hy := h x.kinds x hx.2
  exact ⟨hy.kinds_eq ▸ hx.1, rfl, hy.medium⟩

theorem decorate (h : AcceptingFrom ks charset kept x) (d : Decorator) (response : Response) :
    AcceptingFrom ks charset kept (x.decorate d response).2 := by
  have hkinds : (x.decorate d response).2.kinds = x.kinds ++ [d.isBuffer] := List.map_append
  exact ⟨hkinds ▸ h.1.trans (List.prefix_append _ _), rfl, h.2.medium⟩

theorem charset_eq (h : AcceptingFrom ks charset kept x) : x.transport.charset = charset := by
  obtain ⟨calls, added, hmedium⟩ := h.2.medium
  rw [Transport.charset, hmedium]

theorem length_le {y : Exchange} (h : AcceptingFrom x.kinds charset kept y) :
    x.decorators.length ≤ y.decorators.length := by
  have hlength := h.1.length_le
  rwa [Exchange.kinds, Exchange.kinds, List.length_map, List.length_map] at hlength

theorem isBuffer_eq {y : Exchange} (h : AcceptingFrom x.kinds charset kept y)
    (hi : i < x.decorators.length) : (y.decorator i).isBuffer = (x.decorator i).isBuffer := by
  obtain ⟨more, hmore⟩ := h.1
  have hlt : i < x.kinds.length := by rwa [Exchange.kinds, List.length_map]
  rw [isBuffer_decorator, isBuffer_decorator, ← hmore, List.getD_eq_getElem?_getD,
    List.getD_eq_getElem?_getD, List.getElem?_append_left hlt]

end AcceptingFrom
end Exchange

namespace Handler

open Revalidation.Action Exchange

variable {ks : List Bool} {charset : Charset} {kept : List Bytes}

theorem keeps_ask (response : Response) (question : Question) :
    Keeps (AcceptingFrom ks charset kept) (ask response question) := by
  have hnote (entry : Entry) : Keeps (AcceptingFrom ks charset kept) (Action.note entry) :=
    AcceptingFrom.keeps fun _ => .modify fun _ hx => hx.note entry
  refine .read fun x hx => ?_
  cases question with
  | status => exact hnote _ x hx
  | committed => exact hnote _ x hx
  | content =>
      dsimp only
      split
      · exact hnote _ x hx
      · exact hx

theorem keeps_wrap (wrapping : Wrapping) (response : Response) :
    Keeps (AcceptingFrom ks charset kept) (wrap wrapping response) := by
  cases wrapping with
  | none => exact .pure response
  | forward => exact .read fun x hx => hx.decorate .forward response
  | buffer => exact .read fun x hx => hx.decorate (.buffer { forRequest := false }) response

theorem acceptingFrom_prepare {x : Exchange} (hx : AcceptingFrom ks charset kept x) (request : Request)
    (response : Response) :
    ∃ prepared y, (EtagFilter.prepare request response).outcome x = (.ok prepared, y) ∧
      AcceptingFrom ks charset kept y := by
  have hlog (event : LogEvent) : AcceptingFrom ks charset kept (x.log event) :=
    AcceptingFrom.keeps (fun _ => (completes_log event).keeps) x hx
  obtain ⟨-, -, hprepare⟩ | ⟨-, hprepare⟩ := EtagFilter.outcome_prepare_cases x request response
  · exact ⟨_, _, hprepare, (hlog _).decorate (.buffer { forRequest := true }) response⟩
  · exact ⟨_, _, hprepare, hlog _⟩

theorem keeps_dispatch (filter : EtagFilter) (style : CallStyle) (request : Request)
    {handler : Response → Action Unit}
    (hhandler : ∀ inner, Keeps (AcceptingFrom ks charset kept) (handler inner)) (response : Response) :
    Keeps (AcceptingFrom ks charset kept) (filter.dispatch style request response handler) := by
  intro x hx
  obtain ⟨prepared, y, hprepare, hy⟩ := acceptingFrom_prepare hx request response
  have hconclude : Keeps (AcceptingFrom ks charset kept) (filter.conclude style request prepared) :=
    AcceptingFrom.keeps fun _ => EtagFilter.keeps_conclude filter style request prepared
  rw [EtagFilter.outcome_dispatch hprepare]
  exact Keeps.bind (hhandler prepared) (fun _ => hconclude.bind fun _ => .pure ()) y hy

mutual

theorem keeps_runStep (filter : EtagFilter) (style : CallStyle) (request : Request) :
    ∀ (step : HandlerStep) (response : Response),
      Keeps (AcceptingFrom ks charset kept) (runStep filter style request response step)
  | .call call, response => by
      rw [runStep]
      exact AcceptingFrom.keeps fun _ => keeps_perform response call
  | .callTransport call, response => by
      rw [runStep]
      exact AcceptingFrom.keeps fun _ => keeps_perform [] call
  | .changeContext change, response => by
      rw [runStep]
      exact AcceptingFrom.keeps fun _ => .modify fun _ hx => hx.changeContext change
  | .save, response => by
      rw [runStep]
      exact AcceptingFrom.keeps fun _ => .modify fun _ hx => ⟨hx.kinds_eq, hx.medium⟩
  | .ask question, response => by
      rw [runStep]
      exact keeps_ask response question
  | .dispatch wrapping steps, response => by
      rw [runStep]
      exact .bind (keeps_wrap wrapping response) fun wrapped =>
        keeps_dispatch filter style request (keeps_run filter style request steps) wrapped
  | .fail kind text, response => by
      rw [runStep]
      exact .throw _
  | .attempt step, response => by
      rw [runStep]
      refine .tryCatch (keeps_runStep filter style request step response) fun fault => ?_
      exact AcceptingFrom.keeps fun _ => .modify fun _ hx => hx.note _

theorem keeps_run (filter : EtagFilter) (style : CallStyle) (request : Request) :
    ∀ (steps : List HandlerStep) (response : Response),
      Keeps (AcceptingFrom ks charset kept) (run filter style request response steps)
  | [], response => by
      rw [run]
      exact .pure ()
  | step :: rest, response => by
      rw [run]
      exact .bind (keeps_runStep filter style request step response) fun _ =>
        keeps_run filter style request rest response

end

end Handler
end Revalidation
