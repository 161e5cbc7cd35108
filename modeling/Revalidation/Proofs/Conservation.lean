import Revalidation.Proofs.Recorder
import Revalidation.Proofs.Stack

/-!
# Conservation of the body

The body of a response is spread over the transport and the buffers above it.  `carried` puts the
pieces together from the transport upward.  Whatever layers there are and whichever writes of the
transport fail, an action adds to it exactly the bytes that it accepted, in order.
-/

namespace Revalidation
namespace Exchange

variable {x y z : Exchange} {i : Nat} {b : Buffer} {response below : Response} {data : Bytes}

/-- What the layers of a response hold back, from the lowest one upward. -/
def pending (x : Exchange) : Response → Bytes
  | [] => []
  | i :: below => x.pending below ++ x.content (i :: below)

/-- The whole body of a response so far: what the transport recorded, and what waits above it. -/
def carried (x : Exchange) (response : Response) : Bytes := x.transport.body ++ x.pending response

/-- Buffers that have been copied are empty. -/
def Settled (x : Exchange) : Prop :=
  ∀ i b, x.decorator i = .buffer b → b.copied = true → b.content = []

/-- The layers of a response hold nothing back. -/
def Drained (x : Exchange) (response : Response) : Prop :=
  ∀ i ∈ response, ∀ b, x.decorator i = .buffer b → b.content = []

theorem content_cons (h : x.decorator i = .buffer b) : x.content (i :: below) = b.content := by
  simp [content, buffer?, h]

theorem content_cons_forward (h : x.decorator i = .forward) : x.content (i :: below) = [] := by
  simp [content, buffer?, h]

theorem content_eq (h : (y.decorator i).body? = (x.decorator i).body?) :
    y.content (i :: below) = x.content (i :: below) := by
  cases hx : x.decorator i <;> cases hy : y.decorator i <;>
    simp_all [content, buffer?, Decorator.body?]

theorem pending_eq (h : ∀ i ∈ response, (y.decorator i).body? = (x.decorator i).body?) :
    y.pending response = x.pending response := by
  induction response with
  | nil => rfl
  | cons i below ih =>
      have hbelow := ih fun j hj => h j (List.mem_cons_of_mem _ hj)
      rw [pending, pending, hbelow, content_eq (h i List.mem_cons_self)]

theorem pending_eq_nil (h : x.Drained response) : x.pending response = [] := by
  induction response with
  | nil => rfl
  | cons i below ih =>
      have hbelow := ih fun j hj => h j (List.mem_cons_of_mem _ hj)
      rw [pending, hbelow, List.nil_append]
      cases hd : x.decorator i with
      | forward => exact content_cons_forward hd
      | buffer b => rw [content_cons hd, h i List.mem_cons_self b hd]

namespace Quiet

theorem settled (h : Quiet response x y) (hx : x.Settled) : y.Settled := by
  intro i c hc hcopied
  have hbody := h.body?_eq i
  cases hd : x.decorator i with
  | forward => rw [hc, hd] at hbody; cases hbody
  | buffer b =>
      rw [hc, hd] at hbody
      simp only [Decorator.body?, Option.some.injEq, Prod.mk.injEq] at hbody
      rw [hbody.1, hx i b hd (hbody.2 ▸ hcopied)]

theorem carried_eq (h : Quiet response x y) (other : Response) :
    y.carried other = x.carried other := by
  unfold carried Transport.body Transport.writes
  rw [h.medium_eq, pending_eq fun i _ => h.body?_eq i]

end Quiet

/-- What an action on a response guarantees that adds `data` to its body: it stays within the
response, keeps the invariants, and the body grows by the data. -/
structure Adds (response : Response) (data : Bytes) (x y : Exchange) : Prop
    extends Within response x y where
  records : y.Records
  settled : y.Settled
  carried_eq : y.carried response = x.carried response ++ data

theorem Quiet.adds (h : Quiet response x y) (hrecords : x.Records) (hsettled : x.Settled) :
    Adds response [] x y where
  toWithin := h.toWithin
  records := h.records hrecords
  settled := h.settled hsettled
  carried_eq := by rw [h.carried_eq, List.append_nil]

theorem carried_cons (x : Exchange) (i : Nat) (below : Response) :
    x.carried (i :: below) = x.carried below ++ x.content (i :: below) := by
  rw [carried, carried, pending, List.append_assoc]

namespace Adds

theorem trans {more : Bytes} (hxy : Adds response data x y) (hyz : Adds response more y z) :
    Adds response (data ++ more) x z where
  toWithin := hxy.toWithin.trans hyz.toWithin
  records := hyz.records
  settled := hyz.settled
  carried_eq := by rw [hyz.carried_eq, hxy.carried_eq, List.append_assoc]

theorem cons (h : Adds below data x y) (hi : i ∉ below)
    (hpass : x.content (i :: below) = [] ∨ data = []) : Adds (i :: below) data x y where
  toWithin := h.toWithin.cons
  records := h.records
  settled := h.settled
  carried_eq := by
    have hcontent : y.content (i :: below) = x.content (i :: below) :=
      content_eq (by rw [h.decorator_eq i hi])
    rw [carried_cons, carried_cons, h.carried_eq, hcontent]
    rcases hpass with hempty | hempty <;> simp [hempty]

theorem lift (h : Adds below [] x y) (above : Response) (hnodup : (above ++ below).Nodup) :
    Adds (above ++ below) [] x y := by
  induction above with
  | nil => exact h
  | cons i above ih =>
      rw [List.cons_append, List.nodup_cons] at hnodup
      exact (ih hnodup.2).cons hnodup.1 (Or.inr rfl)

/-- A buffer passes `data` below and goes on as another one.  Nothing is lost or doubled if what it
held and the new bytes are what it passed on and what it holds now. -/
theorem putBuffer {more : Bytes} {c : Buffer} (h : Adds below data x y) (hi : i ∉ below)
    (hb : x.decorator i = .buffer b) (hc : c.copied = true → c.content = [])
    (hbytes : data ++ c.content = b.content ++ more) :
    Adds (i :: below) more x (y.putBuffer i c) where
  toWithin := h.toWithin.cons.trans (.putBuffer c y)
  records := h.records
  settled := by
    intro j d hd
    by_cases hj : j = i
    · subst hj
      rw [decorator_putBuffer_self (by rw [h.decorator_eq j hi, hb])] at hd
      cases hd
      exact hc
    · rw [decorator_putBuffer_ne hj] at hd
      exact h.settled j d hd
  carried_eq := by
    have hy : y.decorator i = .buffer b := by rw [h.decorator_eq i hi, hb]
    have hsame : ∀ j ∈ below, ((y.putBuffer i c).decorator j).body? = (y.decorator j).body? := by
      intro j hj
      have hji : j ≠ i := fun he => hi (he ▸ hj)
      rw [decorator_putBuffer_ne hji]
    have hbelow : (y.putBuffer i c).carried below = y.carried below := by
      rw [carried, carried, pending_eq hsame, putBuffer_transport]
    rw [carried_cons, carried_cons, hbelow, h.carried_eq, content_cons (decorator_putBuffer_self hy),
      content_cons hb, List.append_assoc, List.append_assoc, hbytes]

end Adds

end Exchange

/-! ## Writing, flushing and copying -/

/-- The action adds the data to the body of a response if it ends without a fault, and otherwise
nothing. -/
def Action.AddsTo (action : Action Unit) (response : Response) (data : Bytes) (x : Exchange) : Prop :=
  Exchange.Adds response (acceptedData (action.outcome x).1 data) x (action.outcome x).2

namespace Transport

theorem addsTo_write {x : Exchange} (hrecords : x.Records) (hsettled : x.Settled) (data : Bytes) :
    (write data).AddsTo [] data x := by
  unfold Action.AddsTo
  rcases Bool.eq_false_or_eq_true x.transport.refuses with hrefuses | haccepts
  · rw [outcome_write_refused hrecords hrefuses]
    refine ⟨⟨fun _ _ => rfl, rfl⟩, hrecords.refuse, hsettled, ?_⟩
    simp [Exchange.carried, Exchange.pending, acceptedData]
  · rw [outcome_write_accepted hrecords haccepts]
    refine ⟨⟨fun _ _ => rfl, rfl⟩, hrecords.accept data, hsettled, ?_⟩
    simp [Exchange.carried, Exchange.pending, acceptedData, body, accept_writes hrecords]

end Transport

namespace Response

open Exchange Revalidation.Action

variable {x : Exchange} {i : Nat} {b : Buffer} {below : Response}

/-- Copying a buffer moves its content below and adds nothing, whether the write below succeeds or
not.  After a copy that ended without a fault the buffer is empty. -/
theorem adds_copyBuffer {write : Bytes → Action Unit}
    (hwrite : ∀ y data, y.Records → y.Settled → (write data).AddsTo below data y)
    (hrecords : x.Records) (hsettled : x.Settled) (hb : x.decorator i = .buffer b)
    (hi : i ∉ below) (complete : Bool) :
    Adds (i :: below) [] x ((copyBuffer write i b below complete).outcome x).2 ∧
      (((copyBuffer write i b below complete).outcome x).1 = .ok () →
        ∃ c, ((copyBuffer write i b below complete).outcome x).2.decorator i = .buffer c ∧
          c.content = []) := by
  have hhead := quiet_passHead x b below complete
  have hafter : b.afterCopy.copied = true → b.afterCopy.content = [] := fun _ => rfl
  rcases Bool.eq_false_or_eq_true b.copied with hcopied | hcopied
  · -- A copied buffer is left alone, and the invariant says that it is empty.
    rw [outcome_copyBuffer_copied hcopied]
    exact ⟨(Quiet.refl _ x).adds hrecords hsettled, fun _ => ⟨b, hb, hsettled i b hb hcopied⟩⟩
  by_cases hempty : b.content = []
  · rw [outcome_copyBuffer_empty hcopied hempty]
    have hadds := hhead.adds hrecords hsettled
    refine ⟨hadds.putBuffer hi hb hafter (by rw [hempty]; rfl), fun _ => ⟨b.afterCopy, ?_, rfl⟩⟩
    exact decorator_putBuffer_self (by rw [hhead.decorator_eq i hi, hb])
  · let start := (x.passHead b below complete).log (.copying b.content.length complete)
    have hstart : Quiet below x start := hhead.trans (.log below _ _)
    have hwritten := (hstart.adds hrecords hsettled).trans
      (hwrite start b.content (hstart.records hrecords) (hstart.settled hsettled))
    rcases hw : (write b.content).outcome start with ⟨fault | _, y⟩
    · rw [outcome_copyBuffer_error hcopied hempty hw]
      rw [hw] at hwritten
      exact ⟨hwritten.cons hi (Or.inr rfl), nofun⟩
    · rw [outcome_copyBuffer_ok hcopied hempty hw]
      rw [hw] at hwritten
      refine ⟨hwritten.putBuffer hi hb hafter (by simp [acceptedData, Buffer.afterCopy]),
        fun _ => ⟨b.afterCopy, ?_, rfl⟩⟩
      exact decorator_putBuffer_self (by rw [hwritten.decorator_eq i hi, hb])

/-- A write adds its data to the body of a response, or fails and adds nothing. -/
theorem addsTo_write (response : Response) (hnodup : response.Nodup) (data : Bytes)
    (hrecords : x.Records) (hsettled : x.Settled) : (write response data).AddsTo response data x := by
  induction response generalizing x data with
  | nil => exact Transport.addsTo_write hrecords hsettled data
  | cons i below ih =>
      obtain ⟨hi, hbelow⟩ := List.nodup_cons.1 hnodup
      have hwrite : ∀ y data, y.Records → y.Settled → (write below data).AddsTo below data y :=
        fun y data => ih hbelow data
      unfold AddsTo
      cases hd : x.decorator i with
      | forward =>
          rw [outcome_write_forward hd]
          exact (hwrite x data hrecords hsettled).cons hi (Or.inl (content_cons_forward hd))
      | buffer b =>
          rcases Bool.eq_false_or_eq_true (b.forwarding x.context) with hf | hf
          · rw [outcome_write_forwarding hd hf]
            obtain ⟨hcopy, hempty⟩ := adds_copyBuffer hwrite hrecords hsettled hd hi false
            rcases hc : (copyBuffer (write below) i b below false).outcome x with ⟨fault | _, y⟩
            · rw [outcome_bind_error hc]
              rwa [hc] at hcopy
            · rw [outcome_bind_ok hc]
              rw [hc] at hcopy hempty
              obtain ⟨c, hdc, hcontent⟩ := hempty rfl
              have hpass : y.content (i :: below) = [] := by rw [content_cons hdc, hcontent]
              have hrest := hwrite y data hcopy.records hcopy.settled
              exact hcopy.trans (hrest.cons hi (Or.inl hpass))
          · rw [outcome_write_held hd hf]
            have hcopied : b.copied = false := by
              simp only [Buffer.forwarding, Bool.or_eq_false_iff] at hf
              exact hf.1
            refine ((Quiet.refl below x).adds hrecords hsettled).putBuffer hi hd ?_ rfl
            intro hcontra
            rw [hcopied] at hcontra
            cases hcontra

/-- A flush adds nothing to the body, and drains all layers of a response unless it fails. -/
theorem adds_flush (response : Response) (hnodup : response.Nodup) (hrecords : x.Records)
    (hsettled : x.Settled) :
    Adds response [] x ((flush response).outcome x).2 ∧
      (((flush response).outcome x).1 = .ok () → ((flush response).outcome x).2.Drained response) := by
  induction response generalizing x with
  | nil =>
      rw [show (flush []).outcome x = _ from Transport.outcome_flush_recorder hrecords]
      refine ⟨⟨⟨fun _ _ => rfl, rfl⟩, hrecords, hsettled, ?_⟩, fun _ i hi => absurd hi List.not_mem_nil⟩
      simp [carried, pending, Transport.body, Transport.writes]
  | cons i below ih =>
      obtain ⟨hi, hbelow⟩ := List.nodup_cons.1 hnodup
      cases hd : x.decorator i with
      | forward =>
          rw [outcome_flush_forward hd]
          obtain ⟨hadds, hdrained⟩ := ih hbelow hrecords hsettled
          refine ⟨hadds.cons hi (Or.inr rfl), fun hok j hj c hc => ?_⟩
          rcases List.mem_cons.1 hj with rfl | hj
          · rw [hadds.decorator_eq j hi, hd] at hc
            cases hc
          · exact hdrained hok j hj c hc
      | buffer b =>
          rw [outcome_flush_buffer hd]
          obtain ⟨hcopy, hempty⟩ := adds_copyBuffer
            (fun y data => addsTo_write below hbelow data) hrecords hsettled hd hi false
          rcases hc : (copyBuffer (write below) i b below false).outcome x with ⟨fault | _, y⟩
          · rw [outcome_bind_error hc]
            rw [hc] at hcopy
            exact ⟨hcopy, fun hok => by cases hok⟩
          · rw [outcome_bind_ok hc]
            rw [hc] at hcopy hempty
            obtain ⟨hadds, hdrained⟩ := ih hbelow hcopy.records hcopy.settled
            refine ⟨hcopy.trans (hadds.cons hi (Or.inr rfl)), fun hok j hj d hd' => ?_⟩
            rcases List.mem_cons.1 hj with rfl | hj
            · obtain ⟨c, hdc, hcontent⟩ := hempty rfl
              rw [hadds.decorator_eq j hi, hdc] at hd'
              cases hd'
              exact hcontent
            · exact hdrained hok j hj d hd'

theorem adds_copyBody (response : Response) (hnodup : response.Nodup) (hrecords : x.Records)
    (hsettled : x.Settled) (complete : Bool) :
    Adds response [] x ((copyBody response complete).outcome x).2 := by
  cases response with
  | nil => exact (Quiet.refl _ x).adds hrecords hsettled
  | cons i below =>
      obtain ⟨hi, hbelow⟩ := List.nodup_cons.1 hnodup
      cases hd : x.decorator i with
      | forward =>
          rw [outcome_copyBody_forward hd]
          exact (Quiet.refl _ x).adds hrecords hsettled
      | buffer b =>
          rw [outcome_copyBody_buffer hd]
          exact (adds_copyBuffer (fun y data => addsTo_write below hbelow data) hrecords hsettled
            hd hi complete).1

end Response

/-! ## Runs over a stack -/

namespace StackStep

open Exchange Revalidation.Action Response

variable {x : Exchange} {response : Response}

/-- The invariant of a run: the transport still records, copied buffers are empty, and the body has
grown by the data. -/
structure Grows (response : Response) (data : Bytes) (x y : Exchange) : Prop where
  records : y.Records
  settled : y.Settled
  carried_eq : y.carried response = x.carried response ++ data

theorem Grows.trans {data more : Bytes} {y z : Exchange} (hxy : Grows response data x y)
    (hyz : Grows response more y z) : Grows response (data ++ more) x z where
  records := hyz.records
  settled := hyz.settled
  carried_eq := by rw [hyz.carried_eq, hxy.carried_eq, List.append_assoc]

theorem Grows.of_adds {data : Bytes} {y : Exchange} (h : Adds response data x y) :
    Grows response data x y :=
  ⟨h.records, h.settled, h.carried_eq⟩

/-- What happens at some depth and adds nothing there adds nothing to the whole stack. -/
theorem Grows.of_adds_drop {y : Exchange} (hnodup : response.Nodup) (depth : Nat)
    (h : Adds (response.drop depth) [] x y) : Grows response [] x y := by
  have happend := List.take_append_drop depth response
  have hlift := h.lift (response.take depth) (by rwa [happend])
  rw [happend] at hlift
  exact .of_adds hlift

@[simp] theorem acceptedData_nil (result : Except Fault Unit) : acceptedData result [] = [] := by
  cases result <;> rfl

theorem grows_writeText (hnodup : response.Nodup) (hrecords : x.Records) (hsettled : x.Settled)
    (text : String) :
    Grows response
      (acceptedData ((response.writeText text).outcome x).1 ((writeText text).data x response)) x
      ((response.writeText text).outcome x).2 := by
  cases hencode : (x.charset response).encode text with
  | error cause =>
      have hout : (response.writeText text).outcome x = (.error (.encoding cause), x) := by
        simp [Response.writeText, outcome_bind, hencode]
      rw [hout]
      exact .of_adds ((Quiet.refl response x).adds hrecords hsettled)
  | ok data =>
      have hout : (response.writeText text).outcome x = (response.write data).outcome x := by
        simp [Response.writeText, outcome_bind, hencode]
      have hdata : (writeText text).data x response = data := by
        simp [StackStep.data, hencode, Except.toOption]
      rw [hout, hdata]
      exact .of_adds (addsTo_write response hnodup data hrecords hsettled)

/-- A step adds the data of a write that ended without a fault, and nothing otherwise. -/
theorem grows_act (hnodup : response.Nodup) (hrecords : x.Records) (hsettled : x.Settled)
    (step : StackStep) :
    Grows response (acceptedData ((step.act response).outcome x).1 (step.data x response)) x
      ((step.act response).outcome x).2 := by
  have hdrop (depth : Nat) : (response.drop depth).Nodup := hnodup.sublist (List.drop_sublist _ _)
  have hquiet {depth : Nat} {y : Exchange} (h : Quiet (response.drop depth) x y) :
      Grows response [] x y := .of_adds_drop hnodup depth (h.adds hrecords hsettled)
  cases step with
  | setStatus depth status => exact hquiet (quiet_setStatus _ _ _)
  | setHeader depth name value => exact hquiet (quiet_setHeader _ _ _ _)
  | addHeader depth name value => exact hquiet (quiet_addHeader _ _ _ _)
  | flush depth =>
      show Grows response (acceptedData _ []) x _
      rw [acceptedData_nil]
      exact .of_adds_drop hnodup depth (adds_flush _ (hdrop depth) hrecords hsettled).1
  | copyBody depth complete =>
      show Grows response (acceptedData _ []) x _
      rw [acceptedData_nil]
      exact .of_adds_drop hnodup depth (adds_copyBody _ (hdrop depth) hrecords hsettled complete)
  | write data => exact .of_adds (addsTo_write response hnodup data hrecords hsettled)
  | writeText text => exact grows_writeText hnodup hrecords hsettled text
  | changeContext change =>
      have hpending : (x.changeContext change).pending response = x.pending response :=
        pending_eq fun i _ => by rw [changeContext_decorator]
      refine ⟨?_, ?_, ?_⟩
      · simpa [act, Records] using hrecords
      · simpa [act, Settled] using hsettled
      · simp [act, carried, hpending, acceptedData, StackStep.data]

theorem grows_run (hnodup : response.Nodup) (hrecords : x.Records) (hsettled : x.Settled)
    (steps : List StackStep) :
    Grows response (run response steps x).1 x (run response steps x).2 := by
  induction steps generalizing x with
  | nil => exact ⟨hrecords, hsettled, by simp [run]⟩
  | cons step rest ih =>
      have hstep := grows_act hnodup hrecords hsettled step
      exact hstep.trans (ih hstep.records hstep.settled)

end StackStep

namespace Exchange

variable {t : Transport} {context : Context} {layers : List LayerKind} {i : Nat} {b : Buffer}

theorem stacked_fresh (h : (stacked t context layers).decorator i = .buffer b) :
    b.content = [] ∧ b.copied = false := by
  have hi := lt_of_decorator_eq h
  simp only [stacked, decorator, List.length_map] at h hi
  rw [List.getD_eq_getElem?_getD, List.getElem?_map, List.getElem?_eq_getElem hi] at h
  cases hk : layers[i] <;> simp [hk, LayerKind.fresh] at h
  simp [← h]

theorem pending_stacked (response : Response) :
    (stacked t context layers).pending response = [] :=
  pending_eq_nil fun _ _ _ h => (stacked_fresh h).1

/-- Over a stack of any layers and a transport that may refuse any writes, in every state that steps
can lead to: what the transport recorded and what the buffers hold, from the lowest upward, are the
data of the writes that ended without a fault, in order; copied buffers are empty; and a flush of the
whole stack that ends without a fault leaves all buffers empty, so that everything is recorded. -/
theorem body_of_stacked_run (status : Int) (charset : Charset) (failing : List Nat)
    (context : Context) (layers : List LayerKind) (steps : List StackStep) :
    let x := stacked (.recorder status charset failing) context layers
    let (data, y) := StackStep.run x.top steps x
    y.transport.body ++ y.pending x.top = data ∧ y.Settled ∧
      ∀ z, (Response.flush x.top).outcome y = (.ok (), z) →
        z.Drained x.top ∧ z.transport.body = data := by
  intro x
  have hrecords : x.Records := ⟨charset, failing, 0, [], rfl⟩
  have hsettled : x.Settled := by
    intro i b hb hcopied
    rw [(stacked_fresh hb).2] at hcopied
    cases hcopied
  have hstart : x.carried x.top = [] := by
    rw [carried, pending_stacked, List.append_nil]
    rfl
  have hrun := StackStep.grows_run x.nodup_top hrecords hsettled steps
  have hbody := hrun.carried_eq
  rw [hstart, List.nil_append] at hbody
  refine ⟨hbody, hrun.settled, fun z hz => ?_⟩
  obtain ⟨hflush, hdrained⟩ := Response.adds_flush x.top x.nodup_top hrun.records hrun.settled
  rw [hz] at hflush hdrained
  have hz := hflush.carried_eq
  rw [hbody, List.append_nil, carried, pending_eq_nil (hdrained rfl), List.append_nil] at hz
  exact ⟨hdrained rfl, hz⟩

end Exchange
end Revalidation
