import Revalidation.Proofs.Playback

/-!
# The two ways to end

An action is through, or it stops with a fault.  What holds of the exchange it leaves is said for each of
the two, and put together along a program.  The faults of interest are those of texts that cannot be
sent: an action carries a property if it keeps the property and does not stop with one of these.
-/

namespace Revalidation

def Fault.isEncoding : Fault → Bool
  | encoding _ => true
  | _ => false

namespace Action

variable {α β : Type} {action : Action α} {x : Exchange} {P : Exchange → Prop}
  {done : α → Exchange → Prop} {finished : β → Exchange → Prop}
  {failed : Fault → Exchange → Prop}

/-- An action is through with the first property, or stops with the second one. -/
def Ends (action : Action α) (x : Exchange) (done : α → Exchange → Prop)
    (failed : Fault → Exchange → Prop) : Prop :=
  match action.outcome x with
  | (.ok v, y) => done v y
  | (.error fault, y) => failed fault y

namespace Ends

theorem of_outcome {other : Action α} {y : Exchange} (h : Ends other y done failed)
    (heq : action.outcome x = other.outcome y) : Ends action x done failed := by
  rwa [Ends, heq]

theorem mono {done' : α → Exchange → Prop} {failed' : Fault → Exchange → Prop}
    (h : Ends action x done failed) (hdone : ∀ v y, done v y → done' v y)
    (hfailed : ∀ fault y, failed fault y → failed' fault y) : Ends action x done' failed' := by
  unfold Ends at h ⊢
  rcases haction : action.outcome x with ⟨fault | v, y⟩ <;> rw [haction] at h
  · exact hfailed fault y h
  · exact hdone v y h

theorem bind {next : α → Action β} (h : Ends action x done failed)
    (hnext : ∀ v y, done v y → Ends (next v) y finished failed) :
    Ends (action >>= next) x finished failed := by
  unfold Ends at h
  rw [Ends, outcome_bind]
  rcases haction : action.outcome x with ⟨fault | v, y⟩ <;> rw [haction] at h
  · exact h
  · exact hnext v y h

theorem tryCatch {caught : Fault → Exchange → Prop} {handler : Fault → Action α}
    (h : Ends action x done caught)
    (hhandler : ∀ fault y, caught fault y → Ends (handler fault) y done failed) :
    Ends (tryCatch action handler) x done failed := by
  unfold Ends at h
  rw [Ends, outcome_tryCatch]
  rcases haction : action.outcome x with ⟨fault | v, y⟩ <;> rw [haction] at h
  · exact hhandler fault y h
  · exact h

theorem onFault_logFailure (h : Ends action x done failed)
    (hlog : ∀ fault y event, failed fault y → failed fault (y.log event)) (method url : String) :
    Ends (action.onFault (Action.logFailure method url)) x done failed := by
  refine h.tryCatch fun fault y hy => ?_
  have hlogged : failed fault (y.logFailure method url fault) := by
    unfold Exchange.logFailure
    split
    · exact hlog fault y _ hy
    · exact hy
  exact hlogged

theorem of_ok (h : Ends action x done failed) {v : α} (hok : (action.outcome x).1 = .ok v) :
    done v (action.outcome x).2 := by
  unfold Ends at h
  rcases haction : action.outcome x with ⟨fault | w, y⟩ <;> rw [haction] at h hok <;> cases hok
  exact h

theorem of_error (h : Ends action x done failed) {fault : Fault}
    (herror : (action.outcome x).1 = .error fault) : failed fault (action.outcome x).2 := by
  unfold Ends at h
  rcases haction : action.outcome x with ⟨other | v, y⟩ <;> rw [haction] at h herror <;> cases herror
  exact h

theorem either {Q : Exchange → Prop} (h : Ends action x (fun _ => Q) fun _ => Q) :
    Q (action.outcome x).2 := by
  cases hresult : (action.outcome x).1 with
  | error fault => exact h.of_error hresult
  | ok v => exact h.of_ok hresult

end Ends

/-- The fault is not about an encoding, and it leaves the property. -/
def StopsIn (P : Exchange → Prop) (fault : Fault) (x : Exchange) : Prop := fault.isEncoding = false ∧ P x

def Carries (P : Exchange → Prop) (action : Action α) : Prop :=
  ∀ x, P x → Ends action x (fun _ => P) (StopsIn P)

namespace Carries

theorem pure (v : α) : Carries P (Pure.pure v : Action α) := fun _ h => h

theorem throw {fault : Fault} (hfault : fault.isEncoding = false) :
    Carries P (throw fault : Action α) := fun _ h => ⟨hfault, h⟩

theorem modify {f : Exchange → Exchange} (hf : ∀ x, P x → P (f x)) : Carries P (modify f) := hf

theorem bind {next : α → Action β} (h : Carries P action) (hnext : ∀ v, Carries P (next v)) :
    Carries P (action >>= next) := fun x hx => (h x hx).bind fun v y hy => hnext v y hy

theorem read {next : Exchange → Action α}
    (hnext : ∀ x, P x → Ends (next x) x (fun _ => P) (StopsIn P)) : Carries P (get >>= next) := hnext

theorem forM {items : List α} {step : α → Action Unit} (h : ∀ item ∈ items, Carries P (step item)) :
    Carries P (items.forM step) := by
  induction items with
  | nil => exact Carries.pure ()
  | cons item rest ih =>
      rw [List.forall_mem_cons] at h
      exact h.1.bind fun _ => ih h.2

end Carries
end Action

/-! ## Asynchronous applications beside their response -/

/-- Whether an entry is no start of a response, and no fault about an encoding that was caught. -/
def Entry.isPlain : Entry → Bool
  | sent message => message.type ≠ some Message.startType
  | caught fault => !fault.isEncoding
  | _ => true

def Asgi.Step.message? : Asgi.Step → Option Message
  | send message => some message
  | attempt step => step.message?
  | _ => none

namespace Exchange

open Revalidation.Action Asgi

/-- A property of exchanges that an application keeps in whatever it does beside its response. -/
structure Steady (P : Exchange → Prop) : Prop where
  attached {x : Exchange} : P x → x.published = .attached
  note {x : Exchange} {entry : Entry} : entry.isPlain = true → P x → P (x.note entry)
  setContext {x : Exchange} (context : Context) : P x → P { x with context := context }
  setSends {x : Exchange} (sends : Nat) : P x → P { x with server := { x.server with sends := sends } }
  setIncoming {x : Exchange} (incoming : List Message) : P x →
    P { x with server := { x.server with incoming := incoming } }

namespace Steady

variable {P : Exchange → Prop} (h : Steady P) {x : Exchange} {message : Message} {step : Step}
  {app : Application} {done : Unit → Exchange → Prop} {failed : Fault → Exchange → Prop}

include h

theorem log (event : LogEvent) (hx : P x) : P (x.log event) := h.note rfl hx

theorem carries_note {entry : Entry} (hplain : entry.isPlain = true) : Carries P (Action.note entry) :=
  .modify fun _ => h.note hplain

theorem carries_log (event : LogEvent) : Carries P (Action.log event) := .modify fun _ => h.log event

theorem changeContext (change : Context.Change) (hx : P x) : P (x.changeContext change) := by
  have hchange : x.changeContext change = { x with context := x.context.apply change } := by
    rw [Exchange.changeContext, h.attached hx]
  rw [hchange]
  exact h.setContext _ hx

theorem carries_send (hother : message.type ≠ some Message.startType) :
    Carries P (Transport.send message) := by
  have hplain : (Entry.sent message).isPlain = true := decide_eq_true hother
  intro x hx
  have hcounted := h.setSends (x.server.sends + 1) hx
  obtain ⟨-, hsend⟩ | ⟨-, hsend⟩ := Transport.outcome_send_counted x message <;> rw [Ends, hsend]
  · exact ⟨rfl, h.note rfl hcounted⟩
  · exact h.note hplain hcounted

theorem carries_receive : Carries P receive := by
  refine .read fun x hx => ?_
  cases x.server.incoming with
  | nil => exact h.note rfl hx
  | cons message rest => exact h.note rfl (h.setIncoming rest hx)

theorem carries_attempt {action : Action Unit} (haction : Carries P action) :
    Carries P (attempt action) := by
  intro x hx
  refine (haction x hx).tryCatch fun fault y hfault => ?_
  have hplain : (Entry.caught fault).isPlain = true := by simp [Entry.isPlain, hfault.1]
  exact h.note hplain hfault.2

theorem carries_accept {response : Response} (hother : message.type ≠ some Message.startType)
    (hwrite : message.bodyPart ≠ [] → Carries P (response.write message.bodyPart)) :
    Carries P (accept response message) := by
  unfold accept
  cases htype : message.type with
  | none => exact .throw rfl
  | some type =>
      have hstart : type ≠ Message.startType := fun heq => hother (heq ▸ htype)
      simp only [if_neg hstart]
      split
      · next hbody =>
        have hpart : message.bodyPart = message.body.getD [] := by
          rw [Message.bodyPart, htype, hbody, if_pos rfl]
        rw [← hpart]
        split
        · next hsome => exact hwrite (by simpa using hsome)
        · exact .pure ()
      · exact h.carries_send hother

theorem carries_runStep {response : Response}
    (hmessage : ∀ message, step.message? = some message → Carries P (accept response message)) :
    Carries P (runStep (.response response) step) := by
  induction step with
  | send message => exact .bind (h.carries_note rfl) fun _ => hmessage message rfl
  | receive => exact .bind (h.carries_note rfl) fun _ => h.carries_receive
  | changeContext name change =>
      exact .bind (h.carries_note rfl) fun _ => .modify fun _ => h.changeContext change
  | fail kind text => exact .bind (h.carries_note rfl) fun _ => .throw rfl
  | attempt step ih => exact .bind (h.carries_note rfl) fun _ => h.carries_attempt (ih hmessage)

/-- An application that is served ends as it does when it runs, since the exchange is attached and a
middleware further in does not handle it again. -/
theorem serve {scope : Scope} (htype : scope.type = some "http") {response : Response}
    (hrun : ∀ x, P x → Ends (run (.response response) app) x done failed) (filter : EtagFilter)
    (depth : Nat) (hx : P x) :
    Ends (serve filter scope app depth (.response response)) x done failed := by
  induction depth generalizing x with
  | zero => exact hrun x hx
  | succ depth ih =>
      exact (ih (h.log .passingThrough hx)).of_outcome
        (outcome_serve_inner htype depth _ (h.attached hx))

end Steady
end Exchange

namespace Asgi

open Revalidation.Action Exchange

variable {filter : EtagFilter} {scope : Scope} {app : Application} {context : Context} {server : Server}
  {depth : Nat} {answered served : Exchange → Prop} {failed : Fault → Exchange → Prop}

/-- The outermost middleware has the response answered and evaluated and closes it, and logs how this
ended. -/
theorem ends_serve (htype : scope.type = some "http")
    (hanswer : Ends (answer (serve filter scope app depth) [0])
      (called context server scope.toRequest) (fun _ => answered) failed)
    (hconclude : ∀ x, answered x →
      Ends (filter.conclude .async scope.toRequest [0]) x (fun _ => answered) failed)
    (hclose : ∀ x, answered x → Ends Transport.close x (fun _ => served) failed)
    (hserved : ∀ x event, served x → served (x.log event))
    (hfailed : ∀ fault x event, failed fault x → failed fault (x.log event)) :
    Ends (serve filter scope app (depth + 1) .server) (freshExchange context .absent server)
      (fun _ => served) failed := by
  let request := scope.toRequest
  let x := entered (freshExchange context .absent server) request
  let attempt : Action Unit := do
    filter.dispatch .async request [] (answer (serve filter scope app depth))
    Transport.close
  let report := Action.logFailure request.method request.url
  have hdispatch : Ends (filter.dispatch .async request [] (answer (serve filter scope app depth))) x
      (fun _ => answered) failed := by
    have hevaluated : Ends (do
        answer (serve filter scope app depth) [0]
        filter.conclude .async request [0]
        return) (called context server request) (fun _ => answered) failed :=
      hanswer.bind fun _ y hy => (hconclude y hy).bind fun _ z hz => hz
    exact hevaluated.of_outcome
      (EtagFilter.outcome_dispatch (outcome_prepare_entered context server request))
  have hguarded : Ends (attempt.onFault report) x (fun _ => served) failed :=
    (hdispatch.bind fun _ y hy => hclose y hy).onFault_logFailure hfailed _ _
  have hlogged : Ends (attempt.onFault report >>= fun _ => do
      Action.log (.processed request.method request.url (← get).transport.status)) x
      (fun _ => served) failed := hguarded.bind fun _ y hy => hserved y _ hy
  exact hlogged.of_outcome ((outcome_serve_outermost htype depth .server rfl).trans rfl)

end Asgi
end Revalidation
