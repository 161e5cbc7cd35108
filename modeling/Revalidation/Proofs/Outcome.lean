import Revalidation.Sink.Call

/-!
# How actions end

An action on an exchange ends with a value or a fault and leaves an exchange behind in either case.
`outcome` gives both, and the equations here open a program one step at a time, so that no later
module looks into the layers of the monad.  The second half gives the equations of the operations on
responses, one for each way they can go, and runs of calls that go on after a fault.
-/

namespace Revalidation

namespace Action

variable {α β : Type}

/-- How an action ends on an exchange, and the exchange it leaves. -/
def outcome (action : Action α) (x : Exchange) : Except Fault α × Exchange := action.run.run x

@[simp] theorem outcome_pure (v : α) (x : Exchange) : outcome (pure v) x = (.ok v, x) := rfl

@[simp] theorem outcome_throw (fault : Fault) (x : Exchange) :
    outcome (throw fault : Action α) x = (.error fault, x) := rfl

@[simp] theorem outcome_get (x : Exchange) : outcome get x = (.ok x, x) := rfl

@[simp] theorem outcome_set (x y : Exchange) : outcome (set y) x = (.ok (), y) := rfl

@[simp] theorem outcome_modify (f : Exchange → Exchange) (x : Exchange) :
    outcome (modify f) x = (.ok (), f x) := rfl

@[simp] theorem outcome_note (entry : Entry) (x : Exchange) :
    outcome (note entry) x = (.ok (), x.note entry) := rfl

@[simp] theorem outcome_log (event : LogEvent) (x : Exchange) :
    outcome (log event) x = (.ok (), x.log event) := rfl

@[simp] theorem outcome_logFailure (method url : String) (fault : Fault) (x : Exchange) :
    outcome (logFailure method url fault) x = (.ok (), x.logFailure method url fault) := rfl

@[simp] theorem outcome_ite (c : Prop) [Decidable c] (action other : Action α) (x : Exchange) :
    outcome (if c then action else other) x = if c then outcome action x else outcome other x := by
  split <;> rfl

theorem outcome_bind (action : Action α) (next : α → Action β) (x : Exchange) :
    outcome (action >>= next) x =
      match outcome action x with
      | (.ok v, y) => outcome (next v) y
      | (.error fault, y) => (.error fault, y) := by
  simp only [outcome, ExceptT.run_bind, StateT.run_bind]
  rcases StateT.run (ExceptT.run action) x with ⟨_ | _, _⟩ <;> rfl

theorem outcome_bind_ok {action : Action α} {next : α → Action β} {x y : Exchange} {v : α}
    (h : outcome action x = (.ok v, y)) : outcome (action >>= next) x = outcome (next v) y := by
  rw [outcome_bind, h]

theorem outcome_bind_error {action : Action α} {next : α → Action β} {x y : Exchange}
    {fault : Fault} (h : outcome action x = (.error fault, y)) :
    outcome (action >>= next) x = (.error fault, y) := by
  rw [outcome_bind, h]

theorem exists_of_bind_ok {action : Action α} {next : α → Action β} {x z : Exchange} {w : β}
    (h : outcome (action >>= next) x = (.ok w, z)) :
    ∃ v y, outcome action x = (.ok v, y) ∧ outcome (next v) y = (.ok w, z) := by
  rw [outcome_bind] at h
  rcases hfirst : outcome action x with ⟨_ | v, y⟩
  · rw [hfirst] at h
    cases h
  · rw [hfirst] at h
    exact ⟨v, y, rfl, h⟩

theorem eq_ok_of_isOk {result : Except Fault Unit × Exchange} (h : result.1.isOk = true) :
    result = (.ok (), result.2) := by
  obtain ⟨_ | ⟨⟩, x⟩ := result
  · cases h
  · rfl

@[simp] theorem outcome_map (f : α → β) (action : Action α) (x : Exchange) :
    outcome (f <$> action) x =
      match outcome action x with
      | (.ok v, y) => (.ok (f v), y)
      | (.error fault, y) => (.error fault, y) := by
  rw [map_eq_pure_bind, outcome_bind]
  rfl

theorem outcome_tryCatch (action : Action α) (handler : Fault → Action α) (x : Exchange) :
    outcome (tryCatch action handler) x =
      match outcome action x with
      | (.ok v, y) => (.ok v, y)
      | (.error fault, y) => outcome (handler fault) y := by
  simp only [outcome, tryCatch, tryCatchThe, MonadExceptOf.tryCatch, ExceptT.tryCatch, ExceptT.run,
    ExceptT.mk, bind, StateT.bind, StateT.run]
  rcases action x with ⟨_ | _, _⟩ <;> rfl

theorem outcome_onFault_ok {action : Action α} {cleanUp : Fault → Action Unit} {x y : Exchange} {v : α}
    (h : outcome action x = (.ok v, y)) : outcome (action.onFault cleanUp) x = (.ok v, y) := by
  rw [onFault, outcome_tryCatch, h]

/-- An action that is guarded and stops with a fault leaves what its guard leaves, and stops with this
fault or one of the guard. -/
theorem outcome_onFault_error {action : Action α} {x y : Exchange} {fault : Fault}
    (cleanUp : Fault → Action Unit) (h : outcome action x = (.error fault, y)) :
    ∃ other, outcome (action.onFault cleanUp) x = (.error other, (outcome (cleanUp fault) y).2) := by
  rw [onFault, outcome_tryCatch, h]
  rcases hclean : outcome (cleanUp fault) y with ⟨other | _, z⟩
  · exact ⟨other, outcome_bind_error hclean⟩
  · exact ⟨fault, outcome_bind_ok hclean⟩

theorem outcome_of_onFault {action : Action α} {cleanUp : Fault → Action Unit} {x y : Exchange} {v : α}
    (h : outcome (action.onFault cleanUp) x = (.ok v, y)) : outcome action x = (.ok v, y) := by
  rw [onFault, outcome_tryCatch] at h
  rcases haction : outcome action x with ⟨fault | w, z⟩
  · rw [haction] at h
    obtain ⟨_, _, -, hthrow⟩ := exists_of_bind_ok h
    cases hthrow
  · rwa [haction] at h

end Action

/-! ## Operations on responses -/

def Buffer.afterCopy (b : Buffer) : Buffer := { b with content := [], copied := true }

namespace Response

open Revalidation.Action

variable {x y : Exchange} {i : Nat} {b : Buffer} {below : Response} {complete : Bool}
  {write : Bytes → Action Unit} {fault : Fault}

theorem outcome_copyBuffer_copied (hcopied : b.copied = true) :
    outcome (copyBuffer write i b below complete) x = (.ok (), x) := by
  simp [copyBuffer, hcopied]

theorem outcome_copyBuffer_empty (hcopied : b.copied = false) (hempty : b.content = []) :
    outcome (copyBuffer write i b below complete) x =
      (.ok (), (x.passHead b below complete).putBuffer i b.afterCopy) := by
  simp [copyBuffer, outcome_bind, hcopied, hempty, Buffer.afterCopy]

theorem outcome_copyBuffer_ok (hcopied : b.copied = false) (hcontent : b.content ≠ [])
    (hwrite : outcome (write b.content)
      ((x.passHead b below complete).log (.copying b.content.length complete)) = (.ok (), y)) :
    outcome (copyBuffer write i b below complete) x = (.ok (), y.putBuffer i b.afterCopy) := by
  simp [copyBuffer, outcome_bind, hcopied, hcontent, hwrite, Buffer.afterCopy]

theorem outcome_copyBuffer_error (hcopied : b.copied = false) (hcontent : b.content ≠ [])
    (hwrite : outcome (write b.content)
      ((x.passHead b below complete).log (.copying b.content.length complete)) = (.error fault, y)) :
    outcome (copyBuffer write i b below complete) x = (.error fault, y) := by
  simp [copyBuffer, outcome_bind, hcopied, hcontent, hwrite]

theorem write_nil (data : Bytes) : Response.write [] data = Transport.write data := rfl

theorem outcome_write_forward (h : x.decorator i = .forward) (data : Bytes) :
    outcome (Response.write (i :: below) data) x = outcome (Response.write below data) x := by
  simp [Response.write, outcome_bind, h]

theorem outcome_write_forwarding (h : x.decorator i = .buffer b)
    (hforwarding : b.forwarding x.context = true) (data : Bytes) :
    outcome (Response.write (i :: below) data) x =
      outcome (copyBuffer (Response.write below) i b below false >>= fun _ =>
        Response.write below data) x := by
  simp [Response.write, outcome_bind, h, hforwarding]

theorem outcome_write_held (h : x.decorator i = .buffer b)
    (hforwarding : b.forwarding x.context = false) (data : Bytes) :
    outcome (Response.write (i :: below) data) x =
      (.ok (), x.putBuffer i { b with content := b.content ++ data }) := by
  simp [Response.write, outcome_bind, h, hforwarding]

theorem outcome_flush_forward (h : x.decorator i = .forward) :
    outcome (flush (i :: below)) x = outcome (flush below) x := by
  simp [flush, outcome_bind, h]

theorem outcome_flush_buffer (h : x.decorator i = .buffer b) :
    outcome (flush (i :: below)) x =
      outcome (copyBuffer (Response.write below) i b below false >>= fun _ => flush below) x := by
  simp [flush, outcome_bind, h]

theorem outcome_copyBody_forward (h : x.decorator i = .forward) :
    outcome (copyBody (i :: below) complete) x = (.ok (), x) := by
  simp [copyBody, outcome_bind, h]

theorem outcome_copyBody_buffer (h : x.decorator i = .buffer b) :
    outcome (copyBody (i :: below) complete) x =
      outcome (copyBuffer (Response.write below) i b below complete) x := by
  simp [copyBody, outcome_bind, h]

end Response

namespace Transport

open Revalidation.Action

theorem outcome_send_counted (x : Exchange) (message : Message) :
    let counted : Exchange := { x with server := { x.server with sends := x.server.sends + 1 } }
    (x.server.sends + 1 ∈ x.server.failing ∧
      outcome (send message) x = (.error .sendFailed, counted.note .sendFailed)) ∨
    (x.server.sends + 1 ∉ x.server.failing ∧
      outcome (send message) x = (.ok (), counted.note (.sent message))) := by
  by_cases hrefused : x.server.sends + 1 ∈ x.server.failing
  · exact .inl ⟨hrefused, by simp [send, outcome_bind, hrefused]⟩
  · exact .inr ⟨hrefused, by simp [send, outcome_bind, hrefused]⟩

end Transport

/-! ## Calls that go on after a fault -/

/-- What can be seen of the sink of an exchange: its own state, and what has reached the server. -/
structure Outside where
  transport : Transport
  server : Server
  sent : List Message
  starts : List (String × List (String × String))

def Exchange.outside (x : Exchange) : Outside := ⟨x.transport, x.server, x.sent, x.starts⟩

def Action.result (action : Action Unit) : Action (Except Fault Unit) :=
  tryCatch
    (do
      action
      return .ok ())
    fun fault => return .error fault

/-- Makes calls one after another, whether they stop with a fault or not, and gives for each how it
ended and what could be seen of the sink then. -/
def Response.observe (response : Response) : List Call → Action (List (Except Fault Unit × Outside))
  | [] => return []
  | call :: rest => do
    let result ← (response.perform call).result
    let outside := (← get).outside
    return (result, outside) :: (← response.observe rest)

theorem Action.outcome_result {action : Action Unit} {x y : Exchange} {result : Except Fault Unit}
    (h : action.outcome x = (result, y)) : action.result.outcome x = (.ok result, y) := by
  rw [Action.result, outcome_tryCatch, outcome_bind, h]
  cases result <;> rfl

theorem Response.outcome_observe_cons {response : Response} {call : Call} {rest : List Call}
    {x y z : Exchange} {result : Except Fault Unit} {later : List (Except Fault Unit × Outside)}
    (hcall : (response.perform call).outcome x = (result, y))
    (hrest : (response.observe rest).outcome y = (.ok later, z)) :
    (response.observe (call :: rest)).outcome x = (.ok ((result, y.outside) :: later), z) := by
  simp only [observe, Action.outcome_bind, Action.outcome_result hcall, Action.outcome_get, hrest,
    Action.outcome_pure]

end Revalidation
