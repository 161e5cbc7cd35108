import Revalidation.Proofs.Iteration

/-!
# The two gateways agree

An application starts its response, gives chunks and disables caching at some points.  The same events
make an asynchronous application, which sends one message for each chunk, and a synchronous one, whose
iterable gives the chunks.  Both come down to the same handler, so the two middlewares answer requests
alike: with the same status, the same headers in the same order and the same chunks.
-/

namespace Revalidation

open Revalidation.Action Exchange

inductive BodyEvent where
  /-- Gives a chunk.  Its message may say whether more of the body is to come. -/
  | chunk (data : Bytes) (more : Option Bool)
  /-- Disables caching, in a step of some name. -/
  | disable (name : String)
  deriving DecidableEq, Repr

namespace BodyEvent

def script : BodyEvent → List HandlerStep
  | chunk data _ => (chunks data).map fun part => .call (.write part)
  | disable _ => [.changeContext .disableCaching]

/-! ## As an asynchronous application -/

def step : BodyEvent → Asgi.Step
  | chunk data more =>
    .send { type := some Message.bodyType, body := some data, moreBody := more }
  | disable name => .changeContext name .disableCaching

def asgi (status : Int) (fields : List (Bytes × Bytes)) (events : List BodyEvent) :
    Asgi.Application :=
  .send (Message.start status fields) :: events.map step

/-! ## As a synchronous application -/

/-- The items that an iterable gives while it goes through events, and the steps it takes after the
last one. -/
def items : List BodyEvent → List Wsgi.Item × List Wsgi.Step
  | [] => ([], [])
  | chunk data _ :: rest =>
    let (items, last) := items rest
    (⟨[], data⟩ :: items, last)
  | disable name :: rest =>
    let step : Wsgi.Step := .changeContext name .disableCaching
    match items rest with
    | ([], last) => ([], step :: last)
    | (item :: items, last) => ({ item with steps := step :: item.steps } :: items, last)

def wsgi (line : String) (headers : List (String × String)) (kind : Wsgi.IterableKind)
    (events : List BodyEvent) : Wsgi.Application where
  steps := [.start line headers none]
  result := { kind := kind, items := (items events).1, last := (items events).2 }

/-! ## As a handler -/

variable {status : Int} {fields : List (Bytes × Bytes)} {line : String} {kind : Wsgi.IterableKind}
  {events : List BodyEvent}

theorem script_step (event : BodyEvent) : event.step.script = event.script := by
  cases event with
  | chunk data more => exact List.map_map
  | disable name => rfl

theorem script_items (events : List BodyEvent) :
    (items events).1.flatMap Wsgi.Item.script ++ (items events).2.flatMap Wsgi.Step.script =
      events.flatMap script := by
  induction events with
  | nil => rfl
  | cons event rest ih =>
      rw [List.flatMap_cons, ← ih]
      cases event with
      | chunk data more => simp [items, script, Wsgi.Item.script]
      | disable name =>
          rw [items]
          rcases items rest with ⟨_ | ⟨item, further⟩, last⟩ <;> rfl

theorem closeSteps_wsgi {headers : List (String × String)} :
    (wsgi line headers kind events).result.closeSteps = [] := ite_self _

theorem script_asgi_eq_wsgi (hcode : Wsgi.statusCode line = .ok status) :
    (asgi status fields events).script =
      (wsgi line (Asgi.Scope.decodeHeaders fields) kind events).script := by
  have hevents : (events.map step).flatMap Asgi.Step.script = events.flatMap script := by
    rw [List.flatMap_map]
    exact congrArg (events.flatMap ·) (funext script_step)
  have hstart : (Asgi.Step.send (Message.start status fields)).script =
      (Wsgi.Step.start line (Asgi.Scope.decodeHeaders fields) none).script := by
    rw [Wsgi.Step.script, hcode]
    rfl
  rw [asgi, Asgi.Application.script, List.flatMap_cons, hevents, hstart, ← script_items,
    Wsgi.Application.script, closeSteps_wsgi, List.flatMap_nil, ite_self, List.append_nil]
  simp [wsgi, Wsgi.Application.opening, Wsgi.Iterable.script]

theorem responds_asgi : ∀ step ∈ asgi status fields events, step.Responds := by
  rw [asgi, List.forall_mem_cons, List.forall_mem_map]
  refine ⟨.send (.start rfl rfl), fun event _ => ?_⟩
  cases event with
  | chunk data more => exact .send (.body rfl)
  | disable name => exact .disable name

theorem answering_items (events : List BodyEvent) :
    Wsgi.Answering true ((items events).1.flatMap Wsgi.Item.steps ++ (items events).2) := by
  induction events with
  | nil => trivial
  | cons event rest ih =>
      cases event with
      | chunk data more => exact ih
      | disable name =>
          rw [items]
          rcases hrest : items rest with ⟨_ | ⟨item, further⟩, last⟩ <;> rw [hrest] at ih <;>
            exact ⟨.disable name, ih⟩

theorem answers_wsgi {headers : List (String × String)} (hcode : Wsgi.statusCode line = .ok status) :
    (wsgi line headers kind events).Answers where
  answering := by
    rw [Wsgi.Application.allSteps, closeSteps_wsgi, List.append_nil]
    exact ⟨.start hcode headers, answering_items events⟩
  closes _ := rfl

end BodyEvent

/-- The two gateways answer requests alike: the server of either one gets the same status, the same
headers and the same chunks. -/
theorem gateways_agree (filter : EtagFilter) (htag : ∀ body, Latin1 (filter.tag body))
    (scope : Asgi.Scope) (environ : Wsgi.Environ) (htype : scope.type = some "http")
    (hrequests : scope.toRequest.Alike environ.toRequest) (status : Int) (line : String)
    (hcode : Wsgi.statusCode line = .ok status) (fields : List (Bytes × Bytes))
    (kind : Wsgi.IterableKind) (events : List BodyEvent) (depth other : Nat) (context : Context)
    (server otherServer : Server) (hfailing : server.failing = [])
    (hrefuses : otherServer.refusesStart = false) :
    ∃ (y z : Exchange) (sent : Int) (sentFields : List (Bytes × Bytes))
        (sentHeaders : List (String × String)) (chunks : List Bytes),
      (Asgi.serve filter scope (BodyEvent.asgi status fields events) (depth + 1) .server).outcome
        (Asgi.freshExchange context .absent server) = (.ok (), y) ∧
      (Wsgi.exchange filter environ
        (BodyEvent.wsgi line (Asgi.Scope.decodeHeaders fields) kind events) (other + 1) none).outcome
        (Wsgi.freshExchange context .absent otherServer) = (.ok (), z) ∧
      y.sent = .start sent sentFields :: chunks.map (.part · true) ++ [.part [] false] ∧
      z.served = .responseStarted (Status.line sent) sentHeaders :: chunks.map .chunk ∧
      Asgi.Scope.decodeHeaders sentFields = sentHeaders := by
  obtain ⟨y, u, sentFields, hserve, hasgi, hfields, hsent⟩ := Asgi.sent_of_recorded filter htag scope
    htype BodyEvent.responds_asgi ⟨rfl, rfl⟩ .async depth context server hfailing
  obtain ⟨z, w, hexchange, hwsgi, hserved⟩ := Wsgi.served_of_recorded filter environ
    (BodyEvent.answers_wsgi hcode) hrequests .async other context otherServer hrefuses
  rw [BodyEvent.script_asgi_eq_wsgi hcode, hwsgi] at hasgi
  cases hasgi
  exact ⟨y, z, _, sentFields, _, _, hserve, hexchange, hsent, hserved, hfields⟩

/-- A response to a conditional request whose caching is disabled between an empty chunk and another
one. -/
theorem gateways_agree_hi :
    let name : Bytes := [105, 102, 45, 110, 111, 110, 101, 45, 109, 97, 116, 99, 104]
    let scope : Asgi.Scope := { type := some "http", headers := some [(name, [42])] }
    let environ : Wsgi.Environ := ⟨[("REQUEST_METHOD", "GET"), ("HTTP_IF_NONE_MATCH", "*")]⟩
    let fields : List (Bytes × Bytes) := [([86, 97, 114, 121], [42])]
    let events : List BodyEvent :=
      [.chunk [104] (some true), .chunk [] none, .disable "disable", .chunk [105] none]
    (∀ body, Latin1 (({} : EtagFilter).tag body)) ∧ scope.type = some "http" ∧
      scope.toRequest.Alike environ.toRequest ∧ Wsgi.statusCode "200 OK" = .ok 200 ∧
      ({} : Server).failing = [] ∧ ({} : Server).refusesStart = false ∧
      ∃ (y z : Exchange) (sent : Int) (sentFields : List (Bytes × Bytes))
          (sentHeaders : List (String × String)) (chunks : List Bytes),
        (Asgi.serve {} scope (BodyEvent.asgi 200 fields events) 1 .server).outcome
          (Asgi.freshExchange {} .absent {}) = (.ok (), y) ∧
        (Wsgi.exchange {} environ
          (BodyEvent.wsgi "200 OK" (Asgi.Scope.decodeHeaders fields) .iterator events) 1 none).outcome
          (Wsgi.freshExchange {} .absent {}) = (.ok (), z) ∧
        y.sent = .start sent sentFields :: chunks.map (.part · true) ++ [.part [] false] ∧
        z.served = .responseStarted (Status.line sent) sentHeaders :: chunks.map .chunk ∧
        Asgi.Scope.decodeHeaders sentFields = sentHeaders := by
  intro name scope environ fields events
  have htag (body : Bytes) : Latin1 (({} : EtagFilter).tag body) := Latin1.tag body
  have hrequests : scope.toRequest.Alike environ.toRequest := ⟨by decide, by decide⟩
  have hcode : Wsgi.statusCode "200 OK" = .ok 200 := by rfl
  exact ⟨htag, rfl, hrequests, hcode, rfl, rfl, gateways_agree {} htag scope environ rfl hrequests 200
    "200 OK" hcode fields .iterator events 0 0 {} {} {} rfl rfl⟩

end Revalidation
