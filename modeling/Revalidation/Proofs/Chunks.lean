import Revalidation.Proofs.Iteration
import Revalidation.Proofs.Recording

/-!
# The chunks of a synchronous exchange

A synchronous application produces its body in four places: it writes while it is called, its iterable
gives chunks, and it writes between them and when the iterable is closed.  The server that consumes the
exchange to the end gets one start of the response and after it exactly this body, in chunks that are not
empty, unless the filter answers that the response was not modified.  Only what is written when the
iterable of a stream is closed never reaches the server.
-/

namespace Revalidation.Wsgi

open Revalidation.Action Exchange

variable {filter : EtagFilter} {request : Request} {app : Application} {step : Step}

/-! ## What an application produces -/

def Step.calls : Step → List Call
  | start line headers _ => startCalls headers (statusCode line)
  | write data => [.write data]
  | attempt step => step.calls
  | _ => []

def Step.body : Step → Bytes
  | write data => data
  | attempt step => step.body
  | _ => []

def Item.body (item : Item) : Bytes := item.steps.flatMap Step.body ++ item.chunk

/-- All bytes that an application writes or its iterable gives, in the order in which they are
produced. -/
def Application.body (app : Application) : Bytes :=
  app.opening.flatMap Step.body ++ app.result.items.flatMap Item.body ++
    app.result.last.flatMap Step.body ++ app.result.closeSteps.flatMap Step.body

/-- The bytes that come too late for the server: those that are written when the iterable of a stream is
closed. -/
def Application.lost (app : Application) : Bytes :=
  if app.streams then app.result.closeSteps.flatMap Step.body else []

/-- The application leaves caching enabled, its response gets a tag by the rule of the filter, and the
request names it. -/
def Unmodified (filter : EtagFilter) (request : Request) (app : Application) : Prop :=
  let calls := app.allSteps.flatMap Step.calls
  app.allSteps.any Step.disables = false ∧
    filter.isEligible request.method ((lastStatus? calls).getD 200)
      ((passedHeaders {} calls).get? "Cache-Control") = true ∧
    filter.Matches request app.body

/-! ## What an application comes down to -/

theorem calls_script (step : Step) : Handler.calls step.script = step.calls := by
  have hmap (calls : List Call) : Handler.calls (calls.map .call) = calls := by
    induction calls with
    | nil => rfl
    | cons call rest ih => exact congrArg (call :: ·) ih
  induction step with
  | start line headers cause => exact hmap _
  | attempt step ih => exact ih
  | _ => rfl

theorem disables_script (step : Step) :
    step.script.any HandlerStep.disables = step.disables := by
  induction step with
  | start line headers cause =>
      rw [Step.script, List.any_map]
      exact List.any_eq_false.2 fun _ _ => Bool.false_ne_true
  | changeContext name change => cases change <;> rfl
  | attempt step ih => exact ih
  | _ => rfl

theorem calls_flatMap (steps : List Step) :
    Handler.calls (steps.flatMap Step.script) = steps.flatMap Step.calls := by
  induction steps with
  | nil => rfl
  | cons step rest ih =>
      rw [List.flatMap_cons, List.flatMap_cons, ← ih, ← calls_script]
      exact List.filterMap_append

theorem disables_flatMap (steps : List Step) :
    (steps.flatMap Step.script).any HandlerStep.disables = steps.any Step.disables := by
  rw [List.any_flatMap]
  exact congrArg (steps.any ·) (funext disables_script)

theorem calls_item (item : Item) : Handler.calls item.script =
    item.steps.flatMap Step.calls ++ (chunks item.chunk).map .write := by
  have hchunks : Handler.calls ((chunks item.chunk).map fun chunk => .call (.write chunk)) =
      (chunks item.chunk).map .write := by
    unfold chunks
    split <;> rfl
  rw [← calls_flatMap, ← hchunks]
  exact List.filterMap_append

theorem writtenBytes_calls (step : Step) : writtenBytes .utf8 step.calls = step.body := by
  induction step with
  | start line headers cause =>
      rw [Step.calls]
      cases statusCode line with
      | error fault => rfl
      | ok code => simp [startCalls, writtenBytes, Call.bytes, Step.body, List.flatMap_map]
  | write data => exact List.append_nil data
  | attempt step ih => exact ih
  | _ => rfl

theorem writtenBytes_flatMap (steps : List Step) :
    writtenBytes .utf8 (steps.flatMap Step.calls) = steps.flatMap Step.body := by
  rw [writtenBytes, List.flatMap_assoc]
  exact congrArg (steps.flatMap ·) (funext writtenBytes_calls)

theorem writtenBytes_chunks (data : Bytes) :
    writtenBytes .utf8 ((chunks data).map .write) = data := by
  unfold chunks
  split
  · next hempty => exact hempty.symm
  · exact List.append_nil data

theorem writtenBytes_item (item : Item) :
    writtenBytes .utf8 (Handler.calls item.script) = item.body := by
  rw [calls_item, writtenBytes_append, writtenBytes_flatMap, writtenBytes_chunks, Item.body]

theorem head_chunks (data : Bytes) (h : Headers) :
    lastStatus? ((chunks data).map .write) = none ∧
      passedHeaders h ((chunks data).map .write) = h := by
  unfold chunks
  split <;> exact ⟨rfl, rfl⟩

namespace Iterable

variable (iterable : Iterable) (items : List Item)

theorem calls_script_cons (item : Item) : Handler.calls (iterable.script (item :: items)) =
    Handler.calls item.script ++ Handler.calls (iterable.script items) := by
  rw [script_cons]
  exact List.filterMap_append

theorem writtenBytes_script : writtenBytes .utf8 (Handler.calls (iterable.script items)) =
    items.flatMap Item.body ++ iterable.last.flatMap Step.body := by
  induction items with
  | nil => exact (congrArg _ (calls_flatMap iterable.last)).trans (writtenBytes_flatMap _)
  | cons item rest ih =>
      rw [calls_script_cons, writtenBytes_append, writtenBytes_item, ih, List.flatMap_cons,
        List.append_assoc]

theorem lastStatus?_script : lastStatus? (Handler.calls (iterable.script items)) =
    lastStatus? ((iterable.stepsFrom items).flatMap Step.calls) := by
  induction items with
  | nil => exact congrArg _ (calls_flatMap iterable.last)
  | cons item rest ih =>
      rw [calls_script_cons, stepsFrom_cons, calls_item, List.flatMap_append, lastStatus?_append,
        lastStatus?_append, lastStatus?_append, (head_chunks item.chunk {}).1, ih, Option.none_or]

theorem passedHeaders_script (h : Headers) : passedHeaders h (Handler.calls (iterable.script items)) =
    passedHeaders h ((iterable.stepsFrom items).flatMap Step.calls) := by
  induction items generalizing h with
  | nil => exact congrArg _ (calls_flatMap iterable.last)
  | cons item rest ih =>
      rw [calls_script_cons, stepsFrom_cons, calls_item, List.flatMap_append, passedHeaders_append,
        passedHeaders_append, passedHeaders_append, (head_chunks item.chunk _).2, ih]

theorem disables_stepsFrom : (iterable.script items).any HandlerStep.disables =
    (iterable.stepsFrom items).any Step.disables := by
  induction items with
  | nil => exact disables_flatMap iterable.last
  | cons item rest ih =>
      have hchunks :
          ((chunks item.chunk).map fun chunk => HandlerStep.call (.write chunk)).any
            HandlerStep.disables = false := by
        unfold chunks
        split <;> rfl
      rw [script_cons, stepsFrom_cons, Item.script, List.any_append, List.any_append, List.any_append,
        disables_flatMap, hchunks, Bool.or_false, ih]

end Iterable

namespace Application

def closing (app : Application) : List Step := if app.streams then [] else app.result.closeSteps

theorem script_eq (app : Application) : app.script = app.opening.flatMap Step.script ++
    (app.result.script app.result.items ++ app.closing.flatMap Step.script) := by
  unfold script closing
  split <;> rfl

theorem calls_script_append (app : Application) : Handler.calls app.script =
    app.opening.flatMap Step.calls ++ (Handler.calls (app.result.script app.result.items) ++
      app.closing.flatMap Step.calls) := by
  rw [script_eq, ← calls_flatMap, ← calls_flatMap]
  exact List.filterMap_append.trans (congrArg _ List.filterMap_append)

theorem writtenBytes_script (app : Application) :
    writtenBytes .utf8 (Handler.calls app.script) ++ app.lost = app.body := by
  have hclosing : app.closing.flatMap Step.body ++ app.lost =
      app.result.closeSteps.flatMap Step.body := by
    unfold closing lost
    split
    · rfl
    · exact List.append_nil _
  rw [calls_script_append, writtenBytes_append, writtenBytes_append, writtenBytes_flatMap,
    writtenBytes_flatMap, Iterable.writtenBytes_script, body, ← hclosing]
  simp only [List.append_assoc]

theorem closing_of_enabled (henabled : app.allSteps.any Step.disables = false) :
    app.closing = app.result.closeSteps ∧ app.lost = [] := by
  have hstreams : app.streams = false := by
    rw [allSteps, Iterable.stepsFrom, ← List.append_assoc, ← List.append_assoc, List.any_append,
      List.any_append, Bool.or_eq_false_iff, Bool.or_eq_false_iff] at henabled
    rw [streams, henabled.1.1, Bool.and_false]
  rw [closing, lost, hstreams]
  exact ⟨rfl, rfl⟩

theorem disables_script (app : Application) :
    app.script.any HandlerStep.disables = app.allSteps.any Step.disables := by
  have hitems (hstreams : app.streams = true) :
      (app.opening ++ app.result.stepsFrom app.result.items).any Step.disables = true := by
    rw [streams, Bool.and_eq_true] at hstreams
    rw [Iterable.stepsFrom, ← List.append_assoc, List.any_append, hstreams.2, Bool.true_or]
  have hall : app.allSteps.any Step.disables =
      ((app.opening ++ app.result.stepsFrom app.result.items).any Step.disables ||
        app.result.closeSteps.any Step.disables) := by
    rw [allSteps, ← List.append_assoc, List.any_append]
  rw [script_eq, List.any_append, List.any_append, disables_flatMap, Iterable.disables_stepsFrom,
    disables_flatMap, ← Bool.or_assoc, ← List.any_append, hall]
  unfold closing
  split
  · next hstreams => rw [hitems hstreams, Bool.true_or, Bool.true_or]
  · rfl

/-- The filter decides on an application as on the handler that it comes down to. -/
theorem unmodified_script (filter : EtagFilter) (request : Request) (app : Application) :
    Handler.Unmodified filter request app.script ↔ Unmodified filter request app := by
  let calls := app.allSteps.flatMap Step.calls
  have hcalls (henabled : app.allSteps.any Step.disables = false) :
      lastStatus? (Handler.calls app.script) = lastStatus? calls ∧
        passedHeaders {} (Handler.calls app.script) = passedHeaders {} calls ∧
        writtenBytes .utf8 (Handler.calls app.script) = app.body := by
    obtain ⟨hclosing, hlost⟩ := closing_of_enabled henabled
    refine ⟨?_, ?_, ?_⟩
    · rw [calls_script_append, hclosing, lastStatus?_append, lastStatus?_append,
        Iterable.lastStatus?_script, ← lastStatus?_append, ← lastStatus?_append, ← List.flatMap_append,
        ← List.flatMap_append, ← allSteps]
    · rw [calls_script_append, hclosing, passedHeaders_append, passedHeaders_append,
        Iterable.passedHeaders_script, ← passedHeaders_append, ← passedHeaders_append,
        ← List.flatMap_append, ← List.flatMap_append, ← allSteps]
    · rw [← writtenBytes_script, hlost, List.append_nil]
  constructor
  · rintro ⟨henabled, heligible, hnamed⟩
    rw [disables_script] at henabled
    obtain ⟨hstatus, hheaders, hbody⟩ := hcalls henabled
    rw [hstatus, hheaders] at heligible
    rw [hbody] at hnamed
    exact ⟨henabled, heligible, hnamed⟩
  · rintro ⟨henabled, heligible, hnamed⟩
    obtain ⟨hstatus, hheaders, hbody⟩ := hcalls henabled
    refine ⟨(disables_script app).trans henabled, ?_, ?_⟩
    · rw [hstatus, hheaders]
      exact heligible
    · rw [hbody]
      exact hnamed

end Application

theorem plays_script {started : Bool} (hstep : step.Answers started) :
    ∀ played ∈ step.script, played.Plays := by
  induction hstep with
  | @start started line code hcode headers =>
      rw [Step.script, hcode, startCalls, List.map_cons, List.map_map, List.forall_mem_cons,
        List.forall_mem_map]
      exact ⟨.setStatus code, fun header _ => .addHeader header.1 header.2⟩
  | write data => exact List.forall_mem_singleton.2 (.write data)
  | disable name => exact List.forall_mem_singleton.2 .disable
  | attempt _ ih => exact ih
  | caught kind text => exact List.forall_mem_nil _

theorem plays_flatMap {started : Bool} {steps : List Step} (hsteps : Answering started steps) :
    ∀ played ∈ steps.flatMap Step.script, played.Plays := by
  induction steps generalizing started with
  | nil => exact List.forall_mem_nil _
  | cons step rest ih =>
      rw [List.flatMap_cons, List.forall_mem_append]
      exact ⟨plays_script hsteps.1, ih hsteps.2⟩

theorem plays_items {started : Bool} {iterable : Iterable} {items : List Item} {further : List Step}
    (hsteps : Answering started (iterable.stepsFrom items ++ further)) :
    ∀ played ∈ iterable.script items ++ further.flatMap Step.script, played.Plays := by
  induction items generalizing started with
  | nil =>
      have hscript : iterable.script [] ++ further.flatMap Step.script =
          (iterable.last ++ further).flatMap Step.script := List.flatMap_append.symm
      rw [hscript]
      exact plays_flatMap hsteps
  | cons item rest ih =>
      rw [Iterable.stepsFrom_cons, List.append_assoc, answering_append] at hsteps
      have hchunk : ∀ played ∈ (chunks item.chunk).map fun chunk => HandlerStep.call (.write chunk),
          played.Plays := List.forall_mem_map.2 fun chunk _ => .write chunk
      rw [Iterable.script_cons, List.append_assoc, Item.script, List.forall_mem_append,
        List.forall_mem_append]
      exact ⟨⟨plays_flatMap hsteps.1, hchunk⟩, ih hsteps.2⟩

theorem Application.Answers.plays (happ : app.Answers) : ∀ played ∈ app.script, played.Plays := by
  have hanswering := happ.answering
  rw [Application.allSteps, answering_append] at hanswering
  have hall := plays_items hanswering.2
  rw [List.forall_mem_append] at hall
  rw [Application.script_eq, List.forall_mem_append, List.forall_mem_append]
  refine ⟨plays_flatMap hanswering.1, hall.1, ?_⟩
  unfold Application.closing
  split
  · exact List.forall_mem_nil _
  · exact hall.2

/-! ## What the server gets -/

/-- A server that does not refuse the start and consumes an exchange to the end starts the response once,
and then gets chunks that are not empty.  If the client has the body already and caching is left enabled,
there are none.  Otherwise they make up what the application produced, but for what comes too late. -/
theorem chunks_of_exchange (filter : EtagFilter) (environ : Environ) (happ : app.Answers)
    (depth : Nat) (context : Context) (server : Server) (hrefuses : server.refusesStart = false) :
    ∃ y line fields chunks,
      (exchange filter environ app (depth + 1) none).outcome
        (freshExchange context .absent server) = (.ok (), y) ∧
      y.served = .responseStarted line fields :: chunks.map .chunk ∧
      (∀ chunk ∈ chunks, chunk ≠ []) ∧
      (Unmodified filter environ.toRequest app →
        line = Status.line notModifiedStatus ∧ chunks = []) ∧
      (¬Unmodified filter environ.toRequest app → chunks.flatten ++ app.lost = app.body) := by
  let request := environ.toRequest
  obtain ⟨y, z, hexchange, hrecord, hserved⟩ := served_of_recorded filter environ happ
    ⟨rfl, rfl⟩ .sync depth context server hrefuses
  obtain ⟨hmatch, hbody⟩ := Handler.transport_of_record happ.plays hrecord
  rw [Application.unmodified_script] at hmatch hbody
  refine ⟨y, _, _, _, hexchange, hserved, ?_, fun h => ?_, fun h => ?_⟩
  · intro chunk hchunk
    obtain ⟨data, -, hdata⟩ := List.mem_flatMap.1 hchunk
    exact ne_of_mem_chunks hdata
  · obtain ⟨hstatus, hwrites⟩ := hmatch h
    rw [hstatus, hwrites]
    exact ⟨rfl, rfl⟩
  · have hwritten : (z.transport.writes.flatMap chunks).flatten =
        writtenBytes .utf8 (Handler.calls app.script) :=
      (flatten_flatMap_chunks _).trans (hbody h)
    rw [hwritten, Application.writtenBytes_script]

/-- An application that disables caching inside its iterable, next to an empty chunk, and writes once
more when the iterable is through.  What it writes when the stream closes the iterable is lost, and
without a stream it is not. -/
theorem chunks_of_exchange_abcde :
    let items : List Item := [⟨[], []⟩, ⟨[.write [98]], [99]⟩,
      ⟨[.changeContext "disable" .disableCaching, .attempt (.write [100])], []⟩]
    let app (items : List Item) : Application :=
      ⟨[.start "200 OK" [("Content-Length", "9")] none, .write [97]],
        { kind := .closing, items := items, last := [.write [101]], onClose := [.write [102]] }⟩
    let environ : Environ := ⟨[("REQUEST_METHOD", "GET"), ("HTTP_IF_NONE_MATCH", "*")]⟩
    (app items).Answers ∧ (app []).Answers ∧ ({} : Server).refusesStart = false ∧
      ¬Unmodified {} environ.toRequest (app items) ∧ ¬Unmodified {} environ.toRequest (app []) ∧
      (∃ (y : Exchange) (line : String) (fields : List (String × String)) (chunks : List Bytes),
        (exchange {} environ (app items) 2 none).outcome (freshExchange {} .absent {}) = (.ok (), y) ∧
        y.served = .responseStarted line fields :: chunks.map .chunk ∧
        (∀ chunk ∈ chunks, chunk ≠ []) ∧ chunks.flatten = [97, 98, 99, 100, 101]) ∧
      ∃ (y : Exchange) (line : String) (fields : List (String × String)) (chunks : List Bytes),
        (exchange {} environ (app []) 2 none).outcome (freshExchange {} .absent {}) = (.ok (), y) ∧
        y.served = .responseStarted line fields :: chunks.map .chunk ∧
        chunks.flatten = [97, 101, 102] := by
  intro items app environ
  have hcode : statusCode "200 OK" = .ok 200 := by rfl
  have happ : (app items).Answers :=
    ⟨⟨.start hcode _, .write _, .write _, .disable _, .attempt (.write _), .write _, .write _, trivial⟩,
      fun _ => rfl⟩
  have hshort : (app []).Answers :=
    ⟨⟨.start hcode _, .write _, .write _, .write _, trivial⟩, fun _ => rfl⟩
  have hmodified : ¬Unmodified {} environ.toRequest (app items) := fun h => absurd h.1 (by decide)
  have htag : environ.toRequest.headers.get? "If-None-Match" ≠
      some (({} : EtagFilter).tag (app []).body) := by decide +kernel
  have hdiffers : ¬Unmodified {} environ.toRequest (app []) := fun h => htag h.2.2
  obtain ⟨y, line, fields, chunks, hexchange, hserved, hchunks, -, hbody⟩ :=
    chunks_of_exchange {} environ happ 1 {} {} rfl
  obtain ⟨z, line', fields', chunks', hexchange', hserved', -, -, hbody'⟩ :=
    chunks_of_exchange {} environ hshort 1 {} {} rfl
  have hstreamed : chunks.flatten ++ [102] = [97, 98, 99, 100, 101] ++ [102] := hbody hmodified
  have hwhole : chunks'.flatten ++ [] = [97, 101, 102] := hbody' hdiffers
  exact ⟨happ, hshort, rfl, hmodified, hdiffers,
    ⟨y, line, fields, chunks, hexchange, hserved, hchunks, List.append_cancel_right hstreamed⟩,
    z, line', fields', chunks', hexchange', hserved', (List.append_nil _).symm.trans hwhole⟩

end Revalidation.Wsgi
