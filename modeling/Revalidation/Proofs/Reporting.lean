import Revalidation.Proofs.Commitment
import Revalidation.Proofs.Mirroring

/-!
# Sinks report what they sent

Any calls are made on the layers of a stack over a server that refuses nothing, and on the sink below
them.  At any time the sink is committed exactly if the server has got a start, with the status and
headers that the sink reports, and the pieces of the body that left the sink are those that were
written to it.  Over an asynchronous server these are the parts that were sent, over a synchronous one
the chunks that were taken and those that wait.  A recorder under the same layers tells what was
written.
-/

namespace Revalidation

variable {x y : Exchange} {gateway : Gateway} {response : Response}

/-! ## Steps on the layers of a stack -/

def Call.Carried (gateway : Gateway) : Call → Prop
  | setHeader name value => gateway.Carries name ∧ gateway.Carries value
  | addHeader name value => gateway.Carries name ∧ gateway.Carries value
  | _ => True

/-- A step on a stack: a call on the layer at a depth, or on the sink if the stack is not that high, or
a change of the exchange context. -/
inductive LayerStep where
  | call (depth : Nat) (call : Call)
  | changeContext (change : Context.Change)
  deriving DecidableEq, Repr

namespace LayerStep

def act (response : Response) : LayerStep → Action Unit
  | call depth made => Response.perform (response.drop depth) made
  | changeContext change => modify (·.changeContext change)

def taken (x : Exchange) : LayerStep → List Bytes
  | call _ made => if made = .takeChunks then x.takeChunks.1 else []
  | changeContext _ => []

def written? : LayerStep → Option Bytes
  | call _ made => made.written? .utf8
  | changeContext _ => none

def Carried (gateway : Gateway) : LayerStep → Prop
  | call _ made => made.Carried gateway
  | changeContext _ => True

/-- Takes steps one after another, whether they stop with a fault or not, and gives the chunks that they
took beside the exchange they leave. -/
def run (response : Response) : List LayerStep → Exchange → List Bytes × Exchange
  | [], x => ([], x)
  | step :: rest, x =>
    let (later, y) := run response rest ((step.act response).outcome x).2
    (step.taken x ++ later, y)

def runOver (t : Transport) (context : Context) (layers : List LayerKind) (steps : List LayerStep) :
    List Bytes × Exchange :=
  let x := Exchange.stacked t context layers
  run x.top steps x

variable {step : LayerStep} {steps rest : List LayerStep}

theorem run_append (response : Response) (steps rest : List LayerStep) (x : Exchange) :
    (run response (steps ++ rest) x).2 = (run response rest (run response steps x).2).2 := by
  induction steps generalizing x with
  | nil => rfl
  | cons step further ih => exact ih _

theorem run_keeps {P : Exchange → Prop} (h : Exchange.Lasting P) (response : Response)
    (steps : List LayerStep) (hx : P x) : P (run response steps x).2 := by
  induction steps generalizing x with
  | nil => exact hx
  | cons step rest ih =>
      refine ih ?_
      cases step with
      | call depth made => exact h.keeps_perform (response.drop depth) made x hx
      | changeContext change => exact h.changeContext change hx

end LayerStep

namespace Exchange

open Revalidation.Action

variable {taken pieces : List Bytes}

/-! ## What left the sink -/

theorem starts_eq_served (x : Exchange) : x.starts = x.served.filterMap Entry.start? := by
  rw [starts, served, List.filterMap_filter]
  congr 1
  funext entry
  cases entry <;> rfl

/-- The server of a gateway refuses nothing, and the pieces of the body have left the sink: they were
sent, or they were taken as chunks or wait to be. -/
def Passing (x : Exchange) (gateway : Gateway) (taken pieces : List Bytes) : Prop :=
  match gateway with
  | .asgi => ∃ e, x.Sending e ∧ e.pieces = pieces
  | .wsgi => ∃ waiting, x.Collecting [] waiting ∧ taken ++ waiting = pieces

/-- The server of a gateway has got a start with the status and headers that the sink reports if it is
committed, and nothing otherwise; and what was sent, or taken as chunks and waits to be, are the pieces
of the body. -/
def Reports (x : Exchange) (gateway : Gateway) (taken pieces : List Bytes) : Prop :=
  match gateway with
  | .asgi => ∃ e : Emission, x.sent = e.messages ∧ e.pieces = pieces ∧
      if x.transport.committed then
        ∃ fields, Asgi.Scope.decodeHeaders fields = x.transport.headers.multiItems ∧
          e.start? = some (x.transport.status, fields)
      else e = {}
  | .wsgi => x.starts =
        (if x.transport.committed then
          [(Status.line x.transport.status, x.transport.headers.multiItems)]
        else []) ∧
      taken ++ x.transport.chunks = pieces

namespace Passing

theorem reports (h : x.Passing gateway taken pieces) : x.Reports gateway taken pieces := by
  cases gateway with
  | asgi =>
      obtain ⟨e, he, hpieces⟩ := h
      refine ⟨e, he.sent_eq, hpieces, ?_⟩
      split
      · next hcommitted => exact he.of_committed hcommitted
      · next hopen => exact he.of_open (by simpa using hopen)
  | wsgi =>
      obtain ⟨waiting, hwaiting, hpieces⟩ := h
      refine ⟨?_, by rwa [Transport.chunks, hwaiting.medium_eq]⟩
      rw [starts_eq_served]
      split
      · next hcommitted =>
        rw [hwaiting.served_committed hcommitted]
        rfl
      · next hopen =>
        rw [(hwaiting.served_open (by simpa using hopen)).1]
        rfl

theorem congr (h : x.Passing gateway taken pieces) (htransport : y.transport = x.transport)
    (hserver : y.server = x.server) (hsent : y.sent = x.sent) (hserved : y.served = x.served) :
    y.Passing gateway taken pieces := by
  cases gateway with
  | asgi =>
      obtain ⟨e, he, hpieces⟩ := h
      exact ⟨e, he.congr htransport (by rw [hserver]) hsent, hpieces⟩
  | wsgi =>
      obtain ⟨waiting, hwaiting, hpieces⟩ := h
      exact ⟨waiting, hwaiting.congr htransport (by rw [hserver]) hserved, hpieces⟩

theorem carriesHeaders (h : x.Passing gateway taken pieces) :
    gateway.CarriesHeaders x.transport.headers := by
  cases gateway with
  | asgi =>
      obtain ⟨e, he, -⟩ := h
      exact he.latin1
  | wsgi => trivial

theorem charset_eq (h : x.Passing gateway taken pieces) : x.transport.charset = .utf8 := by
  cases gateway with
  | asgi =>
      obtain ⟨e, he, -⟩ := h
      rw [Transport.charset, he.medium_eq]
  | wsgi =>
      obtain ⟨waiting, hwaiting, -⟩ := h
      rw [Transport.charset, hwaiting.medium_eq]

theorem setTransport {t : Transport} (h : x.Passing gateway taken pieces)
    (hopen : x.transport.committed = false) (hmedium : t.medium = x.transport.medium)
    (hcommitted : t.committed = x.transport.committed) (hheaders : gateway.CarriesHeaders t.headers) :
    ({ x with transport := t } : Exchange).Passing gateway taken pieces := by
  cases gateway with
  | asgi =>
      obtain ⟨e, he, hpieces⟩ := h
      refine ⟨e, he.setTransport hmedium hheaders hcommitted fun hclosed => ?_, hpieces⟩
      rw [hopen] at hclosed
      cases hclosed
  | wsgi =>
      obtain ⟨waiting, hwaiting, hpieces⟩ := h
      exact ⟨waiting, hwaiting.setTransport hopen hmedium hcommitted, hpieces⟩

theorem flush (h : x.Passing gateway taken pieces) :
    ∃ y, Transport.flush.outcome x = (.ok (), y) ∧ y.Passing gateway taken pieces ∧
      x.transport.Commits y.transport ∧ Beneath x y := by
  cases gateway with
  | asgi =>
      obtain ⟨e, he, hpieces⟩ := h
      obtain ⟨y, fields, hflush, hy, htransport, hbeneath⟩ := he.flush
      exact ⟨y, hflush, ⟨_, hy, hpieces⟩, .of_eq htransport, hbeneath⟩
  | wsgi =>
      obtain ⟨waiting, hwaiting, hpieces⟩ := h
      obtain ⟨y, hflush, hy, htransport, hbeneath⟩ := hwaiting.flush
      exact ⟨y, hflush, ⟨waiting, hy, hpieces⟩, .of_eq htransport, hbeneath⟩

theorem write (h : x.Passing gateway taken pieces) (data : Bytes) :
    ∃ y, (Transport.write data).outcome x = (.ok (), y) ∧
      y.Passing gateway taken (pieces ++ chunks data) ∧ x.transport.Commits y.transport ∧
      Beneath x y := by
  cases gateway with
  | asgi =>
      obtain ⟨e, he, hpieces⟩ := h
      obtain ⟨y, fields, hwrite, hy, htransport, hbeneath⟩ := he.write data
      refine ⟨y, hwrite, ⟨_, hy, ?_⟩, .of_eq htransport, hbeneath⟩
      rw [Emission.pieces_foldl_write, ← hpieces]
      rfl
  | wsgi =>
      obtain ⟨waiting, hwaiting, hpieces⟩ := h
      obtain ⟨y, hwrite, hy, htransport, hbeneath⟩ := hwaiting.write data
      refine ⟨y, hwrite, ⟨_, hy, ?_⟩, .of_eq htransport, hbeneath⟩
      rw [← hpieces, List.append_assoc]

theorem close (h : x.Passing gateway taken pieces) :
    ∃ y, Transport.close.outcome x = (.ok (), y) ∧ y.Passing gateway taken pieces ∧
      x.transport.Commits y.transport ∧ Beneath x y := by
  cases gateway with
  | asgi =>
      obtain ⟨e, he, hpieces⟩ := h
      obtain ⟨y, fields, hclose, hy, htransport, hbeneath⟩ := he.close
      refine ⟨y, hclose, ⟨_, hy, ?_⟩, .of_eq htransport, hbeneath⟩
      rw [← hpieces]
      rfl
  | wsgi =>
      obtain ⟨waiting, hwaiting, hpieces⟩ := h
      obtain ⟨y, hflush, hy, htransport, hbeneath⟩ := hwaiting.flush
      refine ⟨y, ?_, ⟨waiting, hy, hpieces⟩, .of_eq htransport, hbeneath⟩
      simp [Transport.close, outcome_bind, hflush, hy.medium_eq]

theorem takeChunks (h : x.Passing gateway taken pieces) :
    x.takeChunks.2.Passing gateway (taken ++ x.takeChunks.1) pieces ∧ Beneath x x.takeChunks.2 ∧
      x.takeChunks.2.transport.status = x.transport.status ∧
      x.takeChunks.2.transport.headers = x.transport.headers ∧
      x.takeChunks.2.transport.committed = x.transport.committed := by
  cases gateway with
  | asgi =>
      obtain ⟨e, he, hpieces⟩ := h
      have htake : x.takeChunks = ([], x) := by rw [Exchange.takeChunks, he.medium_eq]
      rw [htake]
      exact ⟨⟨e, he, hpieces⟩, .refl x, rfl, rfl, rfl⟩
  | wsgi =>
      obtain ⟨waiting, hwaiting, hpieces⟩ := h
      have htake : x.takeChunks =
          (waiting, { x with transport := { x.transport with medium := .wsgi [] } }) := by
        rw [Exchange.takeChunks, hwaiting.medium_eq]
      rw [htake]
      refine ⟨⟨[], ⟨rfl, hwaiting.refuses_eq, fun hopen => ?_, hwaiting.served_committed⟩, ?_⟩,
        ⟨rfl, rfl, rfl, rfl⟩, rfl, rfl, rfl⟩
      · exact ⟨(hwaiting.served_open hopen).1, rfl, rfl⟩
      · rw [List.append_nil, hpieces]

end Passing

def passingOutlet (gateway : Gateway) (taken : List Bytes) : Outlet gateway where
  gets x pieces := x.Passing gateway taken pieces
  congr h htransport hserver hsent hserved := h.congr htransport hserver hsent hserved
  carriesHeaders h := h.carriesHeaders
  charset_eq h := h.charset_eq
  setTransport h hopen hmedium hcommitted hheaders := h.setTransport hopen hmedium hcommitted hheaders
  flush h := h.flush
  write data h := h.write data

def freeFrame : Frame where
  rel _ _ := True
  beneath _ _ _ := trivial
  putBuffer _ _ _ := trivial

/-! ## Steps over the recorder and the sink -/

namespace Mirrors

theorem close (h : Mirrors (passingOutlet gateway taken) freeFrame x y)
    {failed : Fault → Exchange → Exchange → Prop} :
    EndAlike (Mirrors (passingOutlet gateway taken) freeFrame) failed Transport.close x
      Transport.close y := by
  obtain ⟨w, hclose, hw, hcommits, hbeneath⟩ := h.gets.close
  refine .value ?_ hclose (h.commit hw hcommits hbeneath)
  obtain ⟨calls, hmedium⟩ := h.medium_eq
  simp [Transport.close, outcome_bind, Transport.outcome_flush_recorder h.records, hmedium]

theorem takeChunks (h : Mirrors (passingOutlet gateway taken) freeFrame x y) :
    Mirrors (passingOutlet gateway (taken ++ y.takeChunks.1)) freeFrame x.takeChunks.2
      y.takeChunks.2 := by
  obtain ⟨hgets, hbeneath, hstatus, hheaders, hcommitted⟩ := Passing.takeChunks h.gets
  obtain ⟨calls, hmedium⟩ := h.medium_eq
  have hsame : x.takeChunks.2 = x := by rw [Exchange.takeChunks, hmedium]
  rw [hsame]
  exact h.beneath hbeneath hstatus hheaders hcommitted hgets

theorem fresh (gateway : Gateway) (context : Context) (layers : List LayerKind) :
    Mirrors (passingOutlet gateway []) freeFrame (stacked (.recorder 200 .utf8 []) context layers)
      (stacked { medium := gateway.medium } context layers) where
  medium_eq := ⟨0, rfl⟩
  decorators_eq := rfl
  context_eq := rfl
  published_eq := rfl
  status_eq := rfl
  headers_eq := rfl
  committed_eq := rfl
  carries_length i b value hb hvalue := by
    have hmem : Decorator.buffer b ∈ layers.map LayerKind.fresh := by
      have hi := lt_of_decorator_eq hb
      rw [decorator, List.getD_eq_getElem?_getD, List.getElem?_eq_getElem hi] at hb
      exact hb ▸ List.getElem_mem hi
    obtain ⟨kind, -, hkind⟩ := List.mem_map.1 hmem
    cases kind <;> cases hkind
    cases hvalue
  gets := by
    cases gateway with
    | asgi =>
        exact ⟨{}, ⟨rfl, rfl, nofun, nofun, rfl, fun _ => rfl, nofun⟩, rfl⟩
    | wsgi => exact ⟨[], ⟨rfl, rfl, fun _ => ⟨rfl, rfl, rfl⟩, nofun⟩, rfl⟩
  frame := trivial

end Mirrors

/-- Calls on a layer keep the recorder and the sink alike; only chunks that are taken are told apart. -/
theorem performs_carried (gateway : Gateway) (taken : List Bytes) {made : Call}
    (hcarried : made.Carried gateway) (htake : made ≠ .takeChunks) :
    (mirroring (passingOutlet gateway taken) freeFrame (fun _ => True) fun _ => trivial).Performs
      made := by
  cases made with
  | setStatus status => exact .setStatus status
  | setHeader name value => exact .setHeader hcarried.1 hcarried.2
  | addHeader name value => exact .addHeader hcarried.1 hcarried.2
  | write data => exact .write data
  | writeText text => exact .writeText (fun _ => trivial) text
  | flush => exact .flush
  | copyBody complete => exact .copyBody complete
  | resetBuffer => exact .resetBuffer
  | close => exact .transport fun _ _ _ h => Mirrors.close h
  | takeChunks => exact absurd rfl htake
  | resetHeaders =>
      refine .transport fun _ _ _ h => .modify (Mirrors.changeTransport h .resetIgnored
        (fun _ => rfl) (fun _ => rfl) (fun _ _ hstatus _ => ⟨hstatus, rfl⟩) ?_)
      cases gateway with
      | asgi => exact (nofun : Headers.Latin1 {})
      | wsgi => trivial

namespace Mirrors

theorem act (h : Mirrors (passingOutlet gateway taken) freeFrame x y) {step : LayerStep}
    (hcarried : step.Carried gateway) :
    Mirrors (passingOutlet gateway (taken ++ step.taken y)) freeFrame
      ((step.act response).outcome x).2 ((step.act response).outcome y).2 := by
  cases step with
  | changeContext change =>
      rw [LayerStep.taken, List.append_nil]
      exact h.changeContext change trivial
  | call depth made =>
      by_cases htake : made = .takeChunks
      · subst htake
        exact h.takeChunks
      · rw [LayerStep.taken, if_neg htake, List.append_nil]
        have hperforms := performs_carried gateway taken hcarried htake
        exact (Likeness.perform _ h (response.drop depth) hperforms).rel_outcome fun _ _ _ h => h.2

theorem run (h : Mirrors (passingOutlet gateway taken) freeFrame x y) (response : Response)
    {steps : List LayerStep} (hcarried : ∀ step ∈ steps, step.Carried gateway) :
    Mirrors (passingOutlet gateway (taken ++ (LayerStep.run response steps y).1)) freeFrame
      (LayerStep.run response steps x).2 (LayerStep.run response steps y).2 := by
  -- What a step takes counts as taken from then on, so that the outlet changes along the run.
  induction steps generalizing x y taken with
  | nil => simpa [LayerStep.run] using h
  | cons step rest ih =>
      rw [List.forall_mem_cons] at hcarried
      simpa only [LayerStep.run, List.append_assoc] using ih (h.act hcarried.1) hcarried.2

end Mirrors

/-! ## Steps on the recorder itself -/

theorem medium_act {calls : Nat} {writes : List Bytes}
    (hmedium : x.transport.medium = .memory .utf8 [] calls writes) (step : LayerStep) :
    ∃ calls, ((step.act []).outcome x).2.transport.medium =
      .memory .utf8 [] calls (writes ++ step.written?.toList) := by
  have hrecords : x.Records := ⟨_, _, _, _, hmedium⟩
  -- All calls but writes leave the medium as it is.
  have hsame : ∃ calls, x.transport.medium = .memory .utf8 [] calls (writes ++ []) :=
    ⟨calls, by rw [hmedium, List.append_nil]⟩
  have hquiet {y : Exchange} (h : Quiet [] x y) :
      ∃ calls, y.transport.medium = .memory .utf8 [] calls (writes ++ []) := by
    rwa [h.medium_eq]
  have hwrite (data : Bytes) : ∃ calls, ((Transport.write data).outcome x).2.transport.medium =
      .memory .utf8 [] calls (writes ++ [data]) := by
    have haccepts : x.transport.refuses = false := by simp [Transport.refuses, hmedium]
    rw [Transport.outcome_write_accepted hrecords haccepts]
    exact ⟨calls + 1, by simp [Transport.accept, hmedium]⟩
  cases step with
  | changeContext change =>
      rw [LayerStep.act, outcome_modify, changeContext_transport]
      exact hsame
  | call depth made =>
      rw [LayerStep.act, List.drop_nil]
      cases made with
      | setStatus status => exact hquiet (quiet_setStatus [] x status)
      | setHeader name value => exact hquiet (quiet_setHeader [] x name value)
      | addHeader name value => exact hquiet (quiet_addHeader [] x name value)
      | write data => exact hwrite data
      | writeText text =>
          have hcharset : x.charset [] = .utf8 := by simp [Exchange.charset, Transport.charset, hmedium]
          simp only [Response.perform, Response.writeText, outcome_bind, outcome_get, hcharset]
          exact hwrite _
      | flush =>
          rw [Response.perform, Response.flush, Transport.outcome_flush_recorder hrecords]
          exact hsame
      | copyBody complete => exact hsame
      | resetBuffer => exact hsame
      | close =>
          simp only [Response.perform, Transport.close, outcome_bind,
            Transport.outcome_flush_recorder hrecords, outcome_get, hmedium]
          exact ⟨calls, (List.append_nil writes).symm ▸ rfl⟩
      | takeChunks =>
          rw [Response.perform, outcome_modify, takeChunks, hmedium]
          exact hsame
      | resetHeaders =>
          exact hquiet (quiet_changeTransport _ (fun t => { t with headers := {} }) (fun _ => rfl)
            fun _ => rfl)

theorem medium_run {calls : Nat} {writes : List Bytes}
    (hmedium : x.transport.medium = .memory .utf8 [] calls writes) (steps : List LayerStep) :
    ∃ calls, (LayerStep.run [] steps x).2.transport.medium =
      .memory .utf8 [] calls (writes ++ steps.filterMap LayerStep.written?) := by
  induction steps generalizing x calls writes with
  | nil => exact ⟨calls, by rw [List.filterMap_nil, List.append_nil]; exact hmedium⟩
  | cons step rest ih =>
      obtain ⟨calls, hstep⟩ := medium_act hmedium step
      obtain ⟨calls, hrest⟩ := ih hstep
      refine ⟨calls, hrest.trans ?_⟩
      cases hwritten : step.written? <;> simp [hwritten]

/-! ## What lasts -/

theorem lasting_journal (entries : List Entry) : Lasting fun x => entries <+: x.journal :=
  .of_journal (fun h heq => heq ▸ h) fun _ _ _ h => h.trans (List.prefix_append _ _)

end Exchange

open Exchange

/-- At any time what was sent is what the sink below a stack reports, and the pieces of the body are the
data that were written to the sink, in order and without the empty ones: those that a recorder keeps
which lies in its place, where the layers end up the same, and on the sink itself those that the steps
write.  Whatever steps follow, nothing of this is taken back, and a sink that is committed stays so with
its status and headers. -/
theorem reports_of_runOver (gateway : Gateway) (context : Context) (layers : List LayerKind)
    {steps later : List LayerStep} (hcarried : ∀ step ∈ steps ++ later, step.Carried gateway) :
    let after := LayerStep.runOver { medium := gateway.medium } context layers
    let x := (after steps).2
    let y := (after (steps ++ later)).2
    let recorded := (LayerStep.runOver (.recorder 200 .utf8 []) context layers steps).2
    x.Reports gateway (after steps).1 (recorded.transport.writes.flatMap chunks) ∧
      x.decorators = recorded.decorators ∧
      (layers = [] → recorded.transport.writes = steps.filterMap LayerStep.written?) ∧
      x.journal <+: y.journal ∧
      (x.transport.committed = true → Sealed x.transport y) := by
  intro after x y recorded
  let start := stacked { medium := gateway.medium } context layers
  have hmirrors := (Mirrors.fresh gateway context layers).run start.top
    fun step hstep => hcarried step (List.mem_append_left later hstep)
  have hlater : y = (LayerStep.run start.top later x).2 := LayerStep.run_append _ _ _ _
  refine ⟨Passing.reports hmirrors.gets, hmirrors.decorators_eq, fun hlayers => ?_, ?_,
    fun hcommitted => ?_⟩
  · -- Whatever its depth, a step acts on the sink itself.
    subst hlayers
    obtain ⟨calls, hmedium⟩ := medium_run
      (x := stacked (.recorder 200 .utf8 []) context []) rfl steps
    show Transport.writes (LayerStep.run [] steps _).2.transport = _
    rw [Transport.writes, hmedium]
    exact List.nil_append _
  · rw [hlater]
    exact LayerStep.run_keeps (lasting_journal x.journal) start.top later (List.prefix_refl _)
  · rw [hlater]
    exact LayerStep.run_keeps (lasting_sealed x.transport) start.top later ⟨hcommitted, rfl, rfl⟩

/-- A handler composes a response in a buffer and flushes it; the chunk is taken, and then it tries to
change the status and writes more. -/
theorem reports_of_runOver_created :
    let steps : List LayerStep := [.call 0 (.setStatus 201), .call 0 (.setHeader "X-Tag" "a"),
      .call 0 (.write [104, 105]), .call 0 .flush, .call 1 .takeChunks]
    let later : List LayerStep := [.call 0 (.setStatus 404), .call 0 (.write [33])]
    let after := LayerStep.runOver { medium := Gateway.wsgi.medium } {} [.buffer true]
    (∀ step ∈ steps ++ later, step.Carried .wsgi) ∧
      (after steps).2.starts = [("201 Created", [("x-tag", "a")])] ∧
      (after steps).1 ++ (after steps).2.transport.chunks = [[104, 105]] ∧
      (after (steps ++ later)).2.transport.status = 201 := by
  intro steps later after
  have hcarried : ∀ step ∈ steps ++ later, step.Carried .wsgi := by
    simp [steps, later, LayerStep.Carried, Call.Carried, Gateway.Carries]
  have hcommitted : (after steps).2.transport.committed = true := by decide +kernel
  obtain ⟨⟨hstarts, hpieces⟩, -, -, -, hlater⟩ :=
    reports_of_runOver .wsgi {} [.buffer true] hcarried
  refine ⟨hcarried, hstarts.trans ?_, hpieces.trans ?_, (hlater hcommitted).status_eq.trans ?_⟩
  · decide +kernel
  · decide +kernel
  · decide +kernel

end Revalidation
