import Revalidation.Proofs.Iteration

/-!
# Closing the application's iterable

An application returns an iterable that wants to be closed.  The middleware closes it when it has read
it to the end and when something fails while it is read, and leaves the closing to the stream when it
hands the rest of the iterable to the server.  A stream closes it at its end, after a fault, or when the
server closes the stream; but a stream that the server closes without having asked it for a chunk never
does.  Nor does the middleware when reading cannot even begin.
-/

namespace Revalidation

/-- Whether an entry shows what becomes of an iterable as a whole. -/
def Entry.isFate : Entry → Bool
  | closed | returned _ | serverClosed => true
  | _ => false

namespace Exchange

variable {x y z : Exchange}

/-- What becomes of the iterables, in order: that the server got one and closed it, and that the
application's own was closed. -/
def fate (x : Exchange) : List Entry := x.journal.filter Entry.isFate

theorem fate_note (entry : Entry) :
    (x.note entry).fate = x.fate ++ if entry.isFate then [entry] else [] := by
  cases hfate : entry.isFate <;> simp [fate, note, hfate]

@[simp] theorem fate_log (event : LogEvent) : (x.log event).fate = x.fate := by
  simp [log, fate_note, Entry.isFate]

/-- Nothing that is done through responses or by the application is about an iterable as a whole. -/
theorem lasting_fate (fate : List Entry) : Lasting fun x => x.fate = fate := by
  refine .of_journal (fun h hjournal => ?_) fun x entry hentry h => ?_
  · rw [Exchange.fate, hjournal, ← h, Exchange.fate]
  · have hfate : entry.isFate = false := by
      cases entry <;> first | rfl | cases hentry
    rw [fate_note, hfate, h]
    exact List.append_nil _

theorem fate_chunk (fate : List Entry) (x : Exchange) (data : Bytes) (h : x.fate = fate) :
    (x.note (.chunk data)).fate = fate := by
  simp [fate_note, Entry.isFate, h]

theorem fate_pulled (fate : List Entry) (x : Exchange) (before : Nat) (h : x.fate = fate) :
    (x.note (.pulled before)).fate = fate := by
  simp [fate_note, Entry.isFate, h]

end Exchange

namespace Wsgi

open Revalidation.Action Exchange

variable {x y z : Exchange} {filter : EtagFilter} {request : Request} {environ : Environ}
  {app : Application} {iterable : Iterable} {response : Response} {starter : Starter}
  {item : Item} {items rest : List Item} {pulled n : Nat} {context : Context} {published : Published} {server : Server}
  {depth : Nat} {appetite : Appetite}

/-! ## The middleware -/

theorem fate_close (hkind : iterable.kind = .closing) (starter : Starter) (x : Exchange) :
    ((iterable.close starter).outcome x).2.fate = x.fate ++ [.closed] := by
  have hnote : (x.note .closed).fate = x.fate ++ [.closed] := fate_note _
  have hkept : Keeps (fun y => y.fate = x.fate ++ [.closed])
      (do
        run starter iterable.onClose
        if iterable.closeFails then throw .closeFailed) := by
    refine .bind ((lasting_fate _).keeps_run starter iterable.onClose) fun _ => ?_
    split
    · exact .throw _
    · exact .pure ()
  rw [Iterable.close, if_pos hkind, outcome_bind_ok (outcome_note _ x)]
  exact hkept _ hnote

/-- Once reading an iterable has begun, the middleware either leaves items of it to the server, or has
closed it when its work on the response is done. -/
theorem fate_answer {handler : Starter → Action Iterable}
    (hreturns : (handler (.response response)).outcome x = (.ok iterable, z))
    (hbegins : (iterable.begin (.response response)).outcome z = (.ok (), y))
    (hkind : iterable.kind = .closing) :
    (∃ s z, (answer handler response).outcome x = (.ok (some s), z) ∧ s.iterable = iterable ∧
      z.context.cachingDisabled = true ∧ z.fate = y.fate) ∨
    ∃ result z, (answer handler response).outcome x = (result, z) ∧ (∀ s, result ≠ .ok (some s)) ∧
      z.fate = y.fate ++ [.closed] := by
  have hkept := (lasting_fate y.fate).keeps_collect (fate_pulled _) iterable (.response response) response
    iterable.items 0 y rfl
  have hanswer : (answer handler response).outcome x = _ :=
    (outcome_bind_ok hreturns).trans (outcome_bind_ok hbegins)
  rw [hanswer]
  rcases hcollect : (collect iterable (.response response) response iterable.items 0).outcome y with
    ⟨fault | _ | ⟨rest, pulled⟩, z⟩ <;> rw [hcollect] at hkept
  · obtain ⟨other, hfails⟩ :=
      outcome_onFault_error (fun _ => iterable.close (.response response)) hcollect
    refine .inr ⟨_, _, outcome_bind_error hfails, nofun, ?_⟩
    rw [fate_close hkind, hkept]
  · right
    rw [outcome_bind_ok (outcome_onFault_ok hcollect)]
    have hclosed := fate_close hkind (.response response) z
    rw [hkept] at hclosed
    rcases hclose : (iterable.close (.response response)).outcome z with ⟨fault | _, w⟩ <;>
      rw [hclose] at hclosed
    · exact ⟨_, _, outcome_bind_error hclose, nofun, hclosed⟩
    · have hkept := (lasting_fate (y.fate ++ [.closed])).keeps_flush response w hclosed
      rw [outcome_bind_ok hclose, outcome_bind_ok (outcome_get w)]
      split
      · rcases hflush : response.flush.outcome w with ⟨fault | _, v⟩ <;> rw [hflush] at hkept
        · exact ⟨_, _, outcome_bind_error hflush, nofun, hkept⟩
        · exact ⟨_, _, outcome_bind_ok hflush, nofun, hkept⟩
      · exact ⟨_, _, rfl, nofun, hclosed⟩
  · refine .inl ⟨⟨iterable, rest, pulled, .response response, response⟩, z, ?_, rfl,
      disabled_of_collect hcollect, hkept⟩
    exact outcome_bind_ok (outcome_onFault_ok hcollect)

theorem fate_dispatch (filter : EtagFilter) {handler : Starter → Action Iterable}
    (hreturns : (handler (.response [0])).outcome (called context server request) = (.ok iterable, x))
    (hbegins : (iterable.begin (.response [0])).outcome x = (.ok (), y))
    (hfresh : y.fate = []) (hkind : iterable.kind = .closing) :
    (∃ s z, (filter.dispatch .sync request [] (answer handler)).outcome
        (Asgi.entered (freshExchange context .absent server) request) = (.ok (some s), z) ∧
      s.iterable = iterable ∧ z.fate = []) ∨
    ∃ result z, (filter.dispatch .sync request [] (answer handler)).outcome
        (Asgi.entered (freshExchange context .absent server) request) = (result, z) ∧
      (∀ s, result ≠ .ok (some s)) ∧ z.fate = [.closed] := by
  rw [EtagFilter.outcome_dispatch (outcome_prepare_entered context server request)]
  have hanswer := fate_answer hreturns hbegins hkind
  rw [hfresh] at hanswer
  rcases hanswer with ⟨s, z, hs, hiterable, hdisabled, hfate⟩ | ⟨result, z, hresult, hnone, hfate⟩
  · obtain ⟨event, hconclude⟩ :=
      EtagFilter.outcome_conclude_disabled filter .sync request [0] hdisabled
    refine .inl ⟨s, z.log event, ?_, hiterable, by rw [fate_log, hfate]⟩
    rw [outcome_bind_ok hs, outcome_bind_ok hconclude]
    rfl
  · right
    rcases result with fault | streaming
    · exact ⟨_, _, outcome_bind_error hresult, nofun, hfate⟩
    rw [outcome_bind_ok hresult]
    have hkept := (lasting_fate [.closed]).keeps_conclude filter .sync request [0] z hfate
    rcases hconclude : (filter.conclude .sync request [0]).outcome z with ⟨fault | _, w⟩ <;>
      rw [hconclude] at hkept
    · exact ⟨_, _, outcome_bind_error hconclude, nofun, hkept⟩
    · exact ⟨_, _, outcome_bind_ok hconclude, hnone, hkept⟩

/-- The middleware hands out a stream with the iterable still open, or has closed it by the time it
returns or fails. -/
theorem fate_handle (filter : EtagFilter) (handler : Starter → Action Iterable)
    (hreturns : (handler (.response [0])).outcome (called context server request) = (.ok iterable, x))
    (hbegins : (iterable.begin (.response [0])).outcome x = (.ok (), y))
    (hfresh : y.fate = []) (hkind : iterable.kind = .closing) :
    (∃ s z, (handle filter request handler).outcome (freshExchange context .absent server) =
        (.ok (.stream s), z) ∧ s.iterable = iterable ∧ z.fate = []) ∨
    (∃ chunks z, (handle filter request handler).outcome (freshExchange context .absent server) =
        (.ok (.body chunks), z) ∧ z.fate = [.closed]) ∨
    ∃ fault z, (handle filter request handler).outcome (freshExchange context .absent server) =
        (.error fault, z) ∧ z.fate = [.closed] := by
  rcases fate_dispatch filter hreturns hbegins hfresh hkind with
    ⟨s, z, hdispatch, hiterable, hfate⟩ | ⟨result, z, hdispatch, hnone, hfate⟩
  · exact .inl ⟨s, _, outcome_handle_stream filter request hdispatch, hiterable,
      by rw [fate_log, hfate]⟩
  have hkept := congrArg (fun result => result.2.fate) hdispatch
  right
  rcases handle_cases (lasting_fate [.closed]) (hkept.trans hfate) with hfault | hbody |
    ⟨s, _, _, hstream, -⟩
  · exact .inr hfault
  · exact .inl hbody
  · exact absurd (congrArg Prod.fst (hdispatch.symm.trans hstream)) (hnone s)

/-! ## The server -/

theorem fate_body (chunks : List Bytes) (appetite : Appetite) (x : Exchange) :
    ((consume (.body chunks) appetite).outcome x).2.fate = x.fate ++ [.returned true] := by
  have hnote : (x.note (.returned true)).fate = x.fate ++ [.returned true] := fate_note _
  have hdeliver : Keeps (fun y => y.fate = x.fate ++ [.returned true])
      (deliverAll chunks appetite) := by
    unfold deliverAll
    split
    · exact .pure ()
    · next left _ =>
      rw [discard, LawfulFunctor.map_const]
      exact .map (Lasting.keeps_deliver (fate_chunk _) chunks left)
  exact hdeliver _ hnote

/-- A server that got the iterable of the application closes it itself, even if it cannot begin to read
it. -/
theorem fate_direct (hkind : iterable.kind = .closing) (starter : Starter) (appetite : Appetite)
    (x : Exchange) :
    ((consume (.direct iterable starter) appetite).outcome x).2.fate =
      x.fate ++ [.returned false, .serverClosed, .closed] := by
  have hplain : decide (iterable.kind = .list) = false := by rw [hkind]; rfl
  have hnote : (x.note (.returned false)).fate = x.fate ++ [.returned false] := fate_note _
  let close : Action Unit := do
    if iterable.kind = .closing then
      Action.note .serverClosed
      iterable.close starter
  let read : Action Unit := do
    iterable.begin starter
    deliverItems iterable starter iterable.items 0 appetite
  have hclose (y : Exchange) (hy : y.fate = x.fate ++ [.returned false]) :
      (close.outcome y).2.fate = x.fate ++ [.returned false, .serverClosed, .closed] := by
    have hserver : close.outcome y = (iterable.close starter).outcome (y.note .serverClosed) := by
      simp only [close, hkind, if_true, outcome_bind_ok (outcome_note _ y)]
    rw [hserver, fate_close hkind, fate_note, hy]
    simp [Entry.isFate]
  have hlasts := lasting_fate (x.fate ++ [.returned false])
  have hkept := Keeps.bind (hlasts.keeps_begin iterable starter) (fun _ => hlasts.keeps_deliverItems
    (fate_chunk _) (fate_pulled _) iterable starter iterable.items 0 appetite) _ hnote
  show ((read.onFault (fun _ => close) >>= fun _ => close).outcome
    (x.note (.returned (decide (iterable.kind = .list))))).2.fate = _
  rw [hplain]
  rcases hread : read.outcome (x.note (.returned false)) with ⟨fault | _, y⟩ <;>
    rw [show _ = _ from hread] at hkept
  · obtain ⟨other, hfails⟩ := outcome_onFault_error (fun _ => close) hread
    rw [outcome_bind_error hfails]
    exact hclose y hkept
  · rw [outcome_bind_ok (outcome_onFault_ok hread)]
    exact hclose y hkept

theorem atEnd_of_deliverRest {s : Streaming} {atEnd : Bool}
    (hok : (s.deliverRest items pulled none).outcome x = (.ok atEnd, y)) : atEnd = true := by
  have hwaiting {left : Option Appetite} {z w : Exchange}
      (hdeliver : (deliverWaiting none).outcome z = (.ok left, w)) : left = some none := by
    have hall : (deliverWaiting none).outcome z = _ := outcome_deliver z.takeChunks.1 z.takeChunks.2
    rw [hall] at hdeliver
    cases hdeliver
    rfl
  induction items generalizing x pulled with
  | nil =>
      obtain ⟨_, _, -, hflush⟩ := exists_of_bind_ok hok
      obtain ⟨_, _, -, hdeliver⟩ := exists_of_bind_ok hflush
      obtain ⟨left, _, hleft, hend⟩ := exists_of_bind_ok hdeliver
      cases hend
      rw [hwaiting hleft]
      rfl
  | cons item rest ih =>
      obtain ⟨chunk, _, -, hrest⟩ := exists_of_bind_ok hok
      split at hrest
      · exact ih hrest
      · obtain ⟨_, _, -, hdeliver⟩ := exists_of_bind_ok hrest
        obtain ⟨left, _, hleft, hend⟩ := exists_of_bind_ok hdeliver
        rw [hwaiting hleft] at hend
        exact ih hend

/-- A stream closes the iterable at its end or after a fault, and leaves it open only if the server
stops asking. -/
theorem fate_run (s : Streaming) (hkind : s.iterable.kind = .closing) (appetite : Appetite)
    (x : Exchange) :
    (∃ z, (s.run appetite).outcome x = (.ok true, z) ∧ appetite ≠ none ∧ z.fate = x.fate) ∨
    ∃ result z, (s.run appetite).outcome x = (result, z) ∧ result ≠ .ok true ∧
      z.fate = x.fate ++ [.closed] := by
  have hkept := (lasting_fate x.fate).keeps_proceed (fate_chunk _) (fate_pulled _) s appetite x rfl
  rw [Streaming.run_eq]
  rcases hattempt : (s.proceed appetite).outcome x with ⟨fault | _ | _, z⟩ <;> rw [hattempt] at hkept
  · obtain ⟨other, hfails⟩ := outcome_onFault_error (fun _ => s.iterable.close s.starter) hattempt
    refine .inr ⟨_, _, outcome_bind_error hfails, nofun, ?_⟩
    rw [fate_close hkind, hkept]
  · refine .inl ⟨z, outcome_bind_ok (outcome_onFault_ok hattempt), ?_, hkept⟩
    rintro rfl
    obtain ⟨left, w, hleft, hrest⟩ := exists_of_bind_ok hattempt
    have hall : (deliverWaiting none).outcome x = _ := outcome_deliver x.takeChunks.1 x.takeChunks.2
    rw [hall] at hleft
    cases hleft
    exact Bool.false_ne_true (atEnd_of_deliverRest hrest)
  · right
    have hclosed := fate_close hkind s.starter z
    rw [hkept] at hclosed
    rcases hclose : (s.iterable.close s.starter).outcome z with ⟨fault | _, w⟩ <;> rw [hclose] at hclosed
    · exact ⟨_, _, (outcome_bind_ok (outcome_onFault_ok hattempt)).trans (outcome_bind_error hclose),
        nofun, hclosed⟩
    · exact ⟨_, _, (outcome_bind_ok (outcome_onFault_ok hattempt)).trans (outcome_bind_ok hclose),
        nofun, hclosed⟩

/-- A server has a stream closed by asking it for chunks first, and by that alone. -/
theorem fate_stream (s : Streaming) (hkind : s.iterable.kind = .closing) (appetite : Appetite)
    (hfresh : x.fate = []) :
    let fate := ((consume (.stream s) appetite).outcome x).2.fate
    (appetite = some 0 → fate = [.returned false, .serverClosed]) ∧
      (appetite = none → fate = [.returned false, .closed, .serverClosed]) ∧
      ∀ n, appetite = some (n + 1) → fate = [.returned false, .closed, .serverClosed] ∨
        fate = [.returned false, .serverClosed, .closed] := by
  have hreturned : (x.note (.returned false)).fate = [.returned false] := by
    rw [fate_note, hfresh]
    rfl
  -- What a server does that asks for a chunk at all: the iterable is closed before it or by it.
  have hasked (appetite left : Appetite) (hnext : appetite.next = some left) :
      let fate := ((consume (.stream s) appetite).outcome x).2.fate
      fate = [.returned false, .closed, .serverClosed] ∨
        left ≠ none ∧ fate = [.returned false, .serverClosed, .closed] := by
    have hconsume : (consume (.stream s) appetite).outcome x = (do
        let stillOpen ← (s.run left).onFault fun _ => Action.note .serverClosed
        Action.note .serverClosed
        if stillOpen then s.iterable.close s.starter : Action Unit).outcome (x.note (.returned false)) := by
      rw [consume, outcome_bind_ok (outcome_note _ x), hnext]
    rw [hconsume]
    rcases fate_run s hkind left (x.note (.returned false)) with
      ⟨z, hrun, hleft, hfate⟩ | ⟨fault | stillOpen, z, hrun, hopen, hfate⟩ <;>
      rw [hreturned] at hfate
    · refine .inr ⟨hleft, ?_⟩
      rw [outcome_bind_ok (outcome_onFault_ok hrun), outcome_bind_ok (outcome_note _ z)]
      show ((s.iterable.close s.starter).outcome (z.note .serverClosed)).2.fate = _
      rw [fate_close hkind, fate_note, hfate]
      rfl
    · obtain ⟨other, hfails⟩ :=
        outcome_onFault_error (fun _ => Action.note .serverClosed) hrun
      rw [outcome_bind_error hfails]
      left
      show (z.note .serverClosed).fate = _
      rw [fate_note, hfate]
      rfl
    · obtain rfl : stillOpen = false := by simpa using hopen
      rw [outcome_bind_ok (outcome_onFault_ok hrun), outcome_bind_ok (outcome_note _ z)]
      left
      show (z.note .serverClosed).fate = _
      rw [fate_note, hfate]
      rfl
  refine ⟨?_, ?_, fun n => ?_⟩ <;> rintro rfl
  · show ((x.note (.returned false)).note .serverClosed).fate = _
    rw [fate_note, hreturned]
    rfl
  · exact (hasked none none rfl).resolve_right fun h => h.1 rfl
  · exact (hasked (some (n + 1)) (some n) rfl).imp_right And.right

/-! ## The exchange -/

/-- Who starts the response for an application: a buffered response within the outermost middleware,
and otherwise the server. -/
def starterOfCall : Nat → Published → Starter
  | _ + 1, .absent => .response [0]
  | _, _ => .server

def outcomeOfCall (environ : Environ) (app : Application) (context : Context) (server : Server) :
    Nat → Published → Except Fault Iterable × Exchange
  | inner + 1, .absent =>
    (call app (.response [0]) inner).outcome (called context server environ.toRequest)
  | depth, published => (call app .server depth).outcome (freshExchange context published server)

def outcomeOfBegin (environ : Environ) (app : Application) (context : Context) (server : Server)
    (depth : Nat) (published : Published) : Except Fault Unit × Exchange :=
  (app.result.begin (starterOfCall depth published)).outcome
    (outcomeOfCall environ app context server depth published).2

/-- A request that is passed through goes to the application, and its iterable to the server. -/
theorem outcome_serve_direct (hthrough : depth = 0 ∨ published ≠ .absent)
    (hreturns : (outcomeOfCall environ app context server depth published).1 = .ok app.result) :
    ∃ y, (serve filter environ app depth).outcome (freshExchange context published server) =
      (.ok (.direct app.result .server), y) ∧ y.fate = [] := by
  have hcalls : outcomeOfCall environ app context server depth published =
      (call app .server depth).outcome (freshExchange context published server) := by
    cases depth <;> cases published <;> first | rfl | simp at hthrough
  have hkept := (lasting_fate []).keeps_call app .server depth
    (freshExchange context published server) rfl
  rw [hcalls] at hreturns
  rcases hcall : (call app .server depth).outcome (freshExchange context published server) with
    ⟨result, y⟩
  rw [hcall] at hreturns hkept
  cases hreturns
  refine ⟨y, ?_, hkept⟩
  cases depth <;> cases published <;> first | exact outcome_bind_ok hcall | simp at hthrough

/-- Within the outermost middleware the call ends in an exchange that nothing was closed in yet. -/
theorem exists_of_call {inner : Nat}
    (hreturns : (outcomeOfCall environ app context server (inner + 1) .absent).1 = .ok app.result) :
    ∃ y, (call app (.response [0]) inner).outcome (called context server environ.toRequest) =
        (.ok app.result, y) ∧
      outcomeOfBegin environ app context server (inner + 1) .absent =
        (app.result.begin (.response [0])).outcome y ∧ y.fate = [] := by
  have hkept := (lasting_fate []).keeps_call app (.response [0]) inner
    (called context server environ.toRequest) rfl
  rcases hcall : (call app (.response [0]) inner).outcome
    (called context server environ.toRequest) with ⟨result, y⟩
  rw [outcomeOfCall, hcall] at hreturns
  rw [hcall] at hkept
  cases hreturns
  refine ⟨y, rfl, ?_, hkept⟩
  rw [outcomeOfBegin, outcomeOfCall, hcall]
  rfl

/-- An iterable that cannot be begun within the outermost middleware is left alone. -/
theorem serve_unbegun (filter : EtagFilter) {inner : Nat} {fault : Fault}
    (hreturns : (outcomeOfCall environ app context server (inner + 1) .absent).1 = .ok app.result)
    (hbegins : (outcomeOfBegin environ app context server (inner + 1) .absent).1 = .error fault) :
    ∃ y, (serve filter environ app (inner + 1)).outcome (freshExchange context .absent server) =
      (.error fault, y) ∧ y.fate = [] := by
  obtain ⟨y, hcall, hbegin, hfresh⟩ := exists_of_call hreturns
  have hkept := (lasting_fate []).keeps_begin app.result (.response [0]) y hfresh
  rcases hfails : (app.result.begin (.response [0])).outcome y with ⟨result, z⟩
  rw [hbegin, hfails] at hbegins
  rw [hfails] at hkept
  cases hbegins
  have hanswer : (answer (fun starter => call app starter inner) [0]).outcome
      (called context server environ.toRequest) = (.error fault, z) :=
    (outcome_bind_ok hcall).trans (outcome_bind_error hfails)
  refine ⟨_, outcome_handle_fault filter environ.toRequest (EtagFilter.outcome_dispatch_fault
    (outcome_prepare_entered context server environ.toRequest) hanswer), ?_⟩
  exact (lasting_fate []).logFailure _ _ _ hkept

/-- What the server gets for an iterable that can be begun, and whether that is closed. -/
theorem fate_serve (filter : EtagFilter) (hkind : app.result.kind = .closing)
    (hreturns : (outcomeOfCall environ app context server depth published).1 = .ok app.result)
    (hbegins : depth = 0 ∨ published ≠ .absent ∨
      (outcomeOfBegin environ app context server depth published).1 = .ok ()) :
    (∃ s y, (serve filter environ app depth).outcome (freshExchange context published server) =
        (.ok (.stream s), y) ∧ s.iterable = app.result ∧ y.fate = []) ∨
    (∃ chunks y, (serve filter environ app depth).outcome (freshExchange context published server) =
        (.ok (.body chunks), y) ∧ y.fate = [.closed]) ∨
    (∃ fault y, (serve filter environ app depth).outcome (freshExchange context published server) =
        (.error fault, y) ∧ y.fate = [.closed]) ∨
    ∃ y, (serve filter environ app depth).outcome (freshExchange context published server) =
        (.ok (.direct app.result .server), y) ∧ y.fate = [] := by
  by_cases hthrough : depth = 0 ∨ published ≠ .absent
  · exact .inr (.inr (.inr (outcome_serve_direct hthrough hreturns)))
  rw [← or_assoc] at hbegins
  have hbegun := hbegins.resolve_left hthrough
  obtain ⟨hdepth, hpublished⟩ := not_or.1 hthrough
  obtain ⟨inner, rfl⟩ := Nat.exists_eq_succ_of_ne_zero hdepth
  obtain rfl : published = .absent := Decidable.not_not.1 hpublished
  obtain ⟨y, hcall, hbegin, hfresh⟩ := exists_of_call hreturns
  have hkept := (lasting_fate []).keeps_begin app.result (.response [0]) y hfresh
  rcases hok : (app.result.begin (.response [0])).outcome y with ⟨result, z⟩
  rw [hbegin, hok] at hbegun
  rw [hok] at hkept
  cases hbegun
  rcases fate_handle filter (fun starter => call app starter inner) hcall hok hkept hkind with
    hstream | hbody | hfault
  · exact .inl hstream
  · exact .inr (.inl hbody)
  · exact .inr (.inr (.inl hfault))

/-- An application returns an iterable that wants to be closed.  If reading it cannot begin, then its
fault leaves the outermost middleware and the iterable is never closed.  Otherwise, when the middleware
fails it has closed it, and when it returns a whole response it has closed it before; each time once.  An
iterable that is passed through is closed by the server.  A stream is closed once, by its end, by a fault
or because the server closes it, if the server has asked it for a chunk; without that it is never
closed. -/
theorem fate_of_exchange (filter : EtagFilter) (appetite : Appetite)
    (hkind : app.result.kind = .closing)
    (hreturns : (outcomeOfCall environ app context server depth published).1 = .ok app.result) :
    let x := freshExchange context published server
    let begun := (outcomeOfBegin environ app context server depth published).1
    let served := ((serve filter environ app depth).outcome x).1
    let fate := ((exchange filter environ app depth appetite).outcome x).2.fate
    (∀ fault, begun = .error fault → depth ≠ 0 → published = .absent →
      served = .error fault ∧ fate = []) ∧
      (∀ fault, begun = .ok () → served = .error fault → fate = [.closed]) ∧
      (∀ chunks, served = .ok (.body chunks) → fate = [.closed, .returned true]) ∧
      (∀ iterable starter, served = .ok (.direct iterable starter) →
        fate = [.returned false, .serverClosed, .closed]) ∧
      ∀ s, served = .ok (.stream s) →
        (appetite = some 0 → fate = [.returned false, .serverClosed]) ∧
        (appetite = none → fate = [.returned false, .closed, .serverClosed]) ∧
        ∀ n, appetite = some (n + 1) → fate = [.returned false, .closed, .serverClosed] ∨
          fate = [.returned false, .serverClosed, .closed] := by
  intro x begun served fate
  by_cases hunbegun : ∃ fault, begun = .error fault ∧ depth ≠ 0 ∧ published = .absent
  · obtain ⟨fault, hfault, hdepth, rfl⟩ := hunbegun
    obtain ⟨inner, rfl⟩ := Nat.exists_eq_succ_of_ne_zero hdepth
    obtain ⟨y, hserve, hfate⟩ := serve_unbegun filter hreturns hfault
    have hexchange : (exchange filter environ app (inner + 1) appetite).outcome x = (.error fault, y) :=
      outcome_bind_error hserve
    have hserved : served = .error fault := congrArg Prod.fst hserve
    have hleft : fate = [] := (congrArg (fun result => result.2.fate) hexchange).trans hfate
    rw [hserved, hfault]
    refine ⟨fun other heq _ _ => ?_, nofun, nofun, nofun, nofun⟩
    cases heq
    exact ⟨rfl, hleft⟩
  have hbegins : depth = 0 ∨ published ≠ .absent ∨ begun = .ok () := by
    rcases hresult : begun with fault | _
    · by_cases hdepth : depth = 0
      · exact .inl hdepth
      · exact .inr (.inl fun hpublished => hunbegun ⟨fault, hresult, hdepth, hpublished⟩)
    · exact .inr (.inr rfl)
  have hfirst : ∀ fault, begun = .error fault → depth ≠ 0 → published = .absent →
      served = .error fault ∧ fate = [] :=
    fun fault hfault hdepth hpublished => absurd ⟨fault, hfault, hdepth, hpublished⟩ hunbegun
  refine ⟨hfirst, ?_⟩
  rcases fate_serve filter hkind hreturns hbegins with
    ⟨s, y, hserve, hiterable, hfate⟩ | ⟨chunks, y, hserve, hfate⟩ | ⟨fault, y, hserve, hfate⟩ |
      ⟨y, hserve, hfate⟩
  all_goals
    have hserved : served = _ := congrArg Prod.fst hserve
    rw [hserved]
  · have hexchange : (exchange filter environ app depth appetite).outcome x =
        (consume (.stream s) appetite).outcome y := outcome_bind_ok hserve
    have hstream := fate_stream s (hiterable ▸ hkind) appetite hfate
    rw [← hexchange] at hstream
    exact ⟨nofun, nofun, nofun, fun _ _ => hstream⟩
  · have hexchange : (exchange filter environ app depth appetite).outcome x =
        (consume (.body chunks) appetite).outcome y := outcome_bind_ok hserve
    have hbody := fate_body chunks appetite y
    rw [← hexchange, hfate] at hbody
    exact ⟨nofun, fun _ _ => hbody, nofun, nofun⟩
  · have hexchange : (exchange filter environ app depth appetite).outcome x = (.error fault, y) :=
      outcome_bind_error hserve
    have hfault : fate = y.fate := congrArg (fun result => result.2.fate) hexchange
    exact ⟨fun _ _ _ => hfault.trans hfate, nofun, nofun, nofun⟩
  · have hexchange : (exchange filter environ app depth appetite).outcome x =
        (consume (.direct app.result .server) appetite).outcome y := outcome_bind_ok hserve
    have hdirect := fate_direct hkind .server appetite y
    rw [← hexchange, hfate] at hdirect
    exact ⟨nofun, nofun, fun _ _ _ => hdirect, nofun⟩

/-- A server closes a stream that it never asked for a chunk, or reading the iterable cannot begin: it
stays open. -/
theorem fate_of_exchange_unasked :
    let steps : List Step := [.changeContext "disable" .disableCaching, .start "200 OK" [] none]
    let app : Application := ⟨steps, { kind := .closing, items := [⟨[], [97]⟩, ⟨[], [98]⟩] }⟩
    let failing : Application :=
      ⟨steps, { kind := .closing, first := [.fail .runtime "x"], onClose := [.write [99]] }⟩
    let environ : Environ := ⟨[("REQUEST_METHOD", "GET")]⟩
    app.result.kind = .closing ∧
      (outcomeOfCall environ app {} {} 1 .absent).1 = .ok app.result ∧
      ((exchange {} environ app 1 (some 0)).outcome (freshExchange {} .absent {})).2.fate =
        [.returned false, .serverClosed] ∧
      failing.result.kind = .closing ∧
      (outcomeOfCall environ failing {} {} 1 .absent).1 = .ok failing.result ∧
      ((exchange {} environ failing 1 none).outcome (freshExchange {} .absent {})).2.fate = [] := by
  intro steps app failing environ
  have hreturns : (outcomeOfCall environ app {} {} 1 .absent).1 = .ok app.result := by rfl
  have hserved : ((serve {} environ app 1).outcome (freshExchange {} .absent {})).1 =
      .ok (.stream ⟨app.result, [⟨[], [98]⟩], 1, .response [0], [0]⟩) := by rfl
  obtain ⟨-, -, -, -, hstream⟩ := fate_of_exchange {} (some 0) rfl hreturns
  have hfails : (outcomeOfCall environ failing {} {} 1 .absent).1 = .ok failing.result := by rfl
  obtain ⟨hunbegun, -⟩ := fate_of_exchange {} none rfl hfails
  exact ⟨rfl, hreturns, (hstream _ hserved).1 rfl, rfl, hfails,
    (hunbegun (.raised .runtime "x") rfl Nat.one_ne_zero rfl).2⟩

end Wsgi
end Revalidation
