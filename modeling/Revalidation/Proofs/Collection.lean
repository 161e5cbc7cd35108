import Revalidation.Proofs.Relay
import Revalidation.Wsgi.Server

/-!
# Handing out to a synchronous server

What a synchronous server has got at any time: nothing as long as the transport is open, and then the
start of the response with the chunks handed out so far.  Other chunks wait at the transport until the
server asks for them.  `Collecting` is the invariant, and each operation keeps it while the server does
not refuse the start.
-/

namespace Revalidation

/-- Whether an entry shows something that reached a synchronous server. -/
def Entry.isServed : Entry → Bool
  | responseStarted _ _ => true
  | startFailed => true
  | serverWrote _ => true
  | chunk _ => true
  | _ => false

def Entry.chunk? : Entry → Option Bytes
  | chunk data => some data
  | _ => none

namespace Exchange

variable {x y : Exchange} {i : Nat} {b : Buffer} {handed waiting : List Bytes} {t : Transport}

def served (x : Exchange) : List Entry := x.journal.filter Entry.isServed

theorem served_note (entry : Entry) :
    (x.note entry).served = x.served ++ if entry.isServed then [entry] else [] := by
  cases hserved : entry.isServed <;> simp [served, note, hserved]

@[simp] theorem served_log (event : LogEvent) : (x.log event).served = x.served := by
  simp [log, served_note, Entry.isServed]

def handing (x : Exchange) (chunks : List Bytes) : Exchange :=
  { x with journal := x.journal ++ chunks.map .chunk }

theorem served_handing (chunks : List Bytes) :
    (x.handing chunks).served = x.served ++ chunks.map .chunk := by
  have hchunks : (chunks.map Entry.chunk).filter Entry.isServed = chunks.map .chunk := by
    rw [List.filter_eq_self]
    intro entry hentry
    obtain ⟨chunk, -, rfl⟩ := List.mem_map.1 hentry
    rfl
  rw [served, handing, List.filter_append, hchunks, ← served]

def startedResponse (x : Exchange) : Exchange :=
  ({ x with transport := { x.transport with committed := true } }.note
    (.responseStarted (Status.line x.transport.status) x.transport.headers.multiItems)).log
    (.started .wsgi x.transport.status x.transport.headers.size)

theorem served_startedResponse : x.startedResponse.served =
    x.served ++ [.responseStarted (Status.line x.transport.status) x.transport.headers.multiItems] := by
  simp only [startedResponse, served_log, served_note, Entry.isServed, if_true]
  rfl

theorem outcome_startResponse (hrefuses : x.server.refusesStart = false) :
    (Transport.announce .wsgi).outcome x = (.ok (), x.startedResponse) := by
  simp [Transport.announce, Action.outcome_bind, Transport.markCommitted, Transport.startResponse,
    hrefuses, startedResponse]

theorem outcome_deliver (chunks : List Bytes) (x : Exchange) :
    (Wsgi.deliver chunks none).outcome x = (.ok (some none), x.handing chunks) := by
  induction chunks generalizing x with
  | nil => simp [Wsgi.deliver, handing]
  | cons chunk rest ih =>
      simp only [Wsgi.deliver, Action.outcome_bind, Action.outcome_note, Wsgi.Appetite.next, ih]
      simp [handing, note]

open Revalidation.Action

/-- The server does not refuse the start, and has got it with the chunks handed out, or nothing as long
as the transport is open. -/
structure Collecting (x : Exchange) (handed waiting : List Bytes) : Prop where
  medium_eq : x.transport.medium = .wsgi waiting
  refuses_eq : x.server.refusesStart = false
  served_open : x.transport.committed = false → x.served = [] ∧ handed = [] ∧ waiting = []
  served_committed : x.transport.committed = true →
    x.served = .responseStarted (Status.line x.transport.status) x.transport.headers.multiItems ::
      handed.map .chunk

namespace Collecting

theorem chunks_eq (h : x.Collecting handed waiting) :
    x.journal.filterMap Entry.chunk? = handed := by
  have hserved : x.journal.filterMap Entry.chunk? = x.served.filterMap Entry.chunk? := by
    rw [served, List.filterMap_filter]
    congr
    funext entry
    cases entry <;> rfl
  have hchunks : (handed.map Entry.chunk).filterMap Entry.chunk? = handed := by
    rw [List.filterMap_map]
    exact List.filterMap_some
  rw [hserved]
  rcases Bool.eq_false_or_eq_true x.transport.committed with hcommitted | hopen
  · rw [h.served_committed hcommitted]
    exact hchunks
  · obtain ⟨hnone, rfl, -⟩ := h.served_open hopen
    rw [hnone]
    rfl

theorem congr (h : x.Collecting handed waiting) (htransport : y.transport = x.transport)
    (hserver : y.server.refusesStart = x.server.refusesStart) (hserved : y.served = x.served) :
    y.Collecting handed waiting := by
  refine ⟨?_, ?_, ?_, ?_⟩
  · rw [htransport, h.medium_eq]
  · rw [hserver, h.refuses_eq]
  · rw [htransport, hserved]
    exact h.served_open
  · rw [htransport, hserved]
    exact h.served_committed

theorem setTransport (h : x.Collecting handed waiting) (hopen : x.transport.committed = false)
    (hmedium : t.medium = x.transport.medium) (hcommitted : t.committed = x.transport.committed) :
    ({ x with transport := t } : Exchange).Collecting handed waiting where
  medium_eq := hmedium.trans h.medium_eq
  refuses_eq := h.refuses_eq
  served_open _ := h.served_open hopen
  served_committed ht := by
    have hclosed : t.committed = true := ht
    rw [hcommitted, hopen] at hclosed
    cases hclosed

theorem flush (h : x.Collecting handed waiting) :
    ∃ y, Transport.flush.outcome x = (.ok (), y) ∧ y.Collecting handed waiting ∧
      y.transport = { x.transport with committed := true } ∧ Beneath x y := by
  rcases Bool.eq_false_or_eq_true x.transport.committed with hcommitted | hopen
  · refine ⟨x, ?_, h, ?_, .refl x⟩
    · simp [Transport.flush, outcome_bind, h.medium_eq, hcommitted]
    · rw [← hcommitted]
  · obtain ⟨hnone, hhanded, -⟩ := h.served_open hopen
    refine ⟨x.startedResponse, ?_, ⟨h.medium_eq, h.refuses_eq, (fun hopen => by cases hopen),
      fun _ => ?_⟩, rfl, ⟨rfl, rfl, rfl, rfl⟩⟩
    · simp [Transport.flush, outcome_bind, h.medium_eq, hopen, outcome_startResponse h.refuses_eq]
    · rw [served_startedResponse, hnone, hhanded]
      rfl

theorem write (h : x.Collecting handed waiting) (data : Bytes) :
    ∃ y, (Transport.write data).outcome x = (.ok (), y) ∧
      y.Collecting handed (waiting ++ chunks data) ∧
      y.transport =
        { x.transport with medium := .wsgi (waiting ++ chunks data), committed := true } ∧
      Beneath x y := by
  obtain ⟨y, hflush, hy, htransport, hbeneath⟩ := h.flush
  have hcommitted : y.transport.committed = true := by rw [htransport]
  by_cases hempty : data = []
  · refine ⟨y, ?_, by simpa [chunks, hempty] using hy, ?_, hbeneath⟩
    · simp [Transport.write, outcome_bind, h.medium_eq, hflush, hempty]
    · simp [htransport, chunks, hempty, ← h.medium_eq]
  · refine ⟨{ y with transport := { y.transport with medium := .wsgi (waiting ++ [data]) } }, ?_,
      ⟨?_, hy.refuses_eq, ?_, hy.served_committed⟩, ?_, hbeneath.trans ⟨rfl, rfl, rfl, rfl⟩⟩
    · simp [Transport.write, outcome_bind, h.medium_eq, hflush, hempty, Transport.setMedium]
    · rw [chunks, if_neg hempty]
    · intro hopen
      have hopen : y.transport.committed = false := hopen
      rw [hcommitted] at hopen
      cases hopen
    · simp [htransport, chunks, hempty]

theorem handing (h : x.Collecting handed waiting) :
    (x.takeChunks.2.handing x.takeChunks.1).Collecting (handed ++ waiting) [] ∧
      (x.takeChunks.2.handing x.takeChunks.1).transport =
        { x.transport with medium := .wsgi [] } ∧
      Beneath x (x.takeChunks.2.handing x.takeChunks.1) := by
  let z : Exchange := { x with transport := { x.transport with medium := .wsgi [] } }
  have hsame : z.served = x.served := rfl
  have htake : x.takeChunks = (waiting, z) := by rw [takeChunks, h.medium_eq]
  rw [htake]
  refine ⟨⟨rfl, h.refuses_eq, fun hopen => ?_, fun hcommitted => ?_⟩, rfl, ⟨rfl, rfl, rfl, rfl⟩⟩
  · obtain ⟨hnone, hhanded, hwaiting⟩ := h.served_open hopen
    rw [served_handing, hsame, hnone, hwaiting, hhanded]
    exact ⟨rfl, rfl, rfl⟩
  · rw [served_handing, hsame, h.served_committed hcommitted, List.map_append]
    rfl

theorem deliverWaiting (h : x.Collecting handed waiting) :
    ∃ y, (Wsgi.deliverWaiting none).outcome x = (.ok (some none), y) ∧
      y.Collecting (handed ++ waiting) [] ∧
      y.transport = { x.transport with medium := .wsgi [] } ∧ Beneath x y :=
  ⟨_, outcome_deliver x.takeChunks.1 x.takeChunks.2, h.handing⟩

end Collecting
end Exchange
end Revalidation
