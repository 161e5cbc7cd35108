import Revalidation.Proofs.Layers

/-!
# Transports that record in memory

A transport in memory keeps the writes it accepts and counts those it refuses.  A write either is
recorded as a whole or changes nothing but the count.
-/

namespace Revalidation

variable {x y : Exchange} {response : Response} {data : Bytes}

def Transport.Records (t : Transport) : Prop :=
  ∃ charset failing calls writes, t.medium = .memory charset failing calls writes

namespace Exchange

def Records (x : Exchange) : Prop := x.transport.Records

theorem Quiet.records (h : Quiet response x y) (hx : x.Records) : y.Records := by
  obtain ⟨charset, failing, calls, writes, hmedium⟩ := hx
  exact ⟨charset, failing, calls, writes, by rw [h.medium_eq, hmedium]⟩

end Exchange

namespace Transport

def refuses (t : Transport) : Bool :=
  match t.medium with
  | .memory _ failing calls _ => failing.contains (calls + 1)
  | _ => false

def refuse (t : Transport) : Transport :=
  match t.medium with
  | .memory charset failing calls writes =>
    { t with medium := .memory charset failing (calls + 1) writes }
  | _ => t

def accept (t : Transport) (data : Bytes) : Transport :=
  match t.medium with
  | .memory charset failing calls writes =>
    { t with
      medium := .memory charset failing (calls + 1) (writes ++ [data])
      committed := true }
  | _ => { t with committed := true }

@[simp] theorem refuse_body (t : Transport) : t.refuse.body = t.body := by
  unfold refuse body writes
  cases hmedium : t.medium <;> simp [hmedium]

@[simp] theorem accept_status (t : Transport) (data : Bytes) :
    (t.accept data).status = t.status := by
  unfold accept
  split <;> rfl

@[simp] theorem accept_headers (t : Transport) (data : Bytes) :
    (t.accept data).headers = t.headers := by
  unfold accept
  split <;> rfl

@[simp] theorem accept_committed (t : Transport) (data : Bytes) :
    (t.accept data).committed = true := by
  unfold accept
  split <;> rfl

theorem accept_writes {t : Transport} (hrecords : t.Records) (data : Bytes) :
    (t.accept data).writes = t.writes ++ [data] := by
  obtain ⟨charset, failing, calls, writes, hmedium⟩ := hrecords
  simp [accept, Transport.writes, hmedium]

theorem outcome_write_accepted (hrecords : x.Records) (haccepts : x.transport.refuses = false)
    (data : Bytes) :
    (write data).outcome x = (.ok (), { x with transport := x.transport.accept data }) := by
  obtain ⟨charset, failing, calls, writes, hmedium⟩ := hrecords
  have hnumber : calls + 1 ∉ failing := by simpa [refuses, hmedium] using haccepts
  simp [write, Action.outcome_bind, hmedium, hnumber, markCommitted, setMedium, accept]

theorem outcome_write_refused (hrecords : x.Records) (hrefuses : x.transport.refuses = true)
    (data : Bytes) :
    (write data).outcome x = (.error .sinkFailed, { x with transport := x.transport.refuse }) := by
  obtain ⟨charset, failing, calls, writes, hmedium⟩ := hrecords
  have hnumber : calls + 1 ∈ failing := by simpa [refuses, hmedium] using hrefuses
  simp [write, Action.outcome_bind, hmedium, hnumber, setMedium, refuse]

theorem outcome_flush_recorder (hrecords : x.Records) :
    flush.outcome x = (.ok (), { x with transport := { x.transport with committed := true } }) := by
  obtain ⟨charset, failing, calls, writes, hmedium⟩ := hrecords
  simp [flush, Action.outcome_bind, hmedium, markCommitted]

end Transport

namespace Exchange

theorem Records.accept (hrecords : x.Records) (data : Bytes) :
    ({ x with transport := x.transport.accept data } : Exchange).Records := by
  obtain ⟨charset, failing, calls, writes, hmedium⟩ := hrecords
  exact ⟨charset, failing, calls + 1, writes ++ [data], by simp [Transport.accept, hmedium]⟩

theorem Records.refuse (hrecords : x.Records) :
    ({ x with transport := x.transport.refuse } : Exchange).Records := by
  obtain ⟨charset, failing, calls, writes, hmedium⟩ := hrecords
  exact ⟨charset, failing, calls + 1, writes, by simp [Transport.refuse, hmedium]⟩

end Exchange
end Revalidation
