import Revalidation.Generator.Report

/-!
# How jobs of the generator end

A job ends with a value or with the reason why the run stops, and leaves a session behind in either
case.  The equations here open a job one step at a time.  Reading and checking leave the tree alone, and
what a job notes of the substitutions depends on the lines it converts and on nothing else.
-/

namespace Revalidation.Generator

namespace Job

variable {α β : Type}

def outcome (job : Job α) (s : Session) : Except Stop α × Session := job.run.run s

@[simp] theorem outcome_pure (v : α) (s : Session) : outcome (pure v) s = (.ok v, s) := rfl

@[simp] theorem outcome_get (s : Session) : outcome get s = (.ok s, s) := rfl

@[simp] theorem outcome_print (line : String) (s : Session) :
    outcome (print line) s = (.ok (), { s with output := s.output ++ [line] }) := rfl

theorem outcome_bind (job : Job α) (next : α → Job β) (s : Session) :
    outcome (job >>= next) s =
      match outcome job s with
      | (.ok v, t) => outcome (next v) t
      | (.error stop, t) => (.error stop, t) := by
  simp only [outcome, ExceptT.run_bind, StateT.run_bind]
  rcases StateT.run (ExceptT.run job) s with ⟨_ | _, _⟩ <;> rfl

theorem outcome_bind_ok {job : Job α} {next : α → Job β} {s t : Session} {v : α}
    (h : outcome job s = (.ok v, t)) : outcome (job >>= next) s = outcome (next v) t := by
  rw [outcome_bind, h]

theorem outcome_discard {job : Job α} {s t : Session} {v : α} (h : outcome job s = (.ok v, t)) :
    outcome (discard job) s = (.ok (), t) := by
  have hmap : discard job = job >>= fun _ => pure () := map_eq_pure_bind _ job
  rw [hmap, outcome_bind_ok h, outcome_pure]

/-- A loop of jobs that all end with a value ends with the fold of what they do.  What holds of the
session before each of them is to be shown on the way. -/
theorem outcome_forM {f : α → Job Unit} {step : Session → α → Session} {holds : Session → Prop} {xs : List α}
    (hstep : ∀ x ∈ xs, ∀ s, holds s → outcome (f x) s = (.ok (), step s x) ∧ holds (step s x))
    {s : Session} (hs : holds s) :
    outcome (xs.forM f) s = (.ok (), xs.foldl step s) ∧ holds (xs.foldl step s) := by
  induction xs generalizing s with
  | nil => exact ⟨rfl, hs⟩
  | cons x xs ih =>
      rw [List.forall_mem_cons] at hstep
      obtain ⟨hfirst, hnext⟩ := hstep.1 s hs
      obtain ⟨hrest, hend⟩ := ih hstep.2 hnext
      exact ⟨(outcome_bind_ok hfirst).trans hrest, hend⟩

theorem outcome_forM_print (lines : List String) (s : Session) :
    outcome (lines.forM print) s = (.ok (), { s with output := s.output ++ lines }) := by
  induction lines generalizing s with
  | nil => simp
  | cons line lines ih =>
      calc outcome ((line :: lines).forM print) s
          = outcome (lines.forM print) { s with output := s.output ++ [line] } :=
            outcome_bind_ok (outcome_print line s)
        _ = (.ok (), { s with output := s.output ++ line :: lines }) := by
            rw [ih, List.append_assoc]
            rfl

/-! ## Files -/

theorem outcome_read {s : Session} {path text : String} (hread : s.tree.read path = .ok text) :
    outcome (read path) s = (.ok text, s) := by
  rw [read, outcome_bind_ok (outcome_get s), hread]
  rfl

theorem outcome_write {s : Session} {tree : FileTree} {path text : String}
    (hwrite : s.tree.write path text = .ok tree) :
    outcome (write path text) s = (.ok (), { s with tree := tree }) := by
  rw [write, outcome_bind_ok (outcome_get s), hwrite]
  rfl

/-! ## Lines -/

@[simp] theorem outcome_convertLine (line : String) (s : Session) :
    outcome (convertLine line) s =
      (.ok (convert line), { s with used := addUsed s.used line }) := rfl

theorem outcome_mapM_convertLine (lines : List String) (s : Session) :
    outcome (lines.mapM convertLine) s =
      (.ok (lines.map convert), { s with used := lines.foldl addUsed s.used }) := by
  induction lines generalizing s with
  | nil => simp
  | cons line lines ih =>
      rw [List.mapM_cons, outcome_bind_ok (outcome_convertLine line s), outcome_bind_ok (ih _)]
      rfl

end Job

end Revalidation.Generator
