import Revalidation.CacheControl.Element

/-!
# Reading on

A field is read one character at a time, so what was read before counts only through the progress made.
A comma takes every progress back to the start, unless a quoted string is open.  Hence the lines of a
field can be read one by one or joined by commas, and give the same elements.
-/

namespace Revalidation.Element

namespace Progress

variable {p : Progress} {text rest : List Char}

def completed : Progress → List Char → List Element
  | _, [] => []
  | p, c :: rest => (p.step c).2.toList ++ completed (p.step c).1 rest

theorem elements_append (p : Progress) (text rest : List Char) :
    p.elements (text ++ rest) = p.completed text ++ (p.run text).elements rest := by
  induction text generalizing p with
  | nil => rfl
  | cons c text ih =>
      rw [List.cons_append, elements, ih, completed, List.append_assoc]
      rfl

theorem elements_eq (p : Progress) (text : List Char) :
    p.elements text = p.completed text ++ (p.run text).finish.toList := by
  have happend := elements_append p text []
  rwa [List.append_nil] at happend

theorem step_comma (hclosed : p.isClosed = true) : p.step ',' = (between, p.finish) := by
  cases p with
  | inQuotes | afterBackslash => cases hclosed
  | _ => rfl

theorem elements_comma (hclosed : p.isClosed = true) (rest : List Char) :
    p.elements (',' :: rest) = p.finish.toList ++ between.elements rest := by
  rw [elements, step_comma hclosed]

end Progress

open Progress

theorem readAll_joined {line : String} (hline : isComplete line = true) (rest : List Char) :
    between.elements (line.toList ++ ", ".toList ++ rest) = readAll line ++ between.elements rest := by
  have hsplit : line.toList ++ ", ".toList ++ rest = line.toList ++ ',' :: ' ' :: rest := by
    rw [List.append_assoc]
    rfl
  have hspace : between.elements (' ' :: rest) = between.elements rest := rfl
  calc between.elements (line.toList ++ ", ".toList ++ rest)
      = between.completed line.toList
          ++ (between.run line.toList).elements (',' :: ' ' :: rest) := by
        rw [hsplit, elements_append]
    _ = between.completed line.toList ++ (between.run line.toList).finish.toList
          ++ between.elements (' ' :: rest) := by
        rw [elements_comma hline, List.append_assoc]
    _ = readAll line ++ between.elements rest := by
        rw [← elements_eq, hspace, readAll]

/-- Lines that are read to their ends give the same elements joined as one by one.  Nothing comes after
the last line, so it may leave a quoted string open. -/
theorem readAll_intercalate {lines : List String}
    (hcomplete : ∀ line ∈ lines.dropLast, isComplete line = true) :
    readAll (", ".intercalate lines) = lines.flatMap readAll := by
  induction lines with
  | nil => rfl
  | cons line rest ih =>
      cases rest with
      | nil => simp
      | cons next rest =>
          rw [List.dropLast_cons_cons, List.forall_mem_cons] at hcomplete
          have hrest := ih hcomplete.2
          rw [readAll] at hrest
          rw [readAll, String.intercalate_cons_cons, String.toList_append, String.toList_append,
            readAll_joined hcomplete.1, hrest]
          rfl

end Revalidation.Element
