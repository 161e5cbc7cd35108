import Revalidation.Headers.Change
import Revalidation.Proofs.HeaderOrder
import Revalidation.Proofs.Lowering

/-!
# What a change of the headers does

One change of a collection, whichever it is: the collection after it, the names that it is about and
the fault that it can end with.  The names of a collection stay distinct and in lower case, and a change
spares every name that it is not about.
-/

namespace Revalidation.Headers

def after (h : Headers) (change : Change) : Headers :=
  match h.apply change with
  | .ok (_, changed) => changed
  | .error _ => h

namespace Change

def keys (h : Headers) : Change → List String
  | add name _ => [Text.lower name]
  | set name _ => [Text.lower name]
  | remove name => [Text.lower name]
  | pop name => [Text.lower name]
  | popD name _ => [Text.lower name]
  | popFirst => h.names.take 1
  | setDefault name _ => [Text.lower name]
  | clear => h.names
  | update pairs => pairs.map fun (name, _) => Text.lower name

def given : Change → List String
  | add name _ => [name]
  | set name _ => [name]
  | setDefault name _ => [name]
  | update pairs => pairs.map Prod.fst
  | _ => []

def fault? (h : Headers) : Change → Option Fault
  | remove name => if Text.lower name ∈ h.names then none else some (.missingKey (Text.lower name))
  | pop name => if Text.lower name ∈ h.names then none else some (.missingKey (Text.lower name))
  | popFirst => if h.names = [] then some .noHeaders else none
  | _ => none

end Change

/-- The names are distinct, and each is the lower-case form of one that was given. -/
structure WellNamed (given : List String) (h : Headers) : Prop where
  distinct : h.names.Nodup
  lowered : ∀ name ∈ h.names, ∃ original ∈ given, name = Text.lower original

variable {h : Headers} {given more : List String} {name value first : String} {rest : List String}

/-! ## The collection after a change -/

theorem erase_of_missing (hmissing : Text.lower name ∉ h.names) : h.erase name = h := by
  obtain ⟨entries⟩ := h
  have hkept : entries.filter (·.1 != Text.lower name) = entries := by
    refine List.filter_eq_self.mpr fun entry hentry => ?_
    have hne : entry.1 ≠ Text.lower name := fun heq =>
      hmissing (heq ▸ List.mem_map_of_mem (f := Prod.fst) hentry)
    simpa using hne
  rw [erase, hkept]

theorem get_cases (h : Headers) (name : String) :
    (Text.lower name ∈ h.names ∧ ∃ value, h.get? name = some value ∧ h.get name = .ok value) ∨
      (Text.lower name ∉ h.names ∧ h.get? name = none ∧
        h.get name = .error (.missingKey (Text.lower name))) := by
  cases hget : h.get? name with
  | none => exact .inr ⟨get?_eq_none_iff.mp hget, rfl, by rw [get, hget]⟩
  | some value =>
      refine .inl ⟨?_, value, rfl, by rw [get, hget]⟩
      by_contra hmissing
      rw [get?_eq_none_iff.mpr hmissing] at hget
      cases hget

/-- A change that looks a header up and drops it fails where the lookup fails, and leaves the collection
without the name in either case. -/
theorem after_of_lookup {change : Change} {reply : String → Reply}
    (happly : h.apply change = (h.get name).map fun value => (reply value, h.erase name)) :
    h.after change = h.erase name ∧ ∀ fault, h.apply change = .error fault ↔
      (if Text.lower name ∈ h.names then none else some (.missingKey (Text.lower name))) = some fault := by
  obtain ⟨hmem, value, -, hget⟩ | ⟨hmissing, -, hget⟩ := get_cases h name
  · simp [after, happly, hget, Except.map, hmem]
  · simp [after, happly, hget, Except.map, hmissing, erase_of_missing hmissing]

theorem apply_remove :
    h.apply (.remove name) = (h.get name).map fun _ => (.nothing, h.erase name) := by
  rw [apply, remove]
  cases h.get name <;> rfl

theorem apply_pop :
    h.apply (.pop name) = (h.get name).map fun value => (.value value, h.erase name) := by
  rw [apply, pop]
  cases h.get name <;> rfl

theorem after_popD : h.after (.popD name value) = h.erase name := by
  obtain ⟨-, value, hget, -⟩ | ⟨hmissing, hget, -⟩ := get_cases h name
  · simp [after, apply, popD, hget]
  · simp [after, apply, popD, hget, erase_of_missing hmissing]

theorem after_setDefault :
    h.after (.setDefault name value) = if Text.lower name ∈ h.names then h else h.set name value := by
  obtain ⟨hmem, value, hget, -⟩ | ⟨hmissing, hget, -⟩ := get_cases h name
  · simp [after, apply, setDefault, hget, hmem]
  · simp [after, apply, setDefault, hget, hmissing]

theorem popFirst_of_names (hnames : h.names = first :: rest) :
    ∃ values, h.lookup first = some values ∧
      h.apply .popFirst = .ok (.item first (", ".intercalate values), h.erase first) := by
  obtain ⟨entries⟩ := h
  cases entries with
  | nil => cases hnames
  | cons entry others =>
      obtain ⟨name, values⟩ := entry
      obtain rfl : name = first := (List.cons.inj hnames).1
      exact ⟨values, by simp [lookup], rfl⟩

theorem apply_popFirst_nil (hnames : h.names = []) : h.apply .popFirst = .error .noHeaders := by
  rw [names, List.map_eq_nil_iff] at hnames
  simp [apply, popFirst, hnames, Except.map]

theorem after_popFirst (hnames : h.names = first :: rest) : h.after .popFirst = h.erase first := by
  obtain ⟨values, -, happly⟩ := popFirst_of_names hnames
  rw [after, happly]

/-- A change ends with a fault exactly where it is about a name that is missing. -/
theorem apply_eq_error_iff {change : Change} {fault : Fault} :
    h.apply change = .error fault ↔ change.fault? h = some fault := by
  cases change with
  | remove name => exact (after_of_lookup apply_remove).2 fault
  | pop name => exact (after_of_lookup apply_pop).2 fault
  | popFirst =>
      cases hnames : h.names with
      | nil => simp [apply_popFirst_nil hnames, Change.fault?, hnames]
      | cons first rest =>
          obtain ⟨values, -, happly⟩ := popFirst_of_names hnames
          simp [happly, Change.fault?, hnames]
  | _ => simp [apply, Change.fault?]

/-! ## The names stay distinct and in lower case -/

namespace WellNamed

theorem lower_eq (hnamed : h.WellNamed given) (hname : name ∈ h.names) : Text.lower name = name := by
  obtain ⟨original, -, rfl⟩ := hnamed.lowered name hname
  exact Text.lower_lower original

theorem mono (hnamed : h.WellNamed given) (hsubset : given ⊆ more) : h.WellNamed more :=
  ⟨hnamed.distinct, fun name hname =>
    (hnamed.lowered name hname).imp fun _ ⟨hgiven, heq⟩ => ⟨hsubset hgiven, heq⟩⟩

theorem empty : ({} : Headers).WellNamed given := ⟨List.nodup_nil, nofun⟩

theorem modifyKey (hnamed : h.WellNamed given) {key : String}
    (hkey : ∃ original ∈ given, key = Text.lower original) (f : Option (List String) → List String) :
    WellNamed given ⟨Headers.modifyKey key f h.entries⟩ := by
  refine ⟨?_, fun other hother => ?_⟩
  · rw [names_modifyKey]
    exact nodup_placed hnamed.distinct
  · rw [names_modifyKey, mem_placed] at hother
    obtain hother | rfl := hother
    · exact hnamed.lowered other hother
    · exact hkey

theorem foldl {α : Type} (key : α → String) (f : α → Option (List String) → List String)
    {items : List α} (hnamed : h.WellNamed given)
    (hitems : ∀ item ∈ items, ∃ original ∈ given, key item = Text.lower original) :
    WellNamed given
      (items.foldl (fun h item => ⟨Headers.modifyKey (key item) (f item) h.entries⟩) h) := by
  induction items generalizing h with
  | nil => exact hnamed
  | cons item others ih =>
      rw [List.forall_mem_cons] at hitems
      exact ih (hnamed.modifyKey hitems.1 _) hitems.2

theorem erase (hnamed : h.WellNamed given) : (h.erase name).WellNamed given := by
  refine ⟨?_, fun other hother => ?_⟩
  · rw [names_erase]
    exact hnamed.distinct.filter _
  · rw [names_erase] at hother
    exact hnamed.lowered other (List.mem_of_mem_filter hother)

theorem update (hnamed : h.WellNamed given) {pairs : List (String × String)}
    (hpairs : ∀ pair ∈ pairs, ∃ original ∈ given, Text.lower pair.1 = Text.lower original) :
    (h.update pairs).WellNamed given :=
  foldl (fun pair : String × String => Text.lower pair.1) (fun pair _ => [pair.2]) hnamed hpairs

/-- One change keeps the names distinct and in lower case. -/
theorem after (hnamed : h.WellNamed given) (change : Change) :
    (h.after change).WellNamed (given ++ change.given) := by
  have hmore : h.WellNamed (given ++ change.given) := hnamed.mono (List.subset_append_left _ _)
  have hgiven {name : String} (hname : name ∈ change.given) :
      ∃ original ∈ given ++ change.given, Text.lower name = Text.lower original :=
    ⟨name, List.mem_append_right _ hname, rfl⟩
  cases change with
  | add name value => exact hmore.modifyKey (hgiven (List.mem_singleton_self name)) _
  | set name value => exact hmore.modifyKey (hgiven (List.mem_singleton_self name)) _
  | remove name => exact (after_of_lookup apply_remove).1 ▸ hmore.erase
  | pop name => exact (after_of_lookup apply_pop).1 ▸ hmore.erase
  | popD name default => exact after_popD ▸ hmore.erase
  | popFirst =>
      cases hnames : h.names with
      | nil =>
          rw [Headers.after, apply_popFirst_nil hnames]
          exact hmore
      | cons first rest =>
          rw [after_popFirst hnames]
          exact hmore.erase
  | setDefault name value =>
      rw [after_setDefault]
      split
      · exact hmore
      · exact hmore.modifyKey (hgiven (List.mem_singleton_self name)) _
  | clear => exact empty
  | update pairs =>
      exact hmore.update fun pair hpair => hgiven (List.mem_map_of_mem hpair)

theorem names_erase_first (hnamed : h.WellNamed given) (hnames : h.names = first :: rest) :
    (h.erase first).names = rest := by
  have hdistinct := hnamed.distinct
  rw [hnames, List.nodup_cons] at hdistinct
  have hlower : Text.lower first = first := hnamed.lower_eq (by simp [hnames])
  rw [names_erase, hlower, hnames, List.filter_cons_of_neg (by simp)]
  refine List.filter_eq_self.mpr fun name hname => ?_
  have hne : name ≠ first := fun heq => hdistinct.1 (heq ▸ hname)
  simpa using hne

end WellNamed

/-! ## What a change spares -/

theorem spares_update (h : Headers) (pairs : List (String × String)) :
    Spares (pairs.map fun (name, _) => Text.lower name) h (h.update pairs) := by
  induction pairs generalizing h with
  | nil => exact Spares.refl _ h
  | cons pair others ih =>
      have hfirst : Spares [Text.lower pair.1] h (h.set pair.1 pair.2) := Spares.modifyKey h _ _
      exact (hfirst.mono (by simp)).trans ((ih _).mono (by simp))

/-- A change spares the names that it is not about. -/
theorem WellNamed.spares (hnamed : h.WellNamed given) (change : Change) :
    Spares (change.keys h) h (h.after change) := by
  cases change with
  | add name value => exact Spares.modifyKey h _ _
  | set name value => exact Spares.modifyKey h _ _
  | remove name => exact (after_of_lookup apply_remove).1 ▸ Spares.erase h name
  | pop name => exact (after_of_lookup apply_pop).1 ▸ Spares.erase h name
  | popD name default => exact after_popD ▸ Spares.erase h name
  | popFirst =>
      cases hnames : h.names with
      | nil =>
          rw [Headers.after, apply_popFirst_nil hnames]
          exact Spares.refl _ h
      | cons first rest =>
          have hlower : Text.lower first = first := hnamed.lower_eq (by simp [hnames])
          have hspares := Spares.erase h first
          rw [hlower] at hspares
          rw [after_popFirst hnames]
          simpa [Change.keys, hnames] using hspares
  | setDefault name value =>
      rw [after_setDefault]
      split
      · exact Spares.refl _ h
      · exact Spares.modifyKey h _ _
  | clear =>
      refine ⟨fun key hkey => ?_, ?_⟩
      · rw [lookup_eq_none_iff.mpr hkey]
        rfl
      · exact (List.filter_eq_nil_iff.mpr fun name hname => by simp [Change.keys, hname]).symm
  | update pairs => exact spares_update h pairs

/-! ## Assignment of several headers -/

theorem prefix_names_update (h : Headers) (pairs : List (String × String)) :
    h.names <+: (h.update pairs).names := by
  induction pairs generalizing h with
  | nil => exact List.prefix_refl _
  | cons pair others ih =>
      have hset : (h.set pair.1 pair.2).names = placed h.names (Text.lower pair.1) :=
        names_modifyKey h _ _
      exact (prefix_placed _ _).trans (hset ▸ ih (h.set pair.1 pair.2))

theorem getList?_update_last (h : Headers) (before : List (String × String))
    {others : List (String × String)}
    (hothers : ∀ pair ∈ others, Text.lower pair.1 ≠ Text.lower name) :
    (h.update (before ++ (name, value) :: others)).getList? name = some [value] := by
  have hsplit : h.update (before ++ (name, value) :: others) =
      ((h.update before).set name value).update others := by
    simp [update, List.foldl_append]
  have hunmoved : Text.lower name ∉ others.map fun (name, _) => Text.lower name := by
    simpa [List.mem_map] using hothers
  rw [hsplit, getList?, (spares_update _ others).values _ hunmoved]
  exact getList?_set_self

end Revalidation.Headers
