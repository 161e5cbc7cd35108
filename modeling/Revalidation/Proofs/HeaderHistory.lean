import Revalidation.Proofs.HeaderChanges

/-!
# Header collections over time

Every collection comes from nothing, from pairs, from a mapping or from another collection, and then
from changes, those that end with a fault included.  Its names are distinct lower-case forms of names
that were given, and every change to it does what it says of the names it is about and spares the others.

Taking a header out and clearing are looked at once more as they are made of a lookup and a deletion
each, where a fault in the middle would leave the work half done.
-/

namespace Revalidation.Headers

/-- The collections that can be made, with the names that were given for their headers.  The names of
another collection count by the names given for that one. -/
inductive Made : List String → Headers → Prop
  | nothing : Made [] {}
  | pairs (pairs : List (String × String)) : Made (pairs.map Prod.fst) (ofPairs pairs)
  | mapping (mapping : List (String × (String ⊕ List String))) :
      Made (mapping.map Prod.fst)
        (ofMapping (mapping.map fun (name, values) => (name, values.elim ([·]) id)))
  | copy {given : List String} {other : Headers} (hother : Made given other) : Made given other.joined
  | change {given : List String} {h : Headers} (hmade : Made given h) (change : Change) :
      Made (given ++ change.given) (h.after change)
  | updateFrom {given more : List String} {h other : Headers} (hmade : Made given h)
      (hother : Made more other) : Made (given ++ more) (h.after (.update other.items))

variable {h : Headers} {given : List String}

namespace Made

/-- The names of a collection are distinct lower-case forms of names that were given. -/
theorem wellNamed (hmade : Made given h) : h.WellNamed given := by
  induction hmade with
  | nothing => exact WellNamed.empty
  | pairs pairs =>
      exact WellNamed.foldl (fun pair : String × String => Text.lower pair.1)
        (fun pair old => old.getD [] ++ [pair.2]) WellNamed.empty
        fun pair hpair => ⟨pair.1, List.mem_map_of_mem hpair, rfl⟩
  | mapping mapping =>
      refine WellNamed.foldl (fun entry : String × List String => Text.lower entry.1)
        (fun entry _ => entry.2) WellNamed.empty fun entry hentry => ?_
      obtain ⟨source, hsource, rfl⟩ := List.mem_map.mp hentry
      exact ⟨source.1, List.mem_map_of_mem hsource, rfl⟩
  | copy hother ih =>
      refine WellNamed.foldl (fun entry : String × List String => Text.lower entry.1)
        (fun entry _ => entry.2) WellNamed.empty fun entry hentry => ?_
      obtain ⟨item, hitem, rfl⟩ := List.mem_map.mp hentry
      obtain ⟨source, hsource, rfl⟩ := List.mem_map.mp hitem
      have hname : source.1 ∈ names _ := List.mem_map_of_mem hsource
      -- A name of the other collection is in lower case and is stored as it is.
      exact (ih.lower_eq hname).symm ▸ ih.lowered source.1 hname
  | change hmade change ih => exact ih.after change
  | updateFrom hmade hother ih ihOther =>
      refine (ih.mono (List.subset_append_left _ _)).update fun item hitem => ?_
      obtain ⟨source, hsource, rfl⟩ := List.mem_map.mp hitem
      have hname : source.1 ∈ names _ := List.mem_map_of_mem hsource
      obtain ⟨original, hgiven, heq⟩ := ihOther.lowered source.1 hname
      exact ⟨original, List.mem_append_right _ hgiven, (ihOther.lower_eq hname).trans heq⟩

theorem changes (hmade : Made given h) (changes : List Change) :
    Made (given ++ changes.flatMap Change.given) (changes.foldl after h) := by
  induction changes generalizing given h with
  | nil => simpa using hmade
  | cons change others ih =>
      have hrest := ih (hmade.change change)
      rwa [List.append_assoc, ← List.flatMap_cons] at hrest

end Made

/-! ## Adding and dropping -/

namespace Change

def adding (name value : String) : List Change :=
  [add name value, set name value, setDefault name value]

def dropping (name default : String) : List Change := [remove name, pop name, popD name default]

end Change

variable {name value default : String}

theorem names_adding {change : Change} (hchange : change ∈ Change.adding name value) :
    (h.after change).names = placed h.names (Text.lower name) := by
  have hcases : change = .add name value ∨ change = .set name value ∨ change = .setDefault name value := by
    simpa [Change.adding] using hchange
  obtain rfl | rfl | rfl := hcases
  · exact names_modifyKey h _ _
  · exact names_modifyKey h _ _
  · rw [after_setDefault]
    split
    · next hmem => rw [placed, if_pos hmem]
    · exact names_modifyKey h _ _

theorem after_dropping {change : Change} (hchange : change ∈ Change.dropping name default) :
    h.after change = h.erase name := by
  have hcases : change = .remove name ∨ change = .pop name ∨ change = .popD name default := by
    simpa [Change.dropping] using hchange
  obtain rfl | rfl | rfl := hcases
  · exact (after_of_lookup apply_remove).1
  · exact (after_of_lookup apply_pop).1
  · exact after_popD

theorem getList?_setDefault :
    (h.after (.setDefault name value)).getList? name = some ((h.getList? name).getD [value]) := by
  rw [after_setDefault]
  split
  · next hmem =>
    obtain ⟨values, hvalues⟩ := exists_lookup hmem
    rw [getList?, hvalues]
    rfl
  · next hmissing =>
    rw [getList?_set_self, getList?, lookup_eq_none_iff.mpr hmissing]
    rfl

/-! ## Taking headers out -/

def takeItem (h : Headers) (name : String) : Except Fault String × Headers :=
  match h.get name with
  | .error fault => (.error fault, h)
  | .ok value =>
    match h.remove name with
    | .error fault => (.error fault, h)
    | .ok left => (.ok value, left)

def takeFirst (h : Headers) : Except Fault (String × String) × Headers :=
  match h.names with
  | [] => (.error .noHeaders, h)
  | name :: _ =>
    match h.takeItem name with
    | (.error fault, left) => (.error fault, left)
    | (.ok value, left) => (.ok (name, value), left)

def takeAll : Nat → Headers → Headers
  | 0, h => h
  | bound + 1, h =>
    match h.takeFirst with
    | (.error _, left) => left
    | (.ok _, left) => takeAll bound left

theorem takeItem_eq (h : Headers) (name : String) :
    ((h.takeItem name).1.map Reply.value, (h.takeItem name).2) =
      ((h.apply (.pop name)).map Prod.fst, h.after (.pop name)) := by
  obtain ⟨-, value, -, hget⟩ | ⟨-, -, hget⟩ := get_cases h name
  · simp [takeItem, remove, after, apply_pop, hget, Except.map]
  · simp [takeItem, after, apply_pop, hget, Except.map]

theorem WellNamed.takeFirst_of_names (hnamed : h.WellNamed given) {first : String} {rest : List String}
    (hnames : h.names = first :: rest) :
    ∃ values, h.lookup first = some values ∧
      h.takeFirst = (.ok (first, ", ".intercalate values), h.erase first) := by
  obtain ⟨values, hvalues, -⟩ := popFirst_of_names hnames
  have hlower : Text.lower first = first := hnamed.lower_eq (by simp [hnames])
  have hget : h.get first = .ok (", ".intercalate values) := by
    rw [get, get?, getList?, hlower, hvalues]
    rfl
  refine ⟨values, hvalues, ?_⟩
  simp [takeFirst, hnames, takeItem, remove, hget, Except.map]

theorem WellNamed.takeFirst_eq (hnamed : h.WellNamed given) :
    (h.takeFirst.1.map (fun (name, value) => Reply.item name value), h.takeFirst.2) =
      ((h.apply .popFirst).map Prod.fst, h.after .popFirst) := by
  cases hnames : h.names with
  | nil => simp [takeFirst, hnames, Headers.after, apply_popFirst_nil hnames, Except.map]
  | cons first rest =>
      obtain ⟨values, hvalues, happly⟩ := popFirst_of_names hnames
      obtain ⟨others, hothers, htake⟩ := hnamed.takeFirst_of_names hnames
      obtain rfl : values = others := Option.some.inj (hvalues.symm.trans hothers)
      simp [htake, happly, Headers.after, Except.map]

/-- Headers taken out one after another leave nothing in the end. -/
theorem WellNamed.takeAll (hnamed : h.WellNamed given) {bound : Nat} (hbound : h.size ≤ bound) :
    Headers.takeAll bound h = {} := by
  have hempty {other : Headers} (hnames : other.names = []) : other = {} := by
    rw [names, List.map_eq_nil_iff] at hnames
    rw [← hnames]
  have hsize (other : Headers) : other.size = other.names.length := (List.length_map _).symm
  -- Each header taken out leaves one name less for a bound that is one less.
  rw [hsize] at hbound
  induction bound generalizing h with
  | zero => exact hempty (List.eq_nil_of_length_eq_zero (Nat.le_zero.mp hbound))
  | succ bound ih =>
      cases hnames : h.names with
      | nil =>
          have htake : h.takeFirst = (.error .noHeaders, h) := by rw [takeFirst, hnames]
          rw [Headers.takeAll, htake]
          exact hempty hnames
      | cons first rest =>
          obtain ⟨values, -, htake⟩ := hnamed.takeFirst_of_names hnames
          rw [Headers.takeAll, htake]
          refine ih hnamed.erase ?_
          rw [hnamed.names_erase_first hnames]
          simpa [hnames] using hbound

/-! ## Every collection, every change -/

/-- What holds of every collection that can be made, whatever the changes on the way were.

The names are distinct lower-case forms of names that were given.  A change leaves the values of all
names it is not about and the order of these names.  A name keeps its place when values are put under
it, a new one goes last, and so does one that was dropped before.  A fault comes exactly from a name or a
collection without headers and changes nothing, also between the lookup and the deletion of a header. -/
theorem Made.nodup_and_spares (hmade : Made given h) :
    h.names.Nodup ∧ (∀ name ∈ h.names, ∃ original ∈ given, name = Text.lower original) ∧
    (∀ change : Change, Spares (change.keys h) h (h.after change)) ∧
    (∀ name value,
      (h.after (.add name value)).getList? name = some ((h.getList? name).getD [] ++ [value]) ∧
      (h.after (.set name value)).getList? name = some [value] ∧
      (h.after (.setDefault name value)).getList? name = some ((h.getList? name).getD [value]) ∧
      ∀ change ∈ Change.adding name value,
        (h.after change).names = placed h.names (Text.lower name)) ∧
    (∀ pairs, h.names <+: (h.after (.update pairs)).names ∧
      ∀ before name value others, pairs = before ++ (name, value) :: others →
        (∀ pair ∈ others, Text.lower pair.1 ≠ Text.lower name) →
        (h.after (.update pairs)).getList? name = some [value]) ∧
    (∀ name default, ∀ change ∈ Change.dropping name default,
      (h.after change).getList? name = none ∧
      (h.after change).names = h.names.filter (· ≠ Text.lower name)) ∧
    (∀ (change : Change) (name value : String), Text.lower name ∉ (h.after change).names →
      ∀ readding ∈ Change.adding name value,
        ((h.after change).after readding).names = (h.after change).names ++ [Text.lower name]) ∧
    (∀ first rest, h.names = first :: rest → ∃ values, h.getList? first = some values ∧
      (h.apply .popFirst).map Prod.fst = .ok (.item first (", ".intercalate values)) ∧
      (h.after .popFirst).names = rest) ∧
    (h.after .clear).names = [] ∧
    (∀ (change : Change) (fault : Fault),
      (h.apply change = .error fault ↔ change.fault? h = some fault) ∧
      (h.apply change = .error fault → h.after change = h)) ∧
    (∀ name, ((h.takeItem name).1.map Reply.value, (h.takeItem name).2) =
      ((h.apply (.pop name)).map Prod.fst, h.after (.pop name))) ∧
    (h.takeFirst.1.map (fun (name, value) => Reply.item name value), h.takeFirst.2) =
      ((h.apply .popFirst).map Prod.fst, h.after .popFirst) ∧
    ∀ bound, h.size ≤ bound → h.takeAll bound = h.after .clear := by
  have hnamed := hmade.wellNamed
  refine ⟨hnamed.distinct, hnamed.lowered, hnamed.spares, fun name value => ?_, fun pairs => ?_,
    fun name default change hchange => ?_, fun change name value hmissing readding hreadding => ?_,
    fun first rest hnames => ?_, rfl, fun change fault => ⟨apply_eq_error_iff, fun hfault => ?_⟩,
    h.takeItem_eq, hnamed.takeFirst_eq, fun bound hbound => hnamed.takeAll hbound⟩
  · exact ⟨lookup_modifyKey_self h _ _, getList?_set_self, getList?_setDefault,
      fun change hchange => names_adding hchange⟩
  · refine ⟨prefix_names_update h pairs, ?_⟩
    rintro before name value others rfl hothers
    exact getList?_update_last h before hothers
  · rw [after_dropping hchange]
    exact ⟨lookup_erase_self, names_erase⟩
  · rw [names_adding hreadding, placed, if_neg hmissing]
  · obtain ⟨values, hvalues, happly⟩ := popFirst_of_names hnames
    have hlower : Text.lower first = first := hnamed.lower_eq (by simp [hnames])
    refine ⟨values, by rw [getList?, hlower, hvalues], by rw [happly]; rfl, ?_⟩
    rw [after_popFirst hnames, hnamed.names_erase_first hnames]
  · rw [after, hfault]

/-- The Kelvin sign has the lower-case form of the letter, so that what it names goes with the letter. -/
theorem Made.nodup_and_spares_kelvin :
    let source : List (String × (String ⊕ List String)) :=
      [("Vary", .inr ["Accept", "Cookie"]), ("K", .inl "1"), ("ETag", .inl "x")]
    let h := [Change.add "\u212A" "2", .pop "Age", .remove "VARY"].foldl after
      (ofMapping (source.map fun (name, values) => (name, values.elim ([·]) id)))
    h.names = ["k", "etag"] ∧ h.getList? "k" = some ["1", "2"] ∧
    (h.after (.set "\u212A" "3")).getList? "\u212A" = some ["3"] ∧
    (h.after (.set "\u212A" "3")).lookup "etag" = some ["x"] ∧
    (h.after (.add "vary" "Origin")).names = ["k", "etag", "vary"] ∧
    (h.after .popFirst).names = ["etag"] ∧ h.takeAll 2 = {} := by
  intro source h
  have hmade : Made _ h := (Made.mapping source).changes _
  obtain ⟨-, -, hspares, hadding, -, -, -, hfirst, -, -, -, -, hall⟩ := hmade.nodup_and_spares
  have hnames : h.names = ["k", "etag"] := by decide +kernel
  have hetag : h.lookup "etag" = some ["x"] := by decide +kernel
  have hlast : placed ["k", "etag"] (Text.lower "vary") = ["k", "etag", "vary"] := by decide +kernel
  have hspared := (hspares (.set "\u212A" "3")).values "etag" (by decide +kernel)
  have hadded := (hadding "vary" "Origin").2.2.2 (.add "vary" "Origin") List.mem_cons_self
  obtain ⟨values, -, -, hrest⟩ := hfirst "k" ["etag"] hnames
  exact ⟨hnames, by decide +kernel, (hadding "\u212A" "3").2.1, hspared.trans hetag,
    hadded.trans (hnames ▸ hlast), hrest, hall 2 (by decide +kernel)⟩

end Revalidation.Headers
