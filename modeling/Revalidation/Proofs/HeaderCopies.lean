import Revalidation.Proofs.HeaderGroups
import Revalidation.Proofs.HeaderHistory

/-!
# Copies of header collections

A collection is copied value by value, through its pairs, or name by name, through its items, and either
way the names are put in lower case once more.  The first copy has everything but the names without
values; the second has the values of each name joined to one.
-/

namespace Revalidation.Headers

variable {h other : Headers} {given : List String} {name : String}

theorem beq_self (hnodup : h.names.Nodup) : (h == h) = true :=
  (beq_iff_lookup hnodup hnodup).mpr fun _ => rfl

theorem WellNamed.getList?_eq (hnamed : h.WellNamed given) (hname : name ∈ h.names) :
    h.getList? name = h.lookup name := by
  rw [getList?, hnamed.lower_eq hname]

/-! ## Through the pairs -/

theorem Orderly.eraseDups_multiItems (hh : h.Orderly) :
    (h.multiItems.map Prod.fst).eraseDups = h.names := by
  obtain ⟨entries⟩ := h
  induction entries with
  | nil => rfl
  | cons entry rest ih =>
      obtain ⟨name, values⟩ := entry
      obtain ⟨hnew, hvalues, hrest⟩ := orderly_cons.mp hh
      obtain ⟨value, others, rfl⟩ := List.exists_cons_of_ne_nil hvalues
      have hkeys : (multiItems ⟨(name, value :: others) :: rest⟩).map Prod.fst =
          name :: ((others.map fun _ => name) ++ (multiItems ⟨rest⟩).map Prod.fst) := by
        simp [multiItems, Function.comp_def]
      have hrepeated : (others.map fun _ => name).filter (fun key => !key == name) = [] := by
        simp
      have hkept : ((multiItems ⟨rest⟩).map Prod.fst).filter (fun key => !key == name) =
          (multiItems ⟨rest⟩).map Prod.fst := by
        refine List.filter_eq_self.mpr fun key hkey => ?_
        rw [← List.mem_eraseDups, ih hrest] at hkey
        have hne : key ≠ name := fun heq => hnew (heq ▸ hkey)
        simpa using hne
      rw [hkeys, List.eraseDups_cons, List.filter_append, hrepeated, hkept, List.nil_append, ih hrest]
      rfl

theorem WellNamed.lowerNames_multiItems (hnamed : h.WellNamed given) :
    lowerNames h.multiItems = h.multiItems := by
  conv_rhs => rw [← List.map_id h.multiItems]
  refine List.map_congr_left fun pair hpair => ?_
  obtain ⟨entry, hentry, hmem⟩ := List.mem_flatMap.mp hpair
  obtain ⟨value, -, rfl⟩ := List.mem_map.mp hmem
  exact congrArg (·, value) (hnamed.lower_eq (List.mem_map_of_mem (f := Prod.fst) hentry))

theorem WellNamed.ofPairs_multiItems (hnamed : h.WellNamed given)
    (hvalues : ∀ name ∈ h.names, h.getList? name ≠ some []) : ofPairs h.multiItems = h := by
  have hh : h.Orderly := by
    refine ⟨hnamed.distinct, fun entry hentry hempty => ?_⟩
    have hname : entry.1 ∈ h.names := List.mem_map_of_mem hentry
    refine hvalues entry.1 hname ?_
    rw [hnamed.getList?_eq hname, lookup_of_mem hnamed.distinct hentry, hempty]
  refine ext_lookup hnamed.distinct ?_ fun name hname => ?_
  · rw [names_ofPairs, hnamed.lowerNames_multiItems, hh.eraseDups_multiItems]
  · have hne := hvalues name hname
    rw [hnamed.getList?_eq hname] at hne
    rw [lookup_ofPairs, hnamed.lowerNames_multiItems, valuesOf_multiItems hh]
    cases hlookup : h.lookup name with
    | none => rfl
    | some values =>
        have hsome : values ≠ [] := fun hempty => hne (hempty ▸ hlookup)
        rw [Option.getD_some, if_neg hsome]

/-! ## Through the items -/

theorem ofMapping_eq {mapping : List (String × List String)} (hnodup : (mapping.map Prod.fst).Nodup)
    (hlower : ∀ name ∈ mapping.map Prod.fst, Text.lower name = name) : ofMapping mapping = ⟨mapping⟩ := by
  induction mapping using List.reverseRecOn with
  | nil => rfl
  | append_singleton mapping entry ih =>
      obtain ⟨name, values⟩ := entry
      rw [List.map_append, List.map_singleton] at hnodup hlower
      have hbefore := ih (List.nodup_append.mp hnodup).1
        fun other hother => hlower other (List.mem_append_left _ hother)
      have hmissing : lookup ⟨mapping⟩ name = none :=
        lookup_eq_none_iff.mpr fun hmem => (List.disjoint_of_nodup_append hnodup) hmem (by simp)
      have hconcat : ofMapping (mapping ++ [(name, values)]) = (ofMapping mapping).put name values := by
        simp [ofMapping]
      rw [hconcat, hbefore, put, hlower name (by simp), modifyKey_of_missing hmissing]

theorem lookup_mapValues (f : List String → List String) (entries : List (String × List String))
    (key : String) :
    lookup ⟨entries.map fun (name, values) => (name, f values)⟩ key = (lookup ⟨entries⟩ key).map f := by
  simp [lookup, List.find?_map, Function.comp_def]

theorem WellNamed.joined_eq (hnamed : h.WellNamed given) :
    h.joined = ⟨h.entries.map fun (name, values) => (name, [", ".intercalate values])⟩ := by
  have hnames : (h.entries.map fun (name, values) => (name, [", ".intercalate values])).map Prod.fst =
      h.names := by simp [names, Function.comp_def]
  rw [joined, items, List.map_map]
  refine ofMapping_eq ?_ ?_
  · exact hnames ▸ hnamed.distinct
  · exact hnames ▸ fun name hname => hnamed.lower_eq hname

theorem WellNamed.names_joined (hnamed : h.WellNamed given) : h.joined.names = h.names := by
  rw [hnamed.joined_eq]
  simp [names, Function.comp_def]

theorem WellNamed.lookup_joined (hnamed : h.WellNamed given) (key : String) :
    h.joined.lookup key = (h.lookup key).map fun values => [", ".intercalate values] := by
  rw [hnamed.joined_eq]
  exact lookup_mapValues (fun values => [", ".intercalate values]) h.entries key

theorem WellNamed.getList?_joined (hnamed : h.WellNamed given) (name : String) :
    h.joined.getList? name = (h.get? name).map ([·]) := by
  rw [getList?, hnamed.lookup_joined, get?, getList?, Option.map_map]
  rfl

theorem WellNamed.get?_joined (hnamed : h.WellNamed given) (name : String) :
    h.joined.get? name = h.get? name := by
  rw [get?, hnamed.getList?_joined, Option.map_map]
  simp [Function.comp_def]

theorem WellNamed.joined_joined (hnamed : h.WellNamed given) (hjoined : h.joined.WellNamed given) :
    h.joined.joined = h.joined := by
  refine ext_lookup hjoined.distinct hjoined.names_joined fun name _ => ?_
  rw [hjoined.lookup_joined, hnamed.lookup_joined, Option.map_map]
  simp [Function.comp_def]

theorem WellNamed.joined_beq_iff (hnamed : h.WellNamed given) :
    (h.joined == h) = true ↔ ∀ name ∈ h.names, ∃ value, h.getList? name = some [value] := by
  rw [beq_iff_lookup (hnamed.names_joined ▸ hnamed.distinct) hnamed.distinct]
  constructor
  · intro hlookup name hname
    obtain ⟨values, hvalues⟩ := exists_lookup hname
    refine ⟨", ".intercalate values, ?_⟩
    rw [hnamed.getList?_eq hname, ← hlookup, hnamed.lookup_joined, hvalues]
    rfl
  · intro hsingle key
    rw [hnamed.lookup_joined]
    by_cases hkey : key ∈ h.names
    · obtain ⟨value, hvalue⟩ := hsingle key hkey
      rw [← hnamed.getList?_eq hkey, hvalue]
      simp
    · rw [lookup_eq_none_iff.mpr hkey]
      rfl

/-! ## Every collection -/

/-- A collection with the names of one that can be made can be made itself, whatever its values are.  So
the lists of values that a collection hands out may be changed, too. -/
theorem Made.ofNames (hmade : Made given h) (hnames : other.names = h.names) :
    Made other.names other := by
  have hnamed := hmade.wellNamed
  have hdistinct : other.names.Nodup := hnames ▸ hnamed.distinct
  have hlower : ∀ name ∈ other.names, Text.lower name = name := hnames ▸ fun _ => hnamed.lower_eq
  have hother : ofMapping other.entries = other := ofMapping_eq hdistinct hlower
  have hmapping := Made.mapping (other.entries.map fun (name, values) => (name, .inr values))
  simpa [hother, names, Function.comp_def] using hmapping

/-- What copies of a collection have, whatever the collection was made from and however it changed.

The copy of its pairs is equal to it and has its names in the same order, unless a name is without
values.  The copy by name has the same names in the same order and, under each, one value, which is the
one text that a lookup gives; a copy of that copy is equal to it, and it is equal to the collection
exactly where every name had one value. -/
theorem Made.copies (hmade : Made given h) :
    ((∀ name ∈ h.names, h.getList? name ≠ some []) →
      (ofPairs h.multiItems == h) = true ∧ (ofPairs h.multiItems).names = h.names) ∧
    h.joined.names = h.names ∧
    (∀ name, h.joined.get? name = h.get? name) ∧
    (∀ name ∈ h.joined.names, ∃ value, h.joined.getList? name = some [value]) ∧
    (h.joined.joined == h.joined) = true ∧
    ((h.joined == h) = true ↔ ∀ name ∈ h.names, ∃ value, h.getList? name = some [value]) := by
  have hnamed := hmade.wellNamed
  have hjoined := hmade.copy.wellNamed
  refine ⟨fun hvalues => ?_, hnamed.names_joined, hnamed.get?_joined, fun name hname => ?_, ?_,
    hnamed.joined_beq_iff⟩
  · rw [hnamed.ofPairs_multiItems hvalues]
    exact ⟨beq_self hnamed.distinct, rfl⟩
  · obtain ⟨values, hvalues⟩ :=
      Option.ne_none_iff_exists'.mp (mt lookup_eq_none_iff.mp (not_not.mpr hname))
    rw [hjoined.getList?_eq hname]
    rw [hnamed.lookup_joined, Option.map_eq_some_iff] at hvalues
    obtain ⟨own, hown, rfl⟩ := hvalues
    exact ⟨_, by rw [hnamed.lookup_joined, hown]; rfl⟩
  · rw [hnamed.joined_joined hjoined]
    exact beq_self hjoined.distinct

/-- A name that ends in a sigma and one whose lower-case form is longer. -/
theorem Made.copies_sigma :
    let source : List (String × (String ⊕ List String)) :=
      [("Vary", .inr ["Accept"]), ("\u039F\u03A3", .inr []), ("\u0130d", .inl "1")]
    let h := [Change.add "VARY" "Cookie", .add "\u03BF\u03C2" "2"].foldl after
      (ofMapping (source.map fun (name, values) => (name, values.elim ([·]) id)))
    h.names = ["vary", "\u03BF\u03C2", "i\u0307d"] ∧
    (ofPairs h.multiItems == h) = true ∧
    h.joined.names = h.names ∧ h.joined.get? "Vary" = some "Accept, Cookie" ∧
    (h.joined.joined == h.joined) = true ∧ ¬(h.joined == h) = true := by
  intro source h
  have hmade : Made _ h := (Made.mapping source).changes _
  obtain ⟨hpairs, hnames, hget, -, htwice, hequal⟩ := hmade.copies
  have hown : h.names = ["vary", "\u03BF\u03C2", "i\u0307d"] := by decide +kernel
  have hvalues : ∀ name ∈ h.names, h.getList? name ≠ some [] := by decide +kernel
  have hvary : h.getList? "vary" = some ["Accept", "Cookie"] := by decide +kernel
  refine ⟨hown, (hpairs hvalues).1, hnames, (hget "Vary").trans (by decide +kernel), htwice, ?_⟩
  rw [hequal]
  intro hsingle
  obtain ⟨value, hvalue⟩ := hsingle "vary" (by simp [hown])
  simp [hvary] at hvalue

end Revalidation.Headers
