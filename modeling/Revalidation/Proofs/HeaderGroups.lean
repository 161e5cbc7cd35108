import Mathlib.Data.List.Induction
import Mathlib.Data.List.Perm.Subperm
import Revalidation.Proofs.FieldValues
import Revalidation.Proofs.HeaderChanges

/-!
# Headers in groups

A collection made from pairs has them in groups: the names in the order in which they appear first, and
under each name its values in the order in which they were given.  The order of the names aside, these
groups are all that two equal collections have in common.
-/

namespace Revalidation

/-! ## Pairs in groups -/

section Groups

variable {α β : Type} [DecidableEq α] {keys : List α}

/-- The pairs in groups of one key each.  The keys come in the order in which they appear first, and the
pairs of a key in the order that they have. -/
def grouped (pairs : List (α × β)) : List (α × β) :=
  (pairs.map Prod.fst).eraseDups.flatMap fun key => pairs.filter (·.1 = key)

theorem eraseDups_concat (keys : List α) (key : α) :
    (keys ++ [key]).eraseDups = if key ∈ keys then keys.eraseDups else keys.eraseDups ++ [key] := by
  rw [List.eraseDups_append]
  split
  · next hmem => simp [List.removeAll, hmem]
  · next hnew =>
    have hsingle : [key].eraseDups = [key] := rfl
    simp [List.removeAll, hnew, hsingle]

theorem nodup_eraseDups (keys : List α) : keys.eraseDups.Nodup := by
  induction keys using List.reverseRecOn with
  | nil => exact List.nodup_nil
  | append_singleton keys key ih =>
      rw [eraseDups_concat]
      split
      · exact ih
      · next hnew => simpa using ih.concat (mt List.mem_eraseDups.mp hnew)

theorem perm_flatMap_filter (hnodup : keys.Nodup) (pairs : List (α × β)) :
    (keys.flatMap fun key => pairs.filter (·.1 = key)).Perm (pairs.filter (·.1 ∈ keys)) := by
  induction keys with
  | nil => simp
  | cons key rest ih =>
      obtain ⟨hnew, hrest⟩ := List.nodup_cons.mp hnodup
      have hfirst : pairs.filter (·.1 = key) =
          (pairs.filter (·.1 ∈ key :: rest)).filter (·.1 = key) := by
        rw [List.filter_filter]
        exact List.filter_congr fun pair _ => by by_cases h : pair.1 = key <;> simp [h]
      have hothers : pairs.filter (·.1 ∈ rest) =
          (pairs.filter (·.1 ∈ key :: rest)).filter fun pair => !decide (pair.1 = key) := by
        rw [List.filter_filter]
        exact List.filter_congr fun pair _ => by by_cases h : pair.1 = key <;> simp [h, hnew]
      rw [List.flatMap_cons, hfirst]
      refine ((ih hrest).append_left _).trans ?_
      rw [hothers]
      exact List.filter_append_perm _ _

/-- No pair is lost in the groups, and none is there twice. -/
theorem grouped_perm (pairs : List (α × β)) : (grouped pairs).Perm pairs := by
  have hall : pairs.filter (·.1 ∈ (pairs.map Prod.fst).eraseDups) = pairs := by
    refine List.filter_eq_self.mpr fun pair hpair => ?_
    rw [decide_eq_true_eq, List.mem_eraseDups]
    exact List.mem_map_of_mem hpair
  have hperm := perm_flatMap_filter (nodup_eraseDups (pairs.map Prod.fst)) pairs
  rwa [hall] at hperm

end Groups

theorem map_valuesOf (key : String) (pairs : List (String × String)) :
    (valuesOf key pairs).map (key, ·) = pairs.filter (·.1 = key) := by
  rw [valuesOf, List.map_map]
  conv_rhs => rw [← List.map_id (pairs.filter (·.1 = key))]
  refine List.map_congr_left fun pair hpair => ?_
  have hname : pair.1 = key := by simpa using (List.mem_filter.mp hpair).2
  exact Prod.ext hname.symm rfl

theorem mem_keys_iff_valuesOf {key : String} {pairs : List (String × String)} :
    key ∈ pairs.map Prod.fst ↔ valuesOf key pairs ≠ [] := by
  simp [valuesOf, List.filter_eq_nil_iff]

namespace Headers

variable {h other : Headers}

/-! ## Collections by lookup -/

theorem entries_eq (hnodup : h.names.Nodup) :
    h.entries = h.names.map fun name => (name, (h.lookup name).getD []) := by
  obtain ⟨entries⟩ := h
  induction entries with
  | nil => rfl
  | cons entry rest ih =>
      obtain ⟨first, values⟩ := entry
      obtain ⟨hnew, hrest⟩ := List.nodup_cons.mp hnodup
      have hothers : ∀ name ∈ names ⟨rest⟩,
          lookup ⟨(first, values) :: rest⟩ name = lookup ⟨rest⟩ name := fun name hname => by
        have hne : first ≠ name := fun heq => hnew (heq ▸ hname)
        simp [lookup, hne]
      have hfirst : lookup ⟨(first, values) :: rest⟩ first = some values := by simp [lookup]
      have hnames : names ⟨(first, values) :: rest⟩ = first :: names ⟨rest⟩ := rfl
      have hpairs : rest = (names ⟨rest⟩).map fun name =>
          (name, (lookup ⟨(first, values) :: rest⟩ name).getD []) :=
        (ih hrest).trans (List.map_congr_left fun name hname => by rw [hothers name hname])
      rw [hnames, List.map_cons, hfirst, ← hpairs]
      rfl

theorem ext_lookup (hnodup : h.names.Nodup) (hnames : other.names = h.names)
    (hlookup : ∀ name ∈ h.names, other.lookup name = h.lookup name) : other = h := by
  have hentries : other.entries = h.entries := by
    rw [entries_eq hnodup, entries_eq (hnames ▸ hnodup), hnames]
    exact List.map_congr_left fun name hname => by rw [hlookup name hname]
  exact congrArg Headers.mk hentries

theorem multiItems_eq (hnodup : h.names.Nodup) :
    h.multiItems = h.names.flatMap fun name => ((h.lookup name).getD []).map (name, ·) := by
  rw [multiItems, entries_eq hnodup, List.flatMap_map]

/-- Where collections agree but for some names, they have the same pairs but for these names. -/
theorem Spares.multiItems {keys : List String} (hspares : Spares keys h other) (hnodup : h.names.Nodup)
    (hother : other.names.Nodup) :
    other.multiItems.filter (·.1 ∉ keys) = h.multiItems.filter (·.1 ∉ keys) := by
  have hpart (names : List String) (values : String → List String) :
      (names.flatMap fun name => (values name).map (name, ·)).filter (·.1 ∉ keys) =
        (names.filter (· ∉ keys)).flatMap fun name => (values name).map (name, ·) := by
    induction names with
    | nil => rfl
    | cons name rest ih =>
        rw [List.flatMap_cons, List.filter_append, ih, List.filter_map]
        by_cases hname : name ∈ keys <;> simp [hname, Function.comp_def]
  rw [multiItems_eq hnodup, multiItems_eq hother, hpart, hpart, hspares.order]
  refine List.flatMap_congr fun name hname => ?_
  rw [hspares.values name (by simpa using (List.mem_filter.mp hname).2)]

theorem lookup_of_mem (hnodup : h.names.Nodup) {entry : String × List String}
    (hentry : entry ∈ h.entries) : h.lookup entry.1 = some entry.2 := by
  have hname : entry.1 ∈ h.names := List.mem_map_of_mem hentry
  obtain ⟨values, hvalues⟩ := exists_lookup hname
  rw [entries_eq hnodup] at hentry
  obtain ⟨name, -, rfl⟩ := List.mem_map.mp hentry
  rw [hvalues, Option.getD_some]

/-- Collections are equal where every name has the same values in both, in whatever order the names
come. -/
theorem beq_iff_lookup (hnodup : h.names.Nodup) (hother : other.names.Nodup) :
    (h == other) = true ↔ ∀ key, h.lookup key = other.lookup key := by
  have hbeq : (h == other) = true ↔ h.names.length = other.names.length ∧
      ∀ entry ∈ h.entries, other.lookup entry.1 = some entry.2 := by
    rw [names, names, List.length_map, List.length_map]
    exact Bool.and_eq_true_iff.trans (and_congr beq_iff_eq (by simp [List.all_eq_true]))
  rw [hbeq]
  constructor
  · rintro ⟨hlength, hentries⟩ key
    have hsubset : h.names ⊆ other.names := fun name hname => by
      obtain ⟨entry, hentry, rfl⟩ := List.mem_map.mp hname
      by_contra hmissing
      exact absurd (lookup_eq_none_iff.mpr hmissing) (by simp [hentries entry hentry])
    -- As many distinct names on either side are the same names.
    have hperm : h.names.Perm other.names :=
      (List.subperm_of_subset hnodup hsubset).perm_of_length_le (Nat.le_of_eq hlength.symm)
    by_cases hkey : key ∈ h.names
    · obtain ⟨entry, hentry, rfl⟩ := List.mem_map.mp hkey
      rw [hentries entry hentry, lookup_of_mem hnodup hentry]
    · rw [lookup_eq_none_iff.mpr hkey, lookup_eq_none_iff.mpr (mt hperm.mem_iff.mpr hkey)]
  · intro hlookup
    have hmem (key : String) : key ∈ h.names ↔ key ∈ other.names := by
      rw [← not_iff_not, ← lookup_eq_none_iff, ← lookup_eq_none_iff, hlookup]
    refine ⟨((List.perm_ext_iff_of_nodup hnodup hother).mpr hmem).length_eq, fun entry hentry => ?_⟩
    rw [← hlookup]
    exact lookup_of_mem hnodup hentry

/-! ## Collections of pairs -/

theorem ofPairs_concat (pairs : List (String × String)) (name value : String) :
    ofPairs (pairs ++ [(name, value)]) = (ofPairs pairs).add name value := by
  simp [ofPairs]

theorem names_ofPairs (pairs : List (String × String)) :
    (ofPairs pairs).names = ((lowerNames pairs).map Prod.fst).eraseDups := by
  induction pairs using List.reverseRecOn with
  | nil => rfl
  | append_singleton pairs pair ih =>
      obtain ⟨name, value⟩ := pair
      have hadd : ((ofPairs pairs).add name value).names =
          placed (ofPairs pairs).names (Text.lower name) := names_modifyKey _ _ _
      have hkeys : (lowerNames (pairs ++ [(name, value)])).map Prod.fst =
          (lowerNames pairs).map Prod.fst ++ [Text.lower name] := by simp [lowerNames]
      rw [ofPairs_concat, hadd, ih, hkeys, eraseDups_concat, placed]
      simp only [List.mem_eraseDups]

theorem names_nodup_ofPairs (pairs : List (String × String)) : (ofPairs pairs).names.Nodup :=
  names_ofPairs pairs ▸ nodup_eraseDups _

theorem lookup_ofPairs (key : String) (pairs : List (String × String)) :
    (ofPairs pairs).lookup key =
      if valuesOf key (lowerNames pairs) = [] then none else some (valuesOf key (lowerNames pairs)) :=
  lookup_addAll {} key pairs

theorem getD_lookup_ofPairs (key : String) (pairs : List (String × String)) :
    ((ofPairs pairs).lookup key).getD [] = valuesOf key (lowerNames pairs) := by
  rw [lookup_ofPairs]
  split
  · next hnone => rw [hnone]; rfl
  · rfl

theorem multiItems_ofPairs (pairs : List (String × String)) :
    (ofPairs pairs).multiItems = grouped (lowerNames pairs) := by
  rw [multiItems_eq (names_nodup_ofPairs pairs), names_ofPairs, grouped]
  simp only [getD_lookup_ofPairs, map_valuesOf]

theorem ofPairs_beq_iff {pairs others : List (String × String)} :
    (ofPairs pairs == ofPairs others) = true ↔ ∀ name,
      valuesOf (Text.lower name) (lowerNames pairs) = valuesOf (Text.lower name) (lowerNames others) := by
  rw [beq_iff_lookup (names_nodup_ofPairs pairs) (names_nodup_ofPairs others)]
  constructor
  · intro hlookup name
    rw [← getD_lookup_ofPairs, hlookup, getD_lookup_ofPairs]
  · intro hvalues key
    by_cases hkey : ∃ name, key = Text.lower name
    · obtain ⟨name, rfl⟩ := hkey
      rw [lookup_ofPairs, lookup_ofPairs, hvalues]
    · have hmissing (given : List (String × String)) : valuesOf key (lowerNames given) = [] := by
        rw [← not_ne_iff, ← mem_keys_iff_valuesOf, lowerNames, List.map_map, List.mem_map]
        rintro ⟨pair, -, rfl⟩
        exact hkey ⟨pair.1, rfl⟩
      rw [lookup_ofPairs, lookup_ofPairs, hmissing, hmissing]

/-- Pairs given for a collection come back in groups.

The names are in lower case and come in the order in which they appear first, and the values under a name
in the order in which they were given; no value is lost, and none is there twice.  A lookup joins the
values under its name, and it fails where there are none.  Two collections made from pairs are equal
exactly where under every name the same values were given in the same order, whatever the order of the
names is. -/
theorem ofPairs_grouped (pairs : List (String × String)) :
    (ofPairs pairs).multiItems = grouped (lowerNames pairs) ∧
    (ofPairs pairs).multiItems.Perm (lowerNames pairs) ∧
    (∀ name, (ofPairs pairs).get name =
      match valuesOf (Text.lower name) (lowerNames pairs) with
      | [] => .error (.missingKey (Text.lower name))
      | values => .ok (", ".intercalate values)) ∧
    ∀ others, (ofPairs pairs == ofPairs others) = true ↔ ∀ name,
      valuesOf (Text.lower name) (lowerNames pairs) = valuesOf (Text.lower name) (lowerNames others) := by
  refine ⟨multiItems_ofPairs pairs, multiItems_ofPairs pairs ▸ grouped_perm _, fun name => ?_,
    fun others => ofPairs_beq_iff⟩
  rw [get, get?_ofPairs]
  cases valuesOf (Text.lower name) (lowerNames pairs) <;> rfl

end Headers
end Revalidation
