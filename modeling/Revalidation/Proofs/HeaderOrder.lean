import Mathlib.Data.List.Nodup
import Revalidation.Proofs.HeaderLookup

/-!
# The order of header names

A collection changes by putting values under a name and by dropping a name.  What each does to the
order of the names is said here, and that it spares the other names: they keep their values and their
order.
-/

namespace Revalidation.Headers

/-- The names once a name in lower case is among them.  A new name goes last. -/
def placed (names : List String) (key : String) : List String :=
  if key ∈ names then names else names ++ [key]

/-- But for the given names in lower case, the collections have the same names in the same order, with
the same values. -/
structure Spares (keys : List String) (before after : Headers) : Prop where
  values : ∀ key ∉ keys, after.lookup key = before.lookup key
  order : after.names.filter (· ∉ keys) = before.names.filter (· ∉ keys)

variable {h before middle after : Headers} {names keys more : List String} {key name : String}

/-! ## Names and lookup -/

theorem lookup_eq_none_iff : h.lookup key = none ↔ key ∉ h.names := by
  rw [lookup, Option.map_eq_none_iff, List.find?_eq_none, Headers.names, List.mem_map]
  simp only [beq_iff_eq, not_exists, not_and]

theorem exists_lookup (hname : name ∈ h.names) : ∃ values, h.lookup name = some values :=
  Option.ne_none_iff_exists'.mp fun hmissing => lookup_eq_none_iff.mp hmissing hname

theorem get?_eq_none_iff : h.get? name = none ↔ Text.lower name ∉ h.names := by
  rw [get?, Option.map_eq_none_iff, getList?, lookup_eq_none_iff]

/-! ## Putting values under a name -/

theorem mem_placed {other : String} : other ∈ placed names key ↔ other ∈ names ∨ other = key := by
  unfold placed
  split
  · next hmem =>
    refine ⟨Or.inl, ?_⟩
    rintro (hother | rfl)
    · exact hother
    · exact hmem
  · simp

theorem nodup_placed (hnodup : names.Nodup) : (placed names key).Nodup := by
  unfold placed
  split
  · exact hnodup
  · next hnew => simpa using hnodup.concat hnew

theorem prefix_placed (names : List String) (key : String) : names <+: placed names key := by
  unfold placed
  split
  · exact List.prefix_refl names
  · exact List.prefix_append names [key]

theorem filter_placed (hkey : key ∈ keys) :
    (placed names key).filter (· ∉ keys) = names.filter (· ∉ keys) := by
  unfold placed
  split
  · rfl
  · simp [hkey]

theorem placed_cons {first : String} (hfirst : first ≠ key) :
    placed (first :: names) key = first :: placed names key := by
  by_cases hmem : key ∈ names
  · simp [placed, hmem]
  · simp [placed, hmem, Ne.symm hfirst]

theorem names_modifyKey (h : Headers) (key : String) (f : Option (List String) → List String) :
    Headers.names ⟨modifyKey key f h.entries⟩ = placed h.names key := by
  obtain ⟨entries⟩ := h
  induction entries with
  | nil => rfl
  | cons entry rest ih =>
      obtain ⟨first, values⟩ := entry
      by_cases hfirst : first = key
      · simp [modifyKey, Headers.names, placed, hfirst]
      · have hcons : Headers.names ⟨modifyKey key f ((first, values) :: rest)⟩ =
            first :: Headers.names ⟨modifyKey key f rest⟩ := by
          simp [modifyKey, Headers.names, hfirst]
        rw [hcons, ih]
        exact (placed_cons hfirst).symm

/-! ## Dropping a name -/

theorem names_erase : (h.erase name).names = h.names.filter (· ≠ Text.lower name) := by
  rw [Headers.names, erase, Headers.names, List.filter_map]
  exact congrArg (List.map Prod.fst) (List.filter_congr fun entry _ => by
    by_cases hname : entry.1 = Text.lower name <;> simp [hname])

theorem lookup_erase_self : (h.erase name).lookup (Text.lower name) = none := by
  rw [lookup_eq_none_iff, names_erase]
  simp

theorem lookup_erase_ne (hne : key ≠ Text.lower name) : (h.erase name).lookup key = h.lookup key := by
  simp only [lookup, erase, List.find?_filter]
  congr 2
  funext entry
  by_cases hentry : entry.1 = key <;> simp [hentry, hne]

/-! ## The names that are spared -/

namespace Spares

theorem refl (keys : List String) (h : Headers) : Spares keys h h := ⟨fun _ _ => rfl, rfl⟩

theorem trans (hfirst : Spares keys before middle) (hsecond : Spares keys middle after) :
    Spares keys before after :=
  ⟨fun key hkey => (hsecond.values key hkey).trans (hfirst.values key hkey),
    hsecond.order.trans hfirst.order⟩

theorem mono (hspares : Spares keys before after) (hsubset : keys ⊆ more) :
    Spares more before after := by
  refine ⟨fun key hkey => hspares.values key fun hmem => hkey (hsubset hmem), ?_⟩
  have hfilter (names : List String) :
      names.filter (· ∉ more) = (names.filter (· ∉ keys)).filter (· ∉ more) := by
    rw [List.filter_filter]
    refine List.filter_congr fun name _ => ?_
    by_cases hname : name ∈ keys
    · simp [hname, hsubset hname]
    · simp [hname]
  rw [hfilter, hspares.order, ← hfilter]

theorem modifyKey (h : Headers) (key : String) (f : Option (List String) → List String) :
    Spares [key] h ⟨Headers.modifyKey key f h.entries⟩ where
  values other hother := lookup_modifyKey_ne h (Ne.symm (List.ne_of_not_mem_cons hother)) f
  order := by
    rw [names_modifyKey]
    exact filter_placed (List.mem_singleton_self key)

theorem erase (h : Headers) (name : String) : Spares [Text.lower name] h (h.erase name) where
  values _ hother := lookup_erase_ne (List.ne_of_not_mem_cons hother)
  order := by
    rw [names_erase, List.filter_filter]
    exact List.filter_congr fun other _ => by simp

end Spares

end Revalidation.Headers
