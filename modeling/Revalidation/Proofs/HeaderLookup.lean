import Revalidation.Sink.Response

/-!
# Looking headers up

What a change of one header means for the lookup of any name.  Names count in lower case, so the
statements are about lower-case names, and the names the filter itself uses are lower-cased here.
-/

namespace Revalidation.Headers

theorem lookup_modifyKey_self (h : Headers) (key : String) (f : Option (List String) → List String) :
    lookup ⟨modifyKey key f h.entries⟩ key = some (f (h.lookup key)) := by
  obtain ⟨entries⟩ := h
  induction entries with
  | nil => simp [lookup, modifyKey]
  | cons entry rest ih =>
      obtain ⟨name, values⟩ := entry
      by_cases hname : name = key
      · simp [lookup, modifyKey, hname]
      · simpa [lookup, modifyKey, hname] using ih

theorem lookup_modifyKey_ne (h : Headers) {key other : String} (hne : key ≠ other)
    (f : Option (List String) → List String) :
    lookup ⟨modifyKey key f h.entries⟩ other = h.lookup other := by
  obtain ⟨entries⟩ := h
  induction entries with
  | nil => simp [lookup, modifyKey, hne]
  | cons entry rest ih =>
      obtain ⟨name, values⟩ := entry
      by_cases hname : name = key
      · simp [lookup, modifyKey, hname, hne]
      · by_cases hother : name = other
        · simp [lookup, modifyKey, hother, Ne.symm hne]
        · simpa [lookup, modifyKey, hname, hother] using ih

theorem modifyKey_modifyKey (key : String) (f g : Option (List String) → List String)
    (entries : List (String × List String)) :
    modifyKey key g (modifyKey key f entries) = modifyKey key (fun old => g (some (f old))) entries := by
  induction entries with
  | nil => simp [modifyKey]
  | cons entry rest ih =>
      obtain ⟨name, values⟩ := entry
      by_cases hname : name = key
      · simp [modifyKey, hname]
      · simp [modifyKey, hname, ih]

variable {h : Headers} {name other value : String}

theorem getList?_set_self : (h.set name value).getList? name = some [value] :=
  lookup_modifyKey_self h _ _

theorem getList?_set_ne (hne : Text.lower name ≠ Text.lower other) :
    (h.set name value).getList? other = h.getList? other :=
  lookup_modifyKey_ne h hne _

theorem getList?_add_ne (hne : Text.lower name ≠ Text.lower other) :
    (h.add name value).getList? other = h.getList? other :=
  lookup_modifyKey_ne h hne _

theorem get?_set_self : (h.set name value).get? name = some value := by
  rw [get?, getList?_set_self]
  simp

theorem set_set (second : String) : (h.set name value).set name second = h.set name second := by
  simp only [set, put, modifyKey_modifyKey]

theorem set_of_getList? (hvalue : h.getList? name = some [value]) : h.set name value = h := by
  have hkept (entries : List (String × List String)) (key : String)
      (hlookup : lookup ⟨entries⟩ key = some [value]) :
      modifyKey key (fun _ => [value]) entries = entries := by
    induction entries with
    | nil => simp [lookup] at hlookup
    | cons entry rest ih =>
        obtain ⟨other, values⟩ := entry
        by_cases hname : other = key
        · have hvalues : values = [value] := by simpa [lookup, hname] using hlookup
          simp [modifyKey, hname, hvalues]
        · have hrest : lookup ⟨rest⟩ key = some [value] := by simpa [lookup, hname] using hlookup
          simp [modifyKey, hname, ih hrest]
  obtain ⟨entries⟩ := h
  rw [set, put, hkept entries (Text.lower name) hvalue]

theorem modifyKey_of_missing {entries : List (String × List String)} {key : String}
    (hmissing : lookup ⟨entries⟩ key = none) (f : Option (List String) → List String) :
    modifyKey key f entries = entries ++ [(key, f none)] := by
  induction entries with
  | nil => rfl
  | cons entry rest ih =>
      obtain ⟨other, values⟩ := entry
      have hname : other ≠ key := by
        rintro rfl
        simp [lookup] at hmissing
      have hrest : lookup ⟨rest⟩ key = none := by simpa [lookup, hname] using hmissing
      simp [modifyKey, hname, ih hrest]

theorem multiItems_set_of_missing (hmissing : h.getList? name = none) :
    (h.set name value).multiItems = h.multiItems ++ [(Text.lower name, value)] := by
  rw [set, put, modifyKey_of_missing hmissing]
  simp [multiItems]

theorem ne_of_missing (hmissing : h.getList? name = none) {pair : String × String}
    (hpair : pair ∈ h.multiItems) : pair.1 ≠ Text.lower name := by
  obtain ⟨entry, hentry, hmem⟩ := List.mem_flatMap.1 hpair
  obtain ⟨value, -, rfl⟩ := List.mem_map.1 hmem
  rw [getList?, lookup, Option.map_eq_none_iff, List.find?_eq_none] at hmissing
  have hne := hmissing entry hentry
  simpa using hne

/-! ## The names that the filter uses -/

theorem lower_contentLength : Text.lower contentLengthName = "content-length" := by decide

end Revalidation.Headers
