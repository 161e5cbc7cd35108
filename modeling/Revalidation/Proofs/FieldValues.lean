import Revalidation.Proofs.Evaluation
import Revalidation.Proofs.Latin1

/-!
# The values of fields on the wire

A request comes with a list of header fields, and a response is sent with one.  Here lists of fields are
related to header collections: what a collection of received fields finds under a name, and which
values of a collection are sent under a key.
-/

namespace Revalidation

def valuesOf (key : String) (pairs : List (String × String)) : List String :=
  (pairs.filter (·.1 = key)).map Prod.snd

def lowerNames (pairs : List (String × String)) : List (String × String) :=
  pairs.map fun (name, value) => (Text.lower name, value)

def joinValues : List String → Option String
  | [] => none
  | values => some (", ".intercalate values)

theorem joinValues_singleton (value : String) : joinValues [value] = some value := by
  simp [joinValues]

theorem valuesOf_cons (key name value : String) (pairs : List (String × String)) :
    valuesOf key ((name, value) :: pairs) =
      if name = key then value :: valuesOf key pairs else valuesOf key pairs := by
  by_cases hname : name = key <;> simp [valuesOf, hname]

theorem valuesOf_append (key : String) (pairs more : List (String × String)) :
    valuesOf key (pairs ++ more) = valuesOf key pairs ++ valuesOf key more := by
  simp [valuesOf]

theorem valuesOf_same (key name : String) (values : List String) :
    valuesOf key (values.map (name, ·)) = if name = key then values else [] := by
  by_cases hname : name = key <;> simp [valuesOf, List.filter_map, Function.comp_def, hname]

namespace Headers

variable {h : Headers} {name value : String}

/-! ## What is received -/

theorem lookup_addAll (h : Headers) (key : String) (pairs : List (String × String)) :
    (pairs.foldl (fun h (name, value) => h.add name value) h).lookup key =
      if valuesOf key (lowerNames pairs) = [] then h.lookup key
      else some ((h.lookup key).getD [] ++ valuesOf key (lowerNames pairs)) := by
  induction pairs generalizing h with
  | nil => rfl
  | cons pair rest ih =>
      obtain ⟨name, value⟩ := pair
      have hlower : lowerNames ((name, value) :: rest) = (Text.lower name, value) :: lowerNames rest :=
        rfl
      rw [List.foldl_cons, ih, hlower, valuesOf_cons]
      by_cases hname : Text.lower name = key
      · have hadd : (h.add name value).lookup key = some ((h.lookup key).getD [] ++ [value]) := by
          rw [← hname]
          exact lookup_modifyKey_self h _ _
        by_cases hrest : valuesOf key (lowerNames rest) = [] <;> simp [hadd, hname, hrest]
      · have hadd : (h.add name value).lookup key = h.lookup key := lookup_modifyKey_ne h hname _
        rw [if_neg hname, hadd]

/-- What a collection of received fields has under a name are the values of all fields of that name,
where letter case does not count. -/
theorem get?_ofPairs (name : String) (pairs : List (String × String)) :
    (ofPairs pairs).get? name = joinValues (valuesOf (Text.lower name) (lowerNames pairs)) := by
  have hlookup := lookup_addAll {} (Text.lower name) pairs
  rw [get?, getList?, ofPairs, hlookup]
  cases valuesOf (Text.lower name) (lowerNames pairs) <;> rfl

/-! ## What is sent -/

/-- Names are there once, each with some value. -/
structure Orderly (h : Headers) : Prop where
  names_nodup : h.names.Nodup
  values_ne : ∀ entry ∈ h.entries, entry.2 ≠ []

theorem orderly_empty : Orderly {} := ⟨List.nodup_nil, nofun⟩

theorem orderly_cons {values : List String} {rest : List (String × List String)} :
    Orderly ⟨(name, values) :: rest⟩ ↔
      name ∉ rest.map Prod.fst ∧ values ≠ [] ∧ Orderly ⟨rest⟩ := by
  constructor
  · rintro ⟨hnodup, hvalues⟩
    rw [names, List.map_cons, List.nodup_cons] at hnodup
    rw [List.forall_mem_cons] at hvalues
    exact ⟨hnodup.1, hvalues.1, hnodup.2, hvalues.2⟩
  · rintro ⟨hname, hne, hnodup, hvalues⟩
    exact ⟨List.nodup_cons.2 ⟨hname, hnodup⟩, List.forall_mem_cons.2 ⟨hne, hvalues⟩⟩

variable {key : String} {f : Option (List String) → List String}

theorem mem_names_modifyKey {entries : List (String × List String)}
    (h : name ∈ (modifyKey key f entries).map Prod.fst) :
    name = key ∨ name ∈ entries.map Prod.fst := by
  induction entries with
  | nil => exact .inl (by simpa [modifyKey] using h)
  | cons entry rest ih =>
      obtain ⟨other, values⟩ := entry
      by_cases hother : other = key
      · exact .inr (by simpa [modifyKey, hother] using h)
      · simp only [modifyKey, if_neg hother, List.map_cons, List.mem_cons] at h ⊢
        rcases h with rfl | hrest
        · exact .inr (.inl rfl)
        · exact (ih hrest).imp_right .inr

theorem orderly_modifyKey {entries : List (String × List String)} (hf : ∀ old, f old ≠ [])
    (h : Orderly ⟨entries⟩) : Orderly ⟨modifyKey key f entries⟩ := by
  induction entries with
  | nil => exact orderly_cons.2 ⟨List.not_mem_nil, hf none, orderly_empty⟩
  | cons entry rest ih =>
      obtain ⟨other, values⟩ := entry
      obtain ⟨hother, hvalues, hrest⟩ := orderly_cons.1 h
      by_cases hkey : other = key
      · rw [modifyKey, if_pos hkey]
        exact orderly_cons.2 ⟨hother, hf (some values), hrest⟩
      · rw [modifyKey, if_neg hkey]
        refine orderly_cons.2 ⟨fun hmem => ?_, hvalues, ih hrest⟩
        exact (mem_names_modifyKey hmem).elim hkey hother

theorem Orderly.set (hh : h.Orderly) (name value : String) : (h.set name value).Orderly :=
  orderly_modifyKey (fun _ => List.cons_ne_nil _ _) hh

theorem Orderly.add (hh : h.Orderly) (name value : String) : (h.add name value).Orderly :=
  orderly_modifyKey (fun _ => List.append_ne_nil_of_right_ne_nil _ (List.cons_ne_nil _ _)) hh

/-- The values that are sent under a key are those that the collection has. -/
theorem valuesOf_multiItems (hh : h.Orderly) (key : String) :
    valuesOf key h.multiItems = (h.lookup key).getD [] := by
  obtain ⟨entries⟩ := h
  induction entries with
  | nil => rfl
  | cons entry rest ih =>
      obtain ⟨name, values⟩ := entry
      obtain ⟨hname, -, hrest⟩ := orderly_cons.1 hh
      have hitems : multiItems ⟨(name, values) :: rest⟩ = values.map (name, ·) ++ multiItems ⟨rest⟩ :=
        rfl
      rw [hitems, valuesOf_append, valuesOf_same, ih hrest]
      by_cases hkey : name = key
      · have hmissing : lookup ⟨rest⟩ key = none := by
          rw [lookup, Option.map_eq_none_iff, List.find?_eq_none]
          intro other hmem hother
          exact hname (List.mem_map.2 ⟨other, hmem, by simpa [hkey] using hother⟩)
        rw [if_pos hkey, hmissing]
        simp [lookup, hkey]
      · rw [if_neg hkey]
        simp [lookup, hkey]

theorem get?_eq_joinValues (hh : h.Orderly) (name : String) :
    h.get? name = joinValues (valuesOf (Text.lower name) h.multiItems) := by
  rw [valuesOf_multiItems hh, get?, getList?]
  cases hlookup : h.lookup (Text.lower name) with
  | none => rfl
  | some values =>
      cases values with
      | nil =>
          rw [lookup, Option.map_eq_some_iff] at hlookup
          obtain ⟨entry, hfind, hempty⟩ := hlookup
          exact absurd hempty (hh.values_ne entry (List.mem_of_find?_eq_some hfind))
      | cons value rest => rfl

/-- Without a content length, the headers are sent as they are with one, less the one. -/
theorem multiItems_withLength (hmissing : h.getList? contentLengthName = none)
    (length? : Option String) :
    h.multiItems = (h.withLength length?).multiItems.filter (·.1 ≠ "content-length") := by
  have hkept : h.multiItems.filter (·.1 ≠ "content-length") = h.multiItems := by
    rw [List.filter_eq_self]
    intro pair hpair
    have hne := ne_of_missing hmissing hpair
    rw [lower_contentLength] at hne
    simpa using hne
  cases length? with
  | none => exact hkept.symm
  | some length =>
      rw [withLength, multiItems_set_of_missing hmissing, lower_contentLength, List.filter_append,
        hkept]
      simp

end Headers

/-! ## In bytes -/

theorem decodeLatin1_injective {bytes other : Bytes} (h : decodeLatin1 bytes = decodeLatin1 other) :
    bytes = other := by
  have hchars : bytes.map (fun b => Char.ofNat b.toNat) = other.map fun b => Char.ofNat b.toNat :=
    String.ofList_injective h
  refine (List.map_inj_right fun b c hbc => ?_).1 hchars
  have hcodes := congrArg Char.toNat hbc
  rw [toNat_ofNat_lt b.toNat_lt, toNat_ofNat_lt c.toNat_lt] at hcodes
  exact UInt8.toNat.inj hcodes

theorem Asgi.Scope.decodeHeaders_injective {fields others : List (Bytes × Bytes)}
    (h : decodeHeaders fields = decodeHeaders others) : fields = others := by
  refine (List.map_inj_right fun field other heq => ?_).1 h
  rw [Prod.mk.injEq] at heq
  exact Prod.ext (decodeLatin1_injective heq.1) (decodeLatin1_injective heq.2)

/-- Fields can be left out by name before or after they are decoded. -/
theorem Asgi.Scope.decodeHeaders_filter (keep : String → Bool) (fields : List (Bytes × Bytes)) :
    decodeHeaders (fields.filter fun field => keep (decodeLatin1 field.1)) =
      (decodeHeaders fields).filter fun field => keep field.1 := by
  rw [decodeHeaders, decodeHeaders, List.filter_map]
  rfl

end Revalidation
