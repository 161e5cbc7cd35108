import Revalidation.Proofs.HeaderGroups

/-!
# Header fields in bytes

A gateway hands fields over in bytes, and the response keeps them as text.  What happens to the names on
the way, lower-casing and grouping, is said here of the bytes.
-/

namespace Revalidation

/-! ## Groups under other keys -/

section Groups

variable {α β γ δ : Type} [DecidableEq α] [DecidableEq γ] {f : α → γ}

theorem eraseDups_map (hf : Function.Injective f) (keys : List α) :
    (keys.map f).eraseDups = keys.eraseDups.map f := by
  induction keys using List.reverseRecOn with
  | nil => rfl
  | append_singleton keys key ih =>
      have hmem : f key ∈ keys.map f ↔ key ∈ keys := List.mem_map_of_injective hf
      rw [List.map_append, List.map_singleton, eraseDups_concat, eraseDups_concat, ih]
      simp only [hmem]
      split <;> simp

theorem grouped_map (hf : Function.Injective f) (g : β → δ) (pairs : List (α × β)) :
    grouped (pairs.map (Prod.map f g)) = (grouped pairs).map (Prod.map f g) := by
  have hkeys : (pairs.map (Prod.map f g)).map Prod.fst = (pairs.map Prod.fst).map f := by simp
  have hgroup (key : α) : (pairs.map (Prod.map f g)).filter (·.1 = f key) =
      (pairs.filter (·.1 = key)).map (Prod.map f g) := by
    rw [List.filter_map]
    exact congrArg _ (List.filter_congr fun pair _ => by simp [hf.eq_iff])
  rw [grouped, hkeys, eraseDups_map hf, List.flatMap_map, grouped, List.map_flatMap]
  exact List.flatMap_congr fun key _ => hgroup key

end Groups

/-! ## Letters -/

def lowerLetter (b : UInt8) : UInt8 :=
  if (0x41 ≤ b ∧ b ≤ 0x5A) ∨ (0xC0 ≤ b ∧ b ≤ 0xDE ∧ b ≠ 0xD7) then b + 0x20 else b

theorem toNat_lowerLetter (b : UInt8) : (lowerLetter b).toNat = lowerByte b.toNat := by
  have hall : ∀ n < 256, (lowerLetter (UInt8.ofNat n)).toNat = lowerByte n := by decide +kernel
  simpa using hall b.toNat b.toNat_lt

theorem lower_decodeLatin1 (bytes : Bytes) :
    Text.lower (decodeLatin1 bytes) = decodeLatin1 (bytes.map lowerLetter) := by
  rw [(Latin1.decode bytes).lower_eq, decodeLatin1, decodeLatin1, String.toList_ofList, List.map_map,
    List.map_map]
  refine congrArg String.ofList (List.map_congr_left fun b _ => ?_)
  rw [Function.comp_apply, Function.comp_apply, toNat_ofNat_lt b.toNat_lt, toNat_lowerLetter]

namespace Asgi

def lowerField (field : Bytes × Bytes) : Bytes × Bytes := (field.1.map lowerLetter, field.2)

def addedNames : List String := ["etag", "content-length"]

def isForeign (field : Bytes × Bytes) : Bool := decodeLatin1 field.1 ∉ addedNames

theorem lowerNames_decodeHeaders (fields : List (Bytes × Bytes)) :
    lowerNames (Scope.decodeHeaders fields) = Scope.decodeHeaders (fields.map lowerField) := by
  rw [lowerNames, Scope.decodeHeaders, Scope.decodeHeaders, List.map_map, List.map_map]
  exact List.map_congr_left fun field _ => Prod.ext (lower_decodeLatin1 field.1) rfl

theorem grouped_decodeHeaders (fields : List (Bytes × Bytes)) :
    grouped (Scope.decodeHeaders fields) = Scope.decodeHeaders (grouped fields) :=
  grouped_map (fun _ _ => decodeLatin1_injective) decodeLatin1 fields

/-- The collection of fields in bytes is made of the fields with their names in lower case, in groups. -/
theorem multiItems_decodeHeaders (fields : List (Bytes × Bytes)) :
    (Headers.ofPairs (Scope.decodeHeaders fields)).multiItems =
      Scope.decodeHeaders (grouped (fields.map lowerField)) := by
  rw [Headers.multiItems_ofPairs, lowerNames_decodeHeaders, grouped_decodeHeaders]

theorem latin1_decodeHeaders (fields : List (Bytes × Bytes)) :
    (Headers.ofPairs (Scope.decodeHeaders fields)).Latin1 := by
  have hpairs (pairs : List (String × String)) (h : ∀ pair ∈ pairs, Latin1 pair.1 ∧ Latin1 pair.2) :
      (Headers.ofPairs pairs).Latin1 := by
    induction pairs using List.reverseRecOn with
    | nil => exact nofun
    | append_singleton pairs pair ih =>
        rw [List.forall_mem_append] at h
        obtain ⟨hname, hvalue⟩ := h.2 pair (List.mem_singleton_self pair)
        rw [Headers.ofPairs_concat]
        exact (ih h.1).add hname hvalue
  refine hpairs _ fun pair hpair => ?_
  obtain ⟨field, -, rfl⟩ := List.mem_map.mp hpair
  exact ⟨.decode field.1, .decode field.2⟩

theorem foreign_decodeHeaders {fields : List (Bytes × Bytes)}
    (hforeign : ∀ field ∈ fields, isForeign (lowerField field) = true) :
    let h := Headers.ofPairs (Scope.decodeHeaders fields)
    h.multiItems.filter (·.1 ∉ addedNames) = h.multiItems := by
  refine List.filter_eq_self.mpr fun pair hpair => ?_
  rw [multiItems_decodeHeaders] at hpair
  obtain ⟨lowered, hmem, rfl⟩ := List.mem_map.mp hpair
  obtain ⟨field, hfield, rfl⟩ := List.mem_map.mp ((grouped_perm _).mem_iff.mp hmem)
  exact hforeign field hfield

end Asgi
end Revalidation
