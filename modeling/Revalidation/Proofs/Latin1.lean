import Revalidation.Asgi.Scope
import Revalidation.Digest.EntityTag
import Revalidation.Sink.Delivery

/-!
# Texts that header fields can hold

Header fields hold one byte per character.  The texts that can be encoded so are closed under what
happens to headers on the way: lower-casing of names, setting and adding of values, decimal numbers
and entity tags.
-/

namespace Revalidation

/-! ## Characters -/

def lowerByte (n : Nat) : Nat :=
  match (Text.caseRuns.take 3).find? (·.maps n) with
  | some run => (n + run.offset).toNat
  | none => n

theorem caseRuns_drop : ∀ run ∈ Text.caseRuns.drop 3, 256 ≤ run.first := by decide +kernel

theorem lowerCode_eq {n : Nat} (h : n < 256) : Text.lowerCode n = lowerByte n := by
  have hnone : (Text.caseRuns.drop 3).find? (·.maps n) = none := by
    rw [List.find?_eq_none]
    intro run hrun hmaps
    have hfirst := caseRuns_drop run hrun
    simp only [Text.CaseRun.maps, Bool.and_eq_true, decide_eq_true_eq] at hmaps
    omega
  have hfind : Text.caseRuns.find? (·.maps n) = (Text.caseRuns.take 3).find? (·.maps n) := by
    calc Text.caseRuns.find? (·.maps n)
        = (Text.caseRuns.take 3 ++ Text.caseRuns.drop 3).find? (·.maps n) := by
          rw [List.take_append_drop]
      _ = (Text.caseRuns.take 3).find? (·.maps n) := by
          rw [List.find?_append, hnone, Option.or_none]
  rw [Text.lowerCode, hfind]
  rfl

theorem lowerByte_lt : ∀ n < 256, lowerByte n < 256 := by decide +kernel

theorem lowerByte_lowerByte : ∀ n < 256, lowerByte (lowerByte n) = lowerByte n := by decide +kernel

theorem toLower_ofNat : ∀ n < 128, (Char.ofNat n).toLower = Char.ofNat (lowerByte n) := by
  decide +kernel

theorem lowerChar_eq {c : Char} (hc : c.toNat < 256) :
    Text.lowerChar c = [Char.ofNat (lowerByte c.toNat)] := by
  unfold Text.lowerChar
  split
  · omega
  split
  · next hascii =>
    have hlower := toLower_ofNat c.toNat hascii
    rw [Char.ofNat_toNat] at hlower
    rw [hlower]
  · rw [lowerCode_eq hc]

theorem toNat_ofNat_lt {n : Nat} (h : n < 256) : (Char.ofNat n).toNat = n := by
  have hvalid : n.isValidChar := Or.inl (by omega)
  rw [Char.ofNat, dif_pos hvalid]
  rfl

def Latin1 (s : String) : Prop := ∀ c ∈ s.toList, c.toNat < 256

instance (s : String) : Decidable (Latin1 s) :=
  List.decidableBAll (fun c : Char => c.toNat < 256) s.toList

namespace Latin1

theorem ofList {chars : List Char} (h : ∀ c ∈ chars, c.toNat < 256) : Latin1 (String.ofList chars) := by
  intro c hc
  exact h c (by simpa using hc)

theorem append {s t : String} (hs : Latin1 s) (ht : Latin1 t) : Latin1 (s ++ t) := by
  intro c hc
  rw [String.toList_append, List.mem_append] at hc
  exact hc.elim (hs c) (ht c)

theorem decode (bytes : Bytes) : Latin1 (decodeLatin1 bytes) := by
  refine ofList fun c hc => ?_
  obtain ⟨b, -, rfl⟩ := List.mem_map.1 hc
  rw [toNat_ofNat_lt b.toNat_lt]
  exact b.toNat_lt

/-- A capital sigma has no byte of its own, so that lower-casing goes character by character. -/
theorem lower_eq {s : String} (hs : Latin1 s) :
    Text.lower s = String.ofList (s.toList.map fun c => Char.ofNat (lowerByte c.toNat)) := by
  have hafter (chars before : List Char) (hchars : ∀ c ∈ chars, c.toNat < 256) :
      Text.lowerAfter before chars = chars.map fun c => Char.ofNat (lowerByte c.toNat) := by
    induction chars generalizing before with
    | nil => rfl
    | cons c rest ih =>
        have hc := hchars c List.mem_cons_self
        have hrest := ih (c :: before) fun d hd => hchars d (List.mem_cons_of_mem c hd)
        have hsigma : c ≠ 'Σ' := by
          rintro rfl
          exact absurd hc (by decide)
        rw [Text.lowerAfter, if_neg hsigma, hrest, lowerChar_eq hc]
        rfl
  rw [Text.lower, hafter s.toList [] hs]

theorem lower {s : String} (hs : Latin1 s) : Latin1 (Text.lower s) := by
  rw [lower_eq hs]
  refine ofList fun d hd => ?_
  obtain ⟨c, hc, rfl⟩ := List.mem_map.1 hd
  have hlt := lowerByte_lt c.toNat (hs c hc)
  rwa [toNat_ofNat_lt hlt]

theorem lower_lower {s : String} (hs : Latin1 s) : Text.lower (Text.lower s) = Text.lower s := by
  rw [lower_eq hs.lower, lower_eq hs, String.toList_ofList, List.map_map]
  congr 1
  refine List.map_congr_left fun c hc => ?_
  have hlt := lowerByte_lt c.toNat (hs c hc)
  rw [Function.comp_apply, toNat_ofNat_lt hlt, lowerByte_lowerByte c.toNat (hs c hc)]

theorem digitChar : ∀ n < 16, (Nat.digitChar n).toNat < 256 := by decide

theorem decimal (n : Nat) : Latin1 (toString n) := by
  rw [Nat.toString_eq_ofList_toDigits]
  refine ofList fun c hc => ?_
  have hdigit := Nat.isDigit_of_mem_toDigits (by decide) (by decide) hc
  have hle : c.toNat ≤ 57 := (Char.isDigit_iff_toNat.1 hdigit).2
  omega

theorem tag (body : Bytes) : Latin1 (EntityTag.ofBytes body) := by
  have hhex : Latin1 (EntityTag.hex (Md5.hash body)) := by
    refine ofList fun c hc => ?_
    obtain ⟨b, -, hc⟩ := List.mem_flatMap.1 hc
    have hb := b.toNat_lt
    rcases List.mem_cons.1 hc with rfl | hc
    · exact digitChar _ (by omega)
    · rw [List.mem_singleton.1 hc]
      exact digitChar _ (by omega)
  have hquote : Latin1 "\"" := by decide
  exact (append (by decide) hhex).append hquote

end Latin1

/-! ## Encoding -/

theorem encode_latin1 {s : String} (hs : Latin1 s) :
    ∃ bytes, Charset.latin1.encode s = .ok bytes ∧ decodeLatin1 bytes = s := by
  have hchars (chars : List Char) (position : Nat) (h : ∀ c ∈ chars, c.toNat < 256) :
      Charset.encodeSingle "latin-1" 0x100 position chars =
        .ok (chars.map fun c => UInt8.ofNat c.toNat) := by
    induction chars generalizing position with
    | nil => rfl
    | cons c rest ih =>
        have hc : c.toNat < 0x100 := h c List.mem_cons_self
        rw [Charset.encodeSingle, if_pos hc, ih _ fun d hd => h d (List.mem_cons_of_mem c hd)]
        rfl
  refine ⟨_, hchars s.toList 0 hs, ?_⟩
  have hback (chars : List Char) (h : ∀ c ∈ chars, c.toNat < 256) :
      (chars.map fun c => UInt8.ofNat c.toNat).map (fun b => Char.ofNat b.toNat) = chars := by
    induction chars with
    | nil => rfl
    | cons c rest ih =>
        have hc : (UInt8.ofNat c.toNat).toNat = c.toNat := by
          simpa using Nat.mod_eq_of_lt (h c List.mem_cons_self)
        rw [List.map_cons, List.map_cons, hc, Char.ofNat_toNat,
          ih fun d hd => h d (List.mem_cons_of_mem c hd)]
  rw [decodeLatin1, hback s.toList hs, String.ofList_toList]

theorem encodeHeaders_latin1 {pairs : List (String × String)}
    (h : ∀ pair ∈ pairs, Latin1 pair.1 ∧ Latin1 pair.2) :
    ∃ fields, encodeHeaders pairs = .ok fields ∧ Asgi.Scope.decodeHeaders fields = pairs := by
  induction pairs with
  | nil => exact ⟨[], rfl, rfl⟩
  | cons pair rest ih =>
      obtain ⟨name, value⟩ := pair
      obtain ⟨hname, hvalue⟩ : Latin1 name ∧ Latin1 value := h _ List.mem_cons_self
      obtain ⟨nameBytes, hnameBytes, hnameBack⟩ := encode_latin1 hname
      obtain ⟨valueBytes, hvalueBytes, hvalueBack⟩ := encode_latin1 hvalue
      obtain ⟨fields, hfields, hback⟩ := ih fun other hmem => h other (List.mem_cons_of_mem _ hmem)
      refine ⟨(nameBytes, valueBytes) :: fields, ?_, ?_⟩
      · rw [encodeHeaders] at hfields
        simp only [encodeHeaders, List.mapM_cons, hnameBytes, hvalueBytes, hfields]
        rfl
      · rw [Asgi.Scope.decodeHeaders] at hback
        simp [Asgi.Scope.decodeHeaders, hnameBack, hvalueBack, hback]

namespace Headers

def Latin1 (h : Headers) : Prop :=
  ∀ entry ∈ h.entries, Revalidation.Latin1 entry.1 ∧ Text.lower entry.1 = entry.1 ∧
    ∀ value ∈ entry.2, Revalidation.Latin1 value

theorem latin1_modifyKey {name : String} {f : Option (List String) → List String}
    {entries : List (String × List String)} (hname : Revalidation.Latin1 name)
    (hf : ∀ old, (∀ values, old = some values → ∀ value ∈ values, Revalidation.Latin1 value) →
      ∀ value ∈ f old, Revalidation.Latin1 value)
    (h : Latin1 ⟨entries⟩) : Latin1 ⟨modifyKey (Text.lower name) f entries⟩ := by
  induction entries with
  | nil =>
      intro entry hentry
      rw [List.mem_singleton.1 hentry]
      exact ⟨hname.lower, hname.lower_lower, hf none nofun⟩
  | cons first rest ih =>
      obtain ⟨key, values⟩ := first
      obtain ⟨hkey, hfolded, hvalues⟩ := h _ List.mem_cons_self
      have hrest : Latin1 ⟨rest⟩ := fun entry hmem => h entry (List.mem_cons_of_mem _ hmem)
      intro entry hentry
      simp only [modifyKey] at hentry
      split at hentry
      · rcases List.mem_cons.1 hentry with rfl | hmem
        · refine ⟨hkey, hfolded, hf _ fun others hothers => ?_⟩
          rwa [← Option.some.inj hothers]
        · exact hrest entry hmem
      · rcases List.mem_cons.1 hentry with rfl | hmem
        · exact ⟨hkey, hfolded, hvalues⟩
        · exact ih hrest entry hmem

variable {h : Headers} {name value : String}

theorem Latin1.set (hh : h.Latin1) (hname : Revalidation.Latin1 name)
    (hvalue : Revalidation.Latin1 value) : (h.set name value).Latin1 := by
  refine latin1_modifyKey hname (fun _ _ other hother => ?_) hh
  rwa [List.mem_singleton.1 hother]

theorem Latin1.add (hh : h.Latin1) (hname : Revalidation.Latin1 name)
    (hvalue : Revalidation.Latin1 value) : (h.add name value).Latin1 := by
  refine latin1_modifyKey hname (fun old hold other hother => ?_) hh
  rcases List.mem_append.1 hother with hmem | hmem
  · cases old with
    | none => simp at hmem
    | some values => exact hold values rfl other hmem
  · rwa [List.mem_singleton.1 hmem]

/-- Headers that have an encoding can be sent, and the server reads back what they are. -/
theorem Latin1.encode (hh : h.Latin1) :
    ∃ fields, encodeHeaders h.multiItems = .ok fields ∧
      Asgi.Scope.decodeHeaders fields = h.multiItems := by
  refine encodeHeaders_latin1 fun pair hpair => ?_
  obtain ⟨entry, hentry, hmem⟩ := List.mem_flatMap.1 hpair
  obtain ⟨value, hvalue, rfl⟩ := List.mem_map.1 hmem
  exact ⟨(hh entry hentry).1, (hh entry hentry).2.2 value hvalue⟩

end Headers
end Revalidation
