import Revalidation.Proofs.Grammar

/-!
# Numbers that cannot be read

An element whose number of seconds cannot be read is not passed over.  It takes the place of the
elements of its name before it, so that the policy is left without that directive, and it changes
nothing else.
-/

namespace Revalidation.CacheControl

open Element

def secondsUnder (cc : CacheControl) (name : String) : Option Int :=
  if name = "max-age" then cc.maxAge else if name = "s-maxage" then cc.sMaxAge else none

def unset (cc : CacheControl) (name : String) : CacheControl :=
  { cc with
    maxAge := if name = "max-age" then none else cc.maxAge
    sMaxAge := if name = "s-maxage" then none else cc.sMaxAge }

variable {name argument : String}

/-! ## Unsetting -/

theorem applyElement_invalid (cc : CacheControl) (hname : name = "max-age" ∨ name = "s-maxage")
    (hinvalid : parseSeconds argument = none) :
    cc.applyElement ⟨name, some argument⟩ = cc.unset name := by
  obtain rfl | rfl := hname
  · simp [applyElement, applyWithArgument, unset, hinvalid]
  · simp [applyElement, applyWithArgument, unset, hinvalid]

theorem length_items (cc : CacheControl) :
    cc.items.length = cc.maxAge.toList.length + cc.noCache.toNat + cc.noStore.toNat
      + cc.mustRevalidate.toNat + cc.noTransform.toNat + cc.cachePublic.toNat
      + cc.cachePrivate.toNat + cc.proxyRevalidate.toNat + cc.sMaxAge.toList.length := by
  have hflag (set : Bool) (d : Directive) : (if set then [d] else []).length = set.toNat := by
    cases set <;> rfl
  have hseconds (seconds : Option Int) (d : Int → Directive) :
      (seconds.map d).toList.length = seconds.toList.length := by
    cases seconds <;> rfl
  simp only [items, directives, List.length_map, List.length_append, hflag, hseconds]

theorem beq_iff (cc other : CacheControl) : (cc == other) = true ↔ cc.items = other.items := by
  show (cc.items == other.items) = true ↔ _
  exact beq_iff_eq

theorem length_items_unset (cc : CacheControl) (hname : name = "max-age" ∨ name = "s-maxage") :
    (cc.unset name).items.length + (cc.secondsUnder name).toList.length = cc.items.length := by
  rw [length_items, length_items]
  obtain rfl | rfl := hname
  · have hother : "max-age" ≠ "s-maxage" := by decide
    simp only [unset, secondsUnder, reduceIte, if_neg hother, Option.toList_none, List.length_nil]
    omega
  · simp [unset, secondsUnder]

theorem unset_of_secondsUnder {cc : CacheControl} (hname : name = "max-age" ∨ name = "s-maxage")
    (hseconds : cc.secondsUnder name = none) : cc.unset name = cc := by
  cases cc
  obtain rfl | rfl := hname
  · simp_all [unset, secondsUnder]
  · simp_all [unset, secondsUnder]

/-- A policy is equal to what unsetting leaves of it only if there was nothing to unset. -/
theorem unset_beq_iff (cc : CacheControl) (hname : name = "max-age" ∨ name = "s-maxage") :
    (cc.unset name == cc) = true ↔ cc.secondsUnder name = none := by
  rw [beq_iff]
  constructor
  · intro hitems
    have hlength := length_items_unset cc hname
    rw [hitems, Nat.add_eq_left, List.length_eq_zero_iff] at hlength
    exact Option.toList_eq_nil_iff.mp hlength
  · intro hseconds
    rw [unset_of_secondsUnder hname hseconds]

theorem secondsUnder_parse (value : String) (hname : name = "max-age" ∨ name = "s-maxage") :
    (parse value).secondsUnder name = lastSeconds? name (readAll value) := by
  rw [parse_eq]
  obtain rfl | rfl := hname <;> rfl

/-! ## One more element -/

theorem readAll_append_writes {before text : String} {d : Element} (hcomplete : isComplete before = true)
    (hwrites : Writes d text.toList) :
    readAll (before ++ ", " ++ text) = readAll before ++ [d.folded] := by
  have hend : IsSpaces [] := by decide
  have hlast := elements_writes hwrites hend (.inl rfl)
  rw [List.append_nil, List.append_nil] at hlast
  have hjoined := readAll_joined hcomplete text.toList
  rw [readAll, String.toList_append, String.toList_append, hjoined, hlast]
  rfl

/-- A field read to its end and an element after it whose number cannot be read, however that is
written, come to the policy of the field without the directive.  So the element changes something exactly
if the last argument of its name in the field is a number. -/
theorem parse_append_invalid {before text x : String} (hcomplete : isComplete before = true)
    (hname : Text.lower name = "max-age" ∨ Text.lower name = "s-maxage")
    (hwrites : Writes ⟨name, some x⟩ text.toList) (hinvalid : parseSeconds x = none) :
    let cc := parse before
    let after := parse (before ++ ", " ++ text)
    after = cc.unset (Text.lower name) ∧
      ((after == cc) = true ↔ lastSeconds? (Text.lower name) (readAll before) = none) := by
  intro cc after
  have hafter : after = cc.unset (Text.lower name) := by
    calc after
        = (readAll before ++ [folded ⟨name, some x⟩]).foldl applyElement empty := by
          rw [← readAll_append_writes hcomplete hwrites]
          rfl
      _ = cc.applyElement ⟨Text.lower name, some x⟩ := by
          rw [List.foldl_append]
          rfl
      _ = cc.unset (Text.lower name) := applyElement_invalid cc hname hinvalid
  refine ⟨hafter, ?_⟩
  rw [hafter, unset_beq_iff cc hname, secondsUnder_parse before hname]

theorem parse_append_invalid_sixty :
    let text := "max-age=\"x\""
    isComplete "public, max-age=60" = true ∧ Writes ⟨"max-age", some "x"⟩ text.toList ∧
      parseSeconds "x" = none ∧
      parse ("public, max-age=60" ++ ", " ++ text) = { empty with cachePublic := true } ∧
      (parse ("public, max-age=60" ++ ", " ++ text) == parse "public, max-age=60") = false := by
  intro text
  have hcomplete : isComplete "public, max-age=60" = true := by decide
  have hquotes : Quotes "x".toList "x".toList := .plain (by decide) (by decide) .nil
  have hwrites : Writes ⟨"max-age", some "x"⟩ "max-age=\"x\"".toList :=
    .quoted (by decide) (by decide : IsSpaces []) (by decide : IsSpaces []) hquotes
  have hinvalid : parseSeconds "x" = none := by decide
  obtain ⟨hafter, hequal⟩ := parse_append_invalid hcomplete (.inl (by decide)) hwrites hinvalid
  refine ⟨hcomplete, hwrites, hinvalid, hafter.trans (by decide), ?_⟩
  rw [← Bool.not_eq_true, hequal]
  decide

end Revalidation.CacheControl
