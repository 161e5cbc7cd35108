import Revalidation.Proofs.Grammar
import Revalidation.Proofs.Seconds

/-!
# Reading policies back

The field of a policy is one of the texts of its directives, so it is read as these directives.  The
numbers of a policy are kept if they are in the range that is kept of a received field.
-/

namespace Revalidation

open Element

namespace Directive

def element (d : Directive) : Element := ⟨d.name, d.seconds?.map toString⟩

theorem isToken_name (d : Directive) : IsToken d.name.toList := by
  cases d <;> rw [name] <;> decide

theorem folded_element (d : Directive) : d.element.folded = d.element := by
  have hname : Text.lower d.name = d.name := by
    cases d <;> rw [name] <;> decide
  rw [folded, element, hname]

theorem isTokenChar_of_mem_toDigits {k : Nat} {c : Char} (hc : c ∈ Nat.toDigits 10 k) :
    isTokenChar c = true := by
  have hdigit : c.isDigit = true := Nat.isDigit_of_mem_toDigits (by omega) (by omega) hc
  simp [isTokenChar, Char.isAlphanum, hdigit]

theorem isToken_toString (n : Int) : IsToken (toString n).toList := by
  cases n with
  | ofNat k =>
      show IsToken (toString k).toList
      rw [Integer.toList_toString]
      exact ⟨Nat.toDigits_ne_nil, fun c hc => isTokenChar_of_mem_toDigits hc⟩
  | negSucc k =>
      rw [Integer.toList_toString_negSucc, IsToken, List.forall_mem_cons]
      exact ⟨List.cons_ne_nil _ _, by decide, fun c hc => isTokenChar_of_mem_toDigits hc⟩

theorem toList_token {d : Directive} {n : Int} (hseconds : d.seconds? = some n) :
    d.token.toList = d.name.toList ++ '=' :: (toString n).toList := by
  rw [token, hseconds, String.toList_append, String.toList_append, List.append_assoc]
  rfl

theorem writes_token (d : Directive) : Writes d.element d.token.toList := by
  rw [element]
  cases hseconds : d.seconds? with
  | none =>
      rw [token, hseconds]
      exact .bare (isToken_name d)
  | some n =>
      rw [toList_token hseconds]
      exact .token (isToken_name d) (by decide : IsSpaces []) (by decide : IsSpaces [])
        (isToken_toString n)

end Directive

namespace CacheControl

/-- The numbers are in the range that is kept of a received field. -/
def InRange (cc : CacheControl) : Prop :=
  (∀ n ∈ cc.maxAge, 0 ≤ n ∧ n ≤ maxSeconds) ∧ ∀ n ∈ cc.sMaxAge, 0 ≤ n ∧ n ≤ maxSeconds

variable {cc : CacheControl}

/-! ## The directives of a policy -/

theorem filterMap_directives {α : Type} {f : Directive → Option α}
    (hplain : ∀ d : Directive, d.seconds? = none → f d = none) (cc : CacheControl) :
    cc.directives.filterMap f =
      (cc.maxAge.bind (f ∘ .maxAge)).toList ++ (cc.sMaxAge.bind (f ∘ .sMaxAge)).toList := by
  have hflag (set : Bool) (d : Directive) (hd : d.seconds? = none) :
      (if set then [d] else []).filterMap f = [] := by
    cases set <;> simp [hplain d hd]
  have hseconds (seconds : Option Int) (d : Int → Directive) :
      (seconds.map d).toList.filterMap f = (seconds.bind (f ∘ d)).toList := by
    cases seconds with
    | none => rfl
    | some n => cases hd : f (d n) <;> simp [hd]
  simp only [directives, List.filterMap_append, hseconds]
  rw [hflag _ .noCache rfl, hflag _ .noStore rfl, hflag _ .mustRevalidate rfl,
    hflag _ .noTransform rfl, hflag _ .cachePublic rfl, hflag _ .cachePrivate rfl,
    hflag _ .proxyRevalidate rfl]
  simp

theorem lastArgument?_directives (cc : CacheControl) :
    lastArgument? "max-age" (cc.directives.map Directive.element) = cc.maxAge.map toString ∧
      lastArgument? "s-maxage" (cc.directives.map Directive.element) = cc.sMaxAge.map toString := by
  have hplain (name : String) (d : Directive) (hd : d.seconds? = none) :
      (argumentOf? name ∘ Directive.element) d = none := by
    simp [argumentOf?, Directive.element, hd]
  unfold lastArgument?
  rw [List.filterMap_map, List.filterMap_map, filterMap_directives (hplain _),
    filterMap_directives (hplain _)]
  constructor
  · cases cc.maxAge <;> cases cc.sMaxAge <;> rfl
  · cases cc.maxAge <;> cases cc.sMaxAge <;> rfl

theorem readAll_items (cc : CacheControl) :
    readAll (", ".intercalate cc.items) = cc.directives.map Directive.element := by
  have hrenders : Renders (cc.directives.map Directive.element) (", ".intercalate cc.items).toList :=
    .intercalate fun d _ => Directive.writes_token d
  rw [readAll, elements_renders hrenders, List.map_map]
  exact List.map_congr_left fun d _ => Directive.folded_element d

/-! ## Numbers -/

theorem parseSeconds_kept {n : Int} (hrange : 0 ≤ n ∧ n ≤ maxSeconds) :
    (parseSeconds (toString n)).map Int.ofNat = some n := by
  obtain ⟨hlower, hupper⟩ := hrange
  obtain ⟨k, rfl⟩ := Int.eq_ofNat_of_zero_le hlower
  have hk : k ≤ maxSeconds := by omega
  have hlength : (toString k).length ≤ 4300 := by
    calc (toString k).length
        ≤ 10 := (Nat.length_repr_le_iff (by omega)).mpr (hk.trans_lt (by decide))
      _ ≤ 4300 := by decide
  have hparse : parseSeconds (toString (k : Int)) = some (min k maxSeconds) :=
    parseSeconds_toString hlength
  rw [hparse, Nat.min_eq_left hk]
  rfl

theorem bind_parseSeconds {seconds : Option Int} (hrange : ∀ n ∈ seconds, 0 ≤ n ∧ n ≤ maxSeconds) :
    ((seconds.map toString).bind fun text => (parseSeconds text).map Int.ofNat) = seconds := by
  cases seconds with
  | none => rfl
  | some n => exact parseSeconds_kept (hrange n rfl)

theorem lastSeconds?_range {name : String} {es : List Element} {n : Int}
    (hn : n ∈ lastSeconds? name es) : 0 ≤ n ∧ n ≤ maxSeconds := by
  obtain ⟨argument, -, hargument⟩ := Option.bind_eq_some_iff.mp hn
  obtain ⟨k, hk, rfl⟩ := Option.map_eq_some_iff.mp hargument
  have hle := parseSeconds_le hk
  exact ⟨Int.natCast_nonneg k, Int.ofNat_le.mpr hle⟩

/-! ## Round trips -/

theorem inRange_parse (value : String) : (parse value).InRange := by
  rw [parse_eq]
  exact ⟨fun n => lastSeconds?_range, fun n => lastSeconds?_range⟩

theorem parse_items (hrange : cc.InRange) : parse (", ".intercalate cc.items) = cc := by
  obtain ⟨hlast, hlastShared⟩ := lastArgument?_directives cc
  rw [parse_eq, readAll_items cc]
  simp only [lastSeconds?, hlast, hlastShared, bind_parseSeconds hrange.1, bind_parseSeconds hrange.2,
    List.any_map, any_directives]
  cases cc
  simp [Directive.element, Directive.name, isBare, Directive.seconds?, Function.comp_def]

theorem text_eq (cc : CacheControl) : cc.text = ", ".intercalate cc.items := by
  unfold text headerValue
  split
  · rename_i hempty
    rw [List.isEmpty_iff.mp hempty]
    rfl
  · rfl

theorem parse?_headerValue (cc : CacheControl) :
    parse? cc.headerValue = parse (", ".intercalate cc.items) := by
  rw [← text_eq, text]
  cases cc.headerValue <;> rfl

/-- A policy whose numbers are in range is read back from its field, and so is written alike again.
Whatever is received is read as such a policy. -/
theorem headerValue_roundTrip :
    (∀ cc : CacheControl, cc.InRange →
      parse? cc.headerValue = cc ∧ (parse? cc.headerValue == cc) = true ∧
        (parse? cc.headerValue).headerValue = cc.headerValue) ∧
    ∀ value : Option String, (parse? value).InRange ∧
      parse? (parse? value).headerValue = parse? value ∧
        (parse? (parse? value).headerValue).headerValue = (parse? value).headerValue := by
  have hback : ∀ cc : CacheControl, cc.InRange → parse? cc.headerValue = cc := by
    intro cc hrange
    rw [parse?_headerValue, parse_items hrange]
  have hreceived : ∀ value : Option String, (parse? value).InRange := by
    intro value
    cases value with
    | none => exact inRange_parse ""
    | some text => exact inRange_parse text
  constructor
  · intro cc hrange
    rw [hback cc hrange]
    exact ⟨rfl, beq_self_eq_true cc.items, rfl⟩
  · intro value
    rw [hback _ (hreceived value)]
    exact ⟨hreceived value, rfl, rfl⟩

theorem headerValue_roundTrip_largest :
    let cc : CacheControl := { maxAge := some 0, cachePrivate := true, sMaxAge := some 2147483647 }
    cc.InRange ∧ cc.headerValue = some "max-age=0, private, s-maxage=2147483647" ∧
      parse? cc.headerValue = cc := by
  intro cc
  have hrange : cc.InRange := by
    constructor
    · rintro n ⟨⟩
      decide
    · rintro n ⟨⟩
      decide
  exact ⟨hrange, by decide, (headerValue_roundTrip.1 cc hrange).1⟩

end CacheControl
end Revalidation
