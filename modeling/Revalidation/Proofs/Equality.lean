import Mathlib.Data.List.TFAE
import Mathlib.Logic.Function.Basic
import Mathlib.Tactic.TFAE
import Revalidation.Proofs.RoundTrip
import Revalidation.Proofs.Unsetting

/-!
# Equal policies

The directives of a policy can be told from its text.  So policies that are written alike are the same
policy, also with numbers that no received field has, such as negative ones.
-/

namespace Revalidation

namespace Directive

variable {d e : Directive}

theorem eq_of_name (hname : d.name = e.name) (hseconds : d.seconds? = e.seconds?) : d = e := by
  cases d <;> cases e <;> simp_all [name, seconds?]

theorem element_injective : Function.Injective element := by
  intro d e h
  rw [element, element, Element.mk.injEq] at h
  exact eq_of_name h.1 (Option.map_injective Integer.toString_injective h.2)

theorem takeWhile_token (d : Directive) : d.token.toList.takeWhile (· != '=') = d.name.toList := by
  have hname : ∀ c ∈ d.name.toList, (c != '=') = true := by
    intro c hc
    have hchar := (isToken_name d).2 c hc
    rw [bne_iff_ne]
    rintro rfl
    cases hchar
  cases hseconds : d.seconds? with
  | none =>
      rw [token, hseconds]
      exact List.takeWhile_eq_self_iff.mpr hname
  | some n =>
      rw [toList_token hseconds, List.takeWhile_append_of_pos hname,
        List.takeWhile_cons_of_neg (by decide), List.append_nil]

end Directive

namespace CacheControl

def Has (cc : CacheControl) : Directive → Prop
  | .maxAge n => cc.maxAge = some n
  | .noCache => cc.noCache = true
  | .noStore => cc.noStore = true
  | .mustRevalidate => cc.mustRevalidate = true
  | .noTransform => cc.noTransform = true
  | .cachePublic => cc.cachePublic = true
  | .cachePrivate => cc.cachePrivate = true
  | .proxyRevalidate => cc.proxyRevalidate = true
  | .sMaxAge n => cc.sMaxAge = some n

variable {a b cc : CacheControl} {d : Directive}

/-! ## The directives that are set -/

theorem mem_directives_iff : d ∈ cc.directives ↔ cc.Has d := by
  have hflag (set : Bool) (e : Directive) : d ∈ (if set then [e] else []) ↔ set = true ∧ d = e := by
    cases set <;> simp
  have hseconds (seconds : Option Int) (e : Int → Directive) :
      d ∈ (seconds.map e).toList ↔ ∃ n, seconds = some n ∧ e n = d := by
    simp
  simp only [directives, List.mem_append, hflag, hseconds]
  cases d <;> simp [Has]

theorem eq_of_has (h : ∀ d, a.Has d ↔ b.Has d) : a = b := by
  cases a
  cases b
  rw [mk.injEq]
  exact ⟨Option.ext fun n => h (.maxAge n), Bool.eq_iff_iff.mpr (h .noCache),
    Bool.eq_iff_iff.mpr (h .noStore), Bool.eq_iff_iff.mpr (h .mustRevalidate),
    Bool.eq_iff_iff.mpr (h .noTransform), Bool.eq_iff_iff.mpr (h .cachePublic),
    Bool.eq_iff_iff.mpr (h .cachePrivate), Bool.eq_iff_iff.mpr (h .proxyRevalidate),
    Option.ext fun n => h (.sMaxAge n)⟩

theorem contains_iff_has (cc : CacheControl) (name : String) :
    cc.contains name = true ↔ ∃ d, cc.Has d ∧ d.name = Text.lower name := by
  simp only [contains, List.any_eq_true, mem_directives_iff, beq_iff_eq]

theorem contains_iff_items (cc : CacheControl) (name : String) : cc.contains name = true ↔
    ∃ item ∈ cc.items, item.toList.takeWhile (· != '=') = (Text.lower name).toList := by
  simp only [contains, items, List.any_eq_true, List.mem_map, exists_exists_and_eq_and,
    Directive.takeWhile_token, beq_iff_eq, String.toList_inj]

/-! ## The text of a policy -/

theorem eq_of_text (htext : a.text = b.text) : a = b := by
  have hread : a.directives.map Directive.element = b.directives.map Directive.element := by
    rw [← readAll_items, ← readAll_items, ← text_eq, ← text_eq, htext]
  have hdirectives : a.directives = b.directives :=
    List.map_injective_iff.mpr Directive.element_injective hread
  apply eq_of_has
  intro d
  rw [← mem_directives_iff, ← mem_directives_iff, hdirectives]

/-- Policies are equal exactly if they have the same header text, and that is exactly if the same
directives are set in both, with the same numbers.  A name belongs to a policy exactly if its lower-cased form
is the name of a directive that is set, and so the name before the equals sign, if any, of one of its texts. -/
theorem beq_tfae_and_contains :
    (∀ a b : CacheControl, List.TFAE
      [(a == b) = true, a.headerValue = b.headerValue, ∀ d, a.Has d ↔ b.Has d, a = b]) ∧
    ∀ (cc : CacheControl) (name : String), List.TFAE
      [cc.contains name = true, ∃ d, cc.Has d ∧ d.name = Text.lower name,
        ∃ item ∈ cc.items, item.toList.takeWhile (· != '=') = (Text.lower name).toList] := by
  constructor
  · intro a b
    tfae_have 1 → 2 := by
      intro hbeq
      rw [headerValue, headerValue, (beq_iff a b).mp hbeq]
    tfae_have 2 → 4 := by
      intro hvalue
      exact eq_of_text (congrArg (Option.getD · "") hvalue)
    tfae_have 4 → 3 := by
      rintro rfl d
      exact Iff.rfl
    tfae_have 3 → 1 := by
      intro hhas
      rw [eq_of_has hhas, beq_iff]
    tfae_finish
  · intro cc name
    tfae_have 1 ↔ 2 := contains_iff_has cc name
    tfae_have 1 ↔ 3 := contains_iff_items cc name
    tfae_finish

end CacheControl
end Revalidation
