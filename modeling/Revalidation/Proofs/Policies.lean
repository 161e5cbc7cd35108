import Revalidation.CacheControl.Parser

/-!
# Policies of elements

What a list of elements comes to.  A flag is set by an element of its name wherever that stands, and a
number of seconds by the last element of its name that has an argument.  An element does not look at
the policy before it, so the whole policy is given field by field.
-/

namespace Revalidation

namespace Element

def isBare (name : String) (e : Element) : Bool := e.name == name && e.argument.isNone

def argumentOf? (name : String) (e : Element) : Option String :=
  if e.name = name then e.argument else none

def lastArgument? (name : String) (es : List Element) : Option String :=
  (es.filterMap (argumentOf? name)).getLast?

end Element

namespace CacheControl

open Element

def lastSeconds? (name : String) (es : List Element) : Option Int :=
  (lastArgument? name es).bind fun argument => (parseSeconds argument).map Int.ofNat

/-- The seconds after an argument that may be missing.  One that is no number unsets them. -/
def secondsAfter (seconds : Option Int) : Option String → Option Int
  | some argument => (parseSeconds argument).map Int.ofNat
  | none => seconds

theorem secondsAfter_secondsAfter (seconds : Option Int) (first second : Option String) :
    secondsAfter (secondsAfter seconds first) second = secondsAfter seconds (second <|> first) := by
  cases second <;> rfl

theorem lastArgument?_cons (name : String) (e : Element) (es : List Element) :
    lastArgument? name (e :: es) = (lastArgument? name es <|> argumentOf? name e) := by
  unfold lastArgument?
  cases hargument : argumentOf? name e with
  | none => simp [hargument]
  | some argument =>
      rw [List.filterMap_cons_some hargument, List.getLast?_cons]
      cases (es.filterMap (argumentOf? name)).getLast? <;> rfl

/-! ## One element -/

theorem applyElement_eq (cc : CacheControl) (e : Element) :
    cc.applyElement e =
      { maxAge := secondsAfter cc.maxAge (argumentOf? "max-age" e)
        noCache := cc.noCache || e.name == "no-cache"
        noStore := cc.noStore || e.name == "no-store"
        mustRevalidate := cc.mustRevalidate || isBare "must-revalidate" e
        noTransform := cc.noTransform || isBare "no-transform" e
        cachePublic := cc.cachePublic || isBare "public" e
        cachePrivate := cc.cachePrivate || e.name == "private"
        proxyRevalidate := cc.proxyRevalidate || isBare "proxy-revalidate" e
        sMaxAge := secondsAfter cc.sMaxAge (argumentOf? "s-maxage" e) } := by
  obtain ⟨name, argument⟩ := e
  cases cc
  cases argument with
  | none =>
      simp only [applyElement, applyBare, isBare, argumentOf?, ite_self, secondsAfter]
      split <;> simp_all
  | some argument =>
      simp only [applyElement, applyWithArgument, isBare, argumentOf?]
      split <;> simp_all [secondsAfter]

/-! ## A list of elements -/

theorem foldl_applyElement (cc : CacheControl) (es : List Element) :
    es.foldl applyElement cc =
      { maxAge := secondsAfter cc.maxAge (lastArgument? "max-age" es)
        noCache := cc.noCache || es.any (·.name == "no-cache")
        noStore := cc.noStore || es.any (·.name == "no-store")
        mustRevalidate := cc.mustRevalidate || es.any (isBare "must-revalidate")
        noTransform := cc.noTransform || es.any (isBare "no-transform")
        cachePublic := cc.cachePublic || es.any (isBare "public")
        cachePrivate := cc.cachePrivate || es.any (·.name == "private")
        proxyRevalidate := cc.proxyRevalidate || es.any (isBare "proxy-revalidate")
        sMaxAge := secondsAfter cc.sMaxAge (lastArgument? "s-maxage" es) } := by
  induction es generalizing cc with
  | nil => simp [lastArgument?, secondsAfter]
  | cons e es ih =>
      rw [List.foldl_cons, ih, applyElement_eq]
      simp only [secondsAfter_secondsAfter, lastArgument?_cons, List.any_cons, Bool.or_assoc]

/-- A policy is read off the elements of its field: a flag for each name that occurs, and the numbers
of the last arguments. -/
theorem parse_eq (value : String) :
    let es := readAll value
    parse value =
      { maxAge := lastSeconds? "max-age" es
        noCache := es.any (·.name == "no-cache")
        noStore := es.any (·.name == "no-store")
        mustRevalidate := es.any (isBare "must-revalidate")
        noTransform := es.any (isBare "no-transform")
        cachePublic := es.any (isBare "public")
        cachePrivate := es.any (·.name == "private")
        proxyRevalidate := es.any (isBare "proxy-revalidate")
        sMaxAge := lastSeconds? "s-maxage" es } := by
  intro es
  have hlast : ∀ name, secondsAfter none (lastArgument? name es) = lastSeconds? name es := by
    intro name
    unfold lastSeconds?
    cases lastArgument? name es <;> rfl
  rw [parse, foldl_applyElement]
  simp only [empty, Bool.false_or, hlast, es]

/-! ## The directives of a policy -/

theorem any_directives (cc : CacheControl) (p : Directive → Bool) :
    cc.directives.any p =
      (cc.maxAge.any (p ∘ .maxAge) || cc.noCache && p .noCache || cc.noStore && p .noStore
        || cc.mustRevalidate && p .mustRevalidate || cc.noTransform && p .noTransform
        || cc.cachePublic && p .cachePublic || cc.cachePrivate && p .cachePrivate
        || cc.proxyRevalidate && p .proxyRevalidate || cc.sMaxAge.any (p ∘ .sMaxAge)) := by
  have hflag (set : Bool) (d : Directive) : (if set then [d] else []).any p = (set && p d) := by
    cases set <;> simp
  have hseconds (seconds : Option Int) (d : Int → Directive) :
      (seconds.map d).toList.any p = seconds.any (p ∘ d) := by
    cases seconds <;> simp
  simp only [directives, List.any_append, hflag, hseconds]

end CacheControl
end Revalidation
