import Revalidation.CacheControl.Basic

/-!
# Cache-Control as a rule for responses

A rule is set up once, from a policy or from directives given one by one, and then applied to the
header field of each response.  It keeps the text the policy had when the rule was set up.
-/

namespace Revalidation
namespace CacheControl

/-- Whether some directive is given.  A duration counts whatever its value. -/
def Settings.isGiven (settings : Settings) : Bool :=
  settings.maxAge.isSome || settings.sMaxAge.isSome || settings.cachePublic
    || settings.cachePrivate || settings.noCache || settings.noStore || settings.noTransform
    || settings.mustRevalidate || settings.proxyRevalidate

structure ResponseRule where
  value : Option String
  deriving DecidableEq, Repr

namespace ResponseRule

def ofSource (policy : Option CacheControl) (settings : Settings) : Except Fault ResponseRule :=
  match policy with
  | none => (ofSettings settings).map fun cc => ⟨cc.headerValue⟩
  | some cc => if settings.isGiven then .error .directivesTwice else .ok ⟨cc.headerValue⟩

def apply (rule : ResponseRule) (existing : Option String) : Option String :=
  rule.value <|> existing

end ResponseRule
end CacheControl
end Revalidation
