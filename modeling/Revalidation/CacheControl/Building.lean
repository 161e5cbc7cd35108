import Revalidation.CacheControl.Parser

/-!
# Building policies

A policy comes from settings, from one of a few usual settings or from a received field.  Further
directives are added to it in place, and each time the policy is given back, so that more can be added in
the same expression.  Policies are told apart by their numbers.
-/

namespace Revalidation
namespace CacheControl

inductive Origin where
  | settings (settings : Settings)
  | empty
  | maxAge (duration : Duration)
  | noCache
  | noStore
  | received (value : Option String)

namespace Origin

def settings? : Origin → Option Settings
  | settings s => some s
  | empty => some {}
  | maxAge duration => some { maxAge := some duration }
  | noCache => some { noCache := true }
  | noStore => some { noStore := true }
  | received _ => none

def policy : Origin → Except Fault CacheControl
  | settings s => ofSettings s
  | empty => ofSettings {}
  | maxAge duration => ofMaxAge duration
  | noCache => ofSettings { noCache := true }
  | noStore => ofSettings { noStore := true }
  | received value => .ok (parse? value)

end Origin
end CacheControl

structure Policies where
  held : List CacheControl := []
  deriving DecidableEq, Repr

namespace Policies

def hold (policies : Policies) (cc : CacheControl) : Nat × Policies :=
  (policies.held.length, { policies with held := policies.held ++ [cc] })

def policy (policies : Policies) (id : Nat) : CacheControl := policies.held.getD id .empty

def put (policies : Policies) (id : Nat) (cc : CacheControl) : Policies :=
  { policies with held := policies.held.set id cc }

def add (policies : Policies) (id : Nat) (addition : CacheControl.Addition) :
    Except Fault Nat × Policies :=
  match (policies.policy id).add addition with
  | .ok cc => (.ok id, policies.put id cc)
  | .error fault => (.error fault, policies)

end Policies
end Revalidation
