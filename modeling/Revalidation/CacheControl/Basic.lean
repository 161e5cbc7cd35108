import Revalidation.Duration
import Revalidation.Text.Lower

/-!
# Cache-Control policies

The response directives of a `Cache-Control` header field.  A policy is a set of directives; it is
always written in the same order, whatever order the directives were given in.
-/

namespace Revalidation

inductive Directive where
  | maxAge (seconds : Int)
  | noCache
  | noStore
  | mustRevalidate
  | noTransform
  | cachePublic
  | cachePrivate
  | proxyRevalidate
  | sMaxAge (seconds : Int)
  deriving DecidableEq, Repr

namespace Directive

def name : Directive → String
  | maxAge _ => "max-age"
  | noCache => "no-cache"
  | noStore => "no-store"
  | mustRevalidate => "must-revalidate"
  | noTransform => "no-transform"
  | cachePublic => "public"
  | cachePrivate => "private"
  | proxyRevalidate => "proxy-revalidate"
  | sMaxAge _ => "s-maxage"

def seconds? : Directive → Option Int
  | maxAge n => some n
  | sMaxAge n => some n
  | _ => none

def token (d : Directive) : String :=
  match d.seconds? with
  | some n => d.name ++ "=" ++ toString n
  | none => d.name

end Directive

structure CacheControl where
  maxAge : Option Int := none
  noCache : Bool := false
  noStore : Bool := false
  mustRevalidate : Bool := false
  noTransform : Bool := false
  cachePublic : Bool := false
  cachePrivate : Bool := false
  proxyRevalidate : Bool := false
  sMaxAge : Option Int := none
  deriving DecidableEq, Repr

namespace CacheControl

def empty : CacheControl := {}

def directives (cc : CacheControl) : List Directive :=
  (cc.maxAge.map Directive.maxAge).toList
    ++ (if cc.noCache then [.noCache] else [])
    ++ (if cc.noStore then [.noStore] else [])
    ++ (if cc.mustRevalidate then [.mustRevalidate] else [])
    ++ (if cc.noTransform then [.noTransform] else [])
    ++ (if cc.cachePublic then [.cachePublic] else [])
    ++ (if cc.cachePrivate then [.cachePrivate] else [])
    ++ (if cc.proxyRevalidate then [.proxyRevalidate] else [])
    ++ (cc.sMaxAge.map Directive.sMaxAge).toList

def items (cc : CacheControl) : List String := cc.directives.map Directive.token

/-- Two policies are equal if they are written alike. -/
instance : BEq CacheControl := ⟨fun a b => a.items == b.items⟩

def headerValue (cc : CacheControl) : Option String :=
  if cc.items.isEmpty then none else some (", ".intercalate cc.items)

def contains (cc : CacheControl) (name : String) : Bool :=
  cc.directives.any (·.name == Text.lower name)

def text (cc : CacheControl) : String := cc.headerValue.getD ""

def display (cc : CacheControl) : String :=
  match cc.headerValue with
  | some value => s!"<CacheControl {value}>"
  | none => "<CacheControl>"

/-- A number of seconds as it is stored: minus one stands for a directive that is not set. -/
def storedSeconds (n : Int) : Option Int := if n = -1 then none else some n

/-- Directives given one by one, each as what it is declared to be: a duration in any form, or a flag.  A
flag in the place of a duration, or anything but a flag in the place of one, is not represented. -/
structure Settings where
  maxAge : Option Duration := none
  noCache : Bool := false
  noStore : Bool := false
  mustRevalidate : Bool := false
  noTransform : Bool := false
  cachePublic : Bool := false
  cachePrivate : Bool := false
  proxyRevalidate : Bool := false
  sMaxAge : Option Duration := none

def secondsOf (duration : Option Duration) : Except Fault (Option Int) :=
  match duration with
  | none => .ok none
  | some d => d.toSeconds.map storedSeconds

/-- The policy of directives given one by one.  The maximum age is converted before the one for
shared caches, so its fault is the one reported. -/
def ofSettings (settings : Settings) : Except Fault CacheControl := do
  let maxAge ← secondsOf settings.maxAge
  let sMaxAge ← secondsOf settings.sMaxAge
  return {
    maxAge := maxAge
    noCache := settings.noCache
    noStore := settings.noStore
    mustRevalidate := settings.mustRevalidate
    noTransform := settings.noTransform
    cachePublic := settings.cachePublic
    cachePrivate := settings.cachePrivate
    proxyRevalidate := settings.proxyRevalidate
    sMaxAge := sMaxAge }

def ofMaxAge (duration : Duration) : Except Fault CacheControl :=
  ofSettings { maxAge := some duration }

inductive Addition where
  | mustRevalidate
  | noTransform
  | cachePublic
  | cachePrivate
  | proxyRevalidate
  | sMaxAge (duration : Duration)

/-- Adds a directive.  A duration that cannot be converted changes nothing. -/
def add (cc : CacheControl) : Addition → Except Fault CacheControl
  | .mustRevalidate => .ok { cc with mustRevalidate := true }
  | .noTransform => .ok { cc with noTransform := true }
  | .cachePublic => .ok { cc with cachePublic := true }
  | .cachePrivate => .ok { cc with cachePrivate := true }
  | .proxyRevalidate => .ok { cc with proxyRevalidate := true }
  | .sMaxAge duration => duration.toSeconds.map fun n => { cc with sMaxAge := storedSeconds n }

end CacheControl
end Revalidation
