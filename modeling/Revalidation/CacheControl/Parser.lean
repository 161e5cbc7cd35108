import Revalidation.CacheControl.Basic
import Revalidation.CacheControl.Element

/-!
# Received Cache-Control fields

Any text can be read as a policy.  Elements of unknown names are left out.
-/

namespace Revalidation
namespace CacheControl

/-- The largest number of seconds that is kept; larger ones are taken for it. -/
def maxSeconds : Nat := 2147483647

def parseSeconds (argument : String) : Option Nat :=
  match Integer.read argument with
  | .ok n => if 0 ≤ n then some (min n.toNat maxSeconds) else none
  | .error _ => none

/-- The effect of an element with an argument.  A number that cannot be used unsets the directive. -/
def applyWithArgument (cc : CacheControl) (name argument : String) : CacheControl :=
  match name with
  | "max-age" => { cc with maxAge := (parseSeconds argument).map Int.ofNat }
  | "s-maxage" => { cc with sMaxAge := (parseSeconds argument).map Int.ofNat }
  | "no-cache" => { cc with noCache := true }
  | "no-store" => { cc with noStore := true }
  | "private" => { cc with cachePrivate := true }
  | _ => cc

def applyBare (cc : CacheControl) (name : String) : CacheControl :=
  match name with
  | "no-cache" => { cc with noCache := true }
  | "no-store" => { cc with noStore := true }
  | "must-revalidate" => { cc with mustRevalidate := true }
  | "no-transform" => { cc with noTransform := true }
  | "public" => { cc with cachePublic := true }
  | "private" => { cc with cachePrivate := true }
  | "proxy-revalidate" => { cc with proxyRevalidate := true }
  | _ => cc

def applyElement (cc : CacheControl) (element : Element) : CacheControl :=
  match element.argument with
  | some argument => cc.applyWithArgument element.name argument
  | none => cc.applyBare element.name

def parse (value : String) : CacheControl :=
  (Element.readAll value).foldl applyElement empty

def parse? (value : Option String) : CacheControl :=
  match value with
  | some text => parse text
  | none => empty

end CacheControl
end Revalidation
