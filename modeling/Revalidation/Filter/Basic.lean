import Revalidation.CacheControl.Parser
import Revalidation.Digest.EntityTag
import Revalidation.Request

/-!
# Entity tag filters

A filter decides which responses get an entity tag and what the tag is.  By default these are the
successful responses to GET requests without a `no-store` directive, and the tag is a digest of the
body.  Both decisions can be replaced.
-/

namespace Revalidation

inductive TagSource where
  | digest
  /-- Always the same tag. -/
  | fixed (tag : String)
  /-- The digest with a mark in front of it. -/
  | marked (mark : String)
  deriving DecidableEq, Repr

structure EtagFilter where
  tagSource : TagSource := .digest
  /-- The methods whose responses get a tag, whatever their status and headers. -/
  methods : Option (List String) := none
  /-- The name of the filter, if it is not one of the two built in. -/
  customName : Option String := none
  deriving DecidableEq, Repr

namespace EtagFilter

def name (filter : EtagFilter) (style : CallStyle) : String :=
  match filter.customName, style with
  | some name, _ => name
  | none, .sync => "ShallowEtagFilter"
  | none, .async => "AsyncShallowEtagFilter"

def tag (filter : EtagFilter) (body : Bytes) : String :=
  match filter.tagSource with
  | .digest => EntityTag.ofBytes body
  | .fixed tag => tag
  | .marked mark => mark ++ EntityTag.ofBytes body

/-- Whether a `Cache-Control` field, if there is one, allows a response to be stored. -/
def allowsStore (cacheControl : Option String) : Bool :=
  match cacheControl with
  | none => true
  | some value => !(CacheControl.parse value).contains "no-store"

/-- Whether a response gets an entity tag, by the method of the request, the status and the
`Cache-Control` field of the response. -/
def isEligible (filter : EtagFilter) (method : String) (status : Int)
    (cacheControl : Option String) : Bool :=
  match filter.methods with
  | some methods => methods.contains method
  | none => 200 ≤ status && status < 300 && method == "GET" && allowsStore cacheControl

end EtagFilter
end Revalidation
