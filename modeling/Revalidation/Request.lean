import Revalidation.Context.Basic
import Revalidation.Headers

/-!
# Requests

What the filter knows of a request, apart from the context of its exchange.
-/

namespace Revalidation

structure Request where
  method : String
  url : String
  headers : Headers := {}
  deriving DecidableEq, Repr

namespace Request

instance : BEq Request :=
  ⟨fun a b => a.method == b.method && a.url == b.url && a.headers == b.headers⟩

def display (request : Request) (context : Context) : String :=
  s!"Request(method={Text.literal request.method}, url={Text.literal request.url}, headers={request.headers.display}, context={context.display})"

end Request
end Revalidation
