import Revalidation.Generator.Substitution

/-!
# Lines of the synchronous code

The synchronous code is the asynchronous code with some phrases replaced, line by line.
-/

namespace Revalidation.Generator

def substitutions : List Substitution := [
  ⟨"async def", "def"⟩,
  ⟨"await ", ""⟩,
  ⟨"AsyncResponseSink", "ResponseSink"⟩,
  ⟨"AsyncContentCachingResponse", "ContentCachingResponse"⟩,
  ⟨"AsyncShallowEtagFilter", "ShallowEtagFilter"⟩,
  ⟨"AsyncHandler", "Handler"⟩,
  ⟨"MockAsyncResponseSink", "MockResponseSink"⟩,
  ⟨"find_async_content_caching_response", "find_content_caching_response"⟩,
  ⟨"from etagger._async", "from etagger._sync"⟩,
  ⟨"@pytest.mark.anyio", ""⟩]

def convertWith : List Substitution → String → String × List Bool
  | [], line => (line, [])
  | s :: rest, line =>
    let changed := s.apply line
    let (result, used) := convertWith rest changed
    (result, (changed != line) :: used)

def convert (line : String) : String := (convertWith substitutions line).1

def usedIn (line : String) : List Bool := (convertWith substitutions line).2

def addUsed (used : List Bool) (line : String) : List Bool :=
  List.zipWith (· || ·) used (usedIn line)

def noneUsed : List Bool := substitutions.map fun _ => false

def unused (used : List Bool) : List Substitution :=
  ((substitutions.zip used).filter fun (_, u) => !u).map Prod.fst

end Revalidation.Generator
