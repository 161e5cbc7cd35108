import Revalidation.Request

/-!
# Environments of the synchronous gateway interface

What a server says about a request, as named values in order, and the request that the filter sees.
-/

namespace Revalidation.Wsgi

structure Environ where
  entries : List (String × String) := []
  deriving DecidableEq, Repr

namespace Environ

def insert : List (String × String) → String → String → List (String × String)
  | [], name, value => [(name, value)]
  | (n, v) :: rest, name, value =>
    if n = name then (n, value) :: rest else (n, v) :: insert rest name value

/-- The environment of the given entries; of two with one name the later gives the value and the
earlier the position. -/
def ofPairs (pairs : List (String × String)) : Environ :=
  ⟨pairs.foldl (fun entries (name, value) => insert entries name value) []⟩

def get? (environ : Environ) (name : String) : Option String :=
  (environ.entries.find? (·.1 == name)).map Prod.snd

def getD (environ : Environ) (name default : String) : String := (environ.get? name).getD default

def hyphenate (text : List Char) : String :=
  String.ofList (text.map fun c => if c = '_' then '-' else c)

def field? (name value : String) : Option (String × String) :=
  if "HTTP_".toList.isPrefixOf name.toList then some (hyphenate (name.toList.drop 5), value)
  else if (name = "CONTENT_TYPE" ∨ name = "CONTENT_LENGTH") ∧ value ≠ "" then
    some (hyphenate name.toList, value)
  else none

def authority (environ : Environ) : String :=
  match environ.getD "HTTP_HOST" "" with
  | "" => environ.getD "SERVER_NAME" "localhost" ++ ":" ++ environ.getD "SERVER_PORT" "80"
  | host => host

def target (environ : Environ) : String :=
  let path := environ.getD "SCRIPT_NAME" "" ++ environ.getD "PATH_INFO" "/"
  match environ.getD "QUERY_STRING" "" with
  | "" => path
  | query => path ++ "?" ++ query

def toRequest (environ : Environ) : Request where
  method := environ.getD "REQUEST_METHOD" "GET"
  url := environ.getD "wsgi.url_scheme" "http" ++ "://" ++ environ.authority ++ environ.target
  headers := Headers.ofPairs (environ.entries.filterMap fun (name, value) => field? name value)

end Environ
end Revalidation.Wsgi
