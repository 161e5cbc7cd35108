import Revalidation.Request
import Revalidation.Text.Charset

/-!
# Scopes of the asynchronous gateway interface

What a server says about a request, and the request that the filter sees.
-/

namespace Revalidation.Asgi

/-- The description of a request by the server.  Anything may be missing. -/
structure Scope where
  type : Option String := none
  method : Option String := none
  scheme : Option String := none
  path : Option String := none
  queryString : Option Bytes := none
  headers : Option (List (Bytes × Bytes)) := none
  /-- The host and, if it is known, the port of the server. -/
  server : Option (String × Option Int) := none
  deriving DecidableEq, Repr

namespace Scope

def schemeD (scope : Scope) : String := scope.scheme.getD "http"

def defaultPort (scheme : String) : Int := if scheme = "https" then 443 else 80

def authority (scope : Scope) : String :=
  let (host, port?) := scope.server.getD ("localhost", some 80)
  let scheme := scope.schemeD
  let port := port?.getD (defaultPort scheme)
  if (scheme = "http" ∧ port ≠ 80) ∨ (scheme = "https" ∧ port ≠ 443) then
    host ++ ":" ++ toString port
  else host

def target (scope : Scope) : String :=
  let path := scope.path.getD "/"
  match scope.queryString with
  | some (b :: rest) => path ++ "?" ++ decodeLatin1 (b :: rest)
  | _ => path

def decodeHeaders (fields : List (Bytes × Bytes)) : List (String × String) :=
  fields.map fun (name, value) => (decodeLatin1 name, decodeLatin1 value)

def toRequest (scope : Scope) : Request where
  method := scope.method.getD "GET"
  url := scope.schemeD ++ "://" ++ scope.authority ++ scope.target
  headers := Headers.ofPairs (decodeHeaders (scope.headers.getD []))

end Scope
end Revalidation.Asgi
