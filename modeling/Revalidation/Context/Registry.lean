import Revalidation.Request

/-!
# Finding the context of an exchange

A context belongs to a request, or is kept in the scope of an exchange under a fixed key.  A scope
without a context gets a fresh one the first time it is asked for, and keeps it.
-/

namespace Revalidation

inductive Slot where
  | absent
  /-- A value that is no context, as it was encoded. -/
  | foreign (value : String)
  /-- A context, by its number in the registry. -/
  | context (id : Nat)
  deriving DecidableEq, Repr

/-- The entries of a scope: what it holds under the key of the exchange context, and everything else as
it was encoded. -/
structure ScopeEntries where
  slot : Slot := .absent
  others : String := ""
  deriving DecidableEq, Repr

/-- A value that may lead to the context of an exchange.  Scopes are mappings that can be changed: one that
can only be read takes no context, so that it counts as a plain value, and what exposes it as an object. -/
inductive Target where
  /-- A request, with the number of its context. -/
  | request (request : Request) (context : Nat)
  /-- A scope itself, by its number. -/
  | scope (id : Nat)
  /-- An object that exposes a scope, by the number of the scope. -/
  | carrier (scope : Nat)
  /-- An object of the named type that exposes no scope. -/
  | object (typeName : String)
  /-- A plain value of the named type, as it was encoded. -/
  | plain (typeName : String) (value : String)
  deriving Repr

structure Registry where
  contexts : List Context := []
  scopes : List ScopeEntries := []
  deriving DecidableEq, Repr

namespace Registry

def addContext (registry : Registry) (context : Context) : Nat × Registry :=
  (registry.contexts.length, { registry with contexts := registry.contexts ++ [context] })

def addScope (registry : Registry) (entries : ScopeEntries) : Nat × Registry :=
  (registry.scopes.length, { registry with scopes := registry.scopes ++ [entries] })

def scope (registry : Registry) (id : Nat) : ScopeEntries := registry.scopes.getD id {}

/-- The number of the context in a scope, which gets a fresh one if it holds none. -/
def findIn (registry : Registry) (id : Nat) : Nat × Registry :=
  match (registry.scope id).slot with
  | .context context => (context, registry)
  | _ =>
    let (context, registry) := registry.addContext {}
    (context, { registry with
      scopes := registry.scopes.modify id fun entries => { entries with slot := .context context } })

/-- The number of the context a target leads to.  A scope that holds none gets a fresh one. -/
def find (registry : Registry) : Target → Except Fault (Nat × Registry)
  | .request _ context => .ok (context, registry)
  | .scope id => .ok (registry.findIn id)
  | .carrier id => .ok (registry.findIn id)
  | .object typeName => .error (.noContext typeName)
  | .plain typeName _ => .error (.noContext typeName)

def context (registry : Registry) (id : Nat) : Context := registry.contexts.getD id {}

def change (registry : Registry) (target : Target) (change : Context.Change) :
    Except Fault Registry := do
  let (id, registry) ← registry.find target
  return { registry with contexts := registry.contexts.modify id (·.apply change) }

def scopeHoldsContext (registry : Registry) (id : Nat) : Bool :=
  match (registry.scope id).slot with
  | .context _ => true
  | _ => false

def holdsContext (registry : Registry) : Target → Bool
  | .scope id => registry.scopeHoldsContext id
  | .carrier id => registry.scopeHoldsContext id
  | _ => false

/-- Whether two scopes hold equal values under the key of the exchange context.  Contexts are equal if
their flags are. -/
def equalSlots (registry : Registry) : Slot → Slot → Bool
  | .absent, .absent => true
  | .foreign a, .foreign b => a == b
  | .context i, .context j => registry.context i == registry.context j
  | _, _ => false

/-- Whether two targets are equal.  Requests, scopes and plain values are compared by what they consist
of; two objects are never equal. -/
def equal (registry : Registry) : Target → Target → Bool
  | .request a i, .request b j => a == b && registry.context i == registry.context j
  | .scope i, .scope j =>
    registry.equalSlots (registry.scope i).slot (registry.scope j).slot
      && (registry.scope i).others == (registry.scope j).others
  | .plain _ a, .plain _ b => a == b
  | _, _ => false

/-- Whether the targets at two positions of a list are equal.  Each one is equal to itself. -/
def equalAt (registry : Registry) (targets : List Target) (i j : Nat) : Bool :=
  match targets[i]?, targets[j]? with
  | some a, some b => i == j || registry.equal a b
  | _, _ => false

def display? (registry : Registry) : Target → Option String
  | .request request id => some (request.display (registry.context id))
  | _ => none

end Registry
end Revalidation
