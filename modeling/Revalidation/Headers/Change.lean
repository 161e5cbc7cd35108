import Revalidation.Headers

/-!
# Changes to a header collection

The ways a collection can change, as data, and what a change means for a list of values that was
handed out before: the list is the one the collection holds, so it grows with it, until the collection
puts another list in its place or drops the name.
-/

namespace Revalidation
namespace Headers

inductive Change where
  | add (name value : String)
  | set (name value : String)
  | remove (name : String)
  | pop (name : String)
  | popD (name default : String)
  | popFirst
  | setDefault (name default : String)
  | clear
  | update (pairs : List (String × String))
  deriving DecidableEq, Repr

inductive Reply where
  | nothing
  | value (value : String)
  | item (name value : String)
  deriving DecidableEq, Repr

/-- Makes a change.  A fault leaves the collection as it was. -/
def apply (h : Headers) : Change → Except Fault (Reply × Headers)
  | .add name value => .ok (.nothing, h.add name value)
  | .set name value => .ok (.nothing, h.set name value)
  | .remove name => (h.remove name).map fun h => (.nothing, h)
  | .pop name => (h.pop name).map fun (v, h) => (.value v, h)
  | .popD name default => let (v, h) := h.popD name default; .ok (.value v, h)
  | .popFirst => h.popFirst.map fun ((name, value), h) => (.item name value, h)
  | .setDefault name default => let (v, h) := h.setDefault name default; .ok (.value v, h)
  | .clear => .ok (.nothing, {})
  | .update pairs => .ok (.nothing, h.update pairs)

/-- Whether a change puts a new list in the place of the one under a name in lower case, or drops the
name. -/
def Change.detaches (h : Headers) (key : String) : Change → Bool
  | .add _ _ => false
  | .set name _ => Text.lower name == key
  | .remove name => Text.lower name == key
  | .pop name => Text.lower name == key
  | .popD name _ => Text.lower name == key
  | .popFirst => h.names.head? == some key
  | .setDefault _ _ => false
  | .clear => true
  | .update pairs => pairs.any fun (name, _) => Text.lower name == key

/-- A list of values handed out for a name, and whether the collection still holds it. -/
structure HeldList where
  key : String
  values : List String
  attached : Bool := true
  deriving DecidableEq, Repr

def hold? (h : Headers) (name : String) : Option HeldList :=
  (h.getList? name).map fun values => { key := Text.lower name, values := values }

def HeldList.follow (held : HeldList) (h : Headers) (change : Change) : HeldList :=
  if !held.attached then held
  else if change.detaches h held.key then { held with attached := false }
  else match change with
    | .add name value =>
      if Text.lower name = held.key then { held with values := held.values ++ [value] } else held
    | _ => held

end Headers
end Revalidation
