import Revalidation.Fault
import Revalidation.Text.Lower

/-!
# Header collections

Header names in order of first appearance, each with the list of its values.  Names are compared
without regard to letter case and kept in lower case.
-/

namespace Revalidation

structure Headers where
  entries : List (String × List String) := []
  deriving DecidableEq, Repr, Inhabited

namespace Headers

def lookup (h : Headers) (key : String) : Option (List String) :=
  (h.entries.find? (·.1 == key)).map Prod.snd

/-- Replaces the values under a name in lower case by a function of the old ones, where a new name goes
last. -/
def modifyKey (key : String) (f : Option (List String) → List String) :
    List (String × List String) → List (String × List String)
  | [] => [(key, f none)]
  | (name, values) :: rest =>
    if name = key then (name, f (some values)) :: rest
    else (name, values) :: modifyKey key f rest

def put (h : Headers) (name : String) (values : List String) : Headers :=
  ⟨modifyKey (Text.lower name) (fun _ => values) h.entries⟩

def set (h : Headers) (name value : String) : Headers := h.put name [value]

def add (h : Headers) (name value : String) : Headers :=
  ⟨modifyKey (Text.lower name) (fun old => old.getD [] ++ [value]) h.entries⟩

def getList? (h : Headers) (name : String) : Option (List String) := h.lookup (Text.lower name)

def get? (h : Headers) (name : String) : Option String :=
  (h.getList? name).map (", ".intercalate ·)

def get (h : Headers) (name : String) : Except Fault String :=
  match h.get? name with
  | some value => .ok value
  | none => .error (.missingKey (Text.lower name))

def contains (h : Headers) (name : String) : Bool := (h.getList? name).isSome

def erase (h : Headers) (name : String) : Headers :=
  ⟨h.entries.filter (·.1 != Text.lower name)⟩

def remove (h : Headers) (name : String) : Except Fault Headers :=
  (h.get name).map fun _ => h.erase name

def names (h : Headers) : List String := h.entries.map Prod.fst

def size (h : Headers) : Nat := h.entries.length

def items (h : Headers) : List (String × String) :=
  h.entries.map fun (name, values) => (name, ", ".intercalate values)

def multiItems (h : Headers) : List (String × String) :=
  h.entries.flatMap fun (name, values) => values.map (name, ·)

def ofPairs (pairs : List (String × String)) : Headers :=
  pairs.foldl (fun h (name, value) => h.add name value) {}

/-- The collection of names given each with all its values.  Of two names that differ in letter case
only, the later gives the values and the earlier the position. -/
def ofMapping (mapping : List (String × List String)) : Headers :=
  mapping.foldl (fun h (name, values) => h.put name values) {}

def joined (h : Headers) : Headers := ofMapping (h.items.map fun (name, value) => (name, [value]))

def update (h : Headers) (pairs : List (String × String)) : Headers :=
  pairs.foldl (fun h (name, value) => h.set name value) h

def popD (h : Headers) (name default : String) : String × Headers :=
  match h.get? name with
  | some value => (value, h.erase name)
  | none => (default, h)

def pop (h : Headers) (name : String) : Except Fault (String × Headers) :=
  (h.get name).map fun value => (value, h.erase name)

def popFirst (h : Headers) : Except Fault ((String × String) × Headers) :=
  match h.entries with
  | [] => .error .noHeaders
  | (name, values) :: _ => .ok ((name, ", ".intercalate values), h.erase name)

def setDefault (h : Headers) (name default : String) : String × Headers :=
  match h.get? name with
  | some value => (value, h)
  | none => (default, h.set name default)

/-- Equal collections have the same names with the same values; the order of names does not matter. -/
instance : BEq Headers :=
  ⟨fun a b => a.entries.length == b.entries.length
    && a.entries.all fun (name, values) => b.lookup name == some values⟩

def display (h : Headers) : String :=
  let pair : String × String → String := fun (name, value) =>
    s!"({Text.literal name}, {Text.literal value})"
  "Headers([" ++ ", ".intercalate (h.multiItems.map pair) ++ "])"

end Headers
end Revalidation
