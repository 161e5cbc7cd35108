import Revalidation.Text.Casing

/-!
# Lower-casing

Full Unicode lower-casing of a text.  Two letters are special: the capital I with a dot above becomes
two characters, and a capital sigma becomes a final sigma at the end of a word.
-/

namespace Revalidation.Text

def lowerCode (n : Nat) : Nat :=
  match caseRuns.find? (·.maps n) with
  | some run => (n + run.offset).toNat
  | none => n

/-- The lower-case form of one character that is not a capital sigma. -/
def lowerChar (c : Char) : List Char :=
  if c.toNat = 0x130 then ['i', Char.ofNat 0x307]
  else if c.toNat < 0x80 then [c.toLower]
  else [Char.ofNat (lowerCode c.toNat)]

def startsCased (text : List Char) : Bool :=
  match text.dropWhile (caseIgnorableRanges.covers ·.toNat) with
  | [] => false
  | c :: _ => casedRanges.covers c.toNat

/-- The form of a capital sigma between the text before it, nearest character first, and the text
after it: final at the end of a word. -/
def lowerSigma (before after : List Char) : Char :=
  if startsCased before && !startsCased after then 'ς' else 'σ'

/-- Lower-cases a text that follows `before`, whose nearest character comes first. -/
def lowerAfter (before : List Char) : List Char → List Char
  | [] => []
  | c :: rest =>
    (if c = 'Σ' then [lowerSigma before rest] else lowerChar c) ++ lowerAfter (c :: before) rest

def lower (s : String) : String := String.ofList (lowerAfter [] s.toList)

end Revalidation.Text
