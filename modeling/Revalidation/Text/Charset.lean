import Revalidation.Text.Literal

/-!
# Character encodings

An encoding turns a text into bytes, or stops at the first characters that it has no bytes for.  Three
encodings are defined here: UTF-8 encodes every text, and the other two have one byte for each of the
first code points.
-/

namespace Revalidation

abbrev Bytes := List UInt8

/-- The first run of characters that an encoding has no bytes for. -/
structure EncodingFault where
  /-- The name the encoding goes by in messages. -/
  codec : String
  /-- The number of characters before the run. -/
  position : Nat
  /-- The first character of the run. -/
  first : Char
  /-- The number of characters in the run, at least one. -/
  length : Nat
  /-- Why the encoding has no bytes for them. -/
  reason : String
  deriving DecidableEq, Repr

structure Charset where
  name : String
  encode : String → Except EncodingFault Bytes

namespace Charset

/-- Encodes with one byte per character, `position` characters into the text.  There are bytes for the
code points below `limit`. -/
def encodeSingle (codec : String) (limit : Nat) : Nat → List Char → Except EncodingFault Bytes
  | _, [] => .ok []
  | position, c :: rest =>
    if c.toNat < limit then
      (encodeSingle codec limit (position + 1) rest).map (UInt8.ofNat c.toNat :: ·)
    else
      let run := rest.takeWhile (limit ≤ ·.toNat)
      .error ⟨codec, position, c, run.length + 1, s!"ordinal not in range({limit})"⟩

def utf8 : Charset where
  name := "utf-8"
  encode text := .ok text.toUTF8.toList

def latin1 : Charset where
  name := "iso-8859-1"
  encode text := encodeSingle "latin-1" 0x100 0 text.toList

def ascii : Charset where
  name := "ascii"
  encode text := encodeSingle "ascii" 0x80 0 text.toList

end Charset

def decodeLatin1 (bytes : Bytes) : String :=
  String.ofList (bytes.map fun b => Char.ofNat b.toNat)

def EncodingFault.message (fault : EncodingFault) : String :=
  if fault.length = 1 then
    let shown := String.ofList (Text.escapeCode fault.first)
    s!"'{fault.codec}' codec can't encode character '{shown}' in position {fault.position}: {fault.reason}"
  else
    let last := fault.position + fault.length - 1
    s!"'{fault.codec}' codec can't encode characters in position {fault.position}-{last}: {fault.reason}"

end Revalidation
