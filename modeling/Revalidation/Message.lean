import Revalidation.Text.Charset

/-!
# Messages between server and application

A message is a record of fields, of which only a few matter here.  The others are carried along
unread.
-/

namespace Revalidation

structure Message where
  /-- The type of the message, which says what it is about. -/
  type : Option String := none
  status : Option Int := none
  headers : Option (List (Bytes × Bytes)) := none
  body : Option Bytes := none
  moreBody : Option Bool := none
  /-- All other fields, each with its value as it was encoded. -/
  others : List (String × String) := []
  deriving DecidableEq, Repr

namespace Message

def startType : String := "http.response.start"

def bodyType : String := "http.response.body"

def start (status : Int) (headers : List (Bytes × Bytes)) : Message :=
  { type := some startType, status := some status, headers := some headers }

def part (body : Bytes) (moreBody : Bool) : Message :=
  { type := some bodyType, body := some body, moreBody := some moreBody }

def disconnect : Message := { type := some "http.disconnect" }

end Message
end Revalidation
