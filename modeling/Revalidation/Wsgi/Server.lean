import Revalidation.Wsgi.Middleware

/-!
# Servers of the synchronous gateway interface

A server asks the iterable it got for chunks, as often as it likes but not beyond its end, and closes it
afterwards if it can be closed.
-/

namespace Revalidation.Wsgi

/-- How many more chunks a server asks for; none if it asks to the end. -/
abbrev Appetite := Option Nat

def Appetite.next : Appetite → Option Appetite
  | none => some none
  | some 0 => none
  | some (n + 1) => some (some n)

/-- Hands chunks to the server, the first of which it has asked for.  Gives the appetite left when the
server has asked for a chunk beyond them, and nothing if it does not ask that far. -/
def deliver : List Bytes → Appetite → Action (Option Appetite)
  | [], appetite => return some appetite
  | chunk :: rest, appetite => do
    Action.note (.chunk chunk)
    match appetite.next with
    | none => return none
    | some appetite => deliver rest appetite

def deliverWaiting (appetite : Appetite) : Action (Option Appetite) := do
  let (chunks, x) := (← get).takeChunks
  set x
  deliver chunks appetite

namespace Streaming

/-- Hands over what the rest of the application's iterable brings about.  Gives whether the server asked
to the end. -/
def deliverRest (s : Streaming) : List Item → Nat → Appetite → Action Bool
  | [], pulled, appetite => do
    s.iterable.exhaust s.starter pulled
    s.response.flush
    return (← deliverWaiting appetite).isSome
  | item :: rest, pulled, appetite => do
    let chunk ← item.pull s.starter pulled
    if chunk.isEmpty then s.deliverRest rest (pulled + 1) appetite
    else
      s.response.write chunk
      match ← deliverWaiting appetite with
      | none => return false
      | some appetite => s.deliverRest rest (pulled + 1) appetite

/-- Streams a response, and closes the application's iterable at its end or when something fails.  Gives
whether the iterable is still open because the server stopped asking. -/
def run (s : Streaming) (appetite : Appetite) : Action Bool := do
  let attempt : Action Bool := do
    match ← deliverWaiting appetite with
    | none => return false
    | some appetite => s.deliverRest s.rest s.pulled appetite
  let atEnd ← attempt.onFault fun _ => s.iterable.close s.starter
  if atEnd then s.iterable.close s.starter
  return !atEnd

end Streaming

def deliverItems (iterable : Iterable) (starter : Starter) :
    List Item → Nat → Appetite → Action Unit
  | [], pulled, appetite => do
    if appetite.next.isSome then iterable.exhaust starter pulled
  | item :: rest, pulled, appetite => do
    match appetite.next with
    | none => return
    | some appetite =>
      Action.note (.chunk (← item.pull starter pulled))
      deliverItems iterable starter rest (pulled + 1) appetite

def deliverAll (chunks : List Bytes) (appetite : Appetite) : Action Unit := do
  match appetite.next with
  | none => return
  | some appetite => discard (deliver chunks appetite)

/-- What a server does with the iterable it got.  It closes an iterable after use, also after a
fault; a stream that it never asked for a chunk has nothing to close. -/
def consume (served : Served) (appetite : Appetite) : Action Unit := do
  match served with
  | .body chunks =>
    Action.note (.returned true)
    deliverAll chunks appetite
  | .direct iterable starter =>
    Action.note (.returned (iterable.kind = .list))
    let close : Action Unit := do
      if iterable.kind = .closing then
        Action.note .serverClosed
        iterable.close starter
    let attempt : Action Unit := do
      iterable.begin starter
      deliverItems iterable starter iterable.items 0 appetite
    attempt.onFault fun _ => close
    close
  | .stream streaming =>
    Action.note (.returned false)
    match appetite.next with
    | none => Action.note .serverClosed
    | some appetite =>
      let stillOpen ← (streaming.run appetite).onFault fun _ => Action.note .serverClosed
      Action.note .serverClosed
      if stillOpen then streaming.iterable.close streaming.starter

def exchange (filter : EtagFilter) (environ : Environ) (app : Application) (depth : Nat)
    (appetite : Appetite) : Action Unit := do
  consume (← serve filter environ app depth) appetite

end Revalidation.Wsgi
