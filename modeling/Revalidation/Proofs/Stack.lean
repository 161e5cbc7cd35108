import Revalidation.Proofs.Outcome

/-!
# Stacks of layers

A stack is a transport under fresh layers of any kinds.  Steps act on any layer of it, writes on the
outermost one; a step that stops with a fault is followed by the next one.  A run gives the bytes of
the writes that ended without a fault beside the exchange it leaves.
-/

namespace Revalidation

inductive LayerKind where
  | forward
  | buffer (forRequest : Bool)
  deriving DecidableEq, Repr

def LayerKind.fresh : LayerKind → Decorator
  | .forward => .forward
  | .buffer forRequest => .buffer { forRequest := forRequest }

namespace Exchange

def stacked (t : Transport) (context : Context) (layers : List LayerKind) : Exchange :=
  { transport := t, decorators := layers.map LayerKind.fresh, context := context
    published := .attached }

def top (x : Exchange) : Response := (List.range x.decorators.length).reverse

theorem nodup_top (x : Exchange) : x.top.Nodup :=
  List.pairwise_reverse.2 (List.nodup_range.imp Ne.symm)

end Exchange

/-- A step on a stack.  The depth of a layer is the number of layers above it, so that the transport
lies at the depth of the height of the stack. -/
inductive StackStep where
  | setStatus (depth : Nat) (status : Int)
  | setHeader (depth : Nat) (name value : String)
  | addHeader (depth : Nat) (name value : String)
  | flush (depth : Nat)
  | copyBody (depth : Nat) (complete : Bool)
  | write (data : Bytes)
  | writeText (text : String)
  | changeContext (change : Context.Change)
  deriving DecidableEq, Repr

def acceptedData (result : Except Fault Unit) (data : Bytes) : Bytes :=
  match result with
  | .ok _ => data
  | .error _ => []

namespace StackStep

def act (response : Response) : StackStep → Action Unit
  | setStatus depth status => Response.perform (response.drop depth) (.setStatus status)
  | setHeader depth name value => Response.perform (response.drop depth) (.setHeader name value)
  | addHeader depth name value => Response.perform (response.drop depth) (.addHeader name value)
  | flush depth => Response.perform (response.drop depth) .flush
  | copyBody depth complete => Response.perform (response.drop depth) (.copyBody complete)
  | write data => response.perform (.write data)
  | writeText text => response.perform (.writeText text)
  | changeContext change => modify (·.changeContext change)

def data (x : Exchange) (response : Response) : StackStep → Bytes
  | write data => data
  | writeText text => ((x.charset response).encode text).toOption.getD []
  | _ => []

def run (response : Response) : List StackStep → Exchange → Bytes × Exchange
  | [], x => ([], x)
  | step :: rest, x =>
    let (result, y) := (step.act response).outcome x
    let (data, z) := run response rest y
    (acceptedData result (step.data x response) ++ data, z)

end StackStep
end Revalidation
