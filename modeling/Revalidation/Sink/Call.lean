import Revalidation.Sink.Response

/-!
# Calls on a response

What a handler can do with a response, as data, so that scripts of calls can be run and reasoned about.
-/

namespace Revalidation

inductive Call where
  | setStatus (status : Int)
  | setHeader (name value : String)
  | addHeader (name value : String)
  | write (data : Bytes)
  | writeText (text : String)
  | flush
  | copyBody (complete : Bool)
  | resetBuffer
  /-- Ends the body of an asynchronous transport. -/
  | close
  /-- Takes the chunks of a synchronous transport. -/
  | takeChunks
  /-- Drops the headers of a transport. -/
  | resetHeaders
  deriving DecidableEq, Repr

namespace Response

def perform (response : Response) : Call → Action Unit
  | .setStatus status => modify (·.setStatus response status)
  | .setHeader name value => modify (·.setHeader response name value)
  | .addHeader name value => modify (·.addHeader response name value)
  | .write data => write response data
  | .writeText text => writeText response text
  | .flush => flush response
  | .copyBody complete => copyBody response complete
  | .resetBuffer => modify (·.resetBuffer response)
  | .close => Transport.close
  | .takeChunks => modify fun x => x.takeChunks.2
  | .resetHeaders => modify (·.resetHeaders)

def performAll (response : Response) (calls : List Call) : Action Unit :=
  calls.forM response.perform

end Response
end Revalidation
