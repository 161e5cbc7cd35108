import Revalidation.Asgi.Application
import Revalidation.Asgi.Middleware
import Revalidation.Asgi.Scope
import Revalidation.CacheControl.Basic
import Revalidation.CacheControl.Building
import Revalidation.CacheControl.Element
import Revalidation.CacheControl.Parser
import Revalidation.CacheControl.QuotedString
import Revalidation.CacheControl.ResponseRule
import Revalidation.Context.Basic
import Revalidation.Context.Registry
import Revalidation.Digest.EntityTag
import Revalidation.Digest.Md5
import Revalidation.Duration
import Revalidation.Exchange
import Revalidation.Fault
import Revalidation.Filter.Basic
import Revalidation.Filter.Dispatch
import Revalidation.Filter.Handler
import Revalidation.Generator.FileTree
import Revalidation.Generator.Line
import Revalidation.Generator.Report
import Revalidation.Generator.Run
import Revalidation.Generator.Substitution
import Revalidation.Headers
import Revalidation.Headers.Change
import Revalidation.Journal
import Revalidation.Main
import Revalidation.Message
import Revalidation.Number.Decimal
import Revalidation.Number.Double
import Revalidation.Number.Integer
import Revalidation.Proofs.Acceptance
import Revalidation.Proofs.Agreement
import Revalidation.Proofs.Answer
import Revalidation.Proofs.Appending
import Revalidation.Proofs.Attachment
import Revalidation.Proofs.Awaiting
import Revalidation.Proofs.Bearing
import Revalidation.Proofs.Blocks
import Revalidation.Proofs.Carriage
import Revalidation.Proofs.Chaining
import Revalidation.Proofs.Checking
import Revalidation.Proofs.Chunks
import Revalidation.Proofs.Closing
import Revalidation.Proofs.Collection
import Revalidation.Proofs.Commitment
import Revalidation.Proofs.Composition
import Revalidation.Proofs.Conditions
import Revalidation.Proofs.Conservation
import Revalidation.Proofs.Continuation
import Revalidation.Proofs.Delivery
import Revalidation.Proofs.Discovery
import Revalidation.Proofs.Dispatch
import Revalidation.Proofs.EarlyFlush
import Revalidation.Proofs.Endings
import Revalidation.Proofs.Equality
import Revalidation.Proofs.Evaluation
import Revalidation.Proofs.Failing
import Revalidation.Proofs.FieldBytes
import Revalidation.Proofs.FieldLines
import Revalidation.Proofs.FieldValues
import Revalidation.Proofs.FilePlaces
import Revalidation.Proofs.Grammar
import Revalidation.Proofs.Handover
import Revalidation.Proofs.Handshake
import Revalidation.Proofs.HeaderChanges
import Revalidation.Proofs.HeaderCopies
import Revalidation.Proofs.HeaderGroups
import Revalidation.Proofs.HeaderHistory
import Revalidation.Proofs.HeaderLookup
import Revalidation.Proofs.HeaderOrder
import Revalidation.Proofs.Holding
import Revalidation.Proofs.Iteration
import Revalidation.Proofs.Jobs
import Revalidation.Proofs.Keeping
import Revalidation.Proofs.Latin1
import Revalidation.Proofs.Layers
import Revalidation.Proofs.Leftover
import Revalidation.Proofs.Legality
import Revalidation.Proofs.Likeness
import Revalidation.Proofs.LineEnds
import Revalidation.Proofs.Lowering
import Revalidation.Proofs.Middleware
import Revalidation.Proofs.Mirroring
import Revalidation.Proofs.Nesting
import Revalidation.Proofs.Numerals
import Revalidation.Proofs.Outcome
import Revalidation.Proofs.Playback
import Revalidation.Proofs.Policies
import Revalidation.Proofs.Quotation
import Revalidation.Proofs.Reading
import Revalidation.Proofs.Recorder
import Revalidation.Proofs.Recording
import Revalidation.Proofs.Regeneration
import Revalidation.Proofs.Relay
import Revalidation.Proofs.Reporting
import Revalidation.Proofs.Restart
import Revalidation.Proofs.Retention
import Revalidation.Proofs.RoundTrip
import Revalidation.Proofs.Rounding
import Revalidation.Proofs.Seconds
import Revalidation.Proofs.Serving
import Revalidation.Proofs.Settling
import Revalidation.Proofs.Snapshots
import Revalidation.Proofs.SourceFiles
import Revalidation.Proofs.Stack
import Revalidation.Proofs.Stages
import Revalidation.Proofs.StreamTags
import Revalidation.Proofs.Streaming
import Revalidation.Proofs.Transparency
import Revalidation.Proofs.Unsetting
import Revalidation.Proofs.Usage
import Revalidation.Proofs.Walking
import Revalidation.Proofs.WholeSeconds
import Revalidation.Proofs.Withholding
import Revalidation.Request
import Revalidation.Sink.Call
import Revalidation.Sink.Decorator
import Revalidation.Sink.Delivery
import Revalidation.Sink.Response
import Revalidation.Sink.Transport
import Revalidation.Status
import Revalidation.Text.Blank
import Revalidation.Text.Casing
import Revalidation.Text.CharRange
import Revalidation.Text.Charset
import Revalidation.Text.Digit
import Revalidation.Text.Lines
import Revalidation.Text.Literal
import Revalidation.Text.Lower
import Revalidation.Text.Printable
import Revalidation.Text.WordChar
import Revalidation.Wsgi.Application
import Revalidation.Wsgi.Environ
import Revalidation.Wsgi.Middleware
import Revalidation.Wsgi.Server
