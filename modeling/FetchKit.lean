import FetchKit.Address.Domain
import FetchKit.Address.Domain.Compose
import FetchKit.Address.Domain.Direction
import FetchKit.Address.Domain.Joiner
import FetchKit.Address.Domain.Mapping
import FetchKit.Address.Domain.Punycode
import FetchKit.Address.Failure
import FetchKit.Address.Host
import FetchKit.Address.Ip
import FetchKit.Address.Parse
import FetchKit.Address.Percent
import FetchKit.Address.Url
import FetchKit.Grammar.Attribute
import FetchKit.Grammar.Complaint
import FetchKit.Grammar.Expression
import FetchKit.Grammar.Generics
import FetchKit.Grammar.Item
import FetchKit.Grammar.Pattern
import FetchKit.Grammar.Rule
import FetchKit.Grammar.Rules
import FetchKit.Grammar.Statement
import FetchKit.Grammar.Type
import FetchKit.Http.Client
import FetchKit.Http.Error
import FetchKit.Http.Fetch
import FetchKit.Http.Header
import FetchKit.Http.Offline
import FetchKit.Http.Operation
import FetchKit.Http.Options
import FetchKit.Http.Shared
import FetchKit.Http.Status
import FetchKit.Proofs.Address.Reference
import FetchKit.Proofs.Address.Scheme
import FetchKit.Proofs.Address.Walk
import FetchKit.Proofs.Grammar.Attributes
import FetchKit.Proofs.Grammar.Blocks
import FetchKit.Proofs.Grammar.Depth
import FetchKit.Proofs.Grammar.Following
import FetchKit.Proofs.Grammar.Forward
import FetchKit.Proofs.Grammar.Listing
import FetchKit.Proofs.Grammar.Local
import FetchKit.Proofs.Grammar.Members
import FetchKit.Proofs.Grammar.Parameters
import FetchKit.Proofs.Grammar.Parts
import FetchKit.Proofs.Grammar.PathList
import FetchKit.Proofs.Grammar.Phrases
import FetchKit.Proofs.Grammar.Reading
import FetchKit.Proofs.Grammar.Running
import FetchKit.Proofs.Grammar.Setting
import FetchKit.Proofs.Grammar.Setting.Items
import FetchKit.Proofs.Grammar.Setting.Matching
import FetchKit.Proofs.Grammar.Setting.Opening
import FetchKit.Proofs.Grammar.Setting.Rules
import FetchKit.Proofs.Grammar.Setting.Types
import FetchKit.Proofs.Grammar.Setting.Values
import FetchKit.Proofs.Grammar.Spelling
import FetchKit.Proofs.Grammar.Struct
import FetchKit.Proofs.Grammar.Taking
import FetchKit.Proofs.Http.Delivery
import FetchKit.Proofs.Http.Ending
import FetchKit.Proofs.Http.Headers
import FetchKit.Proofs.Http.Resolve
import FetchKit.Proofs.Http.Settings
import FetchKit.Proofs.Http.Sharing
import FetchKit.Proofs.Http.Shown
import FetchKit.Proofs.Request.Agreement
import FetchKit.Proofs.Request.Appendix
import FetchKit.Proofs.Request.Arguments
import FetchKit.Proofs.Request.Conformance
import FetchKit.Proofs.Request.Decision
import FetchKit.Proofs.Request.Faults
import FetchKit.Proofs.Request.Original
import FetchKit.Proofs.Request.Printed
import FetchKit.Proofs.Request.Repair
import FetchKit.Proofs.Request.Report
import FetchKit.Proofs.Request.Spelling
import FetchKit.Proofs.Request.Synthesis
import FetchKit.Proofs.Request.Template
import FetchKit.Proofs.Source.Covered
import FetchKit.Proofs.Source.Number
import FetchKit.Proofs.Source.Placed
import FetchKit.Proofs.Source.Printed
import FetchKit.Proofs.Source.Replace
import FetchKit.Proofs.Source.Splits
import FetchKit.Proofs.Source.Word
import FetchKit.Proofs.Text.Quoted
import FetchKit.Proofs.Text.Snippet
import FetchKit.Proofs.Text.Utf8
import FetchKit.Proofs.Wire.Written
import FetchKit.Request.Arguments
import FetchKit.Request.Conformance
import FetchKit.Request.Declaration
import FetchKit.Request.Diagnostic
import FetchKit.Request.Dispatch
import FetchKit.Request.Expansion
import FetchKit.Request.Notice
import FetchKit.Request.Outcome
import FetchKit.Request.Synthesis
import FetchKit.Source.Literal
import FetchKit.Source.Print
import FetchKit.Source.Scan
import FetchKit.Source.Span
import FetchKit.Source.Token
import FetchKit.Text.Blank
import FetchKit.Text.CharTable
import FetchKit.Text.Packed
import FetchKit.Text.Printable
import FetchKit.Text.Quoted
import FetchKit.Text.Shortest
import FetchKit.Text.Snippet
import FetchKit.Text.Utf8
import FetchKit.Text.Word
import FetchKit.Wire.Decode
import FetchKit.Wire.Flaw
import FetchKit.Wire.Payload
import FetchKit.Wire.Read
import FetchKit.Wire.Write
