import SealedTree.Address
import SealedTree.Bits
import SealedTree.ClientError
import SealedTree.CommandLine
import SealedTree.CommandLine.Arguments
import SealedTree.CommandLine.Rehearsal
import SealedTree.Contract
import SealedTree.Cursor
import SealedTree.Decimal.Binary
import SealedTree.Decimal.Layout
import SealedTree.Decimal.Shortest
import SealedTree.Disk
import SealedTree.Duration
import SealedTree.Error
import SealedTree.Frame
import SealedTree.Gateway
import SealedTree.Gateway.Document
import SealedTree.Gateway.Error
import SealedTree.Gateway.Http
import SealedTree.Gateway.Metrics
import SealedTree.Gateway.Table
import SealedTree.Input
import SealedTree.Json.Basic
import SealedTree.Json.Decoder
import SealedTree.Json.Fault
import SealedTree.Json.Lookup
import SealedTree.Json.Mismatch
import SealedTree.Json.Number
import SealedTree.Json.Printer
import SealedTree.Json.Reader
import SealedTree.Json.Tagged
import SealedTree.Json.Text
import SealedTree.Main
import SealedTree.Model
import SealedTree.Model.Document
import SealedTree.Model.Evaluation
import SealedTree.Model.Secret
import SealedTree.Network
import SealedTree.Network.Node
import SealedTree.Network.Relay
import SealedTree.Poll.Desk
import SealedTree.Poll.Machine
import SealedTree.Poll.Outcome
import SealedTree.Poll.Session
import SealedTree.Poll.Status
import SealedTree.Poll.Task
import SealedTree.Proofs.AddressGrammar
import SealedTree.Proofs.AddressText
import SealedTree.Proofs.BitReads
import SealedTree.Proofs.BitStream
import SealedTree.Proofs.BitWriter
import SealedTree.Proofs.ByteReads
import SealedTree.Proofs.Candidate
import SealedTree.Proofs.CircuitWalk
import SealedTree.Proofs.Concealment
import SealedTree.Proofs.Cursor
import SealedTree.Proofs.Disk
import SealedTree.Proofs.Doubles
import SealedTree.Proofs.Gateway.Counting
import SealedTree.Proofs.Gateway.Keeping
import SealedTree.Proofs.Gateway.Paths
import SealedTree.Proofs.Gateway.Reach
import SealedTree.Proofs.Gateway.Reports
import SealedTree.Proofs.Gateway.Routes
import SealedTree.Proofs.Gateway.Submission
import SealedTree.Proofs.HexText
import SealedTree.Proofs.Json.Bytes
import SealedTree.Proofs.Json.Decimals
import SealedTree.Proofs.Json.Decoding
import SealedTree.Proofs.Json.Grammar
import SealedTree.Proofs.Json.Numerals
import SealedTree.Proofs.Json.Quoting
import SealedTree.Proofs.Json.Records
import SealedTree.Proofs.Json.Rereading
import SealedTree.Proofs.Json.Respelling
import SealedTree.Proofs.ModelFile
import SealedTree.Proofs.OneHotResult
import SealedTree.Proofs.Padding
import SealedTree.Proofs.Poll.Asking
import SealedTree.Proofs.Poll.Attempt
import SealedTree.Proofs.Poll.Backoff
import SealedTree.Proofs.Poll.Course
import SealedTree.Proofs.Poll.Driver
import SealedTree.Proofs.Poll.Events
import SealedTree.Proofs.Poll.Origin
import SealedTree.Proofs.Poll.Precedence
import SealedTree.Proofs.Poll.Publication
import SealedTree.Proofs.Poll.Refusal
import SealedTree.Proofs.Poll.Round
import SealedTree.Proofs.Poll.Stops
import SealedTree.Proofs.Poll.Turn
import SealedTree.Proofs.PublicFrame
import SealedTree.Proofs.Reaction
import SealedTree.Proofs.Reading
import SealedTree.Proofs.RequestTransport
import SealedTree.Proofs.ResultEntries
import SealedTree.Proofs.Revealing
import SealedTree.Proofs.SettingsFile
import SealedTree.Proofs.Success
import SealedTree.Proofs.Timings
import SealedTree.Proofs.VariableReading
import SealedTree.Proofs.WireDocuments
import SealedTree.Reader
import SealedTree.Request
import SealedTree.Request.Document
import SealedTree.Schedule
import SealedTree.Schedule.Document
import SealedTree.SecretBits
import SealedTree.Settings
import SealedTree.Settings.Document
import SealedTree.Snapshot
import SealedTree.Snapshot.Document
import SealedTree.Text.Blank
import SealedTree.Text.CodePoints
import SealedTree.Text.Composition
import SealedTree.Text.Composition.Table
import SealedTree.Text.Direction
import SealedTree.Text.Hex
import SealedTree.Text.Joining
import SealedTree.Text.Mark
import SealedTree.Text.Parts
import SealedTree.Text.Printable
import SealedTree.Text.Quoted
import SealedTree.Text.Utf8
import SealedTree.Url
import SealedTree.Url.Domain
import SealedTree.Url.Domain.Label
import SealedTree.Url.Domain.Spelling
import SealedTree.Url.Host
import SealedTree.Url.Path
import SealedTree.Url.Percent
import SealedTree.Url.Punycode
import SealedTree.Verdict
import SealedTree.Verdict.Document
