import EgressPolicy.Text.Blank
import EgressPolicy.Text.Letter
import EgressPolicy.Text.Numeral
import EgressPolicy.Text.Split
import EgressPolicy.Text.Attached
import EgressPolicy.Text.Unprintable
import EgressPolicy.Text.Graphic
import EgressPolicy.Text.Quoted
import EgressPolicy.Ip.Basic
import EgressPolicy.Ip.Printer
import EgressPolicy.Ip.Reader
import EgressPolicy.Ip.Zoned
import EgressPolicy.Files.Basic
import EgressPolicy.Rule.Basic
import EgressPolicy.Rule.Error
import EgressPolicy.Rule.Reader
import EgressPolicy.Rule.File
import EgressPolicy.Rule.Matching
import EgressPolicy.Engine.Cache
import EgressPolicy.Engine.Decision
import EgressPolicy.Engine.Scan
import EgressPolicy.Engine.Basic
import EgressPolicy.Engine.Builder
import EgressPolicy.Engine.Summary
import EgressPolicy.Dns.Error
import EgressPolicy.Dns.Server
import EgressPolicy.Dns.Settings
import EgressPolicy.Dns.Folding
import EgressPolicy.Dns.Punycode
import EgressPolicy.Dns.HostName
import EgressPolicy.Dns.Resolver
import EgressPolicy.Database.Item
import EgressPolicy.Database.Shape
import EgressPolicy.Database.Basic
import EgressPolicy.Database.Country
import EgressPolicy.Toml.Value
import EgressPolicy.Toml.Document
import EgressPolicy.Toml.Reader
import EgressPolicy.Toml.Quoted
import EgressPolicy.Toml.Number
import EgressPolicy.Toml.Date
import EgressPolicy.Toml.Parser
import EgressPolicy.Files.Path
import EgressPolicy.Files.Tree
import EgressPolicy.Config.Basic
import EgressPolicy.Config.Decode
import EgressPolicy.Config.File
import EgressPolicy.CommandLine.Arguments
import EgressPolicy.CommandLine.Request
import EgressPolicy.CommandLine.Run
import EgressPolicy.Main
import EgressPolicy.Proofs.Text.Digits
import EgressPolicy.Proofs.Text.Numeral
import EgressPolicy.Proofs.Text.Pieces
import EgressPolicy.Proofs.Text.Word
import EgressPolicy.Proofs.Text.Letter
import EgressPolicy.Proofs.Ip.Written
import EgressPolicy.Proofs.Ip.Network
import EgressPolicy.Proofs.Ip.Dialect
import EgressPolicy.Proofs.Ip.Bits
import EgressPolicy.Proofs.Ip.Zoned
import EgressPolicy.Proofs.Ip.Letter
import EgressPolicy.Proofs.Rule.Stored
import EgressPolicy.Proofs.Rule.RoundTrip
import EgressPolicy.Proofs.Rule.Grammar
import EgressPolicy.Proofs.Rule.NormalForm
import EgressPolicy.Proofs.Rule.Layout
import EgressPolicy.Proofs.Rule.Labels
import EgressPolicy.Proofs.Rule.Denotation
import EgressPolicy.Proofs.Rule.Letter
import EgressPolicy.Proofs.Engine.Key
import EgressPolicy.Proofs.Engine.Uncached
import EgressPolicy.Proofs.Engine.History
import EgressPolicy.Proofs.Engine.Cache
import EgressPolicy.Proofs.Engine.Transparency
import EgressPolicy.Proofs.Engine.Sharing
import EgressPolicy.Proofs.Engine.Origin
import EgressPolicy.Proofs.Engine.Wording
import EgressPolicy.Proofs.Engine.Memoisation
import EgressPolicy.Proofs.Engine.Questions
import EgressPolicy.Proofs.Engine.Noninterference
import EgressPolicy.Proofs.Engine.Accounting
import EgressPolicy.Proofs.Engine.Equipment
import EgressPolicy.Proofs.Engine.Interleaving
import EgressPolicy.Proofs.Rule.OwnAddress
import EgressPolicy.Proofs.Rule.FirstBits
import EgressPolicy.Proofs.Rule.OneAddress
import EgressPolicy.Proofs.Rule.Shadowing
import EgressPolicy.Proofs.Config.Location
import EgressPolicy.Proofs.Text.Traversal
import EgressPolicy.Proofs.Text.Cut
import EgressPolicy.Proofs.Rule.Lines
import EgressPolicy.Proofs.Rule.Concatenation
import EgressPolicy.Proofs.Engine.Collection
import EgressPolicy.Proofs.Dns.ServerUrl
import EgressPolicy.Proofs.Dns.Written
import EgressPolicy.Proofs.Dns.Grammar
import EgressPolicy.Proofs.Dns.Validation
import EgressPolicy.Proofs.CommandLine.Arguments
import EgressPolicy.Proofs.CommandLine.Preparation
import EgressPolicy.Proofs.CommandLine.Destinations
import EgressPolicy.Proofs.CommandLine.Prediction
import EgressPolicy.Proofs.CommandLine.Targets
import EgressPolicy.Proofs.Database.Skip
import EgressPolicy.Proofs.Database.Alignment
import EgressPolicy.Proofs.Database.Editions
