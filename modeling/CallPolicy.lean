import CallPolicy.Allowlist
import CallPolicy.Binary64.Basic
import CallPolicy.Binary64.Decimal
import CallPolicy.Body
import CallPolicy.Capability.Builtin
import CallPolicy.Capability.Params
import CallPolicy.Capability.Registry
import CallPolicy.CommandLine.Arguments
import CallPolicy.CommandLine.Check
import CallPolicy.CommandLine.Documents
import CallPolicy.CommandLine.Listing
import CallPolicy.CommandLine.Report
import CallPolicy.CommandLine.Run
import CallPolicy.Config.Layer
import CallPolicy.Config.Read
import CallPolicy.Config.Settings
import CallPolicy.Config.Sources
import CallPolicy.Constraint.Met
import CallPolicy.Denylist
import CallPolicy.Document.Entries
import CallPolicy.Document.Format
import CallPolicy.Document.FromJson
import CallPolicy.Document.FromYaml
import CallPolicy.Document.Node
import CallPolicy.Document.Read
import CallPolicy.Document.ToJson
import CallPolicy.Engine
import CallPolicy.Entry
import CallPolicy.Files
import CallPolicy.Form
import CallPolicy.Json.Basic
import CallPolicy.Json.Cover
import CallPolicy.Json.Members
import CallPolicy.Json.NumberText
import CallPolicy.Json.Parser
import CallPolicy.Json.Printer
import CallPolicy.Json.Token
import CallPolicy.Keyed
import CallPolicy.Main
import CallPolicy.Path
import CallPolicy.PolicyError
import CallPolicy.Proofs.Changes
import CallPolicy.Proofs.Checks
import CallPolicy.Proofs.Decision
import CallPolicy.Proofs.Entries
import CallPolicy.Proofs.Escapes
import CallPolicy.Proofs.Evaluation
import CallPolicy.Proofs.Expansion
import CallPolicy.Proofs.History
import CallPolicy.Proofs.Installed
import CallPolicy.Proofs.Kept
import CallPolicy.Proofs.Prepared
import CallPolicy.Proofs.Respelling
import CallPolicy.Proofs.Segments
import CallPolicy.Proofs.Validation
import CallPolicy.Request
import CallPolicy.Rule
import CallPolicy.Text.Ascii
import CallPolicy.Text.Blank
import CallPolicy.Text.Lowercase
import CallPolicy.Text.Percent
import CallPolicy.Text.Quoted
import CallPolicy.Text.Ranges
import CallPolicy.Text.Split
import CallPolicy.Text.Table.CaseIgnorable
import CallPolicy.Text.Table.Cased
import CallPolicy.Text.Table.GraphemeExtend
import CallPolicy.Text.Table.Lowercase
import CallPolicy.Text.Table.Unprintable
import CallPolicy.Text.Utf8
import CallPolicy.Toml.Basic
import CallPolicy.Toml.Parser
import CallPolicy.Toml.Quoted
import CallPolicy.Toml.Word
import CallPolicy.Uri
import CallPolicy.Validation
import CallPolicy.Yaml.Block
import CallPolicy.Yaml.Event
import CallPolicy.Yaml.Gap
import CallPolicy.Yaml.Layout
import CallPolicy.Yaml.Node
import CallPolicy.Yaml.Plain
import CallPolicy.Yaml.Quoted
import CallPolicy.Yaml.Source
import CallPolicy.Yaml.Token
import CallPolicy.Yaml.Tokens
import CallPolicy.Yaml.Value
import CallPolicy.Proofs.LowerCase
import CallPolicy.Proofs.ByteOrder
import CallPolicy.Proofs.Keys
import CallPolicy.Proofs.Cleaning
import CallPolicy.Proofs.Reachable
import CallPolicy.Proofs.Ready
import CallPolicy.Proofs.AllowInvariant
import CallPolicy.Proofs.DenyInvariant
import CallPolicy.Proofs.Isolation
import CallPolicy.Proofs.Rearranged
import CallPolicy.Proofs.Narrowing
import CallPolicy.Proofs.Batches
import CallPolicy.Proofs.Faults
import CallPolicy.Proofs.FirstFault
import CallPolicy.Proofs.Reloading
import CallPolicy.Proofs.Documents
import CallPolicy.Proofs.Delivery
import CallPolicy.Proofs.Forwarding
import CallPolicy.Proofs.Containment
import CallPolicy.Proofs.Doubles
import CallPolicy.Proofs.Rounding
import CallPolicy.Proofs.Numbers
import CallPolicy.Proofs.FormData
import CallPolicy.Proofs.FormEncoding
import CallPolicy.Proofs.Undecodable
import CallPolicy.Proofs.Requirements
import CallPolicy.Proofs.Appending
import CallPolicy.Proofs.Registrations
import CallPolicy.Proofs.Unread
import CallPolicy.Proofs.Parameters
import CallPolicy.Proofs.SingleCapability
import CallPolicy.Proofs.Patterns
import CallPolicy.Proofs.Repositories
import CallPolicy.Proofs.BodyParameters
import CallPolicy.Proofs.Reinstalling
import CallPolicy.Proofs.ParameterFaults
import CallPolicy.Proofs.Builtins
import CallPolicy.Proofs.RequiredParameters
import CallPolicy.Proofs.WrittenNumbers
import CallPolicy.Proofs.WrittenTokens
import CallPolicy.Proofs.WrittenValues
import CallPolicy.Proofs.WrittenEntries
import CallPolicy.Proofs.Layering
import CallPolicy.Proofs.Checking
import CallPolicy.Proofs.Linting
import CallPolicy.Proofs.Listing
import CallPolicy.Proofs.Matching
import CallPolicy.Proofs.CleanTexts
import CallPolicy.Proofs.Resolution
import CallPolicy.Proofs.Readings
