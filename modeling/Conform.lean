import Conform.Binary64.Basic
import Conform.Binary64.Rounding
import Conform.Binary64.Shortest
import Conform.Binary64.Text
import Conform.Integer
import Conform.Journal
import Conform.Json.Basic
import Conform.Json.Literal
import Conform.Json.Reading
import Conform.Json.Record
import Conform.Json.Text
import Conform.Level.Dispatch
import Conform.Level.Parse
import Conform.LexicalPath
import Conform.ListRule
import Conform.Load
import Conform.Net.Address
import Conform.Options.Basic
import Conform.Options.Record
import Conform.ParseError
import Conform.Path
import Conform.Proofs.Attempt
import Conform.Proofs.Binary64.Interval
import Conform.Proofs.Binary64.Nearest
import Conform.Proofs.Binary64.Ratio
import Conform.Proofs.Binary64.Rounding
import Conform.Proofs.Binary64.Shortest
import Conform.Proofs.Binary64.Text
import Conform.Proofs.Binary64.Value
import Conform.Proofs.Json.Members
import Conform.Proofs.Json.Strings
import Conform.Proofs.Level.Account
import Conform.Proofs.Level.Agree
import Conform.Proofs.Level.Defaults
import Conform.Proofs.Level.EachMark
import Conform.Proofs.Level.Equations
import Conform.Proofs.Level.Found
import Conform.Proofs.Level.Invariant
import Conform.Proofs.Level.Moved
import Conform.Proofs.Level.Names
import Conform.Proofs.Level.Semantics
import Conform.Proofs.Level.Settled
import Conform.Proofs.Level.Settlement
import Conform.Proofs.Level.Sources
import Conform.Proofs.Level.Steady
import Conform.Proofs.Level.Trace
import Conform.Proofs.Level.Visit
import Conform.Proofs.LexicalPath
import Conform.Proofs.LexicalPath.Canonical
import Conform.Proofs.ListRule
import Conform.Proofs.ListRule.Arrangement
import Conform.Proofs.ListRule.Duplicates
import Conform.Proofs.ListRule.Revalidation
import Conform.Proofs.ListRule.Single
import Conform.Proofs.Load.Agreement
import Conform.Proofs.Load.Atomicity
import Conform.Proofs.Load.Supplied
import Conform.Proofs.Load.Symbols
import Conform.Proofs.Net.Address
import Conform.Proofs.Net.Notation
import Conform.Proofs.Path
import Conform.Proofs.Pointwise
import Conform.Proofs.Rule.Depth
import Conform.Proofs.Rule.InOrder
import Conform.Proofs.Rule.Keyless
import Conform.Proofs.Rule.Spelling
import Conform.Proofs.Run
import Conform.Proofs.Run.Agree
import Conform.Proofs.Run.Turn
import Conform.Proofs.Schema.Built
import Conform.Proofs.Schema.Conformance
import Conform.Proofs.Schema.ErrorPath
import Conform.Proofs.Schema.Faults
import Conform.Proofs.Schema.Flattened
import Conform.Proofs.Schema.Growth
import Conform.Proofs.Schema.Hole
import Conform.Proofs.Schema.KeyKinds
import Conform.Proofs.Schema.Layers
import Conform.Proofs.Schema.Listing
import Conform.Proofs.Schema.Lookup
import Conform.Proofs.Schema.Mirrored
import Conform.Proofs.Schema.Naming
import Conform.Proofs.Schema.Overlay
import Conform.Proofs.Schema.Place
import Conform.Proofs.Schema.Reload
import Conform.Proofs.Schema.Renaming
import Conform.Proofs.Schema.Reparse
import Conform.Proofs.Schema.Restating
import Conform.Proofs.Schema.Strays
import Conform.Proofs.Schema.Warnings
import Conform.Proofs.Store.Counters
import Conform.Proofs.Store.History
import Conform.Proofs.Store.Publication
import Conform.Proofs.Tag.Bytes
import Conform.Proofs.Tag.Canonical
import Conform.Proofs.Tag.Forms
import Conform.Proofs.Tag.Networks
import Conform.Proofs.Tag.Spelling
import Conform.Proofs.Tag.Timestamps
import Conform.Proofs.Tag.Written
import Conform.Proofs.Term.Congruence
import Conform.Proofs.Term.Decoding
import Conform.Proofs.Term.Exchange
import Conform.Proofs.Term.Formats
import Conform.Proofs.Term.Identity
import Conform.Proofs.Term.KeyFaults
import Conform.Proofs.Term.KeyNames
import Conform.Proofs.Term.Lookup
import Conform.Proofs.Term.Numbers
import Conform.Proofs.Term.Order
import Conform.Proofs.Term.Rekeyed
import Conform.Proofs.Term.Rendered
import Conform.Proofs.Term.TextCode
import Conform.Proofs.Term.Written
import Conform.Proofs.Text.Blank
import Conform.Proofs.Text.Digits
import Conform.Proofs.Text.Split
import Conform.Proofs.Text.Utf8
import Conform.Proofs.Time.Calendar
import Conform.Proofs.Time.Epoch
import Conform.Proofs.Time.Instant
import Conform.Proofs.Time.Obtained
import Conform.Proofs.Time.Reading
import Conform.Proofs.Time.Record
import Conform.Proofs.Time.Rendering
import Conform.Proofs.Time.Truncation
import Conform.Proofs.TokenList
import Conform.Proofs.Yaml.Inside
import Conform.Proofs.Yaml.KeyText
import Conform.Record
import Conform.Rule
import Conform.Schema.Basic
import Conform.Schema.Inspect
import Conform.Schema.Merge
import Conform.Store.Basic
import Conform.Store.Slot
import Conform.Symbol
import Conform.Tag.Basic
import Conform.Tag.Validation
import Conform.Term.Basic
import Conform.Term.Inspect
import Conform.Term.Json
import Conform.Term.Order
import Conform.Term.Views
import Conform.Term.Yaml
import Conform.Text.Base64
import Conform.Text.Blank
import Conform.Text.Composed
import Conform.Text.Digits
import Conform.Text.Hidden
import Conform.Text.Mark
import Conform.Text.Quoted
import Conform.Text.Split
import Conform.Text.Utf8
import Conform.Time.Calendar
import Conform.Time.Instant
import Conform.Time.Record
import Conform.Time.Timestamp
import Conform.TokenList
import Conform.Uri.Basic
import Conform.Uri.Direction
import Conform.Uri.Domain
import Conform.Uri.Folding
import Conform.Uri.Host
import Conform.Uri.Joining
import Conform.Uri.Path
import Conform.Uri.Percent
import Conform.Uri.Punycode
import Conform.Uri.Reading
import Conform.Yaml.Basic
import Conform.Yaml.Cursor
import Conform.Yaml.Layout
import Conform.Yaml.Node
import Conform.Yaml.Reading
import Conform.Yaml.Record
import Conform.Yaml.Resolution
import Conform.Yaml.Scalar.Block
import Conform.Yaml.Scalar.Gap
import Conform.Yaml.Scalar.Plain
import Conform.Yaml.Scalar.Quoted
import Conform.Yaml.Token
