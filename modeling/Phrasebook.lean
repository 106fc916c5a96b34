import Phrasebook.Bundle
import Phrasebook.Command.Arguments
import Phrasebook.Command.Assignment
import Phrasebook.Command.Failure
import Phrasebook.Command.Files
import Phrasebook.Command.Invocation
import Phrasebook.Command.Run
import Phrasebook.Command.Usage
import Phrasebook.Comparator
import Phrasebook.Config
import Phrasebook.Entries
import Phrasebook.Formatter.Basic
import Phrasebook.Formatter.Cache
import Phrasebook.Formatter.Registry
import Phrasebook.Formatter.TypeGraph
import Phrasebook.Gzip.Huffman
import Phrasebook.Gzip.Inflate
import Phrasebook.Gzip.Member
import Phrasebook.Json.Basic
import Phrasebook.Json.Reading
import Phrasebook.Json.Token
import Phrasebook.Locale
import Phrasebook.Main
import Phrasebook.Message.Basic
import Phrasebook.Message.Nesting
import Phrasebook.Message.Sameness
import Phrasebook.Message.Settings
import Phrasebook.Message.Source
import Phrasebook.Number.DecimalText
import Phrasebook.Number.Floating
import Phrasebook.Number.Integer
import Phrasebook.Number.Shortest
import Phrasebook.Pack.Bits
import Phrasebook.Pack.Envelope
import Phrasebook.Pack.Failure
import Phrasebook.Pack.Layout
import Phrasebook.Pack.Number
import Phrasebook.Pack.Reader
import Phrasebook.Pack.Reading
import Phrasebook.Pack.Stream
import Phrasebook.Pack.Text
import Phrasebook.Pack.Writer
import Phrasebook.Pack.Writing
import Phrasebook.Parameters
import Phrasebook.Proofs.Bundle.Adding
import Phrasebook.Proofs.Bundle.Checking
import Phrasebook.Proofs.Bundle.Compiled
import Phrasebook.Proofs.Bundle.Grouping
import Phrasebook.Proofs.Bundle.Repacking
import Phrasebook.Proofs.Command.Assignments
import Phrasebook.Proofs.Formatter.History
import Phrasebook.Proofs.Formatter.Registry
import Phrasebook.Proofs.Formatter.Resolution
import Phrasebook.Proofs.Formatter.Steps
import Phrasebook.Proofs.Formatter.Walk
import Phrasebook.Proofs.Locale
import Phrasebook.Proofs.Message.Equivalence
import Phrasebook.Proofs.Message.Folding
import Phrasebook.Proofs.Message.Nodes
import Phrasebook.Proofs.Message.Sameness
import Phrasebook.Proofs.Message.Settings
import Phrasebook.Proofs.Message.Tree
import Phrasebook.Proofs.Number.Decimal
import Phrasebook.Proofs.Number.Matching
import Phrasebook.Proofs.Number.Rounding
import Phrasebook.Proofs.Number.Words
import Phrasebook.Proofs.Pack.Bits
import Phrasebook.Proofs.Pack.Covered
import Phrasebook.Proofs.Pack.Fields
import Phrasebook.Proofs.Pack.Integers
import Phrasebook.Proofs.Pack.Messages
import Phrasebook.Proofs.Pack.Parts
import Phrasebook.Proofs.Pack.Reads
import Phrasebook.Proofs.Pack.RoundTrip
import Phrasebook.Proofs.Pack.Steady
import Phrasebook.Proofs.Pack.Stream
import Phrasebook.Proofs.Pack.Templates
import Phrasebook.Proofs.Pack.Truncated
import Phrasebook.Proofs.Pack.Unpacked
import Phrasebook.Proofs.Pack.Writer
import Phrasebook.Proofs.Pack.Yields
import Phrasebook.Proofs.Ranking
import Phrasebook.Proofs.Rendering.Attribution
import Phrasebook.Proofs.Rendering.Bounded
import Phrasebook.Proofs.Rendering.Clipping
import Phrasebook.Proofs.Rendering.Course
import Phrasebook.Proofs.Rendering.Dispatch
import Phrasebook.Proofs.Rendering.Errors
import Phrasebook.Proofs.Rendering.Folding
import Phrasebook.Proofs.Rendering.Joining
import Phrasebook.Proofs.Rendering.Message
import Phrasebook.Proofs.Rendering.Parameters
import Phrasebook.Proofs.Rendering.Redispatch
import Phrasebook.Proofs.Rendering.Selection
import Phrasebook.Proofs.Rendering.Stopping
import Phrasebook.Proofs.Rendering.Supplied
import Phrasebook.Proofs.Rendering.Termination
import Phrasebook.Proofs.Rendering.Trimming
import Phrasebook.Proofs.Rendering.Variants
import Phrasebook.Proofs.Results
import Phrasebook.Proofs.Sharing.Calls
import Phrasebook.Proofs.Sharing.Normalizing
import Phrasebook.Proofs.Sharing.Pool
import Phrasebook.Proofs.Sharing.Recency
import Phrasebook.Proofs.Sharing.Repetition
import Phrasebook.Proofs.Sharing.Tree
import Phrasebook.Proofs.Template.Excerpts
import Phrasebook.Proofs.Template.Grammar
import Phrasebook.Proofs.Template.Locations
import Phrasebook.Proofs.Template.Messages
import Phrasebook.Proofs.Template.Names
import Phrasebook.Proofs.Template.Neighbours
import Phrasebook.Proofs.Template.Nesting
import Phrasebook.Proofs.Template.NormalForm
import Phrasebook.Proofs.Template.Parsing
import Phrasebook.Proofs.Template.Parts
import Phrasebook.Proofs.Template.Places
import Phrasebook.Proofs.Template.PlainText
import Phrasebook.Proofs.Template.Printable
import Phrasebook.Proofs.Template.Printing
import Phrasebook.Proofs.Template.Refusals
import Phrasebook.Proofs.Template.Reprinting
import Phrasebook.Proofs.Template.Resolving
import Phrasebook.Proofs.Template.RoundTrip
import Phrasebook.Proofs.Template.Scanning
import Phrasebook.Proofs.Template.Settings
import Phrasebook.Proofs.Template.Sizes
import Phrasebook.Proofs.Template.Tiling
import Phrasebook.Proofs.Template.Unescaped
import Phrasebook.Proofs.Template.Uniqueness
import Phrasebook.Proofs.Template.Values
import Phrasebook.Proofs.Text.Collapsing
import Phrasebook.Proofs.Text.Collation
import Phrasebook.Proofs.Text.Escapes
import Phrasebook.Proofs.Text.Gluing
import Phrasebook.Proofs.Text.Quoting
import Phrasebook.Proofs.Text.Trimming
import Phrasebook.Proofs.Text.Words
import Phrasebook.Rendering.Context
import Phrasebook.Rendering.Dispatch
import Phrasebook.Rendering.Failure
import Phrasebook.Rendering.Lists
import Phrasebook.Rendering.Message
import Phrasebook.Selection
import Phrasebook.Sharing.Pool
import Phrasebook.Sharing.Reading
import Phrasebook.Sharing.Table
import Phrasebook.Sharing.Tree
import Phrasebook.Table
import Phrasebook.Template.Compile
import Phrasebook.Template.Location
import Phrasebook.Template.Names
import Phrasebook.Template.Nesting
import Phrasebook.Template.Reading
import Phrasebook.Template.SyntaxError
import Phrasebook.Template.Token
import Phrasebook.Template.Token.Scan
import Phrasebook.Text.Classes
import Phrasebook.Text.Collation
import Phrasebook.Text.Escape
import Phrasebook.Text.Fragment
import Phrasebook.Text.Joining
import Phrasebook.Text.Quoted
import Phrasebook.Text.Spacing
import Phrasebook.Text.Utf8
import Phrasebook.Unicode.Alphabetic
import Phrasebook.Unicode.Case
import Phrasebook.Unicode.CodeRange
import Phrasebook.Unicode.Decomposition
import Phrasebook.Unicode.Printable
import Phrasebook.Value
