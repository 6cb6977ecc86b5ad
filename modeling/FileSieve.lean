import FileSieve.Query.Lexer
import FileSieve.Unicode.Folding
import FileSieve.Unicode.Script
import FileSieve.Text.Utf16
import FileSieve.Text.Basic
import FileSieve.Unicode.Property
import FileSieve.Path
import FileSieve.Time.Literal
import FileSieve.Digest.Algorithm
import FileSieve.File.Facts
import FileSieve.Criteria.Pattern
import FileSieve.Regex.Parser
import FileSieve.Criteria.Reorder
import FileSieve.Criteria.Describe
import FileSieve.Query.Parser
import FileSieve.Output.Template
import FileSieve.Output.Match
import FileSieve.Disk.Basic
import FileSieve.Disk.Record
import FileSieve.Disk.Loadline
import FileSieve.Scan.Basic
import FileSieve.Json.Reader
import FileSieve.Settings.Disk
import FileSieve.Disk.Insert
import FileSieve.CommandLine
import FileSieve.Watchdog
import FileSieve.Main
import FileSieve.Proofs.Criteria.Reordering
import FileSieve.Proofs.Scan.Completeness
import FileSieve.Proofs.Criteria.Uniform
import FileSieve.Proofs.Query.Splicing
import FileSieve.Proofs.Query.Nesting
import FileSieve.Proofs.Query.RoundTrip
import FileSieve.Proofs.Path.Order
import FileSieve.Proofs.Path.Components
import FileSieve.Scan.Parallel
import FileSieve.Proofs.Ordering
import FileSieve.Proofs.Output.Sorting
import FileSieve.Proofs.Scan.Roots
import FileSieve.Proofs.Scan.Ledger
import FileSieve.Proofs.Scan.Schedules
import FileSieve.Proofs.Criteria.Confinement
import FileSieve.Proofs.Scan.Reordered
import FileSieve.Query.Parsing
import FileSieve.Proofs.Query.Stepwise
import FileSieve.Proofs.Query.Braces
import FileSieve.Proofs.Criteria.Bounds
import FileSieve.Proofs.Disk.Places
import FileSieve.Proofs.Scan.Spelling
import FileSieve.Proofs.Query.Transparency
import FileSieve.Proofs.Query.WellFormed
import FileSieve.File.Record
import FileSieve.Criteria.Consult
import FileSieve.Output.Consult
import FileSieve.Proofs.File.Record
import FileSieve.Proofs.Criteria.Consult
import FileSieve.Proofs.Output.Uses
import FileSieve.Text.Slice
import FileSieve.Query.Scanner
import FileSieve.Proofs.Query.Scanner
import FileSieve.Query.Sliced
import FileSieve.Proofs.Text.Slice
import FileSieve.Proofs.Query.Cuts
import FileSieve.Proofs.Query.Sliced
import FileSieve.Proofs.Text.Utf16
import FileSieve.Proofs.Settings.Tokens
import FileSieve.Proofs.Settings.RoundTrip
import FileSieve.Proofs.Criteria.Conjunctions
import FileSieve.Proofs.Query.Conjunctions
import FileSieve.Proofs.Disk.Locate
import FileSieve.Proofs.Disk.Ways
import FileSieve.Proofs.Scan.Requested
import FileSieve.Proofs.Criteria.Canonical
import FileSieve.Proofs.Criteria.Unpruned
import FileSieve.Proofs.Criteria.FactCosts
import FileSieve.Proofs.Path.Plain
import FileSieve.Proofs.Criteria.OwnRoot
import FileSieve.Proofs.File.Image
import FileSieve.Proofs.Criteria.Respelling
import FileSieve.Proofs.Criteria.Glob
import FileSieve.Proofs.Criteria.RelativePatterns
import FileSieve.Criteria.GlobSyntax
import FileSieve.Proofs.Criteria.GlobSyntax
import FileSieve.Proofs.Criteria.Wildcards
import FileSieve.Proofs.File.Checksum
import FileSieve.Proofs.File.Header
import FileSieve.Proofs.Query.Fragments
import FileSieve.Proofs.Query.ShellWords
import FileSieve.Proofs.Scan.Antichain
import FileSieve.Proofs.Output.Filling
import FileSieve.Proofs.Query.SizeLiteral
import FileSieve.Proofs.Text.Lines
import FileSieve.Proofs.Criteria.Outline
import FileSieve.Proofs.Path.Parent
import FileSieve.Proofs.Scan.Shallow
import FileSieve.Proofs.Text.Hex
import FileSieve.Proofs.Query.Payloads
import FileSieve.Proofs.Text.Number
import FileSieve.Proofs.Time.Calendar
import FileSieve.Proofs.Time.Instant
import FileSieve.Proofs.Time.Absolute
import FileSieve.Proofs.Time.Relative
import FileSieve.Proofs.Watchdog
import FileSieve.Proofs.Settings.Loadlines
import FileSieve.Proofs.Scan.RootSpelling
import FileSieve.Proofs.Query.Reading
