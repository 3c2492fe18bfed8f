import Mutagenesis.Command.Basic
import Mutagenesis.Command.Report
import Mutagenesis.Command.Run
import Mutagenesis.Command.Scan
import Mutagenesis.Config.Basic
import Mutagenesis.Config.Check
import Mutagenesis.Config.Fault
import Mutagenesis.Config.LineList
import Mutagenesis.Diff.Compact
import Mutagenesis.Diff.Report
import Mutagenesis.Diff.Script
import Mutagenesis.Discovery
import Mutagenesis.Files.Access
import Mutagenesis.Files.Path
import Mutagenesis.Files.Resolve
import Mutagenesis.Files.World
import Mutagenesis.Glob.Compile
import Mutagenesis.Glob.Pattern
import Mutagenesis.Json.Basic
import Mutagenesis.Json.Decode
import Mutagenesis.Json.Fault
import Mutagenesis.Json.Found
import Mutagenesis.Location
import Mutagenesis.Location.Json
import Mutagenesis.Main
import Mutagenesis.Model.Answer
import Mutagenesis.Model.Basic
import Mutagenesis.Model.Cache
import Mutagenesis.Model.Chat
import Mutagenesis.Model.Endpoint
import Mutagenesis.Model.Flight
import Mutagenesis.Model.Live
import Mutagenesis.Model.Options
import Mutagenesis.Model.Pacing
import Mutagenesis.Model.Replay
import Mutagenesis.Model.Sha256
import Mutagenesis.Model.Throttle
import Mutagenesis.Model.Together
import Mutagenesis.Mutant.Basic
import Mutagenesis.Mutant.Candidate
import Mutagenesis.Mutant.Fence
import Mutagenesis.Number.Binary64
import Mutagenesis.Number.Reading
import Mutagenesis.Number.Shortest
import Mutagenesis.Number.Text
import Mutagenesis.Package.Detect
import Mutagenesis.Package.Select
import Mutagenesis.Prompt.Builtin
import Mutagenesis.Prompt.Sequence
import Mutagenesis.Prompt.Source
import Mutagenesis.Prompt.Template
import Mutagenesis.Proofs.Command.Completion
import Mutagenesis.Proofs.Command.Options
import Mutagenesis.Proofs.Command.Replay
import Mutagenesis.Proofs.Config.LineList
import Mutagenesis.Proofs.Discovery
import Mutagenesis.Proofs.Discovery.Conditions
import Mutagenesis.Proofs.Discovery.Placeholders
import Mutagenesis.Proofs.Files.Changes
import Mutagenesis.Proofs.Files.Courses
import Mutagenesis.Proofs.Files.Emptying
import Mutagenesis.Proofs.Files.Ends
import Mutagenesis.Proofs.Files.Growth
import Mutagenesis.Proofs.Files.Lasting
import Mutagenesis.Proofs.Files.Making
import Mutagenesis.Proofs.Files.Path
import Mutagenesis.Proofs.Files.Removal
import Mutagenesis.Proofs.Files.Replacing
import Mutagenesis.Proofs.Files.Routes
import Mutagenesis.Proofs.Files.Steps
import Mutagenesis.Proofs.Files.Tree
import Mutagenesis.Proofs.Files.Vacancy
import Mutagenesis.Proofs.Files.Walk
import Mutagenesis.Proofs.Flight.Alone
import Mutagenesis.Proofs.Flight.References
import Mutagenesis.Proofs.Flight.Runs
import Mutagenesis.Proofs.Flight.Single
import Mutagenesis.Proofs.Flight.Slots
import Mutagenesis.Proofs.Glob.Braces
import Mutagenesis.Proofs.Glob.Matching
import Mutagenesis.Proofs.Json.Bounds
import Mutagenesis.Proofs.Json.Decoding
import Mutagenesis.Proofs.Json.Numbers
import Mutagenesis.Proofs.Json.Numerals
import Mutagenesis.Proofs.Json.Objects
import Mutagenesis.Proofs.Json.Reading
import Mutagenesis.Proofs.Json.Records
import Mutagenesis.Proofs.Json.Strings
import Mutagenesis.Proofs.Json.Summaries
import Mutagenesis.Proofs.Json.Texts
import Mutagenesis.Proofs.Location
import Mutagenesis.Proofs.Location.Positions
import Mutagenesis.Proofs.Location.Splicing
import Mutagenesis.Proofs.Model.Cache
import Mutagenesis.Proofs.Model.Caching
import Mutagenesis.Proofs.Model.Delays
import Mutagenesis.Proofs.Model.Entries
import Mutagenesis.Proofs.Model.Fingerprint
import Mutagenesis.Proofs.Model.Requests
import Mutagenesis.Proofs.Model.Retries
import Mutagenesis.Proofs.Model.Sha256
import Mutagenesis.Proofs.Mutant.Blocks
import Mutagenesis.Proofs.Mutant.Candidates
import Mutagenesis.Proofs.Mutant.Classes
import Mutagenesis.Proofs.Mutant.Fence
import Mutagenesis.Proofs.Mutant.Reordering
import Mutagenesis.Proofs.Number.Accepted
import Mutagenesis.Proofs.Number.Intervals
import Mutagenesis.Proofs.Number.Shortest
import Mutagenesis.Proofs.Number.Text
import Mutagenesis.Proofs.Numeral
import Mutagenesis.Proofs.Pacing.Runs
import Mutagenesis.Proofs.Pacing.Spacing
import Mutagenesis.Proofs.Pacing.Turns
import Mutagenesis.Proofs.Package
import Mutagenesis.Proofs.Package.Selection
import Mutagenesis.Proofs.Prompt.Filling
import Mutagenesis.Proofs.Results
import Mutagenesis.Proofs.Run.Accounting
import Mutagenesis.Proofs.Run.Artifacts
import Mutagenesis.Proofs.Run.Breaking
import Mutagenesis.Proofs.Run.Confined
import Mutagenesis.Proofs.Run.Filing
import Mutagenesis.Proofs.Run.Frame
import Mutagenesis.Proofs.Run.Gaps
import Mutagenesis.Proofs.Run.Holding
import Mutagenesis.Proofs.Run.Loading
import Mutagenesis.Proofs.Run.Lockstep
import Mutagenesis.Proofs.Run.Mirror
import Mutagenesis.Proofs.Run.Mutants
import Mutagenesis.Proofs.Run.Output
import Mutagenesis.Proofs.Run.Plan
import Mutagenesis.Proofs.Run.Progress
import Mutagenesis.Proofs.Run.Queues
import Mutagenesis.Proofs.Run.Recording
import Mutagenesis.Proofs.Run.Replay
import Mutagenesis.Proofs.Run.Rerun
import Mutagenesis.Proofs.Run.Rewriting
import Mutagenesis.Proofs.Run.RoundTrip
import Mutagenesis.Proofs.Run.Stored
import Mutagenesis.Proofs.Run.Traffic
import Mutagenesis.Proofs.Run.Turns
import Mutagenesis.Proofs.Run.Unfinished
import Mutagenesis.Proofs.Run.Versions
import Mutagenesis.Proofs.Syntax.Counts
import Mutagenesis.Proofs.Syntax.Grammars
import Mutagenesis.Proofs.Syntax.Reading
import Mutagenesis.Proofs.Syntax.Shapes
import Mutagenesis.Proofs.Syntax.Spans
import Mutagenesis.Proofs.Syntax.Tree
import Mutagenesis.Proofs.Text
import Mutagenesis.Run.Artifacts
import Mutagenesis.Run.Generate
import Mutagenesis.Run.Record
import Mutagenesis.Run.Summary
import Mutagenesis.Syntax.Language
import Mutagenesis.Syntax.Lexemes
import Mutagenesis.Syntax.Python.Grammar
import Mutagenesis.Syntax.Python.Layout
import Mutagenesis.Syntax.Python.Tokens
import Mutagenesis.Syntax.Reading
import Mutagenesis.Syntax.Rule
import Mutagenesis.Syntax.Rust.Grammar
import Mutagenesis.Syntax.Rust.Tokens
import Mutagenesis.Syntax.Script.Grammar
import Mutagenesis.Syntax.Script.Tokens
import Mutagenesis.Syntax.Tree
import Mutagenesis.Text.Characters
import Mutagenesis.Text.Decimal
import Mutagenesis.Text.Identifier
import Mutagenesis.Text.Quoted
import Mutagenesis.Text.Utf8
