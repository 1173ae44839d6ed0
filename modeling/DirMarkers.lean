import DirMarkers.Calendar
import DirMarkers.CommandLine.Arguments
import DirMarkers.CommandLine.Help
import DirMarkers.CommandLine.Switch
import DirMarkers.CommandLine.Word
import DirMarkers.Config
import DirMarkers.Decimal.Notation
import DirMarkers.Decimal.Shortest
import DirMarkers.DirPath
import DirMarkers.Ignore.Lines
import DirMarkers.Ignore.Memo
import DirMarkers.Ignore.Tables
import DirMarkers.Ignore.Verdict
import DirMarkers.Journal
import DirMarkers.Json.Printer
import DirMarkers.Json.Value
import DirMarkers.Main
import DirMarkers.PathName
import DirMarkers.Pattern.Predicate
import DirMarkers.Pattern.Regex
import DirMarkers.Pattern.Search
import DirMarkers.Pattern.Token
import DirMarkers.Report
import DirMarkers.Rule
import DirMarkers.Run.Loading
import DirMarkers.Run.Marker
import DirMarkers.Run.Step
import DirMarkers.Run.Walk
import DirMarkers.Session
import DirMarkers.Settings
import DirMarkers.SettingsFile
import DirMarkers.SystemError
import DirMarkers.Text.Blank
import DirMarkers.Text.Digit
import DirMarkers.Text.Lines
import DirMarkers.Text.Lower
import DirMarkers.Text.Printable
import DirMarkers.Text.Quoted
import DirMarkers.Text.Utf8
import DirMarkers.Tree.Access
import DirMarkers.Tree.Canonical
import DirMarkers.Tree.Difference
import DirMarkers.Tree.Fault
import DirMarkers.Tree.Node
import DirMarkers.Tree.Resolve
import DirMarkers.Yaml.Atom
import DirMarkers.Yaml.Cursor
import DirMarkers.Yaml.Document
import DirMarkers.Yaml.Error
import DirMarkers.Yaml.Listing
import DirMarkers.Yaml.Node
import DirMarkers.Yaml.Plain
import DirMarkers.Yaml.Scalar
import DirMarkers.Yaml.ScalarText
import DirMarkers.Yaml.Scan
import DirMarkers.Yaml.Source
import DirMarkers.Yaml.Store
import DirMarkers.Yaml.Token
import DirMarkers.Yaml.Value
import DirMarkers.Proofs.Tree.Entries
import DirMarkers.Proofs.Tree.WellFormed
import DirMarkers.Proofs.Tree.Amendment
import DirMarkers.Proofs.Tree.Resolution
import DirMarkers.Proofs.Tree.Below
import DirMarkers.Proofs.Walk.Survey
import DirMarkers.Proofs.Run.Notable
import DirMarkers.Proofs.Tree.Likeness
import DirMarkers.Proofs.Run.Tracking
import DirMarkers.Proofs.Spelling
import DirMarkers.Proofs.Walk.Settlement
import DirMarkers.Proofs.Walk.Simulation
import DirMarkers.Proofs.Run.Course
import DirMarkers.Proofs.Run.Replay
import DirMarkers.Proofs.Run.Ledger
import DirMarkers.Proofs.Run.Agreement
import DirMarkers.Proofs.Tree.Without
import DirMarkers.Proofs.Walk.Blindness
import DirMarkers.Proofs.Run.Repetition
import DirMarkers.Proofs.Run.Success
import DirMarkers.Proofs.Walk.Reach
import DirMarkers.Proofs.Run.Correctness
import DirMarkers.Proofs.Pattern.Components
import DirMarkers.Proofs.Pattern.Finding
import DirMarkers.Proofs.Pattern.Plain
import DirMarkers.Proofs.Pattern.Covering
import DirMarkers.Proofs.Pattern.Meaning
import DirMarkers.Proofs.Walk.Answer
import DirMarkers.Proofs.Tree.Skeleton
import DirMarkers.Proofs.Run.Reading
import DirMarkers.Proofs.Run.Coherence
import DirMarkers.Proofs.Walk.Direct
import DirMarkers.Proofs.Settings.Checking
import DirMarkers.Proofs.Settings.Merging
import DirMarkers.Proofs.Walk.Stillness
import DirMarkers.Proofs.CommandLine.Accepted
import DirMarkers.Proofs.Session.ReadOnly
import DirMarkers.Proofs.Run.Telling
import DirMarkers.Proofs.Walk.Passage
import DirMarkers.Proofs.Run.Completion
import DirMarkers.Proofs.Tree.Sorted
import DirMarkers.Proofs.Tree.Filling
import DirMarkers.Proofs.Walk.Sparing
import DirMarkers.Proofs.Run.Preservation
import DirMarkers.Proofs.Walk.Arrival
import DirMarkers.Proofs.Run.Outside
import DirMarkers.Proofs.Run.Outcome
import DirMarkers.Proofs.Run.Isolation
import DirMarkers.Proofs.Run.Stopping
import DirMarkers.Proofs.Ignore.Tightening
import DirMarkers.Proofs.Run.Cleaning
import DirMarkers.Proofs.Run.Convergence
import DirMarkers.Proofs.Run.Narrowing
import DirMarkers.Proofs.Run.Pruned
import DirMarkers.Proofs.Run.Pruning
import DirMarkers.Proofs.Walk.Record
import DirMarkers.Proofs.Walk.Origin
import DirMarkers.Proofs.Run.Record
import DirMarkers.Proofs.Run.Partition
import DirMarkers.Proofs.Run.Recording
import DirMarkers.Proofs.Run.Changes
import DirMarkers.Proofs.Run.Flipping
import DirMarkers.Proofs.Settings.Escaping
import DirMarkers.Proofs.Session.Refusal
import DirMarkers.Proofs.Pattern.Writing
import DirMarkers.Proofs.Pattern.Hoisting
import DirMarkers.Proofs.Pattern.Decoding
import DirMarkers.Proofs.Ignore.Chain
import DirMarkers.Proofs.Ignore.Precedence
import DirMarkers.Proofs.Ignore.Snapshots
import DirMarkers.Proofs.Ignore.LineEndings
import DirMarkers.Proofs.Settings.Acceptance
import DirMarkers.Proofs.Walk.Finding
import DirMarkers.Proofs.Run.Logging
import DirMarkers.Proofs.Json.Reader
import DirMarkers.Proofs.Session.Report
