import StorageTrace.Agent
import StorageTrace.Aggregator
import StorageTrace.Analyzer
import StorageTrace.Anomaly
import StorageTrace.Binary64
import StorageTrace.Bottleneck
import StorageTrace.Cgroup
import StorageTrace.Collector
import StorageTrace.CommandLine
import StorageTrace.Config
import StorageTrace.ConfigText
import StorageTrace.ControlSequence
import StorageTrace.Correlator
import StorageTrace.Delivery
import StorageTrace.Directory
import StorageTrace.DurationText
import StorageTrace.Entity
import StorageTrace.Event
import StorageTrace.Frame
import StorageTrace.History
import StorageTrace.HostAddress
import StorageTrace.IsolatedMachine
import StorageTrace.LogFilter
import StorageTrace.Main
import StorageTrace.Metric
import StorageTrace.Monitor
import StorageTrace.Names
import StorageTrace.Numeral
import StorageTrace.Outcome
import StorageTrace.Pattern
import StorageTrace.Pattern.CharacterClass
import StorageTrace.Pattern.Cursor
import StorageTrace.Pattern.Escape
import StorageTrace.Pattern.Fault
import StorageTrace.Pattern.Group
import StorageTrace.Pattern.Meaning
import StorageTrace.Pattern.Nesting
import StorageTrace.Pattern.Place
import StorageTrace.Pattern.Syntax
import StorageTrace.Pattern.Text
import StorageTrace.Pipeline
import StorageTrace.PodUid
import StorageTrace.Probe
import StorageTrace.Proofs.Aggregation.Carry
import StorageTrace.Proofs.Aggregation.Lateness
import StorageTrace.Proofs.Aggregation.Round
import StorageTrace.Proofs.Analysis.Baseline
import StorageTrace.Proofs.Analysis.Content
import StorageTrace.Proofs.Analysis.Retained
import StorageTrace.Proofs.Analysis.Run
import StorageTrace.Proofs.Analysis.Separation
import StorageTrace.Proofs.Analysis.Verdicts
import StorageTrace.Proofs.Analysis.View
import StorageTrace.Proofs.Collection.Attribution
import StorageTrace.Proofs.Collection.Decoded
import StorageTrace.Proofs.Collection.Run
import StorageTrace.Proofs.Correlation.Balance
import StorageTrace.Proofs.Correlation.Capacity
import StorageTrace.Proofs.Correlation.Expiry
import StorageTrace.Proofs.Correlation.Mishaps
import StorageTrace.Proofs.Correlation.Overdue
import StorageTrace.Proofs.Correlation.Pairing
import StorageTrace.Proofs.Correlation.Retention
import StorageTrace.Proofs.Correlation.Room
import StorageTrace.Proofs.Correlation.Run
import StorageTrace.Proofs.Correlation.Separation
import StorageTrace.Proofs.Correlation.Sparing
import StorageTrace.Proofs.Correlation.Transition
import StorageTrace.Proofs.Cycle.Agreement
import StorageTrace.Proofs.Cycle.Evidence
import StorageTrace.Proofs.Cycle.Run
import StorageTrace.Proofs.Directory.Layouts
import StorageTrace.Proofs.Directory.Merging
import StorageTrace.Proofs.Directory.Nesting
import StorageTrace.Proofs.Directory.Ownership
import StorageTrace.Proofs.Directory.Scanning
import StorageTrace.Proofs.Directory.Spelling
import StorageTrace.Proofs.Framing.Grammar
import StorageTrace.Proofs.Framing.Log
import StorageTrace.Proofs.Intake.Accounting
import StorageTrace.Proofs.Intake.Counting
import StorageTrace.Proofs.Intake.Readings
import StorageTrace.Proofs.Monitoring.Health
import StorageTrace.Proofs.Monitoring.Skipping
import StorageTrace.Proofs.Names.ByteOrder
import StorageTrace.Proofs.Names.FirstAppearance
import StorageTrace.Proofs.Ranking.Top
import StorageTrace.Proofs.Ranking.TotalOrder
import StorageTrace.Proofs.Rotation.Run
import StorageTrace.Proofs.Rotation.Sequential
import StorageTrace.Proofs.Rotation.Settlement
import StorageTrace.Proofs.Window.Grouping
import StorageTrace.Proofs.Window.Newest
import StorageTrace.Proofs.Window.Totals
import StorageTrace.Proofs.Wire.Records
import StorageTrace.Ranking
import StorageTrace.Similarity
import StorageTrace.Snapshot
import StorageTrace.SystemError
import StorageTrace.Table
import StorageTrace.Tally
import StorageTrace.Time
import StorageTrace.Trend
import StorageTrace.Unicode
import StorageTrace.Unicode.Alphabetic
import StorageTrace.Unicode.Alphanumeric
import StorageTrace.Unicode.Numeric
import StorageTrace.Usage
import StorageTrace.Window
import StorageTrace.Wire
import StorageTrace.WorkingDirectory
import StorageTrace.Yaml.Cursor
import StorageTrace.Yaml.Node
import StorageTrace.Yaml.Scalar
import StorageTrace.Yaml.Tag
import StorageTrace.Yaml.Token
import StorageTrace.Yaml.Value
