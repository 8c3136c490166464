import LintBridge.Main
import LintBridge.Scenario.Serving
import LintBridge.StyleGuide.Readers
import LintBridge.Proofs.Keyed
import LintBridge.Proofs.Path
import LintBridge.Proofs.Command
import LintBridge.Proofs.Files.Upward
import LintBridge.Proofs.Process.Crowd
import LintBridge.Proofs.Process.Supersession
import LintBridge.Proofs.Process.Deadlines
import LintBridge.Proofs.Process.Isolation
import LintBridge.Proofs.Process.Owners
import LintBridge.Proofs.Linter.Tickets
import LintBridge.Proofs.Linter.Takers
import LintBridge.Proofs.Linter.Callers
import LintBridge.Proofs.Linter.LastTicket
import LintBridge.Proofs.Linter.Starts
import LintBridge.Proofs.Linter.Verdicts
import LintBridge.Proofs.Linter.Inquiries
import LintBridge.Proofs.Linter.Classification
import LintBridge.Proofs.Linter.Outcomes
import LintBridge.Proofs.Linter.Reporting
import LintBridge.Proofs.Linter.Solitary
import LintBridge.Proofs.Linter.Sparing
import LintBridge.Proofs.Linter.Steady
import LintBridge.Proofs.Server.Edits
import LintBridge.Proofs.Server.Intake
import LintBridge.Proofs.Server.Turns
import LintBridge.Proofs.Server.Histories
import LintBridge.Proofs.Server.Corrections
import LintBridge.Proofs.Server.Lints
import LintBridge.Proofs.Server.Closing
import LintBridge.Proofs.Server.Saving
import LintBridge.Proofs.Server.Parts
import LintBridge.Proofs.Server.Waiting
import LintBridge.Proofs.Server.Saves
import LintBridge.Proofs.Server.Timers
import LintBridge.Proofs.Server.Debouncing
import LintBridge.Proofs.Server.Hovering
import LintBridge.Proofs.Server.Records
import LintBridge.Proofs.Server.Seeking
import LintBridge.Proofs.Server.Relinting
import LintBridge.Proofs.Server.Settings
import LintBridge.Proofs.Server.Configuring
import LintBridge.Proofs.StyleGuide.Scenes
import LintBridge.Proofs.StyleGuide.LastDocument
import LintBridge.Proofs.StyleGuide.LostLeaves
import LintBridge.Proofs.Text.Words
import LintBridge.Proofs.Text.Trimming
import LintBridge.Proofs.Text.Numerals
import LintBridge.Proofs.StyleGuide.Marks
import LintBridge.Proofs.StyleGuide.Headings
import LintBridge.Proofs.StyleGuide.Partition
import LintBridge.Proofs.Bundler.Answers
import LintBridge.Proofs.Bundler.Directories
import LintBridge.Proofs.Bundler.Detection
import LintBridge.Proofs.Server.Selections
import LintBridge.Proofs.Offense.Annotations
import LintBridge.Proofs.Offense.Styles
import LintBridge.Proofs.Offense.Removals
import LintBridge.Proofs.Offense.Ranges
import LintBridge.Proofs.Offense.Places
import LintBridge.Proofs.Version.Grammar
import LintBridge.Proofs.Version.Spellings
import LintBridge.Proofs.Json.Grammar
import LintBridge.Proofs.Json.Numbers
import LintBridge.Proofs.Json.Members
import LintBridge.Proofs.Json.Writing
import LintBridge.Proofs.Json.Objects
import LintBridge.Proofs.Json.Renderings
import LintBridge.Proofs.Report.Renderings
import LintBridge.Proofs.CommandLine.Reports
import LintBridge.Proofs.CommandLine.Layers
import LintBridge.Proofs.CommandLine.Runs
import LintBridge.Proofs.CommandLine.Fixes
import LintBridge.Proofs.CommandLine.Lints
