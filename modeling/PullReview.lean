import PullReview.Changes.Git
import PullReview.Changes.Map
import PullReview.Changes.Scan
import PullReview.CommandLine.Options
import PullReview.CommandLine.Review
import PullReview.Comments.Comment
import PullReview.Comments.Reconcile
import PullReview.Comments.Store
import PullReview.Compiler.Check
import PullReview.Compiler.Message
import PullReview.Compiler.Projects
import PullReview.Compression.Bits
import PullReview.Compression.Container
import PullReview.Compression.Inflate
import PullReview.Diagnostic
import PullReview.Environment
import PullReview.Fault
import PullReview.Finding
import PullReview.GitHub.Client
import PullReview.GitHub.ContentType
import PullReview.GitHub.Exchange
import PullReview.GitHub.Token
import PullReview.Journal
import PullReview.Journal.Setup
import PullReview.Json.Access
import PullReview.Json.Basic
import PullReview.Json.Bytes
import PullReview.Json.Reader
import PullReview.Json.Writer
import PullReview.Lint.Baseline
import PullReview.Lint.Engine
import PullReview.Lint.FlatConfig
import PullReview.Lint.Project
import PullReview.Lint.Report
import PullReview.Main
import PullReview.Number.Decimals
import PullReview.Number.Double
import PullReview.Number.Numeral
import PullReview.Number.Shortest
import PullReview.Path
import PullReview.Pipeline
import PullReview.Program
import PullReview.PullRequest
import PullReview.Rehearsal.Host
import PullReview.Rehearsal.Ledger
import PullReview.Rehearsal.Programs
import PullReview.Rehearsal.Script.Builtin
import PullReview.Rehearsal.Script.Expansion
import PullReview.Rehearsal.Script.Format
import PullReview.Rehearsal.Script.Launch
import PullReview.Rehearsal.Script.Machine
import PullReview.Rehearsal.Script.Numeral
import PullReview.Rehearsal.Script.Octets
import PullReview.Rehearsal.Script.Pattern
import PullReview.Rehearsal.Script.Process
import PullReview.Rehearsal.Script.Question
import PullReview.Rehearsal.Script.Reader
import PullReview.Rehearsal.Script.Run
import PullReview.Rehearsal.Script.Sum
import PullReview.Rehearsal.Script.Syntax
import PullReview.Rehearsal.Script.Token
import PullReview.Rehearsal.Server
import PullReview.Rehearsal.Tools.Files
import PullReview.Rehearsal.Tools.Lines
import PullReview.Rehearsal.Tools.Options
import PullReview.Rehearsal.Tools.Output
import PullReview.Report.Aggregate
import PullReview.Report.Group
import PullReview.Report.Markdown
import PullReview.RunContext
import PullReview.Scope
import PullReview.Settings.Basic
import PullReview.Settings.Fields
import PullReview.Settings.ShellWords
import PullReview.Text.Bytes
import PullReview.Text.Case
import PullReview.Text.Encoding.BigFive
import PullReview.Text.Encoding.Broken
import PullReview.Text.Encoding.ByteSet
import PullReview.Text.Encoding.DoubleByte
import PullReview.Text.Encoding.Escape
import PullReview.Text.Encoding.Gb
import PullReview.Text.Encoding.Gb18030
import PullReview.Text.Encoding.Grid
import PullReview.Text.Encoding.Jis
import PullReview.Text.Encoding.Ks
import PullReview.Text.Encoding.Named
import PullReview.Text.Encoding.Names
import PullReview.Text.Encoding.Switching
import PullReview.Text.Encoding.Utf8
import PullReview.Text.Encoding.Wide
import PullReview.Text.Lines
import PullReview.Text.Printable
import PullReview.Text.Punycode
import PullReview.Text.Quoted
import PullReview.Time.Instant
import PullReview.Time.Stamp
import PullReview.Tree.Basic
import PullReview.Tree.Change
import PullReview.Tree.Real
import PullReview.Tree.Walk
import PullReview.Unicode.CodeSet
import PullReview.Unicode.Composition
import PullReview.Unicode.Direction
import PullReview.Unicode.HostMapping
import PullReview.Unicode.Joining
import PullReview.Unicode.Mark
import PullReview.Url.BaseUrl
import PullReview.Url.Domain
import PullReview.Url.Host
import PullReview.Url.Percent
import PullReview.Url.Reference
import PullReview.Url.StrictName
import PullReview.World
import PullReview.Proofs.Changes.Exact
import PullReview.Proofs.Changes.Joining
import PullReview.Proofs.Changes.Kinds
import PullReview.Proofs.Changes.Layout
import PullReview.Proofs.Changes.Listing
import PullReview.Proofs.Changes.Map
import PullReview.Proofs.Changes.Reading
import PullReview.Proofs.Changes.Steering
import PullReview.Proofs.Comments.Accounting
import PullReview.Proofs.Comments.History
import PullReview.Proofs.Comments.InStep
import PullReview.Proofs.Comments.Listed
import PullReview.Proofs.Comments.OneSummary
import PullReview.Proofs.Comments.Posting
import PullReview.Proofs.Comments.Reconciling
import PullReview.Proofs.Comments.Rerun
import PullReview.Proofs.Comments.Scripted
import PullReview.Proofs.Comments.Summary
import PullReview.Proofs.Comments.Uses
import PullReview.Proofs.Compiler.Blocks
import PullReview.Proofs.Compiler.Folding
import PullReview.Proofs.Compiler.Header
import PullReview.Proofs.Compiler.Noise
import PullReview.Proofs.Compiler.Projects
import PullReview.Proofs.Compiler.RoundTrip
import PullReview.Proofs.Compiler.Rounds
import PullReview.Proofs.Except
import PullReview.Proofs.GitHub.Address
import PullReview.Proofs.GitHub.CodeHost
import PullReview.Proofs.GitHub.Legible
import PullReview.Proofs.GitHub.Minting
import PullReview.Proofs.GitHub.PageServer
import PullReview.Proofs.GitHub.Pages
import PullReview.Proofs.GitHub.Pauses
import PullReview.Proofs.GitHub.Refinement
import PullReview.Proofs.GitHub.Retrying
import PullReview.Proofs.GitHub.Served
import PullReview.Proofs.GitHub.Tries
import PullReview.Proofs.GitHub.Trouble
import PullReview.Proofs.Json.Limits
import PullReview.Proofs.Json.Members
import PullReview.Proofs.Json.Nesting
import PullReview.Proofs.Json.Written
import PullReview.Proofs.Lint.Advice
import PullReview.Proofs.Lint.FlatConfig
import PullReview.Proofs.Lint.Leftovers
import PullReview.Proofs.Lint.Passes
import PullReview.Proofs.Lint.Reading
import PullReview.Proofs.Named
import PullReview.Proofs.Number.Digits
import PullReview.Proofs.Number.Doubles
import PullReview.Proofs.Number.Numerals
import PullReview.Proofs.Path
import PullReview.Proofs.Report.Aggregate
import PullReview.Proofs.Report.Layout
import PullReview.Proofs.Report.Merging
import PullReview.Proofs.Report.Order
import PullReview.Proofs.Report.Runs
import PullReview.Proofs.Review.Advice
import PullReview.Proofs.Review.Analyzers
import PullReview.Proofs.Review.ChangedLines
import PullReview.Proofs.Review.Identity
import PullReview.Proofs.Review.Publishing
import PullReview.Proofs.Review.Verdict
import PullReview.Proofs.Settings.Faults
import PullReview.Proofs.Settings.Words
import PullReview.Proofs.Text.Bytes
import PullReview.Proofs.Text.Lines
import PullReview.Proofs.Text.Printed
import PullReview.Proofs.Text.Trim
import PullReview.Proofs.Tree.Entries
import PullReview.Proofs.Tree.Plain
import PullReview.Proofs.Tree.Walks
import PullReview.Proofs.Tree.Written
import PullReview.Proofs.Url.Path
import PullReview.Proofs.World.Alike
import PullReview.Proofs.World.Ends
import PullReview.Proofs.World.Hindsight
import PullReview.Proofs.World.Recorded
import PullReview.Proofs.World.Run
import PullReview.Proofs.World.Scene
import PullReview.Proofs.World.Twin
