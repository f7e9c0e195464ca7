import BooleanSearch.Cache.Footprint
import BooleanSearch.Cache.Guard
import BooleanSearch.Cache.KeyKind
import BooleanSearch.Cache.Lru
import BooleanSearch.Cache.Monitor
import BooleanSearch.Cache.Registry
import BooleanSearch.CommandLine.Arguments
import BooleanSearch.CommandLine.Command
import BooleanSearch.CommandLine.Run
import BooleanSearch.Config.Issue
import BooleanSearch.Config.Lenient
import BooleanSearch.Config.Load
import BooleanSearch.Config.Settings
import BooleanSearch.Config.Validate
import BooleanSearch.Decimal.Dyadic
import BooleanSearch.Decimal.Fixed
import BooleanSearch.Decimal.General
import BooleanSearch.Decimal.Number
import BooleanSearch.Decimal.Shortest
import BooleanSearch.Decimal.Whole
import BooleanSearch.Digest.Key
import BooleanSearch.Digest.Sha256
import BooleanSearch.Display.Line
import BooleanSearch.Display.Markup
import BooleanSearch.Display.Panel
import BooleanSearch.Display.Style
import BooleanSearch.Display.Table
import BooleanSearch.Display.Tree
import BooleanSearch.Display.Wrap
import BooleanSearch.Error
import BooleanSearch.Files.Change
import BooleanSearch.Files.Path
import BooleanSearch.Files.Size
import BooleanSearch.Files.Tree
import BooleanSearch.Files.Walk
import BooleanSearch.Json.Printer
import BooleanSearch.Log.Moment
import BooleanSearch.Log.Outlet
import BooleanSearch.Log.Record
import BooleanSearch.Log.Template
import BooleanSearch.Log.Written
import BooleanSearch.Main
import BooleanSearch.Match.EditDistance
import BooleanSearch.Match.Evaluate
import BooleanSearch.Match.Fuzzy
import BooleanSearch.Match.Near
import BooleanSearch.Match.Options
import BooleanSearch.Match.Session
import BooleanSearch.Match.Term
import BooleanSearch.Match.Words
import BooleanSearch.Pattern.CharTest
import BooleanSearch.Pattern.Compiled
import BooleanSearch.Pattern.Escaped
import BooleanSearch.Pattern.Fault
import BooleanSearch.Pattern.Flags
import BooleanSearch.Pattern.Matcher
import BooleanSearch.Pattern.Node
import BooleanSearch.Pattern.Reader
import BooleanSearch.Pattern.Tree
import BooleanSearch.Proofs.Cache.Accounting
import BooleanSearch.Proofs.Cache.Conservation
import BooleanSearch.Proofs.Cache.Creation
import BooleanSearch.Proofs.Cache.Entries
import BooleanSearch.Proofs.Cache.Inclusion
import BooleanSearch.Proofs.Cache.LatestStores
import BooleanSearch.Proofs.Cache.Pressure
import BooleanSearch.Proofs.Cache.Shedding
import BooleanSearch.Proofs.Config.ToldFaults
import BooleanSearch.Proofs.Config.ValidSettings
import BooleanSearch.Proofs.Decimal.DigitTexts
import BooleanSearch.Proofs.Decimal.Magnitudes
import BooleanSearch.Proofs.Decimal.ReadBack
import BooleanSearch.Proofs.Digest.KeyParts
import BooleanSearch.Proofs.Files.ListedFiles
import BooleanSearch.Proofs.Files.SpelledPaths
import BooleanSearch.Proofs.Files.WalkedFiles
import BooleanSearch.Proofs.Match.Candidates
import BooleanSearch.Proofs.Match.CharacterFilter
import BooleanSearch.Proofs.Match.Evaluation
import BooleanSearch.Proofs.Match.Failures
import BooleanSearch.Proofs.Match.FuzzyPlaces
import BooleanSearch.Proofs.Match.IgnoredCase
import BooleanSearch.Proofs.Match.LinkedPairs
import BooleanSearch.Proofs.Match.Lookups
import BooleanSearch.Proofs.Match.Nearness
import BooleanSearch.Proofs.Match.OperandOrder
import BooleanSearch.Proofs.Match.PlainTerms
import BooleanSearch.Proofs.Match.ProximityCache
import BooleanSearch.Proofs.Match.ProximityKeys
import BooleanSearch.Proofs.Match.SessionFrame
import BooleanSearch.Proofs.Match.UnnegatedQueries
import BooleanSearch.Proofs.Match.Verdict
import BooleanSearch.Proofs.Match.WholeWords
import BooleanSearch.Proofs.Match.WordNumbers
import BooleanSearch.Proofs.Match.WordRuns
import BooleanSearch.Proofs.Pattern.EscapedTexts
import BooleanSearch.Proofs.Pattern.LiteralPatterns
import BooleanSearch.Proofs.Pattern.Spans
import BooleanSearch.Proofs.Query.Acceptance
import BooleanSearch.Proofs.Query.AwaitedPatterns
import BooleanSearch.Proofs.Query.CallChains
import BooleanSearch.Proofs.Query.Composition
import BooleanSearch.Proofs.Query.Derivations
import BooleanSearch.Proofs.Query.ParsedTerms
import BooleanSearch.Proofs.Query.Passes
import BooleanSearch.Proofs.Query.Refusals
import BooleanSearch.Proofs.Query.Rendering
import BooleanSearch.Proofs.Query.ReportedFaults
import BooleanSearch.Proofs.Query.Rereading
import BooleanSearch.Proofs.Query.Scanning
import BooleanSearch.Proofs.Query.Spelling
import BooleanSearch.Proofs.Query.TermTexts
import BooleanSearch.Proofs.Query.TokenPlaces
import BooleanSearch.Proofs.Query.TokenSources
import BooleanSearch.Proofs.Query.WrittenTerms
import BooleanSearch.Proofs.Searcher.CompleteReports
import BooleanSearch.Proofs.Searcher.ShownMatches
import BooleanSearch.Proofs.Searcher.UntoldFailures
import BooleanSearch.Proofs.Session.Answers
import BooleanSearch.Proofs.Session.Caches
import BooleanSearch.Proofs.Session.Tending
import BooleanSearch.Proofs.Stream.BoundedTexts
import BooleanSearch.Proofs.Stream.ChunkScan
import BooleanSearch.Proofs.Stream.DecodedLines
import BooleanSearch.Proofs.Stream.Decoding
import BooleanSearch.Proofs.Stream.FirstMatch
import BooleanSearch.Proofs.Stream.FixedTree
import BooleanSearch.Proofs.Stream.GrowingScan
import BooleanSearch.Proofs.Stream.LineLocal
import BooleanSearch.Proofs.Stream.LineScan
import BooleanSearch.Proofs.Stream.OfferedTexts
import BooleanSearch.Proofs.Stream.Offers
import BooleanSearch.Proofs.Stream.Outcomes
import BooleanSearch.Proofs.Stream.VersionRuns
import BooleanSearch.Proofs.Stream.Versions
import BooleanSearch.Proofs.Stream.WholeFile
import BooleanSearch.Proofs.Text.FoldedBlanks
import BooleanSearch.Proofs.Text.LoweredTexts
import BooleanSearch.Proofs.Text.Occurrences
import BooleanSearch.Proofs.Text.Pieces
import BooleanSearch.Proofs.Text.SoundBytes
import BooleanSearch.Proofs.Text.SpelledTexts
import BooleanSearch.Proofs.Text.WholeNumbers
import BooleanSearch.Proofs.Toml.AwaitedValues
import BooleanSearch.Proofs.Toml.ConfinedScalars
import BooleanSearch.Proofs.Toml.LongNumbers
import BooleanSearch.Proofs.Toml.RefusedDigits
import BooleanSearch.Proofs.Toml.SteadyScans
import BooleanSearch.Query.Expr
import BooleanSearch.Query.Grammar
import BooleanSearch.Query.Literal
import BooleanSearch.Query.Token
import BooleanSearch.Report.Basic
import BooleanSearch.Report.Plain
import BooleanSearch.Report.Structured
import BooleanSearch.Report.Terminal
import BooleanSearch.Report.Writer
import BooleanSearch.Searcher.Basic
import BooleanSearch.Searcher.Run
import BooleanSearch.Stream.Chunks
import BooleanSearch.Stream.Lines
import BooleanSearch.Stream.Retry
import BooleanSearch.Stream.Scanner
import BooleanSearch.Text.Basic
import BooleanSearch.Text.Blank
import BooleanSearch.Text.CharacterName
import BooleanSearch.Text.CodeRanges
import BooleanSearch.Text.Columns
import BooleanSearch.Text.DecimalDigit
import BooleanSearch.Text.Identifier
import BooleanSearch.Text.Letter
import BooleanSearch.Text.Lettercase
import BooleanSearch.Text.NameTable.BasicPlane
import BooleanSearch.Text.NameTable.OtherPlanes
import BooleanSearch.Text.Printable
import BooleanSearch.Text.Quoted
import BooleanSearch.Text.Utf8
import BooleanSearch.Text.WholeNumber
import BooleanSearch.Text.WordChar
import BooleanSearch.Toml.Fault
import BooleanSearch.Toml.Reader
import BooleanSearch.Toml.Scalar
import BooleanSearch.Toml.Scan
import BooleanSearch.Toml.Table
import BooleanSearch.Value
