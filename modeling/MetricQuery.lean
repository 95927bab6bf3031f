import MetricQuery.Address.Basic
import MetricQuery.Address.Host
import MetricQuery.Address.Path
import MetricQuery.Assistant
import MetricQuery.CommandLine.Arguments
import MetricQuery.CommandLine.LogFilter
import MetricQuery.CommandLine.Run
import MetricQuery.Completion.Analysis
import MetricQuery.Completion.Assembly
import MetricQuery.Completion.Candidate
import MetricQuery.Completion.Context
import MetricQuery.Decimal.Shortest
import MetricQuery.Diagnostic
import MetricQuery.Domain.Basic
import MetricQuery.Domain.Composition
import MetricQuery.Domain.Direction
import MetricQuery.Domain.Joining
import MetricQuery.Domain.Mapping
import MetricQuery.Domain.Punycode
import MetricQuery.Domain.Table
import MetricQuery.Encoding
import MetricQuery.Fault
import MetricQuery.Http.Basic
import MetricQuery.Http.Routes
import MetricQuery.Json.Basic
import MetricQuery.Json.Canonical
import MetricQuery.Json.Decode
import MetricQuery.Json.Number
import MetricQuery.Json.Reader
import MetricQuery.Json.Record
import MetricQuery.Json.Writer
import MetricQuery.Main
import MetricQuery.Metadata.Api
import MetricQuery.Metadata.Basic
import MetricQuery.Metadata.Cache
import MetricQuery.Metadata.Client
import MetricQuery.Metadata.Table
import MetricQuery.Order.Stable
import MetricQuery.Position
import MetricQuery.Proofs.AfterExpression
import MetricQuery.Proofs.Allowed
import MetricQuery.Proofs.ArenaForest
import MetricQuery.Proofs.ArenaParsing
import MetricQuery.Proofs.ArenaRules
import MetricQuery.Proofs.ArenaTree
import MetricQuery.Proofs.Arguments
import MetricQuery.Proofs.Arrangement
import MetricQuery.Proofs.Boundary
import MetricQuery.Proofs.Brackets
import MetricQuery.Proofs.CacheContents
import MetricQuery.Proofs.CacheKey
import MetricQuery.Proofs.CacheTransparency
import MetricQuery.Proofs.CheckReach
import MetricQuery.Proofs.CheckedCuts
import MetricQuery.Proofs.Checking
import MetricQuery.Proofs.Completeness
import MetricQuery.Proofs.CountedParsing
import MetricQuery.Proofs.Coverage
import MetricQuery.Proofs.Diagnostics
import MetricQuery.Proofs.DocumentPositions
import MetricQuery.Proofs.Durations
import MetricQuery.Proofs.EditRange
import MetricQuery.Proofs.Enclosure
import MetricQuery.Proofs.Everywhere
import MetricQuery.Proofs.Extent
import MetricQuery.Proofs.FailedFetches
import MetricQuery.Proofs.Flattening
import MetricQuery.Proofs.IndexSpaces
import MetricQuery.Proofs.Innermost
import MetricQuery.Proofs.LabelValues
import MetricQuery.Proofs.Lawful
import MetricQuery.Proofs.Layout
import MetricQuery.Proofs.LineEnds
import MetricQuery.Proofs.LineStarts
import MetricQuery.Proofs.ListItems
import MetricQuery.Proofs.Listed
import MetricQuery.Proofs.MetricCandidates
import MetricQuery.Proofs.Modifiers
import MetricQuery.Proofs.NestingLimit
import MetricQuery.Proofs.NodeRange
import MetricQuery.Proofs.OpenDocuments
import MetricQuery.Proofs.OpenLists
import MetricQuery.Proofs.Origin
import MetricQuery.Proofs.ParserLoops
import MetricQuery.Proofs.Phrase
import MetricQuery.Proofs.Place
import MetricQuery.Proofs.Placeholders
import MetricQuery.Proofs.Precedence
import MetricQuery.Proofs.Productions
import MetricQuery.Proofs.QuotedValues
import MetricQuery.Proofs.Reading
import MetricQuery.Proofs.ReadingExpr
import MetricQuery.Proofs.ReadingList
import MetricQuery.Proofs.RemoteRanges
import MetricQuery.Proofs.ReplacedBrackets
import MetricQuery.Proofs.Rescanning
import MetricQuery.Proofs.Rounds
import MetricQuery.Proofs.Rule
import MetricQuery.Proofs.Scanning
import MetricQuery.Proofs.Selector
import MetricQuery.Proofs.Shape
import MetricQuery.Proofs.Share
import MetricQuery.Proofs.Siblings
import MetricQuery.Proofs.Spelling
import MetricQuery.Proofs.StringLiterals
import MetricQuery.Proofs.StringQuotes
import MetricQuery.Proofs.Tiling
import MetricQuery.Proofs.TokenRange
import MetricQuery.Proofs.TrailingBlanks
import MetricQuery.Proofs.TypingRules
import MetricQuery.Proofs.VectorMatching
import MetricQuery.Proofs.WellFormed
import MetricQuery.Remote.Assist
import MetricQuery.Remote.Service
import MetricQuery.Server.Call
import MetricQuery.Server.Document
import MetricQuery.Server.Frame
import MetricQuery.Server.Handshake
import MetricQuery.Server.Hover
import MetricQuery.Server.Item
import MetricQuery.Server.Method
import MetricQuery.Server.Protocol
import MetricQuery.Server.Session
import MetricQuery.Server.Snippet
import MetricQuery.Server.Workspace
import MetricQuery.Settings
import MetricQuery.Syntax.Arena
import MetricQuery.Syntax.Building
import MetricQuery.Syntax.Builtin
import MetricQuery.Syntax.Cursor
import MetricQuery.Syntax.NodeKind
import MetricQuery.Syntax.Operator
import MetricQuery.Syntax.Parser
import MetricQuery.Syntax.Path
import MetricQuery.Syntax.Stream
import MetricQuery.Syntax.Tree
import MetricQuery.Text.Basic
import MetricQuery.Text.Blank
import MetricQuery.Text.Hidden
import MetricQuery.Text.LineBreak
import MetricQuery.Text.Lines
import MetricQuery.Text.Quoted
import MetricQuery.Text.Units
import MetricQuery.Token.Basic
import MetricQuery.Token.Scan
import MetricQuery.Typing.Check
import MetricQuery.Typing.Matcher
import MetricQuery.Typing.Matching
import MetricQuery.Typing.ValueType
