import GenKill.Text.Basic
import GenKill.Text.Word
import GenKill.Text.Quoted
import GenKill.Text.Case
import GenKill.Text.Literal
import GenKill.Text.Run
import GenKill.Number.Binary64
import GenKill.Value.Basic
import GenKill.Value.Json
import GenKill.OrderedMap
import GenKill.Profile.Basic
import GenKill.Profile.Library
import GenKill.Fact.Basic
import GenKill.Fact.Statement
import GenKill.Graph.Basic
import GenKill.Graph.Source
import GenKill.Token
import GenKill.Flow.Basic
import GenKill.Flow.Solver
import GenKill.Report.Basic
import GenKill.Report.Export
import GenKill.Report.Console
import GenKill.Analysis.Issue
import GenKill.Analysis.Basic
import GenKill.Yaml.Cursor
import GenKill.Yaml.Scalar
import GenKill.Yaml.Lexeme
import GenKill.Yaml.Node
import GenKill.Yaml.Document
import GenKill.Text.Bytes
import GenKill.Log
import GenKill.FileTree
import GenKill.Failure
import GenKill.Settings.Basic
import GenKill.Text.Integer
import GenKill.Analyzer
import GenKill.CommandLine.Flag
import GenKill.CommandLine.Options
import GenKill.CommandLine.Argument
import GenKill.CommandLine.Parser
import GenKill.CommandLine.Run
import GenKill.Main
import GenKill.Yaml.Tag
import GenKill.Yaml.Typed
import GenKill.Proofs.Flow.Pass
import GenKill.Proofs.Flow.Run
import GenKill.Proofs.Flow.Signal
import GenKill.Proofs.Flow.Walk
import GenKill.Proofs.Flow.Token
import GenKill.Proofs.Analysis.Prepared
import GenKill.Proofs.Analysis.SomePath
import GenKill.Proofs.Flow.Cover
import GenKill.Proofs.Flow.Seeded
import GenKill.Proofs.Analysis.EveryPath
import GenKill.Proofs.Flow.Convergence
import GenKill.Proofs.Analysis.Convergence
import GenKill.Proofs.Flow.Equations
import GenKill.Proofs.Flow.Least
import GenKill.Proofs.Analysis.DefUse
import GenKill.Proofs.Flow.Straight
import GenKill.Proofs.Analysis.Straight
import GenKill.Proofs.Fact.Statement
import GenKill.Proofs.Report.Results
import GenKill.Proofs.Report.Diagnostics
import GenKill.Proofs.Flow.Greatest
import GenKill.Proofs.Flow.Renaming
import GenKill.Proofs.Graph.Renumbering
import GenKill.Proofs.Analysis.Greatest
import GenKill.Proofs.Analysis.Reuse
import GenKill.Proofs.Graph.Session
import GenKill.Proofs.Graph.Adjacency
import GenKill.Proofs.Report.EdgeOrder
import GenKill.Proofs.Flow.Monotone
import GenKill.Proofs.Flow.Balanced
import GenKill.Proofs.Analysis.Monotone
import GenKill.Proofs.Flow.Image
import GenKill.Proofs.Graph.Reline
import GenKill.Proofs.Analysis.Reline
import GenKill.Proofs.Report.Reline
import GenKill.Proofs.Graph.Mirror
import GenKill.Proofs.Flow.Mirror
import GenKill.Proofs.Flow.Apart
import GenKill.Proofs.Analysis.Apart
import GenKill.Proofs.Text.Trim
import GenKill.Proofs.Graph.SourceLine
import GenKill.Proofs.Text.WholeWord
import GenKill.Proofs.Fact.Naming
import GenKill.Proofs.Text.Literal
import GenKill.Proofs.Text.Pieces
import GenKill.Proofs.Fact.Masking
import GenKill.Proofs.Fact.Operand
import GenKill.Proofs.Graph.Scaffold
import GenKill.Proofs.Graph.LineComment
import GenKill.Proofs.Fact.Listing
import GenKill.Proofs.Fact.Formula
import GenKill.Proofs.Fact.Precedence
import GenKill.Proofs.Fact.Compound
import GenKill.Proofs.Ordering
import GenKill.Proofs.Fact.Shape
import GenKill.Proofs.Value.Use
import GenKill.Proofs.Settings.Reading
import GenKill.Proofs.FileTree
import GenKill.Proofs.Profile.Loading
import GenKill.Proofs.Value.JsonReader
import GenKill.Proofs.Value.RoundTrip
import GenKill.Proofs.Report.Lossless
import GenKill.Proofs.Fact.Scan
import GenKill.Proofs.Graph.MaskedLine
import GenKill.Proofs.Graph.Search
import GenKill.Proofs.Analysis.Texts
