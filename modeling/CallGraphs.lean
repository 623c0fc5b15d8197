import CallGraphs.CallKind
import CallGraphs.Classifier
import CallGraphs.CommandLine.Arguments
import CallGraphs.CommandLine.Run
import CallGraphs.CommandLine.Spec
import CallGraphs.Config
import CallGraphs.Distinct
import CallGraphs.Document
import CallGraphs.Edge
import CallGraphs.Event
import CallGraphs.Expression.Basic
import CallGraphs.Expression.Escape
import CallGraphs.Expression.Fault
import CallGraphs.Expression.Grammar
import CallGraphs.Expression.Parse
import CallGraphs.Expression.Token
import CallGraphs.Failure
import CallGraphs.FileTree
import CallGraphs.GraphIndex
import CallGraphs.InsensitiveGraph
import CallGraphs.Insertion
import CallGraphs.Json.Basic
import CallGraphs.Json.Printer
import CallGraphs.Json.Reader
import CallGraphs.Layout.Grid
import CallGraphs.Layout.Panel
import CallGraphs.Layout.Wrap
import CallGraphs.Main
import CallGraphs.Markup.Argument
import CallGraphs.Markup.Basic
import CallGraphs.Markup.ColorNames
import CallGraphs.Markup.Pictograph
import CallGraphs.Markup.PictographTable
import CallGraphs.Markup.Style
import CallGraphs.Multigraph
import CallGraphs.Number.Binary64
import CallGraphs.Number.Decimal
import CallGraphs.Number.Dyadic
import CallGraphs.Number.Whole
import CallGraphs.OrdMap
import CallGraphs.Outcome
import CallGraphs.Path
import CallGraphs.Project
import CallGraphs.Proofs.CallSequences
import CallGraphs.Proofs.OrderedMaps
import CallGraphs.Proofs.ValueEquality
import CallGraphs.Report
import CallGraphs.Schema
import CallGraphs.SensitiveGraph
import CallGraphs.Session
import CallGraphs.Text.Basic
import CallGraphs.Text.Blank
import CallGraphs.Text.CaseTable
import CallGraphs.Text.Digit
import CallGraphs.Text.Draft
import CallGraphs.Text.Lines
import CallGraphs.Text.Lower
import CallGraphs.Text.PrintingTable
import CallGraphs.Text.Quoted
import CallGraphs.Text.Ranges
import CallGraphs.Text.Similarity
import CallGraphs.Text.Utf8
import CallGraphs.Text.Width
import CallGraphs.Text.WidthTable
import CallGraphs.Text.WordTable
import CallGraphs.Transform
import CallGraphs.TransitionTable
import CallGraphs.Value.Access
import CallGraphs.Value.Assign
import CallGraphs.Value.Basic
import CallGraphs.Value.Build
import CallGraphs.Value.Display
import CallGraphs.Value.Equality
import CallGraphs.Value.Hashing
import CallGraphs.Value.MemberTable
import CallGraphs.Value.Members
import CallGraphs.Proofs.IndexExactness
import CallGraphs.Proofs.MultigraphEdges
import CallGraphs.Proofs.EdgeStorage
import CallGraphs.Proofs.PassEdges
import CallGraphs.Proofs.PassWarnings
import CallGraphs.Proofs.ViewAgreement
import CallGraphs.Proofs.SharedRegistry
import CallGraphs.Proofs.DocumentReading
import CallGraphs.Proofs.PassFaults
import CallGraphs.Proofs.LastWriter
import CallGraphs.Proofs.SchemaRules
import CallGraphs.Proofs.DocumentAcceptance
import CallGraphs.Proofs.DistinctLists
import CallGraphs.Proofs.PassGraphs
import CallGraphs.Proofs.TableQueries
import CallGraphs.Proofs.OrderIndependence
import CallGraphs.Proofs.PassCounts
import CallGraphs.Proofs.ContextIdentity
import CallGraphs.Proofs.DocumentPasses
import CallGraphs.Proofs.EdgePartitions
import CallGraphs.Proofs.TableUpdates
import CallGraphs.Proofs.CommandQueries
import CallGraphs.Proofs.Freezing
import CallGraphs.Proofs.TextFiles
import CallGraphs.Proofs.WrittenDocuments
import CallGraphs.Proofs.FileChanges
import CallGraphs.Proofs.ReadDocuments
import CallGraphs.Proofs.ConfigDocuments
import CallGraphs.Proofs.SavedConfigs
import CallGraphs.Proofs.CommandLines
import CallGraphs.Proofs.ShownMessages
import CallGraphs.Proofs.SettingChanges
import CallGraphs.Proofs.SettingLaws
import CallGraphs.Proofs.ConfigHistories
import CallGraphs.Proofs.TableHistories
import CallGraphs.Proofs.TableBuilds
import CallGraphs.Proofs.KindCongruence
import CallGraphs.Proofs.KindSpellings
import CallGraphs.Proofs.EscapedMarkup
import CallGraphs.Proofs.ShownTables
import CallGraphs.Proofs.QueryEndings
import CallGraphs.Proofs.DisplayOrder
