import ComponentDocs.DocBlock
import ComponentDocs.Declaration.File
import ComponentDocs.Project
import ComponentDocs.Navigation
import ComponentDocs.Report.Text
import ComponentDocs.CommandLine.Run
import ComponentDocs.Main
import ComponentDocs.Proofs.Ancestry
import ComponentDocs.Proofs.Resolution
import ComponentDocs.Proofs.Overriding
import ComponentDocs.Proofs.Token.Extent
import ComponentDocs.Proofs.Token.Scan
import ComponentDocs.Proofs.Token.Layout
import ComponentDocs.Proofs.Token.Literal
import ComponentDocs.Proofs.Token.Regex
import ComponentDocs.Proofs.Token.Cut
import ComponentDocs.Proofs.Token.Edge
import ComponentDocs.Proofs.Token.LineBreak
import ComponentDocs.Proofs.Token.Alone
import ComponentDocs.Proofs.Registration
import ComponentDocs.Proofs.Assembly
import ComponentDocs.Proofs.Nesting
import ComponentDocs.Proofs.Declaration.Level
import ComponentDocs.Proofs.Declaration.LevelClass
import ComponentDocs.Proofs.Brackets
import ComponentDocs.Proofs.Declaration.Exchange
import ComponentDocs.Proofs.Declaration.ExchangeType
import ComponentDocs.Proofs.Declaration.Append
import ComponentDocs.Proofs.Declaration.AppendClass
import ComponentDocs.Proofs.Composition
import ComponentDocs.Proofs.Declaration.Cursor
import ComponentDocs.Proofs.Outline.Basic
import ComponentDocs.Proofs.Outline.Member
import ComponentDocs.Proofs.OpaqueBody
import ComponentDocs.Proofs.Declaration.Origin
import ComponentDocs.Proofs.Declaration.Edge
import ComponentDocs.Proofs.Declaration.Cut
import ComponentDocs.Proofs.Captured
import ComponentDocs.Proofs.Placement
import ComponentDocs.Proofs.RoundTrip
import ComponentDocs.Proofs.Declaration.Piece
import ComponentDocs.Proofs.Outline.Argument
import ComponentDocs.Proofs.Outline.TypeExpr
import ComponentDocs.Proofs.Outline.Property
import ComponentDocs.Proofs.FirstDeclaration
import ComponentDocs.Proofs.FileOrder
import ComponentDocs.Proofs.Respacing
import ComponentDocs.Proofs.Files.Tree
import ComponentDocs.Proofs.CommandLine.Arguments
import ComponentDocs.Proofs.CommandLine.Failure
import ComponentDocs.Proofs.CommandLine.Rejected
import ComponentDocs.Proofs.Json.Grammar
import ComponentDocs.Proofs.Json.Reader
import ComponentDocs.Proofs.Report.Json
import ComponentDocs.Proofs.TagReading
import ComponentDocs.Proofs.BlockLayout
import ComponentDocs.Proofs.HiddenMembers
import ComponentDocs.Proofs.Report.TableRow
import ComponentDocs.Proofs.Grouping
import ComponentDocs.Proofs.Declaration.Group
import ComponentDocs.Proofs.Declaration.Loop
import ComponentDocs.Proofs.Declaration.Passes
import ComponentDocs.Proofs.Declaration.PassesClass
import ComponentDocs.Proofs.Progress
import ComponentDocs.Proofs.Declaration.Point
import ComponentDocs.Proofs.Slices
import ComponentDocs.Proofs.Slug
import ComponentDocs.Proofs.FileSpelling
import ComponentDocs.Proofs.Files.Path
import ComponentDocs.Proofs.CommandLine.Selection
