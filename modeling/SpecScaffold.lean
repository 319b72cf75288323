import SpecScaffold.Code.Binding
import SpecScaffold.Code.Insertion
import SpecScaffold.Code.Line
import SpecScaffold.Code.Suite
import SpecScaffold.Command
import SpecScaffold.Companion
import SpecScaffold.Config
import SpecScaffold.Error
import SpecScaffold.Facts.Basic
import SpecScaffold.Facts.Methods
import SpecScaffold.Facts.Parameters
import SpecScaffold.Family
import SpecScaffold.Generation
import SpecScaffold.Glob.Basic
import SpecScaffold.Glob.Depth
import SpecScaffold.Glob.Match
import SpecScaffold.Glob.Reader
import SpecScaffold.Json
import SpecScaffold.Language
import SpecScaffold.Path.Basic
import SpecScaffold.Path.Order
import SpecScaffold.Path.Uri
import SpecScaffold.Proofs.Code.Insertion
import SpecScaffold.Proofs.Code.Merge
import SpecScaffold.Proofs.Code.OneLine
import SpecScaffold.Proofs.Delivery
import SpecScaffold.Proofs.Session.Basic
import SpecScaffold.Proofs.Session.Cache
import SpecScaffold.Proofs.Text.Lines
import SpecScaffold.Proofs.Text.Words
import SpecScaffold.Proofs.TreeCache
import SpecScaffold.Proofs.Workspace.Occupant
import SpecScaffold.Proofs.Workspace.Writing
import SpecScaffold.Report
import SpecScaffold.Source.Basic
import SpecScaffold.Source.Declaration
import SpecScaffold.Source.Lexeme
import SpecScaffold.Source.Node
import SpecScaffold.Source.Plain
import SpecScaffold.Source.Position
import SpecScaffold.Source.Search
import SpecScaffold.Source.Site
import SpecScaffold.Text.Alphanumeric
import SpecScaffold.Text.Blank
import SpecScaffold.Text.Bytes
import SpecScaffold.Text.Cased
import SpecScaffold.Text.CodeRuns
import SpecScaffold.Text.Hex
import SpecScaffold.Text.Lines
import SpecScaffold.Text.Lowercase
import SpecScaffold.Text.Quoted
import SpecScaffold.Text.Search
import SpecScaffold.Text.Uppercase
import SpecScaffold.Text.Words
import SpecScaffold.Tool.Basic
import SpecScaffold.Tool.Call
import SpecScaffold.Tool.Run
import SpecScaffold.TreeCache
import SpecScaffold.Workspace.Basic
import SpecScaffold.Workspace.Edit
import SpecScaffold.Workspace.Entry
import SpecScaffold.Workspace.FileError
import SpecScaffold.Workspace.Walk
import SpecScaffold.Proofs.Tool.Call
import SpecScaffold.Proofs.Code.Texts
import SpecScaffold.Proofs.Text.Nesting
import SpecScaffold.Proofs.Code.Nesting
import SpecScaffold.Proofs.Code.Siblings
import SpecScaffold.Proofs.Code.Imports
import SpecScaffold.Proofs.Session.Imports
import SpecScaffold.Proofs.Path.Companion
import SpecScaffold.Proofs.Target
import SpecScaffold.Proofs.Session.Target
import SpecScaffold.Proofs.Code.Completion
import SpecScaffold.Proofs.Code.Receivers
import SpecScaffold.Proofs.Path.FileName
import SpecScaffold.Proofs.Workspace.Walk
import SpecScaffold.Proofs.Family.Symmetry
import SpecScaffold.Proofs.Text.Identifiers
import SpecScaffold.Proofs.Code.Arguments
import SpecScaffold.Proofs.Code.Declarations
import SpecScaffold.Proofs.Code.Tokens
import SpecScaffold.Proofs.Source.Innermost
import SpecScaffold.Proofs.Source.Caret
import SpecScaffold.Proofs.Source.Preorder
import SpecScaffold.Proofs.Code.Anchor
import SpecScaffold.Proofs.Code.Grouping
import SpecScaffold.Proofs.Source.Returns
import SpecScaffold.Proofs.Facts.Patterns
import SpecScaffold.Proofs.Facts.Comments
import SpecScaffold.Proofs.Code.Exports
import SpecScaffold.Proofs.Path.Order
import SpecScaffold.Proofs.Path.Below
import SpecScaffold.Proofs.Workspace.Tree
import SpecScaffold.Proofs.Family.Listing
import SpecScaffold.Proofs.Family.Cycle
import SpecScaffold.Proofs.Recognition
import SpecScaffold.Proofs.Workspace.Folder
import SpecScaffold.Proofs.Session.Source
import SpecScaffold.Proofs.Code.LineNumber
import SpecScaffold.Proofs.Text.Utf8
import SpecScaffold.Proofs.Source.Position
import SpecScaffold.Proofs.Tool.Blame
import SpecScaffold.Proofs.Source.Descendants
