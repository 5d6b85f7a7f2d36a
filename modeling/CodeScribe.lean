import CodeScribe.BuildScope
import CodeScribe.FileSystem.Disk
import CodeScribe.Main
import CodeScribe.Writer.Step
import CodeScribe.Proofs.Blanks.Document
import CodeScribe.Proofs.Comment
import CodeScribe.Proofs.Depth.Node
import CodeScribe.Proofs.Ink.Document
import CodeScribe.Proofs.LineEnds.Document
import CodeScribe.Proofs.Scope.Exit
import CodeScribe.Proofs.Tail.Glue
import CodeScribe.Proofs.LineEnds.Finished
import CodeScribe.Proofs.InputEnds.Strings
import CodeScribe.Proofs.InputEnds.Texts
import CodeScribe.Proofs.InputEnds.Recast
import CodeScribe.Proofs.InputEnds.Document
import CodeScribe.Proofs.Run.Machine
import CodeScribe.Proofs.Run.Writer
import CodeScribe.Proofs.Run.Lines
import CodeScribe.Proofs.Run.Journal
import CodeScribe.Proofs.Run.Ink
import CodeScribe.Proofs.TypeRef.Bytes
import CodeScribe.Proofs.TypeRef.Print
import CodeScribe.Proofs.Build.Nested
import CodeScribe.Proofs.Build.Document
import CodeScribe.Proofs.Build.Owned
import CodeScribe.Proofs.Imports.Canonical
import CodeScribe.Proofs.Manifest.Usable
import CodeScribe.Proofs.Command.Workspace
import CodeScribe.Proofs.Run.History
import CodeScribe.Proofs.Run.Scopes
import CodeScribe.Proofs.Verbatim
import CodeScribe.Proofs.Directives.Document
import CodeScribe.Proofs.Separators
import CodeScribe.Proofs.TrimEnd
import CodeScribe.Proofs.Template.Markers
import CodeScribe.Proofs.Identifier.Sanitize
import CodeScribe.Proofs.Identifier.Case
import CodeScribe.Proofs.Manifest.Places
import CodeScribe.Proofs.Manifest.Positions
import CodeScribe.Proofs.Run.OpenLine
