import ScriptMaps.CommandLine.Arguments
import ScriptMaps.CommandLine.Disk
import ScriptMaps.CommandLine.FileSystem
import ScriptMaps.CommandLine.Files
import ScriptMaps.CommandLine.Session
import ScriptMaps.Decimal.Binary64
import ScriptMaps.Decimal.Shortest
import ScriptMaps.Files.Name
import ScriptMaps.Files.OutputFile
import ScriptMaps.Files.Path
import ScriptMaps.Json.Decode
import ScriptMaps.Json.Fault
import ScriptMaps.Json.Printer
import ScriptMaps.Json.Reader
import ScriptMaps.Json.Value
import ScriptMaps.Main
import ScriptMaps.Pipeline.Basic
import ScriptMaps.Pipeline.Config
import ScriptMaps.Pipeline.Debug
import ScriptMaps.Pipeline.Fault
import ScriptMaps.Plugins.Plugin
import ScriptMaps.Plugins.Registry
import ScriptMaps.Plugins.Resolver
import ScriptMaps.Print.Declaration
import ScriptMaps.Print.Edge
import ScriptMaps.Print.Expression
import ScriptMaps.Print.Function
import ScriptMaps.Print.Layout
import ScriptMaps.Print.Leaf
import ScriptMaps.Print.Listing
import ScriptMaps.Print.Markup
import ScriptMaps.Print.Module
import ScriptMaps.Print.Node
import ScriptMaps.Print.Number
import ScriptMaps.Print.Quote
import ScriptMaps.Print.Sheet
import ScriptMaps.Print.Statement
import ScriptMaps.SourceMap.Compose
import ScriptMaps.SourceMap.DebugId
import ScriptMaps.SourceMap.Document
import ScriptMaps.SourceMap.Form
import ScriptMaps.SourceMap.Generated
import ScriptMaps.SourceMap.Rebase
import ScriptMaps.SourceMap.Segment
import ScriptMaps.SourceMap.Vlq
import ScriptMaps.Syntax.Children
import ScriptMaps.Syntax.Comment
import ScriptMaps.Syntax.Fault
import ScriptMaps.Syntax.Lexer
import ScriptMaps.Syntax.Node
import ScriptMaps.Syntax.Operator
import ScriptMaps.Syntax.Parser
import ScriptMaps.Syntax.Parser.Basic
import ScriptMaps.Syntax.Parser.Class
import ScriptMaps.Syntax.Parser.Expression
import ScriptMaps.Syntax.Parser.Function
import ScriptMaps.Syntax.Parser.Item
import ScriptMaps.Syntax.Parser.Literal
import ScriptMaps.Syntax.Parser.Markup
import ScriptMaps.Syntax.Parser.Name
import ScriptMaps.Syntax.Parser.Pattern
import ScriptMaps.Syntax.Parser.Statement
import ScriptMaps.Syntax.Removal
import ScriptMaps.Syntax.Token
import ScriptMaps.Text.CharacterClass
import ScriptMaps.Text.CharacterReference
import ScriptMaps.Text.Position
import ScriptMaps.Text.Shown
import ScriptMaps.Transform.CommentFilter
import ScriptMaps.Transform.Engine
import ScriptMaps.Transform.Options
import ScriptMaps.Transform.Script
import ScriptMaps.Proofs.Syntax.Parts
import ScriptMaps.Proofs.Syntax.Removal
import ScriptMaps.Proofs.SourceMap.Segments
import ScriptMaps.Proofs.SourceMap.Mappings
import ScriptMaps.Proofs.Json.Members
import ScriptMaps.Proofs.SourceMap.Composing
import ScriptMaps.Proofs.Json.Running
import ScriptMaps.Proofs.Json.Strings
import ScriptMaps.Proofs.Json.Numbers
import ScriptMaps.Proofs.Json.Objects
import ScriptMaps.Proofs.Json.Values
import ScriptMaps.Proofs.Json.Forms
import ScriptMaps.Proofs.SourceMap.Documents
import ScriptMaps.Proofs.Json.Agreeing
import ScriptMaps.Proofs.SourceMap.Rewriting
import ScriptMaps.Proofs.Decimal.Rounding
import ScriptMaps.Proofs.Decimal.Shortest
import ScriptMaps.Proofs.Json.Scaling
import ScriptMaps.Proofs.Json.Doubles
import ScriptMaps.Proofs.Pipeline.Handling
import ScriptMaps.Proofs.Files.Naming
import ScriptMaps.Proofs.Pipeline.Results
import ScriptMaps.Proofs.Pipeline.Chaining
import ScriptMaps.Proofs.SourceMap.Inheriting
import ScriptMaps.Proofs.Pipeline.Provenance
import ScriptMaps.Proofs.Syntax.Passes
import ScriptMaps.Proofs.Pipeline.Accounting
import ScriptMaps.Proofs.Syntax.Directives
import ScriptMaps.Proofs.Pipeline.Isolating
import ScriptMaps.Proofs.Pipeline.Calling
import ScriptMaps.Proofs.Pipeline.Debugging
import ScriptMaps.Proofs.Pipeline.Scheduling
import ScriptMaps.Proofs.Pipeline.Unmapped
import ScriptMaps.Proofs.Pipeline.Referring
import ScriptMaps.Proofs.Pipeline.Baselines
import ScriptMaps.Proofs.Syntax.Gaps
import ScriptMaps.Proofs.Pipeline.Comments
import ScriptMaps.Proofs.Text.Lines
import ScriptMaps.Proofs.Files.Paths
import ScriptMaps.Proofs.CommandLine.Disks
import ScriptMaps.Proofs.CommandLine.Writing
import ScriptMaps.Proofs.CommandLine.Operating
import ScriptMaps.Proofs.CommandLine.Sessions
import ScriptMaps.Proofs.CommandLine.Running
import ScriptMaps.Proofs.CommandLine.Stopping
import ScriptMaps.Proofs.CommandLine.Overwriting
import ScriptMaps.Proofs.CommandLine.Checking
import ScriptMaps.Proofs.Files.Parents
import ScriptMaps.Proofs.Plugins.Searching
import ScriptMaps.Proofs.Plugins.Loading
import ScriptMaps.Proofs.Pipeline.Trailers
import ScriptMaps.Proofs.Pipeline.Settings
import ScriptMaps.Proofs.Files.Joining
import ScriptMaps.Proofs.CommandLine.Destinations
import ScriptMaps.Proofs.CommandLine.Encoding
import ScriptMaps.Proofs.Plugins.Registering
