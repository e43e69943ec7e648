import PapyrusWriter.Command.Arguments
import PapyrusWriter.Command.Build
import PapyrusWriter.Command.Failure
import PapyrusWriter.Command.Init
import PapyrusWriter.Command.Run
import PapyrusWriter.Command.Source
import PapyrusWriter.Command.TranspileFile
import PapyrusWriter.Decimal.Shortest
import PapyrusWriter.Diagnostic
import PapyrusWriter.Directive.Preprocess
import PapyrusWriter.Directive.Table
import PapyrusWriter.Error
import PapyrusWriter.Game
import PapyrusWriter.Glob
import PapyrusWriter.Host.FileSystem
import PapyrusWriter.Host.Machine
import PapyrusWriter.Host.Node
import PapyrusWriter.Host.Path
import PapyrusWriter.Host.Programs
import PapyrusWriter.Host.Routine
import PapyrusWriter.Host.Shell.Arithmetic
import PapyrusWriter.Host.Shell.Builtin
import PapyrusWriter.Host.Shell.Eval
import PapyrusWriter.Host.Shell.Fields
import PapyrusWriter.Host.Shell.Grammar
import PapyrusWriter.Host.Shell.Launch
import PapyrusWriter.Host.Shell.Lexeme
import PapyrusWriter.Host.Shell.Parameter
import PapyrusWriter.Host.Shell.Pattern
import PapyrusWriter.Host.Shell.Process
import PapyrusWriter.Host.Shell.Redirection
import PapyrusWriter.Host.Shell.Script
import PapyrusWriter.Host.Shell.Signal
import PapyrusWriter.Host.Shell.Tool.Basic
import PapyrusWriter.Host.Shell.Tool.Condition
import PapyrusWriter.Host.Shell.Tool.Entries
import PapyrusWriter.Host.Shell.Tool.Format
import PapyrusWriter.Host.Shell.Tool.Lines
import PapyrusWriter.Host.Shell.Tool.Regex
import PapyrusWriter.Host.Shell.Tool.Search
import PapyrusWriter.Host.Shell.Tools
import PapyrusWriter.Host.Shell.Word
import PapyrusWriter.Host.SystemError
import PapyrusWriter.Host.Walk
import PapyrusWriter.Host.World
import PapyrusWriter.Json.Adjacent
import PapyrusWriter.Json.Cursor
import PapyrusWriter.Json.Decoder
import PapyrusWriter.Json.Fault
import PapyrusWriter.Json.Scalar
import PapyrusWriter.Json.Text
import PapyrusWriter.Json.Value
import PapyrusWriter.Log
import PapyrusWriter.Main
import PapyrusWriter.Manifest
import PapyrusWriter.Proofs.Acceptance
import PapyrusWriter.Proofs.Construct
import PapyrusWriter.Proofs.Flattening
import PapyrusWriter.Proofs.GameExtension
import PapyrusWriter.Proofs.IdentifierCheck
import PapyrusWriter.Proofs.IdentifierForm
import PapyrusWriter.Proofs.Indentation
import PapyrusWriter.Proofs.Json.Accepting
import PapyrusWriter.Proofs.Json.Decoding
import PapyrusWriter.Proofs.Json.Reads
import PapyrusWriter.Proofs.Json.Spelling
import PapyrusWriter.Proofs.Nesting
import PapyrusWriter.Proofs.Outcome
import PapyrusWriter.Proofs.Outline
import PapyrusWriter.Proofs.Pruning
import PapyrusWriter.Proofs.TreeFormat
import PapyrusWriter.Render.Expr
import PapyrusWriter.Render.Page
import PapyrusWriter.Render.Script
import PapyrusWriter.Render.Stmt
import PapyrusWriter.Text.Blank
import PapyrusWriter.Text.Quoted
import PapyrusWriter.Text.Replace
import PapyrusWriter.Text.Unprintable
import PapyrusWriter.Text.Utf8
import PapyrusWriter.Transpile
import PapyrusWriter.Tree.Decode
import PapyrusWriter.Tree.Encode
import PapyrusWriter.Tree.Expr
import PapyrusWriter.Tree.Identifiers
import PapyrusWriter.Tree.Member
import PapyrusWriter.Tree.Name
import PapyrusWriter.Tree.Read
import PapyrusWriter.Tree.Stmt
import PapyrusWriter.Yaml.Event
import PapyrusWriter.Yaml.Fault
import PapyrusWriter.Yaml.Node
import PapyrusWriter.Yaml.Scalar
import PapyrusWriter.Yaml.ScalarText
import PapyrusWriter.Yaml.Scanner
import PapyrusWriter.Yaml.Token
import PapyrusWriter.Yaml.TokenStream
import PapyrusWriter.Yaml.Value
import PapyrusWriter.Proofs.NamespaceSeparator
import PapyrusWriter.Proofs.BuildOutputs
import PapyrusWriter.Proofs.TranspileCommand
import PapyrusWriter.Proofs.Rewriting
import PapyrusWriter.Proofs.SwitchChains
import PapyrusWriter.Proofs.DirectiveIndependence
import PapyrusWriter.Proofs.IncludeSeams
import PapyrusWriter.Proofs.RangeLoops
import PapyrusWriter.Proofs.BuildEffects
import PapyrusWriter.Proofs.OutputDirectory
import PapyrusWriter.Proofs.ProjectCreation
import PapyrusWriter.Proofs.NameSpelling
import PapyrusWriter.Proofs.CallArguments
import PapyrusWriter.Proofs.SourceDiscovery
import PapyrusWriter.Proofs.ErrorLines
