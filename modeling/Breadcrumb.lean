import Breadcrumb.Arguments
import Breadcrumb.Base64
import Breadcrumb.Cli
import Breadcrumb.Crumb
import Breadcrumb.Document
import Breadcrumb.Document.Markdown
import Breadcrumb.Double
import Breadcrumb.Double.Shortest
import Breadcrumb.Encoding
import Breadcrumb.Failure
import Breadcrumb.FileTree
import Breadcrumb.FileTree.Seek
import Breadcrumb.FileTree.Store
import Breadcrumb.Glob
import Breadcrumb.Heading
import Breadcrumb.Ignore
import Breadcrumb.Integer
import Breadcrumb.Invocation
import Breadcrumb.Json
import Breadcrumb.Json.Reader
import Breadcrumb.Language
import Breadcrumb.LineStream
import Breadcrumb.Log
import Breadcrumb.Log.Setup
import Breadcrumb.Main
import Breadcrumb.Marker
import Breadcrumb.Named
import Breadcrumb.Path
import Breadcrumb.Pattern
import Breadcrumb.Pattern.Compile
import Breadcrumb.Pattern.Fault
import Breadcrumb.Pattern.Match
import Breadcrumb.Pattern.Reader
import Breadcrumb.Proofs.Encoding.Decoding
import Breadcrumb.Proofs.Encoding.Utf8
import Breadcrumb.Proofs.FileTree.Proper
import Breadcrumb.Proofs.Ignore.Decision
import Breadcrumb.Proofs.Language.Comments
import Breadcrumb.Proofs.LineStream.Pieces
import Breadcrumb.Proofs.Marker.Reading
import Breadcrumb.Proofs.Run.Conservation
import Breadcrumb.Proofs.Run.Returning
import Breadcrumb.Proofs.Run.Visits
import Breadcrumb.Proofs.Run.Walking
import Breadcrumb.Proofs.Scan.Bytes
import Breadcrumb.Proofs.Scan.Ending
import Breadcrumb.Proofs.Scan.Refinement
import Breadcrumb.Proofs.Scan.Runs
import Breadcrumb.Proofs.Scan.Tracking
import Breadcrumb.Proofs.Service.Scanned
import Breadcrumb.Proofs.Sources.Eligible
import Breadcrumb.Proofs.Sources.Ignored
import Breadcrumb.Proofs.Sources.Paths
import Breadcrumb.Proofs.Text.Compare
import Breadcrumb.Proofs.Text.Cutting
import Breadcrumb.Proofs.Text.Joining
import Breadcrumb.Proofs.Trail.Assembly
import Breadcrumb.Proofs.Trail.Conservation
import Breadcrumb.Proofs.Trail.Grouping
import Breadcrumb.Proofs.Trail.Order
import Breadcrumb.Proofs.World.Session
import Breadcrumb.Registry
import Breadcrumb.Remote
import Breadcrumb.Run
import Breadcrumb.Scan
import Breadcrumb.Selection
import Breadcrumb.Service
import Breadcrumb.Settings
import Breadcrumb.Sigil
import Breadcrumb.Sources
import Breadcrumb.Text
import Breadcrumb.Text.Blank
import Breadcrumb.Text.Case
import Breadcrumb.Text.Fold
import Breadcrumb.Text.Identifier
import Breadcrumb.Text.Letter
import Breadcrumb.Text.Lines
import Breadcrumb.Text.Quoted
import Breadcrumb.Text.Ranges
import Breadcrumb.Text.Units
import Breadcrumb.Trail
import Breadcrumb.Tree
import Breadcrumb.World
import Breadcrumb.Yaml.Fault
import Breadcrumb.Yaml.Node
import Breadcrumb.Yaml.Scalar
import Breadcrumb.Yaml.Tag
import Breadcrumb.Yaml.Token
import Breadcrumb.Yaml.Token.Lexer
import Breadcrumb.Yaml.Token.Property
import Breadcrumb.Yaml.Token.Scalar
import Breadcrumb.Yaml.Value
import Breadcrumb.Proofs.Registry.Deciding
import Breadcrumb.Proofs.Trail.Mapping
import Breadcrumb.Proofs.Trail.Reordering
import Breadcrumb.Proofs.Document.Reordering
import Breadcrumb.Proofs.Json.Scalars
import Breadcrumb.Proofs.Json.RoundTrip
import Breadcrumb.Proofs.Document.RoundTrip
import Breadcrumb.Proofs.FileTree.Removal
import Breadcrumb.Proofs.FileTree.Straight
import Breadcrumb.Proofs.Scan.Naming
import Breadcrumb.Proofs.Sources.Removal
import Breadcrumb.Proofs.Run.Thinning
import Breadcrumb.Proofs.Run.Isolation
import Breadcrumb.Proofs.FileTree.Growth
import Breadcrumb.Proofs.FileTree.Replacing
import Breadcrumb.Proofs.FileTree.Storing
import Breadcrumb.Proofs.World.Logging
import Breadcrumb.Proofs.Run.Footprint
import Breadcrumb.Proofs.FileTree.Resolving
import Breadcrumb.Proofs.Run.Stages
import Breadcrumb.Proofs.Settings.Root
import Breadcrumb.Proofs.Run.Sparing
import Breadcrumb.Proofs.Run.Repetition
import Breadcrumb.Proofs.Settings.Overriding
import Breadcrumb.Proofs.World.Twins
import Breadcrumb.Proofs.Run.Shadowing
import Breadcrumb.Proofs.Sources.Narrowing
import Breadcrumb.Proofs.Run.Narrowing
import Breadcrumb.Proofs.Settings.Layers
import Breadcrumb.Proofs.Service.Stated
import Breadcrumb.Proofs.FileTree.Refusal
import Breadcrumb.Proofs.Settings.Failing
import Breadcrumb.Proofs.Run.Failing
import Breadcrumb.Proofs.Cli.Ending
import Breadcrumb.Proofs.FileTree.Adding
import Breadcrumb.Proofs.Sources.Adding
import Breadcrumb.Proofs.World.Recording
import Breadcrumb.Proofs.Run.Recording
import Breadcrumb.Proofs.Arguments.Leading
import Breadcrumb.Proofs.Invocation.Leading
import Breadcrumb.Proofs.Cli.Channels
import Breadcrumb.Proofs.Text.Numerals
import Breadcrumb.Proofs.Text.Trimming
import Breadcrumb.Proofs.Document.Anchors
import Breadcrumb.Proofs.Marker.Writing
import Breadcrumb.Proofs.Tree.Visiting
import Breadcrumb.Proofs.Tree.Drawing
import Breadcrumb.Proofs.Text.Folding
import Breadcrumb.Proofs.Text.Spelling
import Breadcrumb.Proofs.Sigil.Expression
import Breadcrumb.Proofs.Sigil.Searching
import Breadcrumb.Proofs.Heading.Indentation
import Breadcrumb.Proofs.Document.Fencing
import Breadcrumb.Proofs.Pattern.Erasing
import Breadcrumb.Proofs.Marker.Parts
import Breadcrumb.Proofs.Heading.Wording
import Breadcrumb.Proofs.Scan.Shape
import Breadcrumb.Proofs.Document.Places
import Breadcrumb.Proofs.Text.Ascii
import Breadcrumb.Proofs.Registry.Lookup
import Breadcrumb.Proofs.Pattern.Finding
import Breadcrumb.Proofs.Settings.Rejecting
import Breadcrumb.Proofs.Json.Grammar
import Breadcrumb.Proofs.Base64.RoundTrip
import Breadcrumb.Proofs.Remote.Carrying
import Breadcrumb.Proofs.Heading.Hosting
import Breadcrumb.Proofs.Pattern.Replacing
import Breadcrumb.Proofs.Heading.Capitals
import Breadcrumb.Proofs.Diagram.Lines
import Breadcrumb.Proofs.Marker.Outcomes
import Breadcrumb.Proofs.Document.Numbering
import Breadcrumb.Proofs.Settings.Listing
