import Transclusion.Calendar
import Transclusion.Decimal.Quotient
import Transclusion.Decimal.Shortest
import Transclusion.Decoding
import Transclusion.Digest.Sha256
import Transclusion.Directive.Arguments
import Transclusion.Directive.Grammar
import Transclusion.Directive.Invocation
import Transclusion.Directive.Markup
import Transclusion.Directive.Notices
import Transclusion.Directive.Reference
import Transclusion.Directive.Registry
import Transclusion.Directive.Strategy
import Transclusion.Fault
import Transclusion.Files
import Transclusion.FrontMatter
import Transclusion.Inclusion.Cache
import Transclusion.Inclusion.Environment
import Transclusion.Inclusion.Execute
import Transclusion.Inclusion.Host
import Transclusion.Inclusion.Run
import Transclusion.Logging.Client
import Transclusion.Logging.Settings
import Transclusion.Misuse
import Transclusion.Path
import Transclusion.Proofs.Announcements
import Transclusion.Proofs.Arguments
import Transclusion.Proofs.Blocks
import Transclusion.Proofs.Caching
import Transclusion.Proofs.Clerks
import Transclusion.Proofs.Configurations
import Transclusion.Proofs.Containment
import Transclusion.Proofs.DataFaults
import Transclusion.Proofs.Directories
import Transclusion.Proofs.Environments
import Transclusion.Proofs.Evaluations
import Transclusion.Proofs.Executions
import Transclusion.Proofs.Failures
import Transclusion.Proofs.Fetching
import Transclusion.Proofs.Footprints
import Transclusion.Proofs.Frames
import Transclusion.Proofs.FrontMatters
import Transclusion.Proofs.Insides
import Transclusion.Proofs.Layers
import Transclusion.Proofs.Layouts
import Transclusion.Proofs.Lexing
import Transclusion.Proofs.Lines
import Transclusion.Proofs.Literals
import Transclusion.Proofs.Lockstep
import Transclusion.Proofs.Lookups
import Transclusion.Proofs.Markers
import Transclusion.Proofs.Markup
import Transclusion.Proofs.Meeting
import Transclusion.Proofs.Memory
import Transclusion.Proofs.Naming
import Transclusion.Proofs.Ordering
import Transclusion.Proofs.Outcomes
import Transclusion.Proofs.Parsing
import Transclusion.Proofs.Passages
import Transclusion.Proofs.Paths
import Transclusion.Proofs.Places
import Transclusion.Proofs.Pointing
import Transclusion.Proofs.Positions
import Transclusion.Proofs.Quoting
import Transclusion.Proofs.Readers
import Transclusion.Proofs.Reading
import Transclusion.Proofs.Refusals
import Transclusion.Proofs.Registrations
import Transclusion.Proofs.Rejoining
import Transclusion.Proofs.Rendering
import Transclusion.Proofs.Renders
import Transclusion.Proofs.Requests
import Transclusion.Proofs.Rewriting
import Transclusion.Proofs.Roots
import Transclusion.Proofs.Runs
import Transclusion.Proofs.Scanning
import Transclusion.Proofs.Scripts
import Transclusion.Proofs.Searching
import Transclusion.Proofs.Sharing
import Transclusion.Proofs.Slots
import Transclusion.Proofs.Sources
import Transclusion.Proofs.Stages
import Transclusion.Proofs.Steady
import Transclusion.Proofs.Stops
import Transclusion.Proofs.Tags
import Transclusion.Proofs.Taking
import Transclusion.Proofs.Templates
import Transclusion.Proofs.Traces
import Transclusion.Proofs.Upkeep
import Transclusion.Proofs.Written
import Transclusion.Renderer
import Transclusion.Scope
import Transclusion.Scope.Action
import Transclusion.Segments
import Transclusion.Site.Basic
import Transclusion.Site.Config
import Transclusion.Site.Load
import Transclusion.Template.Access
import Transclusion.Template.Check
import Transclusion.Template.Compile
import Transclusion.Template.Eval
import Transclusion.Template.Fault
import Transclusion.Template.Filters
import Transclusion.Template.Folding
import Transclusion.Template.Frames
import Transclusion.Template.Literal
import Transclusion.Template.Operators
import Transclusion.Template.Options
import Transclusion.Template.Parser
import Transclusion.Template.Play
import Transclusion.Template.Rewrite
import Transclusion.Template.Slots
import Transclusion.Template.Syntax
import Transclusion.Template.Token
import Transclusion.Template.Usage
import Transclusion.Text.Blank
import Transclusion.Text.Case
import Transclusion.Text.Compatibility
import Transclusion.Text.Cut
import Transclusion.Text.Encoding
import Transclusion.Text.Identifier
import Transclusion.Text.Literal
import Transclusion.Text.Printable
import Transclusion.Text.Quoted
import Transclusion.Trace
import Transclusion.Value.Basic
import Transclusion.Value.Printing
import Transclusion.Yaml.Data
import Transclusion.Yaml.Marked
import Transclusion.Yaml.Node
import Transclusion.Yaml.Scalar
import Transclusion.Yaml.Tag
import Transclusion.Yaml.Token
import Transclusion.Yaml.Untagged
