import SnippetTutor.Analysis.Pipeline
import SnippetTutor.Analysis.Wire
import SnippetTutor.Command.Run
import SnippetTutor.Config.Loading
import SnippetTutor.Console.Markup
import SnippetTutor.Curriculum.Classification
import SnippetTutor.Detector.Basic
import SnippetTutor.Detector.Engine
import SnippetTutor.Detector.Subject
import SnippetTutor.Detectors.All
import SnippetTutor.Detectors.Arrays
import SnippetTutor.Detectors.Asynchrony
import SnippetTutor.Detectors.Browser
import SnippetTutor.Detectors.Components
import SnippetTutor.Detectors.Control
import SnippetTutor.Detectors.Elements
import SnippetTutor.Detectors.Essentials
import SnippetTutor.Detectors.Functions
import SnippetTutor.Detectors.Hazards
import SnippetTutor.Detectors.Hooks
import SnippetTutor.Detectors.Objects
import SnippetTutor.Detectors.Operators
import SnippetTutor.Detectors.Pitfalls
import SnippetTutor.Detectors.State
import SnippetTutor.Detectors.Strings
import SnippetTutor.Detectors.Values
import SnippetTutor.Detectors.Variables
import SnippetTutor.Inference.Aliases
import SnippetTutor.Json.Printer
import SnippetTutor.Json.Reader
import SnippetTutor.Linter.Run
import SnippetTutor.Log.Record
import SnippetTutor.Main
import SnippetTutor.Number.Power
import SnippetTutor.Path
import SnippetTutor.Proofs.Acceptance
import SnippetTutor.Proofs.Aliases
import SnippetTutor.Proofs.Assembly
import SnippetTutor.Proofs.Bindings
import SnippetTutor.Proofs.CaptureGroups
import SnippetTutor.Proofs.Captures
import SnippetTutor.Proofs.Catalogs
import SnippetTutor.Proofs.Changes
import SnippetTutor.Proofs.Cleanups
import SnippetTutor.Proofs.Components
import SnippetTutor.Proofs.CoreFields
import SnippetTutor.Proofs.Declarations
import SnippetTutor.Proofs.Deferral
import SnippetTutor.Proofs.Engine
import SnippetTutor.Proofs.Excerpts
import SnippetTutor.Proofs.Fallthrough
import SnippetTutor.Proofs.FirstOccurrences
import SnippetTutor.Proofs.Heritage
import SnippetTutor.Proofs.Histories
import SnippetTutor.Proofs.Independence
import SnippetTutor.Proofs.Initializers
import SnippetTutor.Proofs.Interruptions
import SnippetTutor.Proofs.Keys
import SnippetTutor.Proofs.Layers
import SnippetTutor.Proofs.Lookups
import SnippetTutor.Proofs.Members
import SnippetTutor.Proofs.NamedNumbers
import SnippetTutor.Proofs.Nesting
import SnippetTutor.Proofs.Outcomes
import SnippetTutor.Proofs.Parameters
import SnippetTutor.Proofs.Parentheses
import SnippetTutor.Proofs.Paths
import SnippetTutor.Proofs.Precedence
import SnippetTutor.Proofs.Preorder
import SnippetTutor.Proofs.Priorities
import SnippetTutor.Proofs.Protection
import SnippetTutor.Proofs.Purity
import SnippetTutor.Proofs.Reach
import SnippetTutor.Proofs.Reading
import SnippetTutor.Proofs.Rebinding
import SnippetTutor.Proofs.Regions
import SnippetTutor.Proofs.Report
import SnippetTutor.Proofs.ReturnChecks
import SnippetTutor.Proofs.Returns
import SnippetTutor.Proofs.Scopes
import SnippetTutor.Proofs.Settings
import SnippetTutor.Proofs.Sites
import SnippetTutor.Proofs.SourceOrder
import SnippetTutor.Proofs.StableOrder
import SnippetTutor.Proofs.StateChanges
import SnippetTutor.Proofs.Success
import SnippetTutor.Proofs.SyntaxErrors
import SnippetTutor.Proofs.Topics
import SnippetTutor.Proofs.Trails
import SnippetTutor.Proofs.Translation
import SnippetTutor.Proofs.Truncation
import SnippetTutor.Proofs.Verdicts
import SnippetTutor.Proofs.Views
import SnippetTutor.Shape.Markup
import SnippetTutor.Shape.Numeral
import SnippetTutor.Shape.Statement
import SnippetTutor.Snippet.Forest
import SnippetTutor.Snippet.Outline
import SnippetTutor.Snippet.Reading
import SnippetTutor.Text.LineFeed
import SnippetTutor.Text.Word
