import Conform.Assert
import Conform.Checker
import Conform.Json.Parser
import Conform.Log
import Conform.Outline
import Conform.Session
import Conform.Value.Supply
import Conform.Proofs.Outcome
import Conform.Proofs.Meaning
import Conform.Proofs.Modes
import Conform.Proofs.FirstFailure
import Conform.Proofs.Tree
import Conform.Proofs.Trail
import Conform.Proofs.SingleUse
import Conform.Proofs.Misconfiguration
import Conform.Proofs.Position
import Conform.Proofs.Likeness
import Conform.Proofs.Nodes
import Conform.Proofs.Shape
import Conform.Proofs.Registry
import Conform.Proofs.StrictEquality
import Conform.Proofs.DeclaredView
import Conform.Proofs.Bounds
import Conform.Proofs.LooserOptions
import Conform.Proofs.Looser
import Conform.Proofs.Loosening
import Conform.Proofs.Pool
import Conform.Proofs.Session
import Conform.Proofs.Calls
import Conform.Proofs.FailureEvents
import Conform.Proofs.Records
import Conform.Proofs.Builds
import Conform.Proofs.DebugLog
import Conform.Proofs.UnformedTexts
import Conform.Proofs.LengthBounds
import Conform.Proofs.Integers
import Conform.Proofs.Decisions
import Conform.Proofs.NumberBounds
import Conform.Proofs.NumberRoom
import Conform.Proofs.Utf16
import Conform.Proofs.StringBounds
import Conform.Proofs.Fields
import Conform.Proofs.Saying
import Conform.Proofs.Verdicts
import Conform.Proofs.CombinatorLaws
import Conform.Proofs.DecimalRounding
import Conform.Proofs.NumberReading
import Conform.Proofs.Violations
import Conform.Proofs.PrebuiltAgreement
import Conform.Proofs.ValueText
import Conform.Proofs.Digits
import Conform.Proofs.ArrayKeys
import Conform.Proofs.Nearest
import Conform.Proofs.NumberText
import Conform.Proofs.DocumentPaths
import Conform.Proofs.Layout
import Conform.Proofs.OptionsDocuments
import Conform.Proofs.Previews
import Conform.Proofs.RepeatedKeys
import Conform.Proofs.Ancestry
import Conform.Proofs.TextLengths
import Conform.Proofs.BoundedMessages
import Conform.Proofs.UnitCounts
