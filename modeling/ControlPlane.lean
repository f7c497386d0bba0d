import ControlPlane.Binary64.Shortest
import ControlPlane.Text.Utf8
import ControlPlane.Text.Unicode
import ControlPlane.Json.Path
import ControlPlane.Json.Printer
import ControlPlane.Json.Malformation
import ControlPlane.Json.Reader
import ControlPlane.Json.Canonical
import ControlPlane.Wire.OfText
import ControlPlane.Anchor.Subject
import ControlPlane.Anchor.Window
import ControlPlane.Schema.Contract
import ControlPlane.Digest.Document
import ControlPlane.Main
import ControlPlane.Proofs.Json.Members
import ControlPlane.Proofs.Json.Place
import ControlPlane.Proofs.Json.Reader
import ControlPlane.Proofs.Schema.Acceptance
import ControlPlane.Proofs.Schema.Rigid
import ControlPlane.Proofs.Schema.Report
import ControlPlane.Proofs.Sequencing
import ControlPlane.Proofs.Condition.Tree
import ControlPlane.Proofs.Condition.Document
import ControlPlane.Proofs.Ruleset.Document
import ControlPlane.Proofs.Admission
import ControlPlane.Proofs.Condition.Language
import ControlPlane.Proofs.Anchor.Document
import ControlPlane.Proofs.Digest.Reference
import ControlPlane.Proofs.ControlVerdict.Document
import ControlPlane.Proofs.ControlVerdict.Contract
import ControlPlane.Proofs.Decision
import ControlPlane.Proofs.Evaluation
import ControlPlane.Proofs.Snapshot.Projection
import ControlPlane.Proofs.Snapshot.InputPath
import ControlPlane.Proofs.Snapshot.Construction
import ControlPlane.Proofs.Condition.Reads
import ControlPlane.Proofs.Evaluation.Outcome
import ControlPlane.Proofs.Evaluation.Noninterference
import ControlPlane.Proofs.Lifecycle.Groups
import ControlPlane.Proofs.Lifecycle.Index
import ControlPlane.Proofs.Lifecycle.InputOrder
import ControlPlane.Proofs.Lifecycle.ByKey
import ControlPlane.Proofs.Lifecycle.Appending
import ControlPlane.Proofs.Lifecycle.Frozen
import ControlPlane.Proofs.Lifecycle.Succession
import ControlPlane.Proofs.Text.Utf8
import ControlPlane.Proofs.Text.Order
import ControlPlane.Proofs.Json.Scalar
import ControlPlane.Proofs.Json.RoundTrip
import ControlPlane.Proofs.Json.Canonical
import ControlPlane.Proofs.Json.Pointer
import ControlPlane.Proofs.Condition.Fault
import ControlPlane.Proofs.Ruleset.Declared
import ControlPlane.Proofs.Ruleset.Reference
import ControlPlane.Proofs.Ruleset.Strategy
import ControlPlane.Proofs.Admission.FirstFault
import ControlPlane.Proofs.Binary64.Nearest
import ControlPlane.Proofs.Binary64.Value
import ControlPlane.Proofs.Binary64.Integer
import ControlPlane.Proofs.Lifecycle.Expiry
import ControlPlane.Proofs.Lifecycle.Overlap
import ControlPlane.Proofs.Lifecycle.Threshold
import ControlPlane.Proofs.Condition.Windows
import ControlPlane.Proofs.Condition.Evidence
import ControlPlane.Proofs.Ruleset.Anchor
import ControlPlane.Proofs.Evaluation.Action
import ControlPlane.Proofs.Digest.Reading
