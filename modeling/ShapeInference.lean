import ShapeInference.Main
import ShapeInference.Proofs.Command.Outputs
import ShapeInference.Proofs.Documents.Conformance
import ShapeInference.Proofs.Documents.Failures
import ShapeInference.Proofs.Documents.Filled
import ShapeInference.Proofs.Documents.Literals
import ShapeInference.Proofs.Documents.Promotion
import ShapeInference.Proofs.Documents.Reordered
import ShapeInference.Proofs.Documents.Repeated
import ShapeInference.Proofs.Documents.Surface
import ShapeInference.Proofs.Filter.Identity
import ShapeInference.Proofs.Json.Positions
import ShapeInference.Proofs.Literal.Dates
import ShapeInference.Proofs.Literal.Recognizers
import ShapeInference.Proofs.Literal.Urls
import ShapeInference.Proofs.Merge.Bounded
import ShapeInference.Proofs.Merge.Pairwise
import ShapeInference.Proofs.Model.Identifiers
import ShapeInference.Proofs.Model.Occurrences
import ShapeInference.Proofs.Model.Titles
import ShapeInference.Proofs.Naming.Derived
import ShapeInference.Proofs.Refine.Places
import ShapeInference.Proofs.Refine.Relabelled
import ShapeInference.Proofs.Shape.TreeText
import ShapeInference.Session
