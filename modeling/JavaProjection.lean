import JavaProjection.Ast.OfJson
import JavaProjection.Eo.Term
import JavaProjection.Projection.Unit
import JavaProjection.Proofs.Runs
import JavaProjection.Proofs.Defect
import JavaProjection.Proofs.Simulation
import JavaProjection.Proofs.Lockstep.Body
import JavaProjection.Proofs.Lockstep.Unit
import JavaProjection.Proofs.Policies
import JavaProjection.Proofs.Failures
import JavaProjection.Proofs.Losses.Reports
import JavaProjection.Proofs.Canonical.Types
import JavaProjection.Proofs.Canonical.Expressions
import JavaProjection.Proofs.Canonical.Recognition
import JavaProjection.Proofs.Results
import JavaProjection.Proofs.WellFormed.Syntax
import JavaProjection.Proofs.WellFormed.Projection
import JavaProjection.Proofs.Json.Nesting
import JavaProjection.Proofs.Json.Scanning
import JavaProjection.Proofs.Json.Texts
import JavaProjection.Proofs.Json.Records
import JavaProjection.Proofs.NameTables
import JavaProjection.Proofs.Modifiers
import JavaProjection.Proofs.Node.Wire
import JavaProjection.Proofs.Node.RoundTrip
import JavaProjection.Proofs.Json.Faithful
import JavaProjection.Proofs.Ast.Types
import JavaProjection.Proofs.Ast.Body
import JavaProjection.Proofs.Ast.RoundTrip
import JavaProjection.Proofs.Eo.Layout
import JavaProjection.Proofs.Eo.Chains
import JavaProjection.Proofs.Positions
import JavaProjection.Proofs.Size.Projection
import JavaProjection.Proofs.Redaction.Contents
import JavaProjection.Proofs.Redaction.Texts
import JavaProjection.Proofs.Node.Normalization
import JavaProjection.Proofs.Skeletons.Projection
import JavaProjection.Proofs.Independence.Operations
import JavaProjection.Proofs.Independence.Outcomes
import JavaProjection.Proofs.Members
import JavaProjection.Proofs.Arrays
import JavaProjection.Proofs.Modifiers.Decoding
