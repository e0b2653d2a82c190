import DocSchema.Main
import DocSchema.Validator.Inspect
import DocSchema.Proofs.Obligations
import DocSchema.Proofs.Conformance
import DocSchema.Proofs.Undeclared
import DocSchema.Proofs.Notation.RoundTrip
import DocSchema.Proofs.Notation.Canonical
import DocSchema.Proofs.Notation.Extension
import DocSchema.Proofs.Failure.Location
import DocSchema.Proofs.Failure.Path
import DocSchema.Proofs.Batch
import DocSchema.Proofs.Batch.Outcome
import DocSchema.Proofs.Command.Format
import DocSchema.Proofs.Command.Validate
import DocSchema.Proofs.Json.Printed
import DocSchema.Proofs.Json.Shape
import DocSchema.Proofs.Failure.Codec
import DocSchema.Proofs.Json.Value
import DocSchema.Proofs.Command.Output
import DocSchema.Proofs.Failure.Declared
import DocSchema.Proofs.Notation.Declaring
import DocSchema.Proofs.BareChecks
import DocSchema.Proofs.Interchange
import DocSchema.Proofs.Report.Declarations
import DocSchema.Proofs.Notation.Layout
import DocSchema.Proofs.Registration
import DocSchema.Proofs.Command.Diff
import DocSchema.Proofs.Report.Table
import DocSchema.Proofs.Report.Written
import DocSchema.Proofs.ObjectFields
