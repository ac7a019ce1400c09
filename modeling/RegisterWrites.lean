import RegisterWrites.Main
import RegisterWrites.Proofs.Document.Concatenation
import RegisterWrites.Proofs.Document.Place
import RegisterWrites.Proofs.Document.Records
import RegisterWrites.Proofs.Descriptor.Initializers
import RegisterWrites.Proofs.Descriptor.Payload
import RegisterWrites.Proofs.Conversion.Strictness
import RegisterWrites.Proofs.Conversion.Validation
import RegisterWrites.Proofs.Document.Dialects
import RegisterWrites.Proofs.Document.Comments
import RegisterWrites.Proofs.Command.Stages
import RegisterWrites.Proofs.Command.Forms
import RegisterWrites.Proofs.Document.Expected
import RegisterWrites.Proofs.Document.Lines
import RegisterWrites.Proofs.Document.LineEnds
import RegisterWrites.Proofs.Document.Progress
import RegisterWrites.Proofs.Options.Outcome
