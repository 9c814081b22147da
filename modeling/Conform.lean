import Conform.CommandLine.Disk
import Conform.Json.Tree
import Conform.Log
import Conform.Main
import Conform.Schema.Error.Codec
import Conform.Proofs.Validation.EmptyText
import Conform.Proofs.Validation.Folding
import Conform.Proofs.Validation.Independence
import Conform.Proofs.Validation.Messages
import Conform.Proofs.Validation.Missing
import Conform.Proofs.Validation.Normalized
import Conform.Proofs.Validation.Quantifiers
import Conform.Proofs.Validation.Templates
import Conform.Proofs.Validation.Text
import Conform.Proofs.Decimal.Significand
import Conform.Proofs.Json.Literal
import Conform.Proofs.Json.RoundTrip
import Conform.Proofs.Value.RoundTrip
import Conform.Proofs.Message.Interpolation
import Conform.Proofs.Message.Leftover
import Conform.Proofs.Document.Record
import Conform.Proofs.Json.Nesting
import Conform.Proofs.Schema.RoundTrip
import Conform.Proofs.Outcome.RoundTrip
import Conform.Proofs.Predicate.Registration
import Conform.Proofs.Value.Reordering
import Conform.Proofs.Predicate.Complement
import Conform.Proofs.Validation.Contradiction
import Conform.Proofs.Validation.Emptiness
import Conform.Proofs.Message.Merging
import Conform.Proofs.DeclaredType.Settled
import Conform.Proofs.Validation.English
import Conform.Proofs.Json.Meaning
import Conform.Proofs.CommandLine.Arguments
import Conform.Proofs.CommandLine.Verdict
import Conform.Proofs.Validation.Repetition
import Conform.Proofs.Decimal.Significand
