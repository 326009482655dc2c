import AccessControl.Gateway.Basic
import AccessControl.Json.Reader
import AccessControl.Json.Writer
import AccessControl.Logging.Emission
import AccessControl.Proofs.Compile.Introspection
import AccessControl.Proofs.Compile.Invariant
import AccessControl.Proofs.Compile.Loss
import AccessControl.Proofs.Compile.Reference
import AccessControl.Proofs.Compile.Tolerance
import AccessControl.Proofs.Gateway.Mediation
import AccessControl.Proofs.Index.Flatten
import AccessControl.Proofs.Index.Introspection
import AccessControl.Proofs.Index.Restrict
import AccessControl.Settings.Cache
import AccessControl.Proofs.Json.QuotedText
import AccessControl.Proofs.Json.Scalars
import AccessControl.Proofs.Text.Ascii
import AccessControl.Proofs.Text.Base64Url
import AccessControl.Proofs.Json.RoundTrip
import AccessControl.Proofs.Json.Documents
import AccessControl.Proofs.Token.RoundTrip
import AccessControl.Proofs.Token.Acceptance
import AccessControl.Proofs.Token.Refusals
import AccessControl.Proofs.Token.Wording
import AccessControl.Proofs.Gateway.Refusals
import AccessControl.Proofs.Permission.Grammar
import AccessControl.Proofs.Compile.Actions
import AccessControl.Proofs.Compile.Hierarchy
import AccessControl.Proofs.Report.Acceptance
import AccessControl.Proofs.Compile.Respelling
import AccessControl.Proofs.Guard.Verdict
import AccessControl.Proofs.Compile.Ledger
import AccessControl.Proofs.Role.RoundTrip
import AccessControl.Proofs.Field.Faults
import AccessControl.Proofs.Settings.Cache
import AccessControl.Proofs.Settings.Outcomes
import AccessControl.Proofs.Settings.Sources
import AccessControl.Proofs.Json.Extent
import AccessControl.Proofs.Logging.Ancestry
import AccessControl.Proofs.Logging.Threshold
import AccessControl.Proofs.Logging.Verbosity
import AccessControl.Proofs.Logging.JsonLines
import AccessControl.Proofs.Grant.Coverage
import AccessControl.Proofs.Grant.Merge
import AccessControl.Proofs.Compile.Flags
