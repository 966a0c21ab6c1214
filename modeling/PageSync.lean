import PageSync.Blocking.Session
import PageSync.Log.Standard
import PageSync.Proofs.Delivery.Progress
import PageSync.Proofs.Page.Convergence
import PageSync.Suspending.Session
import PageSync.Text.Template
import PageSync.Proofs.Service.Exchange
import PageSync.Proofs.Service.Plan
import PageSync.Proofs.Service.Following
import PageSync.Proofs.Service.Listing
import PageSync.Proofs.Page.Plans
import PageSync.Proofs.Page.RequestTrace
import PageSync.Proofs.Page.FailedAppend
import PageSync.Proofs.Page.Marker
import PageSync.Proofs.Blocks.Format
import PageSync.Proofs.Blocks.Loss
import PageSync.Proofs.Blocks.Outline
import PageSync.Proofs.Blocks.Notices
import PageSync.Proofs.Blocks.Quote
import PageSync.Proofs.Document.Canonical
import PageSync.Proofs.Json.Parts
import PageSync.Proofs.Redaction.Patterns
import PageSync.Proofs.Redaction.Token
import PageSync.Proofs.Redaction.Names
import PageSync.Proofs.Service.Classification
import PageSync.Proofs.Service.Pagination
import PageSync.Proofs.Session.Operation
import PageSync.Proofs.Session.Twin
import PageSync.Proofs.Session.Observation
import PageSync.Proofs.Url.Address
import PageSync.Proofs.Url.HostForm
import PageSync.Proofs.Url.Authority
import PageSync.Proofs.Url.Locality
import PageSync.Proofs.Document.Recut
import PageSync.Proofs.RichText.Wording
import PageSync.Proofs.RichText.Formatting
import PageSync.Proofs.Log.Requests
import PageSync.Proofs.Redaction.Shape
import PageSync.Proofs.Redaction.DataUri
import PageSync.Proofs.Redaction.Credential
import PageSync.Proofs.Session.Lookup
import PageSync.Proofs.Config
import PageSync.Proofs.Log.Line
import PageSync.Proofs.Page.Counters
import PageSync.Proofs.Page.Matching
