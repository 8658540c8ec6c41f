import EdgeConsole.Main
import EdgeConsole.Proofs.Web.Escape
import EdgeConsole.Proofs.Web.Segments
import EdgeConsole.Proofs.Web.Host
import EdgeConsole.Proofs.Web.Front
import EdgeConsole.Proofs.Api.Address
import EdgeConsole.Proofs.Api.Invocation
import EdgeConsole.Proofs.Api.Endpoint
import EdgeConsole.Proofs.Api.Exchange
import EdgeConsole.Proofs.Api.Validation
import EdgeConsole.Proofs.Api.Classification
import EdgeConsole.Proofs.Api.Content
import EdgeConsole.Proofs.Api.Resolution
import EdgeConsole.Proofs.Api.RequestLine
import EdgeConsole.Proofs.Outcome
import EdgeConsole.Proofs.Text.Utf8
import EdgeConsole.Proofs.Number.Digits
import EdgeConsole.Proofs.Text.Blank
import EdgeConsole.Proofs.Json.Printed
import EdgeConsole.Proofs.Json.Reading
import EdgeConsole.Proofs.Record.Object
import EdgeConsole.Proofs.Record.Members
import EdgeConsole.Proofs.Record.Restated
import EdgeConsole.Proofs.Calendar.Timestamp
import EdgeConsole.Proofs.Resource.Kind
import EdgeConsole.Proofs.Resource.Catalogue
import EdgeConsole.Proofs.Resource.Spelling
import EdgeConsole.Proofs.Resource.Submission
import EdgeConsole.Proofs.Web.Form
import EdgeConsole.Proofs.Api.Form
import EdgeConsole.Proofs.Json.Scanned
import EdgeConsole.Proofs.Console.Errand
import EdgeConsole.Proofs.Api.Deed
import EdgeConsole.Proofs.Api.Order
import EdgeConsole.Proofs.Console.Dispatch
import EdgeConsole.Proofs.Console.Version
import EdgeConsole.Proofs.Api.Process
import EdgeConsole.Proofs.Api.Target
import EdgeConsole.Proofs.Api.Team
import EdgeConsole.Proofs.Console.Summary
import EdgeConsole.Proofs.Settings.Disk
import EdgeConsole.Proofs.Settings.Config
import EdgeConsole.Proofs.Console.UseService
import EdgeConsole.Proofs.Text.Order
import EdgeConsole.Proofs.Api.Listing
import EdgeConsole.Proofs.Api.Signature
import EdgeConsole.Proofs.Console.Signature
import EdgeConsole.Proofs.Console.Secrecy
import EdgeConsole.Proofs.Calendar.Years
import EdgeConsole.Proofs.Resource.Instant
import EdgeConsole.Proofs.Number.Rounding
import EdgeConsole.Proofs.Resource.Word
import EdgeConsole.Proofs.Settings.Key
import EdgeConsole.Proofs.Text.Pieces
import EdgeConsole.Proofs.View.Path
import EdgeConsole.Proofs.View.Row
import EdgeConsole.Proofs.Text.Lowercase
import EdgeConsole.Proofs.View.Table
import EdgeConsole.Proofs.Api.Path
import EdgeConsole.Proofs.Api.LogText
import EdgeConsole.Proofs.View.Cell
import EdgeConsole.Proofs.Catalog.Columns
import EdgeConsole.Proofs.Console.Columns
