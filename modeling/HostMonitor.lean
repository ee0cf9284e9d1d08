import HostMonitor.Text.Quoted
import HostMonitor.Text.Split
import HostMonitor.Text.Utf8
import HostMonitor.Text.Wire
import HostMonitor.Number.Reader
import HostMonitor.Number.Shortest
import HostMonitor.Json.Printer
import HostMonitor.Json.Reader
import HostMonitor.Net.Network
import HostMonitor.Time.Rfc3339
import HostMonitor.Pattern.Reader
import HostMonitor.Run.Basic
import HostMonitor.Service.Lister
import HostMonitor.Journal.Record
import HostMonitor.Query.Services
import HostMonitor.Query.Logs
import HostMonitor.Rpc.Dispatch
import HostMonitor.Gateway.Startup
import HostMonitor.Tool.Catalog
import HostMonitor.Tool.Registry
import HostMonitor.Access.Gate
import HostMonitor.Main
import HostMonitor.Proofs.Outcomes
import HostMonitor.Proofs.Ranks
import HostMonitor.Proofs.Selection
import HostMonitor.Proofs.Services
import HostMonitor.Proofs.Enrichment
import HostMonitor.Proofs.Utf8
import HostMonitor.Proofs.Grammar
import HostMonitor.Proofs.Cutting
import HostMonitor.Proofs.Leaves
import HostMonitor.Proofs.Documents
import HostMonitor.Proofs.Envelope
import HostMonitor.Proofs.JournalLines
import HostMonitor.Proofs.Gather
import HostMonitor.Proofs.Dispatch
import HostMonitor.Proofs.Hidden
import HostMonitor.Proofs.Renderable
import HostMonitor.Proofs.Delivery
import HostMonitor.Proofs.Quotes
import HostMonitor.Proofs.Admission
import HostMonitor.Proofs.Forwarding
import HostMonitor.Proofs.Environment
import HostMonitor.Proofs.Membership
import HostMonitor.Proofs.Serving
import HostMonitor.Proofs.Opacity
import HostMonitor.Proofs.Rounding
import HostMonitor.Proofs.Seconds
import HostMonitor.Proofs.Moments
import HostMonitor.Proofs.Commands
import HostMonitor.Proofs.Covering
import HostMonitor.Proofs.LineOutcomes
import HostMonitor.Proofs.ScanCap
import HostMonitor.Proofs.CleanMessages
import HostMonitor.Proofs.Prefiltering
import HostMonitor.Proofs.Auditing
import HostMonitor.Proofs.Redaction
import HostMonitor.Proofs.Timestamps
import HostMonitor.Proofs.Signatures
import HostMonitor.Proofs.Conformance
import HostMonitor.Proofs.Written
import HostMonitor.Proofs.Dates
import HostMonitor.Proofs.Resources
import HostMonitor.Proofs.Legibility
import HostMonitor.Proofs.Registration
import HostMonitor.Proofs.ResultTexts
import HostMonitor.Proofs.Summaries
import HostMonitor.Proofs.Joining
import HostMonitor.Proofs.Requests
import HostMonitor.Proofs.Fitting
import HostMonitor.Proofs.Objections
import HostMonitor.Proofs.Meanings
import HostMonitor.Proofs.Validating
import HostMonitor.Proofs.Calendar
import HostMonitor.Proofs.UtcTimes
import HostMonitor.Proofs.ReadingBack
import HostMonitor.Proofs.LastHour
import HostMonitor.Proofs.PatternScans
import HostMonitor.Proofs.PatternReach
import HostMonitor.Proofs.GreatCounts
import HostMonitor.Proofs.BadSearches
import HostMonitor.Proofs.Table
import HostMonitor.Proofs.Blocks
import HostMonitor.Proofs.Variables
import HostMonitor.Proofs.Blame
import HostMonitor.Proofs.Faults
import HostMonitor.Proofs.Respelling
import HostMonitor.Proofs.Notifications
