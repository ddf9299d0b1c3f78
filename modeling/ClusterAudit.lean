import ClusterAudit.Check.Login
import ClusterAudit.Check.Nodes
import ClusterAudit.Check.Probe
import ClusterAudit.Check.Provisioning
import ClusterAudit.Check.Storage
import ClusterAudit.Check.Workload
import ClusterAudit.Cluster.Inventory
import ClusterAudit.Cluster.Server
import ClusterAudit.CommandLine.Arguments
import ClusterAudit.CommandLine.Help
import ClusterAudit.CommandLine.Options
import ClusterAudit.CommandLine.Program
import ClusterAudit.Config
import ClusterAudit.Console.Line
import ClusterAudit.Console.Page
import ClusterAudit.Credentials
import ClusterAudit.Failure
import ClusterAudit.Hypervisor.Client
import ClusterAudit.Json.Decode
import ClusterAudit.Json.Located
import ClusterAudit.Json.Outline
import ClusterAudit.Json.Printer
import ClusterAudit.Json.Reader
import ClusterAudit.Json.Shape
import ClusterAudit.Json.Value
import ClusterAudit.Kubeconfig
import ClusterAudit.Main
import ClusterAudit.Number.Binary64
import ClusterAudit.Number.Power
import ClusterAudit.Outcome
import ClusterAudit.Proofs.Base64
import ClusterAudit.Proofs.Credentials
import ClusterAudit.Proofs.Endpoint
import ClusterAudit.Proofs.Failures
import ClusterAudit.Proofs.Findings
import ClusterAudit.Proofs.Form
import ClusterAudit.Proofs.Isolation
import ClusterAudit.Proofs.JsonNumbers
import ClusterAudit.Proofs.JsonRecords
import ClusterAudit.Proofs.JsonScalars
import ClusterAudit.Proofs.JsonText
import ClusterAudit.Proofs.LoginChain
import ClusterAudit.Proofs.NotFound
import ClusterAudit.Proofs.Plan
import ClusterAudit.Proofs.Posting
import ClusterAudit.Proofs.Probe
import ClusterAudit.Proofs.Questions
import ClusterAudit.Proofs.ReportText
import ClusterAudit.Proofs.Reports
import ClusterAudit.Proofs.Requests
import ClusterAudit.Proofs.Scanning
import ClusterAudit.Proofs.Secrecy
import ClusterAudit.Proofs.Severity
import ClusterAudit.Proofs.Layout
import ClusterAudit.Proofs.Stamp
import ClusterAudit.Proofs.Telling
import ClusterAudit.Proofs.Turns
import ClusterAudit.Proofs.Url
import ClusterAudit.Proofs.Utf8
import ClusterAudit.Query
import ClusterAudit.Report
import ClusterAudit.Resource.Decode
import ClusterAudit.Resource.Object
import ClusterAudit.Resource.Schema
import ClusterAudit.Run
import ClusterAudit.Tally
import ClusterAudit.Text.Base64
import ClusterAudit.Text.Blank
import ClusterAudit.Text.CaseTable
import ClusterAudit.Text.CodePoints
import ClusterAudit.Text.Digit
import ClusterAudit.Text.Lowercase
import ClusterAudit.Text.Normal
import ClusterAudit.Text.NormalTable
import ClusterAudit.Text.PrintableTable
import ClusterAudit.Text.Quoted
import ClusterAudit.Text.Substring
import ClusterAudit.Text.Utf8
import ClusterAudit.Time.Instant
import ClusterAudit.Time.Stamp
import ClusterAudit.Web.Address
import ClusterAudit.Web.Domain
import ClusterAudit.Web.DomainTable
import ClusterAudit.Web.Form
import ClusterAudit.Web.Host
import ClusterAudit.Web.Percent
import ClusterAudit.Web.Punycode
import ClusterAudit.Web.Status
import ClusterAudit.Web.Target
import ClusterAudit.Web.Uri
import ClusterAudit.Web.Url
import ClusterAudit.Yaml.Scalar
import ClusterAudit.Yaml.Token
import ClusterAudit.Yaml.Value
import ClusterAudit.Proofs.Display
import ClusterAudit.Proofs.ErrorStates
import ClusterAudit.Proofs.Locality
import ClusterAudit.Proofs.HealthyPods
import ClusterAudit.Proofs.ScanReport
import ClusterAudit.Proofs.SecretFields
import ClusterAudit.Proofs.Accepting
import ClusterAudit.Proofs.ListAnswers
import ClusterAudit.Proofs.Replies
import ClusterAudit.Proofs.Relay
import ClusterAudit.Proofs.Outage
import ClusterAudit.Proofs.Workers
import ClusterAudit.Proofs.Managed
import ClusterAudit.Proofs.Readiness
import ClusterAudit.Proofs.Definitions
import ClusterAudit.Proofs.Targets
import ClusterAudit.Proofs.Rate
import ClusterAudit.Proofs.Endings
import ClusterAudit.Proofs.LetterCase
import ClusterAudit.Proofs.Verbatim
import ClusterAudit.Proofs.InitPrefix
