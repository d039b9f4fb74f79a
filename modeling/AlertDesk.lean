import AlertDesk.Binary64
import AlertDesk.Binary64.Shortest
import AlertDesk.Call
import AlertDesk.Client
import AlertDesk.CommandLine
import AlertDesk.CommandLine.Reader
import AlertDesk.Config
import AlertDesk.Console
import AlertDesk.Csrf
import AlertDesk.EditForm
import AlertDesk.EditForm.Screen
import AlertDesk.EditForm.Session
import AlertDesk.Json
import AlertDesk.Json.Kept
import AlertDesk.Json.Printer
import AlertDesk.Json.Reader
import AlertDesk.Json.Skip
import AlertDesk.Keyed
import AlertDesk.Kind
import AlertDesk.Layout
import AlertDesk.ListScreen
import AlertDesk.ListScreen.Session
import AlertDesk.Main
import AlertDesk.Metrics
import AlertDesk.Outcome
import AlertDesk.PagedList
import AlertDesk.PagedList.Session
import AlertDesk.Paging
import AlertDesk.PortalError
import AlertDesk.Prompt
import AlertDesk.Record
import AlertDesk.Record.Alert
import AlertDesk.Record.NotificationGroup
import AlertDesk.Record.OfKind
import AlertDesk.Record.PagerDutyEndpoint
import AlertDesk.Record.Report
import AlertDesk.Reply
import AlertDesk.Settings
import AlertDesk.Text.Base64
import AlertDesk.Text.Blank
import AlertDesk.Text.Invisible
import AlertDesk.Text.Quoted
import AlertDesk.Text.Utf8
import AlertDesk.Url
import AlertDesk.Url.Address
import AlertDesk.Url.Fault
import AlertDesk.Url.Form
import AlertDesk.Url.Host
import AlertDesk.Url.Path
import AlertDesk.Url.Percent
import AlertDesk.Url.Punycode
import AlertDesk.Url.Reader
import AlertDesk.Uuid
import AlertDesk.Yaml.Cursor
import AlertDesk.Yaml.Document
import AlertDesk.Yaml.Event
import AlertDesk.Yaml.Mark
import AlertDesk.Yaml.Scalar
import AlertDesk.Yaml.Token
import AlertDesk.Yaml.Token.Lexer
import AlertDesk.Yaml.Token.Scalar
import AlertDesk.Yaml.Token.Tag
import AlertDesk.Yaml.Value
import AlertDesk.Proofs.ListScreen.DeleteSafety
import AlertDesk.Proofs.ListScreen.Refresh
import AlertDesk.Proofs.Url.Path
import AlertDesk.Proofs.Client.RecordTarget
import AlertDesk.Proofs.PagedList.LatestWins
import AlertDesk.Proofs.Keyed.Lookup
import AlertDesk.Proofs.Layout.Members
import AlertDesk.Proofs.ListScreen.Dialog
import AlertDesk.Proofs.Record.Identifier
import AlertDesk.Proofs.Record.RoundTrip
import AlertDesk.Proofs.EditForm.SavedId
import AlertDesk.Proofs.Layout.ExplicitNull
import AlertDesk.Proofs.Record.ExplicitNull
import AlertDesk.Proofs.EditForm.ReportLossless
import AlertDesk.Proofs.Console.Delete
import AlertDesk.Proofs.Console.Put
import AlertDesk.Proofs.PagedList.Loading
import AlertDesk.Proofs.Url.Host
import AlertDesk.Proofs.Client.TokenSent
import AlertDesk.Proofs.ListScreen.Token
import AlertDesk.Proofs.EditForm.ErrorShown
import AlertDesk.Proofs.ListScreen.GivenUp
import AlertDesk.Proofs.Console.Token
import AlertDesk.Proofs.PagedList.Parameters
import AlertDesk.Proofs.ListScreen.Parameters
import AlertDesk.Proofs.ListScreen.Confirm
import AlertDesk.Proofs.Client.Redirects
import AlertDesk.Proofs.Client.Answer
import AlertDesk.Proofs.Record.Faults
import AlertDesk.Proofs.Record.Printed
import AlertDesk.Proofs.Json.Number
import AlertDesk.Proofs.Json.Text
import AlertDesk.Proofs.Json.Readable
import AlertDesk.Proofs.Json.RoundTrip
import AlertDesk.Proofs.Console.PutCourse
import AlertDesk.Proofs.Console.PutBack
import AlertDesk.Proofs.PagedList.WholePage
import AlertDesk.Proofs.EditForm.Course
import AlertDesk.Proofs.EditForm.InputKept
import AlertDesk.Proofs.EditForm.Activation
import AlertDesk.Proofs.EditForm.History
import AlertDesk.Proofs.Layout.Format
import AlertDesk.Proofs.Record.Format
import AlertDesk.Proofs.Record.Texts
import AlertDesk.Proofs.Record.Group
import AlertDesk.Proofs.Record.Recipient
import AlertDesk.Proofs.Paging.Forwarded
import AlertDesk.Proofs.Text.Utf8
import AlertDesk.Proofs.Url.Form
import AlertDesk.Proofs.Url.Segments
import AlertDesk.Proofs.Client.Target
import AlertDesk.Proofs.Paging.Parameters
import AlertDesk.Proofs.Client.Parameters
import AlertDesk.Proofs.Json.Skip
import AlertDesk.Proofs.Json.Kept
import AlertDesk.Proofs.Client.Classified
import AlertDesk.Proofs.Metrics
import AlertDesk.Proofs.Client.Counts
import AlertDesk.Proofs.ListScreen.Halves
import AlertDesk.Proofs.ListScreen.DeleteError
import AlertDesk.Proofs.Console.Prompts
import AlertDesk.Proofs.Console.Remaining
