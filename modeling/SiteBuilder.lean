import SiteBuilder.CommandLine.Arguments
import SiteBuilder.CommandLine.Lookup
import SiteBuilder.CommandLine.Run
import SiteBuilder.CommandLine.Starter
import SiteBuilder.CommandLine.Usage
import SiteBuilder.Datum.Basic
import SiteBuilder.Datum.Plain
import SiteBuilder.Datum.Typed
import SiteBuilder.Decimal.Layout
import SiteBuilder.Decimal.Reading
import SiteBuilder.Decimal.Shortest
import SiteBuilder.Disk.Basic
import SiteBuilder.Disk.Change
import SiteBuilder.Disk.Node
import SiteBuilder.Disk.Path
import SiteBuilder.Drafts.Folder
import SiteBuilder.Drafts.Place
import SiteBuilder.Drafts.Store
import SiteBuilder.Export.Bundle
import SiteBuilder.Export.Error
import SiteBuilder.Export.Readme
import SiteBuilder.Export.Remote
import SiteBuilder.Form.Answer
import SiteBuilder.Form.Config
import SiteBuilder.Form.Document
import SiteBuilder.Form.Format
import SiteBuilder.Form.Kind
import SiteBuilder.Form.Session
import SiteBuilder.Form.Validation
import SiteBuilder.Identity
import SiteBuilder.Json.Number
import SiteBuilder.Json.Printer
import SiteBuilder.Json.Reader
import SiteBuilder.Main
import SiteBuilder.NameMap
import SiteBuilder.Page.Evaluation
import SiteBuilder.Page.Expression
import SiteBuilder.Page.Fault
import SiteBuilder.Page.Filter
import SiteBuilder.Page.Statement
import SiteBuilder.Page.Token
import SiteBuilder.Page.Value
import SiteBuilder.Pattern.Basic
import SiteBuilder.Pattern.CharSet
import SiteBuilder.Pattern.Parser
import SiteBuilder.Pattern.Search
import SiteBuilder.Preview.Host
import SiteBuilder.Preview.Scheduler
import SiteBuilder.Proofs.Decimal.Order
import SiteBuilder.Proofs.Drafts.Faithful
import SiteBuilder.Proofs.Drafts.Reliable
import SiteBuilder.Proofs.Form.Accepted
import SiteBuilder.Proofs.Form.Advance
import SiteBuilder.Proofs.Form.Coalescing
import SiteBuilder.Proofs.Form.Commits
import SiteBuilder.Proofs.Form.Format
import SiteBuilder.Proofs.Form.Problems
import SiteBuilder.Proofs.Form.Recovery
import SiteBuilder.Proofs.Form.Rules
import SiteBuilder.Proofs.Form.Run
import SiteBuilder.Proofs.Form.Shape
import SiteBuilder.Proofs.Form.Typing
import SiteBuilder.Proofs.Form.Writes
import SiteBuilder.Proofs.NameMap
import SiteBuilder.Proofs.Preview.Ledger
import SiteBuilder.Proofs.Preview.Render
import SiteBuilder.Proofs.Preview.Run
import SiteBuilder.Proofs.Preview.Targets
import SiteBuilder.Proofs.Preview.UpToDate
import SiteBuilder.Proofs.Site.Composition
import SiteBuilder.Proofs.Site.Filling
import SiteBuilder.Proofs.Site.Token
import SiteBuilder.Proofs.Studio.FixedContents
import SiteBuilder.Proofs.Studio.Form
import SiteBuilder.Proofs.Studio.Freshness
import SiteBuilder.Proofs.Studio.Run
import SiteBuilder.Proofs.Text.Cut
import SiteBuilder.Repository.Client
import SiteBuilder.Repository.Host
import SiteBuilder.Schedule.Clock
import SiteBuilder.Schedule.Timer
import SiteBuilder.Settings
import SiteBuilder.Site.Archive
import SiteBuilder.Site.Checksum
import SiteBuilder.Site.Document
import SiteBuilder.Site.Files
import SiteBuilder.Site.Placeholder
import SiteBuilder.Site.Zip
import SiteBuilder.Studio
import SiteBuilder.Template.Catalog
import SiteBuilder.Template.Content
import SiteBuilder.Template.Descriptor
import SiteBuilder.Template.LoadError
import SiteBuilder.Template.Loader
import SiteBuilder.Template.LocalFolder
import SiteBuilder.Template.RemoteFolder
import SiteBuilder.Text.Base64
import SiteBuilder.Text.Blank
import SiteBuilder.Text.Case
import SiteBuilder.Text.Casing
import SiteBuilder.Text.Category
import SiteBuilder.Text.Letter
import SiteBuilder.Text.Quoted
import SiteBuilder.Text.Script
import SiteBuilder.Text.Table
import SiteBuilder.Text.Utf8
import SiteBuilder.Url.Basic
import SiteBuilder.Url.Domain
import SiteBuilder.Url.Host
import SiteBuilder.Url.Percent
import SiteBuilder.Yaml.Cursor
import SiteBuilder.Yaml.Reader
import SiteBuilder.Yaml.Scalar
import SiteBuilder.Yaml.Token
import SiteBuilder.Proofs.Form.DraftLoss
import SiteBuilder.Proofs.Preview.Debounce
import SiteBuilder.Proofs.Export.Readme
import SiteBuilder.Proofs.Export.Bundle
import SiteBuilder.Proofs.Studio.Export
import SiteBuilder.Proofs.Export.Remote
import SiteBuilder.Proofs.Template.Agreement
import SiteBuilder.Proofs.Studio.Switching
import SiteBuilder.Proofs.Form.Arrival
import SiteBuilder.Proofs.Form.Recorded
import SiteBuilder.Proofs.Preview.Stages
import SiteBuilder.Proofs.Preview.OnShow
import SiteBuilder.Proofs.Form.Flushes
import SiteBuilder.Proofs.Studio.Flushes
import SiteBuilder.Proofs.Form.Burst
import SiteBuilder.Proofs.Json.Number
import SiteBuilder.Proofs.Text.Utf8
import SiteBuilder.Proofs.Json.ReadBack
import SiteBuilder.Proofs.Disk.Tree
import SiteBuilder.Proofs.Form.Document
import SiteBuilder.Proofs.Disk.Folder
import SiteBuilder.Proofs.Disk.MakeFolders
import SiteBuilder.Proofs.Drafts.Folder
import SiteBuilder.Proofs.Studio.Rest
import SiteBuilder.Proofs.Studio.Delivery
import SiteBuilder.Proofs.Form.Ownership
import SiteBuilder.Proofs.CommandLine.Verdict
import SiteBuilder.Proofs.Form.Refusal
import SiteBuilder.Proofs.Studio.Refusal
import SiteBuilder.Proofs.Decimal.Finite
import SiteBuilder.Proofs.Form.Numbers
import SiteBuilder.Proofs.Form.RoundTrip
import SiteBuilder.Proofs.Form.TakingUp
import SiteBuilder.Proofs.Template.RoundTrip
import SiteBuilder.Proofs.Form.Checking
import SiteBuilder.Proofs.Export.Answered
import SiteBuilder.Proofs.Form.Cursor
import SiteBuilder.Proofs.Template.CacheFirst
import SiteBuilder.Proofs.Form.Projection
import SiteBuilder.Proofs.Site.ArchiveName
import SiteBuilder.Proofs.Disk.Archives
import SiteBuilder.Proofs.CommandLine.ArchiveFile
import SiteBuilder.Proofs.Template.LeftOut
import SiteBuilder.Proofs.CommandLine.AnswersFile
import SiteBuilder.Proofs.Schedule.Duration
import SiteBuilder.Proofs.Schedule.Tasks
import SiteBuilder.Proofs.Schedule.Overdue
