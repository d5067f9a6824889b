import Namebook.Catalogue
import Namebook.Change
import Namebook.Check
import Namebook.Cluster.Listing
import Namebook.Dns.Nameserver
import Namebook.Http.Router
import Namebook.Json.Pointer
import Namebook.Json.Writer
import Namebook.Main
import Namebook.Metrics.Exposition
import Namebook.Page
import Namebook.Proofs.Address.Ip
import Namebook.Proofs.Address.Socket
import Namebook.Proofs.Catalogue
import Namebook.Proofs.Catalogue.Keyed
import Namebook.Proofs.Catalogue.ReadOut
import Namebook.Proofs.Catalogue.Seen
import Namebook.Proofs.Catalogue.Stored
import Namebook.Proofs.Change.Script
import Namebook.Proofs.Check
import Namebook.Proofs.Check.Addresses
import Namebook.Proofs.Course.Feeds
import Namebook.Proofs.Course.Following
import Namebook.Proofs.Course.Metrics
import Namebook.Proofs.Course.Pace
import Namebook.Proofs.Course.Separation
import Namebook.Proofs.Course.Service
import Namebook.Proofs.Course.Session
import Namebook.Proofs.Course.Session.Outcome
import Namebook.Proofs.Course.Session.Upkeep
import Namebook.Proofs.Course.Session.Users
import Namebook.Proofs.Course.Shutdown
import Namebook.Proofs.Course.Sign
import Namebook.Proofs.Course.Subscription
import Namebook.Proofs.Course.Summary
import Namebook.Proofs.Course.Watch
import Namebook.Proofs.Directory.Counting
import Namebook.Proofs.Directory.Reading
import Namebook.Proofs.Dns.Nameserver
import Namebook.Proofs.Following
import Namebook.Proofs.Grouping
import Namebook.Proofs.Http.List
import Namebook.Proofs.Key
import Namebook.Proofs.Listing.Indexed
import Namebook.Proofs.Listing.Membership
import Namebook.Proofs.Listing.Occurrence
import Namebook.Proofs.Listing.Restriction
import Namebook.Proofs.Listing.Search
import Namebook.Proofs.Page
import Namebook.Proofs.Page.Token
import Namebook.Proofs.Record.Built
import Namebook.Proofs.RecordSet
import Namebook.Proofs.Reference
import Namebook.Proofs.Settings
import Namebook.Proofs.Settings.Server
import Namebook.Proofs.Summary
import Namebook.Proofs.Text.Case
import Namebook.Proofs.Text.Lowercase
import Namebook.Proofs.Text.Normal
import Namebook.Proofs.Time.Instant
import Namebook.RecordSet.Encoding
import Namebook.Schema.Definition
import Namebook.Text.Form
