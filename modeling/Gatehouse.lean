import Gatehouse.Command
import Gatehouse.Config.Basic
import Gatehouse.Config.Datum
import Gatehouse.Config.Decode
import Gatehouse.Config.Load
import Gatehouse.Config.Validate
import Gatehouse.Connection
import Gatehouse.Cookie
import Gatehouse.Decimal.Binary64
import Gatehouse.Decimal.Shortest
import Gatehouse.Destination
import Gatehouse.Exchange
import Gatehouse.Failure
import Gatehouse.Files
import Gatehouse.Forward
import Gatehouse.Gateway
import Gatehouse.Http.Body
import Gatehouse.Http.Framing
import Gatehouse.Http.Header
import Gatehouse.Http.Message
import Gatehouse.Http.Method
import Gatehouse.Http.Scrub
import Gatehouse.Http.Status
import Gatehouse.Http.Target
import Gatehouse.Json.Basic
import Gatehouse.Json.Parser
import Gatehouse.Json.Printer
import Gatehouse.Main
import Gatehouse.Metrics
import Gatehouse.Net.Address
import Gatehouse.Network
import Gatehouse.Origin
import Gatehouse.Program
import Gatehouse.Proofs.AuthCalls
import Gatehouse.Proofs.Authorities
import Gatehouse.Proofs.Bases
import Gatehouse.Proofs.Body
import Gatehouse.Proofs.CookiePairs
import Gatehouse.Proofs.CookieText
import Gatehouse.Proofs.Cutting
import Gatehouse.Proofs.Deadline
import Gatehouse.Proofs.Dispatch
import Gatehouse.Proofs.DotPieces
import Gatehouse.Proofs.Domains
import Gatehouse.Proofs.Fields
import Gatehouse.Proofs.Gate
import Gatehouse.Proofs.Grant
import Gatehouse.Proofs.Hosts
import Gatehouse.Proofs.Lookup
import Gatehouse.Proofs.Members
import Gatehouse.Proofs.Onward
import Gatehouse.Proofs.Origins
import Gatehouse.Proofs.Patience
import Gatehouse.Proofs.Place
import Gatehouse.Proofs.Precedence
import Gatehouse.Proofs.Renewal
import Gatehouse.Proofs.Rewriting
import Gatehouse.Proofs.Rules
import Gatehouse.Proofs.Serve
import Gatehouse.Proofs.Session
import Gatehouse.Proofs.SessionSteps
import Gatehouse.Proofs.Settling
import Gatehouse.Proofs.Stages
import Gatehouse.Proofs.Startup
import Gatehouse.Proofs.Surface
import Gatehouse.Proofs.Trace
import Gatehouse.Proofs.Transform
import Gatehouse.Proofs.Visible
import Gatehouse.Relay
import Gatehouse.Route.Outbound
import Gatehouse.Route.Pattern
import Gatehouse.Route.Surface
import Gatehouse.Route.Table
import Gatehouse.Service
import Gatehouse.Session.Client
import Gatehouse.Session.Identity
import Gatehouse.Session.Protocol
import Gatehouse.Shutdown
import Gatehouse.Text.Blank
import Gatehouse.Text.CodeTable
import Gatehouse.Text.Composition
import Gatehouse.Text.Digits
import Gatehouse.Text.Direction
import Gatehouse.Text.Joining
import Gatehouse.Text.Mark
import Gatehouse.Text.Pieces
import Gatehouse.Text.Reader
import Gatehouse.Text.Utf8
import Gatehouse.Toml.Document
import Gatehouse.Toml.Parser
import Gatehouse.Toml.Scalar
import Gatehouse.Url.Basic
import Gatehouse.Url.Domain
import Gatehouse.Url.Folding
import Gatehouse.Url.Host
import Gatehouse.Url.Punycode
import Gatehouse.Proofs.RequestId
import Gatehouse.Proofs.Tenants
import Gatehouse.Proofs.Answers
import Gatehouse.Proofs.Silence
import Gatehouse.Proofs.Rephrasing
import Gatehouse.Proofs.Series
import Gatehouse.Proofs.Indifference
import Gatehouse.Proofs.Anonymity
import Gatehouse.Proofs.FoundCookies
import Gatehouse.Proofs.ForwardedFor
import Gatehouse.Proofs.Entries
import Gatehouse.Proofs.Digits
import Gatehouse.Proofs.OctetOrder
import Gatehouse.Proofs.Json.Strings
import Gatehouse.Proofs.Json.Numerals
import Gatehouse.Proofs.Json.Texts
import Gatehouse.Proofs.Json.Writing
import Gatehouse.Proofs.Assertion
import Gatehouse.Proofs.Stripping
import Gatehouse.Proofs.Chunking
import Gatehouse.Proofs.Alterations
import Gatehouse.Proofs.Containment
import Gatehouse.Proofs.Reordering
import Gatehouse.Proofs.Replacing
import Gatehouse.Proofs.Scoping
import Gatehouse.Proofs.Overlap
import Gatehouse.Proofs.Settings
import Gatehouse.Proofs.Filling
import Gatehouse.Proofs.Splicing
import Gatehouse.Proofs.Signals
import Gatehouse.Proofs.SeriesTexts
import Gatehouse.Proofs.Tally
