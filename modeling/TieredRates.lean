import TieredRates.Binary64.Basic
import TieredRates.Binary64.Shortest
import TieredRates.Cache.Remote
import TieredRates.Cache.Timed
import TieredRates.Calendar.Date
import TieredRates.Calendar.DateText
import TieredRates.Calendar.Instant
import TieredRates.Calendar.Timestamp
import TieredRates.Currency
import TieredRates.Decimal.Basic
import TieredRates.Decimal.Product
import TieredRates.Decimal.Quotient
import TieredRates.Decimal.Text
import TieredRates.Direction
import TieredRates.Feed.Address
import TieredRates.Feed.Observation
import TieredRates.Host.Basic
import TieredRates.Host.Bidi
import TieredRates.Host.Composition
import TieredRates.Host.Joining
import TieredRates.Host.Mapping
import TieredRates.Host.Mark
import TieredRates.Host.Name
import TieredRates.Host.Number
import TieredRates.Host.Punycode
import TieredRates.Http.Api
import TieredRates.Http.Document
import TieredRates.Http.Query
import TieredRates.Http.Router
import TieredRates.Json.Number
import TieredRates.Json.Position
import TieredRates.Json.Reader
import TieredRates.Json.Token
import TieredRates.Json.Value
import TieredRates.Json.Writer
import TieredRates.Mode
import TieredRates.Payload
import TieredRates.Power
import TieredRates.Proofs.Cache.History
import TieredRates.Proofs.Cache.Laws
import TieredRates.Proofs.Cache.Lookup
import TieredRates.Proofs.Cache.Memory
import TieredRates.Proofs.Cache.Mirror
import TieredRates.Proofs.Calendar.Civil
import TieredRates.Proofs.Calendar.Forms
import TieredRates.Proofs.Calendar.Instant
import TieredRates.Proofs.Calendar.LooseTimestamp
import TieredRates.Proofs.Calendar.MonthNames
import TieredRates.Proofs.Calendar.Order
import TieredRates.Proofs.Calendar.Timestamp
import TieredRates.Proofs.Currency
import TieredRates.Proofs.Currency.Canonical
import TieredRates.Proofs.Decimal.Product
import TieredRates.Proofs.Decimal.Quotient
import TieredRates.Proofs.Decimal.Text
import TieredRates.Proofs.Feed.Rate
import TieredRates.Proofs.Feed.Selection
import TieredRates.Proofs.Http.Report
import TieredRates.Proofs.Http.Response
import TieredRates.Proofs.Json.Object
import TieredRates.Proofs.Json.Structure
import TieredRates.Proofs.Json.Text
import TieredRates.Proofs.Json.Value
import TieredRates.Proofs.Json.Whole
import TieredRates.Proofs.Payload
import TieredRates.Proofs.Record
import TieredRates.Proofs.Resolution.Coherence
import TieredRates.Proofs.Resolution.Conversion
import TieredRates.Proofs.Resolution.Frame
import TieredRates.Proofs.Resolution.Keyed
import TieredRates.Proofs.Resolution.Mirror
import TieredRates.Proofs.Resolution.Modes
import TieredRates.Proofs.Resolution.NonStrict
import TieredRates.Proofs.Resolution.Others
import TieredRates.Proofs.Resolution.Rates
import TieredRates.Proofs.Resolution.Recall
import TieredRates.Proofs.Resolution.Recording
import TieredRates.Proofs.Resolution.Refusal
import TieredRates.Proofs.Resolution.Repair
import TieredRates.Proofs.Resolution.Separation
import TieredRates.Proofs.Resolution.Strict
import TieredRates.Proofs.Resolution.Verdict
import TieredRates.Proofs.Session.Answer
import TieredRates.Proofs.Session.Coherence
import TieredRates.Proofs.Session.Mirror
import TieredRates.Proofs.Session.Modes
import TieredRates.Proofs.Session.Provenance
import TieredRates.Proofs.Session.Providers
import TieredRates.Proofs.Session.Question
import TieredRates.Proofs.Session.Recording
import TieredRates.Proofs.Session.Run
import TieredRates.Proofs.Session.Separation
import TieredRates.Proofs.Session.Staleness
import TieredRates.Proofs.Session.Storage
import TieredRates.Proofs.Session.Window
import TieredRates.Proofs.Settings.Accept
import TieredRates.Proofs.Settings.Literal
import TieredRates.Proofs.Settings.Load
import TieredRates.Proofs.Source.Provider
import TieredRates.Proofs.Source.Routing
import TieredRates.Proofs.Store.Listing
import TieredRates.Proofs.Store.Mirror
import TieredRates.Proofs.Store.Rows
import TieredRates.Proofs.Table
import TieredRates.Proofs.Text.Blank
import TieredRates.Proofs.Text.Digits
import TieredRates.Proofs.Text.Letters
import TieredRates.Proofs.Tier.Monitor
import TieredRates.Proofs.Tier.Separation
import TieredRates.Proofs.Wire.Currency
import TieredRates.Proofs.Wire.Record
import TieredRates.Record
import TieredRates.Resolve.Basic
import TieredRates.Resolve.Error
import TieredRates.Rounding
import TieredRates.Session
import TieredRates.Settings.Literal
import TieredRates.Settings.Load
import TieredRates.Source.Provider
import TieredRates.Store.Location
import TieredRates.Store.Rows
import TieredRates.Store.Url
import TieredRates.Table
import TieredRates.Text.Blank
import TieredRates.Text.Digits
import TieredRates.Text.Percent
import TieredRates.Text.Printable
import TieredRates.Text.Quoted
import TieredRates.Text.Range
import TieredRates.Text.Split
import TieredRates.Tier.Cache
import TieredRates.Tier.First
import TieredRates.Tier.Lookup
import TieredRates.Tier.Monitor
import TieredRates.Tier.Source
import TieredRates.Tier.Store
import TieredRates.Trust
import TieredRates.Wire.Currency
import TieredRates.Wire.Message
import TieredRates.Wire.Record
