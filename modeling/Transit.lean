import Transit.Text
import Transit.Text.Table
import Transit.Text.Case.Tables
import Transit.Text.Case
import Transit.Text.Composed.Tables
import Transit.Text.Composed
import Transit.Binary64
import Transit.Binary64.Decimal
import Transit.Instant
import Transit.Json
import Transit.Json.Number
import Transit.Json.Quoted
import Transit.Json.Reader
import Transit.Text.Utf8
import Transit.Json.Bytes
import Transit.Json.Writer
import Transit.Json.Record
import Transit.Instant.Text
import Transit.Url
import Transit.Url.Scheme
import Transit.Url.Percent
import Transit.Url.Path
import Transit.Url.Punycode
import Transit.Url.Domain.Tables
import Transit.Url.Domain
import Transit.Url.Host
import Transit.Url.Reader
import Transit.EntityError
import Transit.Point
import Transit.Point.Distance
import Transit.Polyline
import Transit.Product
import Transit.Position
import Transit.Style
import Transit.Line
import Transit.Location
import Transit.Stop
import Transit.Leg
import Transit.Trip
import Transit.Board
import Transit.Text.Visible.Tables
import Transit.Text.Visible
import Transit.Window
import Transit.ProviderError
import Transit.Context
import Transit.Result.Status
import Transit.Result.Header
import Transit.Result.Locations
import Transit.Result.Departures
import Transit.Result.Trips
import Transit.Query
import Transit.Provider
import Transit.Pager
import Transit.Triage
import Transit.Render
import Transit.Hafas.Config
import Transit.Hafas.Error
import Transit.Hafas.Token
import Transit.Hafas.Record
import Transit.Hafas.Convert
import Transit.Hafas.Answer
import Transit.Hafas.Request
import Transit.Hafas.Client
import Transit.Hafas.Places
import Transit.Hafas.Boards
import Transit.Hafas.Journeys
import Transit.Toml.Quoted
import Transit.Toml.Scalar
import Transit.Toml.Table
import Transit.Toml.Reader
import Transit.CommandLine.Grammar
import Transit.CommandLine.Invocation
import Transit.CommandLine.Run
import Transit.Hafas.Replay
import Transit.Main
import Transit.Proofs.Distinct
import Transit.Proofs.Instant
import Transit.Proofs.Calendar
import Transit.Proofs.Instant.Text
import Transit.Proofs.Sameness
import Transit.Proofs.StableSort
import Transit.Proofs.Window
import Transit.Proofs.Provider
import Transit.Proofs.Window.Union
import Transit.Proofs.Permission
import Transit.Proofs.Session
import Transit.Proofs.TripList
import Transit.Proofs.Pager.Reference
import Transit.Proofs.Pager.Growth
import Transit.Proofs.Pager.Failure
import Transit.Proofs.Deduplication
import Transit.Proofs.Json.Quoted
import Transit.Proofs.Json.Number
import Transit.Proofs.Json.Record
import Transit.Proofs.Json.Fields
import Transit.Proofs.Context
import Transit.Proofs.Location
import Transit.Proofs.Stop
import Transit.Proofs.Stop.Order
import Transit.Proofs.Line
import Transit.Proofs.Leg
import Transit.Proofs.Trip
import Transit.Proofs.Trip.Outcome
import Transit.Proofs.Hafas.Token
import Transit.Proofs.Text.Search
import Transit.Proofs.Text.Slice
import Transit.Proofs.Text.Utf8
import Transit.Proofs.Text.Bytes
import Transit.Proofs.Url.Percent
import Transit.Proofs.Url.Path
import Transit.Proofs.Url.Query
import Transit.Proofs.Url.Reader
import Transit.Proofs.Url.Segments
import Transit.Proofs.Hafas.Client
import Transit.Proofs.Hafas.Address
import Transit.Proofs.Hafas.Resolution
import Transit.Proofs.Hafas.Journeys
import Transit.Proofs.Hafas.Recording
import Transit.Proofs.Hafas.Convert
import Transit.Proofs.Hafas.Request
import Transit.Proofs.Hafas.Lookup
import Transit.Proofs.Hafas.Ends
import Transit.Proofs.Hafas.Interleaving
import Transit.Proofs.Hafas.Paging
import Transit.Proofs.Hafas.Payload
import Transit.Proofs.Hafas.Permission
import Transit.Proofs.Hafas.Search
import Transit.Proofs.Hafas.Course
import Transit.Proofs.Hafas.Rejection
import Transit.Proofs.Hafas.Outage
import Transit.Proofs.Hafas.Verdict
import Transit.Proofs.Hafas.Products
import Transit.Proofs.Hafas.Trips
import Transit.Proofs.Polyline
import Transit.Proofs.Polyline.Prefix
import Transit.Proofs.Polyline.Words
import Transit.Proofs.Polyline.Value
import Transit.Proofs.Binary64
import Transit.Proofs.Point
import Transit.Proofs.Hafas.Geometry
import Transit.Proofs.Json.Readable
import Transit.Proofs.Board
import Transit.Proofs.Result
import Transit.Proofs.CommandLine.Listing
import Transit.Proofs.CommandLine.Session
import Transit.Proofs.Json.Alike
import Transit.Proofs.Json.Container
import Transit.Proofs.Hafas.Boards
import Transit.Proofs.Hafas.Journey
import Transit.Proofs.Hafas.LegRecord
import Transit.Proofs.Hafas.Stopovers
import Transit.Proofs.Hafas.LoadBearing
import Transit.Proofs.Hafas.Page
import Transit.Proofs.Hafas.LocationList
import Transit.Proofs.Location.ReadBack
import Transit.Proofs.Result.Ranking
import Transit.Proofs.Hafas.Places
import Transit.Proofs.Triage.Refresh
import Transit.Proofs.Triage.Script
import Transit.Proofs.Triage.Candidates
import Transit.Proofs.Triage.Markers
import Transit.Proofs.Triage.Offsets
import Transit.Proofs.Text.Hexadecimal
import Transit.Proofs.Style
import Transit.Proofs.Hafas.UnknownStation
import Transit.Proofs.Hafas.Retry
import Transit.Proofs.Hafas.StationPath
