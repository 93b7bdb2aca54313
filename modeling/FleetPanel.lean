import FleetPanel.Address.Basic
import FleetPanel.Address.Reader
import FleetPanel.Amount.Dollars
import FleetPanel.Amount.Field
import FleetPanel.Amount.Numeral
import FleetPanel.Api.Filter
import FleetPanel.Api.Reading
import FleetPanel.Api.Resource
import FleetPanel.Api.Server
import FleetPanel.Binary64.Basic
import FleetPanel.Binary64.Literal
import FleetPanel.Binary64.Nearest
import FleetPanel.Binary64.Shortest
import FleetPanel.Config.Load
import FleetPanel.Config.Options
import FleetPanel.Config.Seconds
import FleetPanel.Config.Settings
import FleetPanel.Config.Surroundings
import FleetPanel.Decimal
import FleetPanel.Exports.File
import FleetPanel.Exports.Listing
import FleetPanel.Exports.Snapshot
import FleetPanel.Fleet.Enumeration
import FleetPanel.Fleet.Fault
import FleetPanel.Fleet.Field
import FleetPanel.Fleet.Instance
import FleetPanel.Fleet.Node
import FleetPanel.Fleet.Status
import FleetPanel.Http.Answer
import FleetPanel.Http.MediaKinds
import FleetPanel.Http.MediaType
import FleetPanel.Http.Percent
import FleetPanel.Http.Query
import FleetPanel.Http.Route
import FleetPanel.Http.Site
import FleetPanel.Http.Target
import FleetPanel.Json.Basic
import FleetPanel.Json.Compact
import FleetPanel.Json.Fault
import FleetPanel.Json.Number
import FleetPanel.Json.Reader
import FleetPanel.Live.Calm
import FleetPanel.Live.Message
import FleetPanel.Live.Session
import FleetPanel.Live.Step
import FleetPanel.Live.World
import FleetPanel.Main
import FleetPanel.Path
import FleetPanel.Table.Cell
import FleetPanel.Table.Column
import FleetPanel.Table.Rows
import FleetPanel.Table.View
import FleetPanel.Text.Blank
import FleetPanel.Text.Digits
import FleetPanel.Text.Hidden
import FleetPanel.Text.Quoted
import FleetPanel.Text.Raw
import FleetPanel.Text.Utf8
import FleetPanel.Time.Date
import FleetPanel.Time.Instant
import FleetPanel.Time.Relaxed
import FleetPanel.Time.Strict
import FleetPanel.Time.Text
import FleetPanel.Toml.Basic
import FleetPanel.Toml.Moment
import FleetPanel.Toml.Number
import FleetPanel.Toml.Reader
import FleetPanel.Toml.Text
import FleetPanel.Proofs.Live.Effect
import FleetPanel.Proofs.Live.Run
import FleetPanel.Proofs.Live.Lock
import FleetPanel.Proofs.Live.Told
import FleetPanel.Proofs.Live.Sockets
import FleetPanel.Proofs.Live.Order
import FleetPanel.Proofs.Live.History
import FleetPanel.Proofs.Live.Lag
import FleetPanel.Proofs.Live.Overlap
import FleetPanel.Proofs.Live.Watch
import FleetPanel.Proofs.Text.Digits
import FleetPanel.Proofs.Decimal.Plain
import FleetPanel.Proofs.Binary64.Magnitude
import FleetPanel.Proofs.Binary64.Rounding
import FleetPanel.Proofs.Binary64.Grid
import FleetPanel.Proofs.Binary64.Shortest
import FleetPanel.Proofs.Text.Octets
import FleetPanel.Proofs.Amount.Dollars
import FleetPanel.Proofs.Amount.Numeral
import FleetPanel.Proofs.Amount.Scan
import FleetPanel.Proofs.Amount.Longest
import FleetPanel.Proofs.Amount.Cents
import FleetPanel.Proofs.Api.Inquiry
import FleetPanel.Proofs.Binary64.Crossover
import FleetPanel.Proofs.Binary64.Product
import FleetPanel.Proofs.Amount.Stable
import FleetPanel.Proofs.Exports.Listing
import FleetPanel.Proofs.Live.Loads
import FleetPanel.Proofs.Live.Messages
import FleetPanel.Proofs.Json.Grammar
import FleetPanel.Proofs.Json.Numbers
import FleetPanel.Proofs.Json.Texts
import FleetPanel.Proofs.Json.Values
import FleetPanel.Proofs.Json.Range
import FleetPanel.Proofs.Exports.Arrays
import FleetPanel.Proofs.Amount.Order
import FleetPanel.Proofs.Fleet.Written
import FleetPanel.Proofs.Api.Served
import FleetPanel.Proofs.Live.Promises
import FleetPanel.Proofs.Live.Moments
import FleetPanel.Proofs.Time.Calendar
import FleetPanel.Proofs.Time.Shift
import FleetPanel.Proofs.Time.Spelling
import FleetPanel.Proofs.Time.Lenient
import FleetPanel.Proofs.Time.Exact
import FleetPanel.Proofs.Fleet.Names
import FleetPanel.Proofs.Fleet.Fields
import FleetPanel.Proofs.Json.Integers
import FleetPanel.Proofs.Fleet.Records
import FleetPanel.Proofs.Fleet.Positions
import FleetPanel.Proofs.Text.Encoded
import FleetPanel.Proofs.Text.Decoded
import FleetPanel.Proofs.Http.Form
import FleetPanel.Proofs.Api.Selected
import FleetPanel.Proofs.Table.Minutes
import FleetPanel.Proofs.Table.Alike
import FleetPanel.Proofs.Time.Elapsed
import FleetPanel.Proofs.Fleet.Age
import FleetPanel.Proofs.Api.Stale
import FleetPanel.Proofs.Http.Paths
import FleetPanel.Proofs.Http.Segments
import FleetPanel.Proofs.Api.Lookup
import FleetPanel.Proofs.Live.Sites
import FleetPanel.Proofs.Binary64.Wholes
import FleetPanel.Proofs.Amount.Integers
import FleetPanel.Proofs.Config.Seconds
import FleetPanel.Proofs.Config.Files
import FleetPanel.Proofs.Config.Layers
