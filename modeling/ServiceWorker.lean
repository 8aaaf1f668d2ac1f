import ServiceWorker.Cache.Key
import ServiceWorker.Cache.Load
import ServiceWorker.Cache.Row
import ServiceWorker.Cache.Scope
import ServiceWorker.Cache.Store
import ServiceWorker.CommandLine.Arguments
import ServiceWorker.CommandLine.Run
import ServiceWorker.CommandLine.Shell
import ServiceWorker.Config.Basic
import ServiceWorker.Config.Load
import ServiceWorker.Config.Reading
import ServiceWorker.Decimal.Binary64
import ServiceWorker.Decimal.Digits
import ServiceWorker.Decimal.Shortest
import ServiceWorker.Digest.Checksum
import ServiceWorker.Digest.Sha256
import ServiceWorker.Files.Tree
import ServiceWorker.Http.Failure
import ServiceWorker.Http.Format
import ServiceWorker.Http.Message
import ServiceWorker.Json.Basic
import ServiceWorker.Json.Equality
import ServiceWorker.Json.Fault
import ServiceWorker.Json.Numeral
import ServiceWorker.Json.Printer
import ServiceWorker.Json.Quoted
import ServiceWorker.Json.Reading
import ServiceWorker.Json.Tree
import ServiceWorker.Lifecycle
import ServiceWorker.Main
import ServiceWorker.Network.Exchange
import ServiceWorker.Network.Inflate
import ServiceWorker.Network.Routes
import ServiceWorker.Network.Wire.Body
import ServiceWorker.Network.Wire.Head
import ServiceWorker.Notification.Basic
import ServiceWorker.Notification.Click
import ServiceWorker.Notification.Format
import ServiceWorker.PageMessage
import ServiceWorker.Platform.Basic
import ServiceWorker.Platform.Format
import ServiceWorker.Program
import ServiceWorker.Proofs.Cache.Assets
import ServiceWorker.Proofs.Cache.Batch
import ServiceWorker.Proofs.Cache.Commuting
import ServiceWorker.Proofs.Cache.Contents
import ServiceWorker.Proofs.Cache.Damage
import ServiceWorker.Proofs.Cache.Flushing
import ServiceWorker.Proofs.Cache.Fragments
import ServiceWorker.Proofs.Cache.Key
import ServiceWorker.Proofs.Cache.Loading
import ServiceWorker.Proofs.Cache.Loads
import ServiceWorker.Proofs.Cache.Overlay
import ServiceWorker.Proofs.Cache.Refinement
import ServiceWorker.Proofs.Cache.Row
import ServiceWorker.Proofs.Cache.Sharing
import ServiceWorker.Proofs.Cache.Shelf
import ServiceWorker.Proofs.Cache.Store
import ServiceWorker.Proofs.Cache.Underway
import ServiceWorker.Proofs.Config.Agreement
import ServiceWorker.Proofs.Config.Origin
import ServiceWorker.Proofs.Config.Telling
import ServiceWorker.Proofs.Decimal
import ServiceWorker.Proofs.History.Basic
import ServiceWorker.Proofs.History.Conduct
import ServiceWorker.Proofs.History.Effect
import ServiceWorker.Proofs.History.Ending
import ServiceWorker.Proofs.History.Erasure
import ServiceWorker.Proofs.History.InTurn
import ServiceWorker.Proofs.History.Pact
import ServiceWorker.Proofs.History.Recording
import ServiceWorker.Proofs.History.Sequel
import ServiceWorker.Proofs.History.Turning
import ServiceWorker.Proofs.Json.Dictionary
import ServiceWorker.Proofs.Json.Grammar
import ServiceWorker.Proofs.Json.Lexeme
import ServiceWorker.Proofs.Json.Memory
import ServiceWorker.Proofs.Json.Normal
import ServiceWorker.Proofs.Json.Numeral
import ServiceWorker.Proofs.Json.Parsing
import ServiceWorker.Proofs.Json.Printing
import ServiceWorker.Proofs.Json.Quoted
import ServiceWorker.Proofs.Json.Reading
import ServiceWorker.Proofs.Json.Restoring
import ServiceWorker.Proofs.Json.Typed
import ServiceWorker.Proofs.Lists
import ServiceWorker.Proofs.Notification.Clicking
import ServiceWorker.Proofs.Notification.Targeting
import ServiceWorker.Proofs.PageMessage
import ServiceWorker.Proofs.Platform.Course
import ServiceWorker.Proofs.Platform.Journal
import ServiceWorker.Proofs.Platform.Tray
import ServiceWorker.Proofs.Platform.Windows
import ServiceWorker.Proofs.Push.Badge
import ServiceWorker.Proofs.Push.Calling
import ServiceWorker.Proofs.Push.Decoding
import ServiceWorker.Proofs.Push.Meaning
import ServiceWorker.Proofs.Push.Order
import ServiceWorker.Proofs.Push.Routing
import ServiceWorker.Proofs.Push.Snapshot
import ServiceWorker.Proofs.Replay.Chronicle
import ServiceWorker.Proofs.Replay.Ending
import ServiceWorker.Proofs.Replay.Output
import ServiceWorker.Proofs.Replay.Passage
import ServiceWorker.Proofs.Rounds
import ServiceWorker.Proofs.Script.Lines
import ServiceWorker.Proofs.Script.Payload
import ServiceWorker.Proofs.Text.Hex
import ServiceWorker.Proofs.Time.Date
import ServiceWorker.Proofs.Url.Fragment
import ServiceWorker.Proofs.Wire
import ServiceWorker.Proofs.Worker.Activation
import ServiceWorker.Proofs.Worker.Arrival
import ServiceWorker.Proofs.Worker.Clearing
import ServiceWorker.Proofs.Worker.DeepLinks
import ServiceWorker.Proofs.Worker.Fallout
import ServiceWorker.Proofs.Worker.Fetching
import ServiceWorker.Proofs.Worker.Handlers
import ServiceWorker.Proofs.Worker.Healing
import ServiceWorker.Proofs.Worker.Installation
import ServiceWorker.Proofs.Worker.Life
import ServiceWorker.Proofs.Worker.Lifecycle
import ServiceWorker.Proofs.Worker.LifecycleLaw
import ServiceWorker.Proofs.Worker.Messages
import ServiceWorker.Proofs.Worker.Openings
import ServiceWorker.Proofs.Worker.Provenance
import ServiceWorker.Proofs.Worker.Retention
import ServiceWorker.Proofs.Worker.Served
import ServiceWorker.Proofs.Worker.Sides
import ServiceWorker.Proofs.Worker.Waiting
import ServiceWorker.Proofs.Worker.Writing
import ServiceWorker.Proofs.Yaml.Likeness
import ServiceWorker.Push.Badge
import ServiceWorker.Push.Notice
import ServiceWorker.Push.Payload
import ServiceWorker.Push.Route
import ServiceWorker.Replay
import ServiceWorker.Replay.Format
import ServiceWorker.Rounds
import ServiceWorker.Script.Event
import ServiceWorker.Script.Source
import ServiceWorker.Text.Blank
import ServiceWorker.Text.Debug
import ServiceWorker.Text.Dictionary
import ServiceWorker.Text.Encoding
import ServiceWorker.Text.Hex
import ServiceWorker.Text.Symbol
import ServiceWorker.Time.Instant
import ServiceWorker.Time.Reading
import ServiceWorker.Url.Address
import ServiceWorker.Url.Basic
import ServiceWorker.Url.Domain.Ascii
import ServiceWorker.Url.Domain.Composition
import ServiceWorker.Url.Domain.Direction
import ServiceWorker.Url.Domain.Joining
import ServiceWorker.Url.Domain.Mapping
import ServiceWorker.Url.Domain.Punycode
import ServiceWorker.Url.Domain.Table
import ServiceWorker.Url.Host
import ServiceWorker.Url.Origin
import ServiceWorker.Url.Parse
import ServiceWorker.Url.Path
import ServiceWorker.Url.Percent
import ServiceWorker.Url.Problem
import ServiceWorker.Worker
import ServiceWorker.World
import ServiceWorker.Yaml.Equality
import ServiceWorker.Yaml.Node
import ServiceWorker.Yaml.Scalar
import ServiceWorker.Yaml.Tag
import ServiceWorker.Yaml.Text
import ServiceWorker.Yaml.Token
import ServiceWorker.Yaml.Token.Lexer
