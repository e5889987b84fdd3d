import Messenger.Cache
import Messenger.Cli
import Messenger.Cli.Arguments
import Messenger.Cli.Invocation
import Messenger.Daemon
import Messenger.Directory
import Messenger.Endpoint
import Messenger.Event.Classify
import Messenger.File
import Messenger.Gateway
import Messenger.Gateway.Delivery
import Messenger.Gateway.Directories
import Messenger.Gateway.Error
import Messenger.Group
import Messenger.Identity
import Messenger.Json.Decode
import Messenger.Json.Merge
import Messenger.Json.Read
import Messenger.Json.Render
import Messenger.Json.Skim
import Messenger.Json.Value
import Messenger.Listener
import Messenger.Log
import Messenger.Main
import Messenger.Message
import Messenger.Message.Codec
import Messenger.Number.Binary64
import Messenger.Number.Scaled
import Messenger.Number.Shortest
import Messenger.Outbound
import Messenger.Registry
import Messenger.Rpc.Error
import Messenger.Rpc.Reply
import Messenger.Rpc.Request
import Messenger.Settings
import Messenger.Settings.Layers
import Messenger.Status
import Messenger.Stream.Connection
import Messenger.Stream.Framer
import Messenger.Stream.Line
import Messenger.Stream.Lines
import Messenger.Stream.Worker
import Messenger.Text.Ascii
import Messenger.Text.Base64
import Messenger.Text.Blank
import Messenger.Text.CaseTable
import Messenger.Text.Compose
import Messenger.Text.ComposeTable
import Messenger.Text.Cut
import Messenger.Text.Lowercase
import Messenger.Text.Percent
import Messenger.Text.Table
import Messenger.Text.Utf8
import Messenger.Url
import Messenger.Url.Domain
import Messenger.Url.Host
import Messenger.Url.Ipv4
import Messenger.Url.Ipv6
import Messenger.Url.LabelTable
import Messenger.Url.MappingTable
import Messenger.Url.Punycode
import Messenger.Proofs.Registry.Marks
import Messenger.Proofs.Registry.Round
import Messenger.Proofs.Registry.Life
import Messenger.Proofs.Registry.Place
import Messenger.Proofs.Registry.Order
import Messenger.Proofs.Registry.CatchUp
import Messenger.Proofs.Registry.Reentry
import Messenger.Proofs.Stream.Chunks
import Messenger.Proofs.Stream.Feed
import Messenger.Proofs.Stream.Reconnect
import Messenger.Proofs.Stream.Run
import Messenger.Proofs.Json.Decode
import Messenger.Proofs.Json.Order
import Messenger.Proofs.Json.Path
import Messenger.Proofs.Rpc.Reply
import Messenger.Proofs.Rpc.Acceptance
import Messenger.Proofs.Gateway.Transcript
import Messenger.Proofs.Gateway.Sending
import Messenger.Proofs.Cache.Accounts
import Messenger.Proofs.Rpc.Renumbered
import Messenger.Proofs.Cache.Shift
import Messenger.Proofs.Cache.Slow
import Messenger.Proofs.Stream.Parametric
import Messenger.Proofs.Gateway.Impartial
import Messenger.Proofs.Gateway.Alike
import Messenger.Proofs.Gateway.Forgetting
import Messenger.Proofs.Json.Plain
import Messenger.Proofs.Gateway.Telling
import Messenger.Proofs.Registry.Uninterrupted
import Messenger.Proofs.Text.Utf8
import Messenger.Proofs.Stream.Wire
import Messenger.Proofs.Stream.Workers
import Messenger.Proofs.Gateway.Moves
import Messenger.Proofs.Gateway.Lifecycle
import Messenger.Proofs.Gateway.Gating
import Messenger.Proofs.Stream.Whole
import Messenger.Proofs.Stream.Cut
import Messenger.Proofs.Stream.Insertion
import Messenger.Proofs.Json.Merge
import Messenger.Proofs.Text.Numeral
import Messenger.Proofs.Settings.Document
import Messenger.Proofs.Settings.Layers
import Messenger.Proofs.Settings.Loading
import Messenger.Proofs.Url.Domain
import Messenger.Proofs.Url.Authority
import Messenger.Proofs.Url.Path
import Messenger.Proofs.Url.Parts
import Messenger.Proofs.Endpoint
import Messenger.Proofs.Event.Said
import Messenger.Proofs.Rpc.Numbering
import Messenger.Proofs.Stream.Moments
import Messenger.Proofs.Stream.Discipline
import Messenger.Proofs.Stream.Accounts
import Messenger.Proofs.Json.Spelling
import Messenger.Proofs.Json.Legible
import Messenger.Proofs.Json.Faithful
import Messenger.Proofs.Json.Orderless
import Messenger.Proofs.Json.RoundTrip
import Messenger.Proofs.Codec.Message
import Messenger.Proofs.Codec.Records
import Messenger.Proofs.Registry.History
import Messenger.Proofs.Registry.Isolation
import Messenger.Proofs.Registry.Newest
import Messenger.Proofs.Directory
import Messenger.Proofs.Cache.Titles
import Messenger.Proofs.Event.Enriched
import Messenger.Proofs.Registry.Seniority
import Messenger.Proofs.Text.Strict
import Messenger.Proofs.Stream.Splitting
import Messenger.Proofs.Stream.Release
import Messenger.Proofs.Json.Overlay
import Messenger.Proofs.Directory.Lookup
import Messenger.Proofs.Directory.Naming
import Messenger.Proofs.Directory.Reload
import Messenger.Proofs.Cache.Contents
import Messenger.Proofs.Text.Percent
import Messenger.Proofs.Text.Base64
import Messenger.Proofs.Outbound
import Messenger.Proofs.Text.Cut
import Messenger.Proofs.Event.Accounted
import Messenger.Proofs.Registry.Removal
import Messenger.Proofs.Registry.Dropping
import Messenger.Proofs.Gateway.Shared
import Messenger.Proofs.Gateway.Alone
import Messenger.Proofs.Gateway.Overlap
