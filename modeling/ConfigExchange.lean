import ConfigExchange.Bytes
import ConfigExchange.Cluster
import ConfigExchange.Cluster.Progress
import ConfigExchange.CodecError
import ConfigExchange.Configuration.Body
import ConfigExchange.Configuration.Cache
import ConfigExchange.Configuration.Group
import ConfigExchange.Configuration.Outcome
import ConfigExchange.Configuration.Service
import ConfigExchange.Configuration.Snapshot
import ConfigExchange.Configuration.Source
import ConfigExchange.Connection
import ConfigExchange.Connection.Buffer
import ConfigExchange.Connection.Error
import ConfigExchange.Connection.Lock
import ConfigExchange.Connection.Pool
import ConfigExchange.Duration
import ConfigExchange.Exchange.Error
import ConfigExchange.Exchange.Handshake
import ConfigExchange.Exchange.Reply
import ConfigExchange.Exchange.Requesting
import ConfigExchange.Exchange.Serving
import ConfigExchange.Exchange.Transmission
import ConfigExchange.Frame
import ConfigExchange.Frame.Reading
import ConfigExchange.Frame.Sending
import ConfigExchange.Member
import ConfigExchange.Member.Address
import ConfigExchange.Member.AddressReader
import ConfigExchange.Member.Json
import ConfigExchange.Member.JsonText
import ConfigExchange.Message
import ConfigExchange.Message.Cursor
import ConfigExchange.Message.Decoding
import ConfigExchange.Message.Encoding
import ConfigExchange.MessagePack.Reader
import ConfigExchange.MessagePack.Value
import ConfigExchange.NameMap
import ConfigExchange.Proofs.MessagePack
import ConfigExchange.Proofs.NameMap
import ConfigExchange.Scenario.Action
import ConfigExchange.Scenario.Answer
import ConfigExchange.Scenario.Job
import ConfigExchange.Scenario.Progress
import ConfigExchange.Scenario.Run
import ConfigExchange.Scenario.Start
import ConfigExchange.Session
import ConfigExchange.Settings
import ConfigExchange.Signal
import ConfigExchange.Site
import ConfigExchange.Stream.Channel
import ConfigExchange.Stream.Feed
import ConfigExchange.Stream.IoError
import ConfigExchange.Stream.Link
import ConfigExchange.Stream.Socket
import ConfigExchange.Text
import ConfigExchange.Version
import ConfigExchange.Proofs.Body
import ConfigExchange.Proofs.Groups
import ConfigExchange.Proofs.Message
import ConfigExchange.Proofs.Store
import ConfigExchange.Proofs.Freshness
import ConfigExchange.Proofs.Cluster.Basic
import ConfigExchange.Proofs.Cluster.Turn
import ConfigExchange.Proofs.Cluster.Run
import ConfigExchange.Proofs.Cluster.Log
import ConfigExchange.Proofs.Cluster.Sends
import ConfigExchange.Proofs.Cluster.Reply
import ConfigExchange.Proofs.Locator
import ConfigExchange.Proofs.Transparency
import ConfigExchange.Proofs.Cluster.Alone
import ConfigExchange.Proofs.Cluster.Errand
import ConfigExchange.Proofs.Serving.Reply
import ConfigExchange.Proofs.Serving.Run
import ConfigExchange.Proofs.Serving.Answers
import ConfigExchange.Proofs.Frame.Reading
import ConfigExchange.Proofs.Dialogue.Party
import ConfigExchange.Proofs.Dialogue.Line
import ConfigExchange.Proofs.Dialogue.Calls
import ConfigExchange.Proofs.Message.Parsing
import ConfigExchange.Proofs.Message.Grammar
import ConfigExchange.Proofs.Message.Canonical
import ConfigExchange.Proofs.Cluster.Trace
import ConfigExchange.Proofs.Cluster.Closing
import ConfigExchange.Proofs.Cluster.Order
import ConfigExchange.Proofs.Cluster.Serial
import ConfigExchange.Proofs.Cluster.Traffic
import ConfigExchange.Proofs.Cluster.Claims
import ConfigExchange.Proofs.Cluster.Deed
import ConfigExchange.Proofs.Cluster.Accounts
import ConfigExchange.Proofs.Cluster.Exchange
import ConfigExchange.Proofs.Cluster.Affairs
import ConfigExchange.Proofs.Cluster.Balance
import ConfigExchange.Proofs.Cluster.Shares
import ConfigExchange.Proofs.Cluster.Stopping
import ConfigExchange.Proofs.Cluster.Shutdown
import ConfigExchange.Proofs.Handshake.Side
import ConfigExchange.Proofs.Handshake.Agreement
import ConfigExchange.Proofs.Frame.Stream
import ConfigExchange.Proofs.Frame.RoundTrip
import ConfigExchange.Proofs.MessagePack.Reader
import ConfigExchange.Proofs.Body.Repeats
import ConfigExchange.Proofs.Body.Forms
import ConfigExchange.Proofs.Frame.Division
import ConfigExchange.Proofs.Cache.Recency
import ConfigExchange.Proofs.Frame.Script
import ConfigExchange.Proofs.Cluster.Release
import ConfigExchange.Proofs.Cluster.Passage
import ConfigExchange.Proofs.Sending.Writer
import ConfigExchange.Proofs.Sending.Verdict
import ConfigExchange.Proofs.Sending.Answer
import ConfigExchange.Proofs.Requesting.Reading
import ConfigExchange.Proofs.Requesting.Outcome
import ConfigExchange.Proofs.Service.Life
import ConfigExchange.Proofs.Store.History
import ConfigExchange.Proofs.Message.Lengths
import ConfigExchange.Proofs.Sending.Header
import ConfigExchange.Proofs.Restriction
import ConfigExchange.Proofs.Message.Takes
