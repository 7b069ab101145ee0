import FileChat.Backend.Basic
import FileChat.Backend.Chat
import FileChat.Backend.DryRun
import FileChat.Backend.Load
import FileChat.Backend.Local
import FileChat.Client.FreshId
import FileChat.Client.Scene
import FileChat.Client.Session
import FileChat.Client.Stream
import FileChat.Client.Wait
import FileChat.CommandLine.Client
import FileChat.CommandLine.Daemon
import FileChat.CommandLine.Options
import FileChat.Config.Basic
import FileChat.Config.Environment
import FileChat.Config.Mount
import FileChat.Conversation.Line
import FileChat.Conversation.Message
import FileChat.Conversation.Owed
import FileChat.Conversation.Prompt
import FileChat.Conversation.Response
import FileChat.Daemon.Basic
import FileChat.Daemon.Prepare
import FileChat.Daemon.Run
import FileChat.Files.Edit
import FileChat.Files.Error
import FileChat.Files.Path
import FileChat.Files.System
import FileChat.Http.Credentials
import FileChat.Http.Exchange
import FileChat.Http.Message
import FileChat.Json.Document
import FileChat.Json.Outgoing
import FileChat.Json.Token
import FileChat.Json.Value
import FileChat.Main
import FileChat.Number.Binary
import FileChat.Number.Clock
import FileChat.Number.Duration
import FileChat.Number.Natural
import FileChat.Number.Radix
import FileChat.Program.Client
import FileChat.Program.Daemon
import FileChat.Program.Report
import FileChat.Proofs.Client.Addressing
import FileChat.Proofs.Client.Dialogue
import FileChat.Proofs.Client.Listening
import FileChat.Proofs.Client.Piecemeal
import FileChat.Proofs.Client.Session
import FileChat.Proofs.Client.Transcript
import FileChat.Proofs.CommandLine.Meeting
import FileChat.Proofs.CommandLine.Options
import FileChat.Proofs.CommandLine.Precedence
import FileChat.Proofs.Config.Environment
import FileChat.Proofs.Config.Mount
import FileChat.Proofs.Conversation.Chat
import FileChat.Proofs.Conversation.LastTurn
import FileChat.Proofs.Conversation.Note
import FileChat.Proofs.Conversation.Owed
import FileChat.Proofs.Conversation.Question
import FileChat.Proofs.Conversation.Readers
import FileChat.Proofs.Conversation.Record
import FileChat.Proofs.Conversation.Response
import FileChat.Proofs.Conversation.Script
import FileChat.Proofs.Conversation.Seen
import FileChat.Proofs.Conversation.Shortening
import FileChat.Proofs.Conversation.Turn
import FileChat.Proofs.Conversation.Window
import FileChat.Proofs.Daemon.Hidden
import FileChat.Proofs.Daemon.Moves
import FileChat.Proofs.Daemon.Rest
import FileChat.Proofs.Daemon.Restart
import FileChat.Proofs.Daemon.Served
import FileChat.Proofs.Daemon.WakeUp
import FileChat.Proofs.Files.Directory
import FileChat.Proofs.Files.Operations
import FileChat.Proofs.Files.Path
import FileChat.Proofs.Files.Presence
import FileChat.Proofs.Files.System
import FileChat.Proofs.Lookup
import FileChat.Proofs.Program.Limits
import FileChat.Proofs.Session.Clearing
import FileChat.Proofs.Session.Hidden
import FileChat.Proofs.Session.Listing
import FileChat.Proofs.Session.Recovery
import FileChat.Proofs.Session.Sentinel
import FileChat.Proofs.Session.Store
import FileChat.Proofs.Session.Watch
import FileChat.Proofs.Steps
import FileChat.Proofs.Text.Blank
import FileChat.Proofs.Text.Lines
import FileChat.Proofs.Text.Unfinished
import FileChat.Proofs.Text.Utf8
import FileChat.Proofs.Worker.Answering
import FileChat.Proofs.Worker.Chronicle
import FileChat.Proofs.Worker.Confluence
import FileChat.Proofs.Worker.Course
import FileChat.Proofs.Worker.Drain
import FileChat.Proofs.Worker.Due
import FileChat.Proofs.Worker.Effort
import FileChat.Proofs.Worker.Exclusion
import FileChat.Proofs.Worker.Job
import FileChat.Proofs.Worker.Ledger
import FileChat.Proofs.Worker.LockTable
import FileChat.Proofs.Worker.OwnTurn
import FileChat.Proofs.Worker.Pool
import FileChat.Proofs.Worker.Replies
import FileChat.Proofs.Worker.Reported
import FileChat.Proofs.Worker.Room
import FileChat.Proofs.Worker.Sentinels
import FileChat.Proofs.Worker.Sequence
import FileChat.Proofs.Worker.Settled
import FileChat.Proofs.Worker.Workload
import FileChat.Session.Name
import FileChat.Session.Store
import FileChat.Session.Watch
import FileChat.Text.Blank
import FileChat.Text.CombiningClass
import FileChat.Text.Composition
import FileChat.Text.Direction
import FileChat.Text.Joining
import FileChat.Text.Lines
import FileChat.Text.Mark
import FileChat.Text.Quoted
import FileChat.Text.Table
import FileChat.Text.Utf8
import FileChat.Text.Visible
import FileChat.Url.Basic
import FileChat.Url.DomainName
import FileChat.Url.Host
import FileChat.Url.NameMap
import FileChat.Url.NumericHost
import FileChat.Url.Percent
import FileChat.Url.Punycode
import FileChat.Url.Reader
import FileChat.Url.Segments
import FileChat.Worker.Job
import FileChat.Worker.Locks
import FileChat.Worker.Pool
