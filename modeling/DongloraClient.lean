import DongloraClient.Foundation.Machine
import DongloraClient.Foundation.Program
import DongloraClient.Foundation.Locks
import DongloraClient.Foundation.Rest
import DongloraClient.Foundation.Progress
import DongloraClient.Foundation.Delimited
import DongloraClient.Protocol
import DongloraClient.Errors
import DongloraClient.Session.Dispatch
import DongloraClient.Session.ReaderLoop
import DongloraClient.Session.Machine
import DongloraClient.Session.Transitions
import DongloraClient.Session.Ownership
import DongloraClient.Session.Correlation
import DongloraClient.Session.Shutdown
import DongloraClient.Session.Tags
import DongloraClient.Session.TagSequence
import DongloraClient.Session.Exchange
import DongloraClient.Session.Progress
import DongloraClient.Session.Events
import DongloraClient.Session.Writer
import DongloraClient.Session.Reception
import DongloraClient.Effects
import DongloraClient.Session.Commands
import DongloraClient.Session.Routines
import DongloraClient.Dongle.Operations
import DongloraClient.Dongle.Retry
import DongloraClient.Dongle.Sequential
import DongloraClient.Dongle.ReceiveMode
import DongloraClient.Dongle.CommandLog
import DongloraClient.Dongle.TransmitLog
import DongloraClient.Dongle.Transmission
import DongloraClient.Connect.Selection
import DongloraClient.Connect.Options
import DongloraClient.Connect.Endpoint
import DongloraClient.Connect.Choice
import DongloraClient.Connect.Stickiness
import DongloraClient.Connect.Agreement
import DongloraClient.Connect.Reconnect
import DongloraClient.Connect.Configuration
import DongloraClient.Connect.Handshake
import DongloraClient.Connect.FailedHandshake
import DongloraClient.Dongle.CachedConfig
import DongloraClient.Dongle.Recovery
import DongloraClient.Dongle.Concurrent
import DongloraClient.Dongle.Repertoire
import DongloraClient.Dongle.LockOrder
import DongloraClient.Dongle.Closing
import DongloraClient.Dongle.ModeProgress
import DongloraClient.Dongle.ConcurrentMode
import DongloraClient.Dongle.Deadlock
import DongloraClient.Dongle.Rest
import DongloraClient.Dongle.Conduct
import DongloraClient.Dongle.Dropping
import DongloraClient.Dongle.Exclusion
import DongloraClient.Dongle.Receipts
import DongloraClient.Dongle.Device
import DongloraClient.Dongle.Resets
import DongloraClient.Dongle.Keepalive
import DongloraClient.Connect.Establishment
