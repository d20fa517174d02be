import Raydio.Foundation.Checked
import Raydio.Foundation.Text
import Raydio.Foundation.Json
import Raydio.Foundation.JoinSet
import Raydio.Playback.Admission
import Raydio.Playback.Undo
import Raydio.Voice.Guild
import Raydio.Discord.Request
import Raydio.Views.View
import Raydio.Session.Shared
import Raydio.Session.State
import Raydio.Session.Handlers
import Raydio.Session.Run
import Raydio.Foundation.Trace
import Raydio.Session.Drift
import Raydio.Session.Quiet
import Raydio.Session.Moves
import Raydio.Session.Refinement
import Raydio.Session.Separation
import Raydio.Session.Order
import Raydio.Session.Loaders
import Raydio.Session.Generations
import Raydio.Session.Atomicity
import Raydio.Session.Timers
import Raydio.Session.Agreement
import Raydio.Foundation.Runs
import Raydio.Runtime.Loop
import Raydio.Runtime.Departures
import Raydio.Node.Run
import Raydio.Node.Sessions
import Raydio.Session.Upkeep
import Raydio.Session.Intents
import Raydio.Resolver.Normalize
import Raydio.Session.Authorization
import Raydio.Session.Playlists
import Raydio.Foundation.Keyed
import Raydio.Voice.Gateway
import Raydio.Voice.Listeners
import Raydio.Runtime.Mailboxes
import Raydio.Resolver.Urls
import Raydio.Runtime.Autocomplete
import Raydio.Runtime.Isolation
import Raydio.Session.Ownership
import Raydio.Runtime.Fates
import Raydio.Foundation.Window
import Raydio.Playback.Positions
import Raydio.Playback.Revisit
import Raydio.Playback.Succession
import Raydio.Foundation.Masks
import Raydio.Voice.Precedence
import Raydio.Foundation.Stopwatch
import Raydio.Session.Clock
import Raydio.Session.Lead
import Raydio.Session.Rounds
import Raydio.Session.Watchdog
import Raydio.Voice.Access
import Raydio.Discord.Commands
import Raydio.Foundation.Escaping
import Raydio.Foundation.Utf16
import Raydio.Foundation.Words
import Raydio.Resolver.Filter
import Raydio.Session.Paging
import Raydio.Views.Choices
import Raydio.Session.Answers
import Raydio.Resolver.Schemes
import Raydio.Receiver.Leaving
import Raydio.Deploy.Reporting
import Raydio.Capture.Rows
import Raydio.Receiver.Phase
import Raydio.Startup.Config
import Raydio.Session.Delivery
import Raydio.Voice.Facts
import Raydio.Receiver.Archive
import Raydio.Session.Responses
import Raydio.Session.Buttons
import Raydio.Runtime.Presence
import Raydio.Runtime.Capacity
import Raydio.Receiver.Meter
import Raydio.Deploy.Releases
import Raydio.Runtime.Broadcast
import Raydio.Session.Provenance
import Raydio.Session.Leaving
