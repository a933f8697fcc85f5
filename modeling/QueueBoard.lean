import QueueBoard.Listing.Form
import QueueBoard.Main
import QueueBoard.Screen.Session
import QueueBoard.Proofs.Poller.Moves
import QueueBoard.Proofs.Poller.Runs
import QueueBoard.Proofs.Poller.Ledger
import QueueBoard.Proofs.Poller.Newest
import QueueBoard.Proofs.Poller.Notices
import QueueBoard.Proofs.Poller.Histories
import QueueBoard.Proofs.Poller.Live
import QueueBoard.Proofs.Poller.LateReleases
import QueueBoard.Proofs.Poller.Barrier
import QueueBoard.Proofs.Json.Texts
import QueueBoard.Proofs.Json.Scalars
import QueueBoard.Proofs.Json.Values
import QueueBoard.Proofs.Listing.States
import QueueBoard.Proofs.Listing.Records
import QueueBoard.Proofs.Listing.Decoding
import QueueBoard.Proofs.Poller.Timing
import QueueBoard.Proofs.Screen.Drawings
import QueueBoard.Proofs.Screen.Sessions
import QueueBoard.Proofs.Board.History
import QueueBoard.Proofs.Listing.Entries
import QueueBoard.Proofs.Screen.Rows
import QueueBoard.Proofs.Poller.Breaks
import QueueBoard.Proofs.Fetch.Replies
import QueueBoard.Proofs.Fetch.Classes
import QueueBoard.Proofs.Text.Controls
import QueueBoard.Proofs.Screen.Refusals
import QueueBoard.Proofs.Http.Hosts
import QueueBoard.Proofs.Http.Addresses
import QueueBoard.Proofs.Fetch.Messages
import QueueBoard.Proofs.Screen.Outages
import QueueBoard.Proofs.Listing.Edits
import QueueBoard.Proofs.Listing.Prefixes
import QueueBoard.Proofs.Json.Rewritings
import QueueBoard.Proofs.Poller.Passing
import QueueBoard.Proofs.Poller.Schedules
import QueueBoard.Proofs.Poller.LateTicks
import QueueBoard.Proofs.Poller.Store
import QueueBoard.Proofs.Poller.Outcomes
import QueueBoard.Proofs.Poller.ReleaseOrder
import QueueBoard.Proofs.Poller.CycleLog
import QueueBoard.Proofs.Poller.Refusals
import QueueBoard.Proofs.Poller.Prompt
import QueueBoard.Proofs.Screen.Transcripts
import QueueBoard.Proofs.Monitor.DeadEndpoints
import QueueBoard.Proofs.Board.Labels
import QueueBoard.Proofs.Board.Times
import QueueBoard.Proofs.Screen.Words
import QueueBoard.Proofs.Screen.Lines
import QueueBoard.Proofs.Screen.Colors
import QueueBoard.Proofs.Settings.Numbers
import QueueBoard.Proofs.Settings.Modes
import QueueBoard.Proofs.Settings.Environments
import QueueBoard.Proofs.Settings.Endpoints
