import EventsAggregator.Services.Accounting
import EventsAggregator.Services.Atomicity
import EventsAggregator.Services.Progress
import EventsAggregator.Services.Idempotency
import EventsAggregator.Clients.SeatProvider
import EventsAggregator.Services.Offers
import EventsAggregator.Services.Orphans
import EventsAggregator.Services.Gate
import EventsAggregator.Services.Withdrawals
import EventsAggregator.Services.Retry
import EventsAggregator.Clients.Capashino
import EventsAggregator.Db.Outbox
import EventsAggregator.Services.OutboxPublisher
import EventsAggregator.Services.Deliveries
import EventsAggregator.Services.OutboxRows
import EventsAggregator.Services.Outcomes
import EventsAggregator.Services.Notifications
import EventsAggregator.Clients.EventsPages
import EventsAggregator.Db.Sync
import EventsAggregator.Relational.Revisions
import EventsAggregator.Services.Sync
import EventsAggregator.Services.Freshness
import EventsAggregator.Services.RequestHash
import EventsAggregator.Relational.Paging
import EventsAggregator.Values.Dates
import EventsAggregator.Db.Events
import EventsAggregator.Services.Listing
import EventsAggregator.Api.Events
import EventsAggregator.Api.Links
import EventsAggregator.Services.Pages
import EventsAggregator.Services.SyncCalls
import EventsAggregator.Services.Cursor
import EventsAggregator.Services.Batches
import EventsAggregator.Services.Feeds
import EventsAggregator.Services.Repeats
import EventsAggregator.Services.RunningStatus
import EventsAggregator.Services.CursorOrder
import EventsAggregator.Services.Cancellations
import EventsAggregator.Services.Lifecycle
import EventsAggregator.Services.Replays
import EventsAggregator.Clients.Pagination
import EventsAggregator.Values.Floats
import EventsAggregator.Clients.EventsProvider
import EventsAggregator.Clients.Normalisation
import EventsAggregator.Clients.Traversal
import EventsAggregator.Services.Iterations
import EventsAggregator.Services.Waiting
import EventsAggregator.Services.Coherence
import EventsAggregator.Db.Columns
import EventsAggregator.Services.Stalls
import EventsAggregator.Streams.Buffered
import EventsAggregator.Services.Flushes
import EventsAggregator.Values.Doubles
import EventsAggregator.Api.ExceptionHandlers
import EventsAggregator.Api.RateLimits
import EventsAggregator.Services.SyncCallers
import EventsAggregator.Api.Sync
import EventsAggregator.Services.Application
import EventsAggregator.Services.Announcements
import EventsAggregator.Services.Lifespan
import EventsAggregator.Services.TimedSeats
import EventsAggregator.Db.Migrations
import EventsAggregator.Values.ConfigParser
import EventsAggregator.Db.DatabaseUrl
import EventsAggregator.Services.Commits
import EventsAggregator.Services.SeatSales
import EventsAggregator.Services.EventViews
import EventsAggregator.Relational.Growth
import EventsAggregator.Api.PageWalks
import EventsAggregator.Services.Connections
