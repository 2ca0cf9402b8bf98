import EventsAggregator.Clients.EventsPages
import EventsAggregator.Db.Sync
import EventsAggregator.Relational.Revisions
import EventsAggregator.Transition.Run
import Mathlib.Logic.Function.Basic

namespace EventsAggregator

open Relational Transition

def utcDate (instant : Instant) : Int := instant / microsecondsPerDay

theorem utcDate_mono {instant later : Instant} (before : instant ≤ later) :
    utcDate instant ≤ utcDate later :=
  Int.ediv_le_ediv (by decide) before

structure SyncSettings where
  syncBatchSize : Int
  syncFirstDate : Nat

def SyncSettings.firstInstant (settings : SyncSettings) : Instant :=
  settings.syncFirstDate * microsecondsPerDay

structure SyncResult where
  syncedCount : Nat
  startedAt : Instant
  finishedAt : Instant
  lastChangedAt : Instant
  full : Bool
  deriving DecidableEq

structure Fetch where
  changedAt : Instant
  total : Nat
  maxChangedAt : Option Instant
  batch : List SProviderEvent
  pagesSeen : Nat

/-- Where a call of `SyncService.sync` is suspended. `page` are the events of the current page
    that the loop has not come to. -/
inductive SyncPoint
  | getMeta
  | markRunning (changedAt : Instant)
  | fetching (fetch : Fetch) (url : Option String)
  | iterating (fetch : Fetch) (page : List SProviderEvent) (next : Option String)
  | storing (fetch : Fetch) (page : List SProviderEvent) (next : Option String)
  | storingLast (fetch : Fetch)
  | markSuccess (fetch : Fetch) (finishedAt : Instant)
  | markFailure (error : Raised)

def Raised.str : Raised → Text
  | .domain error => error.message
  | .client error => error.message
  | .other description => description

namespace SyncService

def toRow (event : SProviderEvent) (syncedAt : Instant) : EventRow where
  id := event.id
  name := event.name
  status := event.status
  placeId := event.place.id
  placeName := event.place.name
  placeCity := event.place.city
  placeAddress := event.place.address
  seatsPattern := event.place.seatsPattern
  eventTime := event.eventTime
  registrationDeadline := event.registrationDeadline
  numberOfVisitors := event.numberOfVisitors
  changedAt := event.changedAt
  syncedAt

def startFrom (settings : SyncSettings) (full : Bool) (metadata : SyncMetadataORM) : Instant :=
  match full, metadata.lastChangedAt with
  | false, some changedAt => changedAt
  | _, _ => settings.firstInstant

def newChangedAt (fetch : Fetch) : Instant := fetch.maxChangedAt.getD fetch.changedAt

def take (fetch : Fetch) (event : SProviderEvent) : Fetch :=
  { fetch with
    batch := fetch.batch ++ [event]
    maxChangedAt :=
      match fetch.maxChangedAt with
      | none => some event.changedAt
      | some latest => some (if latest < event.changedAt then event.changedAt else latest) }

def iterate (settings : SyncSettings) (paginator : EventsPaginator) (now : Instant) (fetch : Fetch)
    (next : Option String) : List SProviderEvent → SyncPoint
  | event :: page =>
    let fetch := take fetch event
    if settings.syncBatchSize ≤ fetch.batch.length then .storing fetch page next
    else .iterating fetch page next
  | [] =>
    match paginator.follow fetch.pagesSeen next with
    | .error error => .markFailure (.client error)
    | .ok (some url) => .fetching fetch (some url)
    | .ok none => if fetch.batch.isEmpty then .markSuccess fetch now else .storingLast fetch

def rows (startedAt : Instant) (fetch : Fetch) : List EventRow :=
  fetch.batch.map fun event => toRow event startedAt

def stored (fetch : Fetch) : Fetch :=
  { fetch with total := fetch.total + fetch.batch.length, batch := [] }

end SyncService

def SyncPoint.guarded : SyncPoint → Bool
  | .fetching .. | .iterating .. | .storing .. | .storingLast .. => true
  | _ => false

/-- A running sync. What the provider had when it started and what its pages have shown since,
    each event with the number of its revision, is not known to the code. -/
structure SyncTask where
  full : Bool
  startedAt : Instant
  point : SyncPoint
  started : UUID → List SProviderEvent
  shown : List (SProviderEvent × Nat)

/-- The provider's events with all their revisions, newest first, and one syncing process. -/
structure SyncState where
  revisions : UUID → List SProviderEvent
  now : Instant
  events : Table EventORM.id
  metadata : Option SyncMetadataORM
  task : Option SyncTask

inductive SyncAction
  | change (event : SProviderEvent)
  | tick (now : Instant)
  | start (full : Bool)
  | getMeta
  | markRunning
  | page (page : EventsPage)
  | iterate
  | store
  | storeLast
  | fail (error : Raised)
  | succeed (result : SyncResult)
  | recordFailure
  | abandon

/-- What the last page of a sync must have been preceded by: every event whose `changed_at`, when
    the sync started, was not on a day before the requested one. -/
def Complete (started : UUID → List SProviderEvent) (changedAt : Instant)
    (shown : List (SProviderEvent × Nat)) : Prop :=
  ∀ id event, (started id).head? = some event → utcDate changedAt ≤ utcDate event.changedAt →
    ∃ x ∈ shown, x.1.id = id

inductive SyncStep (settings : SyncSettings) (paginator : EventsPaginator) :
    SyncState → SyncAction → SyncState → Prop
  | change {s : SyncState} (event : SProviderEvent) (instant : event.changedAt = s.now)
      (first : settings.firstInstant ≤ s.now) :
      SyncStep settings paginator s (.change event)
        { s with
          revisions := Function.update s.revisions event.id (event :: s.revisions event.id) }
  | tick {s : SyncState} (now : Instant) (later : s.now ≤ now) :
      SyncStep settings paginator s (.tick now) { s with now }
  -- A sync that finds the lock taken raises SyncAlreadyRunning and does nothing.
  | start {s : SyncState} (full : Bool) (free : s.task = none) :
      SyncStep settings paginator s (.start full)
        { s with task := some ⟨full, s.now, .getMeta, s.revisions, []⟩ }
  | getMeta {s : SyncState} {task : SyncTask} (running : s.task = some task)
      (here : task.point = .getMeta) :
      SyncStep settings paginator s .getMeta
        { s with
          metadata := some (SyncMetadataRepository.get s.metadata s.now)
          task := some { task with
            point := .markRunning (SyncService.startFrom settings task.full
              (SyncMetadataRepository.get s.metadata s.now)) } }
  | markRunning {s : SyncState} {task : SyncTask} {changedAt : Instant}
      (running : s.task = some task) (here : task.point = .markRunning changedAt) :
      SyncStep settings paginator s .markRunning
        { s with
          metadata := some (SyncMetadataRepository.markRunning s.metadata s.now)
          task := some { task with point := .fetching ⟨changedAt, 0, none, [], 0⟩ none } }
  -- A page shows events as they are when it is fetched; the last one comes after all it must show.
  | page {s : SyncState} {task : SyncTask} {fetch : Fetch} {url : Option String}
      (page : EventsPage) (running : s.task = some task) (here : task.point = .fetching fetch url)
      (current : ∀ event ∈ page.results, (s.revisions event.id).head? = some event)
      (complete : paginator.follow (fetch.pagesSeen + 1) page.next = .ok none →
        Complete task.started fetch.changedAt
          (task.shown ++ page.results.map fun event => (event, (s.revisions event.id).length))) :
      SyncStep settings paginator s (.page page)
        { s with
          task := some { task with
            point := .iterating { fetch with pagesSeen := fetch.pagesSeen + 1 } page.results
              page.next
            shown := task.shown ++
              page.results.map fun event => (event, (s.revisions event.id).length) } }
  | iterate {s : SyncState} {task : SyncTask} {fetch : Fetch} {page : List SProviderEvent}
      {next : Option String} (running : s.task = some task)
      (here : task.point = .iterating fetch page next) :
      SyncStep settings paginator s .iterate
        { s with
          task := some { task with
            point := SyncService.iterate settings paginator s.now fetch next page } }
  | store {s : SyncState} {task : SyncTask} {fetch : Fetch} {page : List SProviderEvent}
      {next : Option String} {events : Table EventORM.id} (running : s.task = some task)
      (here : task.point = .storing fetch page next)
      (stored : EventRepository.upsertMany s.events (SyncService.rows task.startedAt fetch) =
        some events) :
      SyncStep settings paginator s .store
        { s with
          events
          task := some { task with point := .iterating (SyncService.stored fetch) page next } }
  | storeLast {s : SyncState} {task : SyncTask} {fetch : Fetch} {events : Table EventORM.id}
      (running : s.task = some task) (here : task.point = .storingLast fetch)
      (stored : EventRepository.upsertMany s.events (SyncService.rows task.startedAt fetch) =
        some events) :
      SyncStep settings paginator s .storeLast
        { s with
          events
          task := some { task with point := .markSuccess (SyncService.stored fetch) s.now } }
  | fail {s : SyncState} {task : SyncTask} (error : Raised) (running : s.task = some task)
      (inside : task.point.guarded = true) :
      SyncStep settings paginator s (.fail error)
        { s with task := some { task with point := .markFailure error } }
  | succeed {s : SyncState} {task : SyncTask} {fetch : Fetch} {finishedAt : Instant}
      (running : s.task = some task) (here : task.point = .markSuccess fetch finishedAt) :
      SyncStep settings paginator s
        (.succeed ⟨fetch.total, task.startedAt, finishedAt, SyncService.newChangedAt fetch,
          task.full⟩)
        { s with
          metadata := some (SyncMetadataRepository.markSuccess s.metadata finishedAt
            (SyncService.newChangedAt fetch) s.now)
          task := none }
  | recordFailure {s : SyncState} {task : SyncTask} {error : Raised}
      (running : s.task = some task) (here : task.point = .markFailure error)
      (writable : storable (truncate 2000 error.str) = true) :
      SyncStep settings paginator s .recordFailure
        { s with
          metadata := some (SyncMetadataRepository.markFailure s.metadata error.str s.now)
          task := none }
  -- A cancellation, a crash or an exception that nothing handles.
  | abandon {s : SyncState} :
      SyncStep settings paginator s .abandon { s with task := none }

def syncs (settings : SyncSettings) (paginator : EventsPaginator) :
    System SyncState SyncAction where
  Initial s := s.events = .empty ∧ s.metadata = none ∧ s.task = none ∧
    ∀ id, ∀ event ∈ s.revisions id,
      event.id = id ∧ settings.firstInstant ≤ event.changedAt ∧ event.changedAt ≤ s.now
  Step := SyncStep settings paginator

section Sample

def sampleMidnight : Instant := 739000 * microsecondsPerDay

def providerEvent (id : UUID) (name : String) (changedAt : Instant) : SProviderEvent where
  id
  name
  place := ⟨⟨900⟩, "Hall", "Moscow", "Lenina 1", "A1-100"⟩
  eventTime := sampleMidnight + 10 * microsecondsPerDay
  registrationDeadline := sampleMidnight + 9 * microsecondsPerDay
  status := .published
  numberOfVisitors := 0
  changedAt

def sampleNetloc (url : String) : String :=
  let rest := (url.toList.dropWhile (· ≠ '/')).drop 2
  String.ofList (rest.takeWhile fun c => c ≠ '/' ∧ c ≠ '?' ∧ c ≠ '#')

def samplePaginator : EventsPaginator := ⟨"http://provider", sampleNetloc⟩

def sampleSyncSettings : SyncSettings := ⟨200, 730119⟩

def concert : SProviderEvent := providerEvent ⟨1⟩ "Concert" (sampleMidnight - 1000)

def renamedConcert : SProviderEvent := providerEvent ⟨1⟩ "Concert (moved)" (sampleMidnight - 10)

def opera : SProviderEvent := providerEvent ⟨2⟩ "Opera" (sampleMidnight - 1000)

end Sample

end EventsAggregator
