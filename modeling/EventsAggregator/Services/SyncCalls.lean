import EventsAggregator.Services.Tracking

namespace EventsAggregator

open Relational Transition

structure SyncCall where
  full : Bool
  startedAt : Instant
  point : SyncPoint

/-- One process and the database, with a provider that may answer anything. -/
structure SyncProcess where
  now : Instant
  events : Table EventORM.id
  metadata : Option SyncMetadataORM
  call : Option SyncCall

inductive CallAction
  | tick (now : Instant)
  | start (full : Bool)
  | getMeta
  | markRunning
  | page (page : EventsPage)
  | iterate
  | store
  | storeLast
  | storeLastLost (error : Raised)
  | fail (error : Raised)
  | succeed (result : SyncResult)
  | recordFailure
  | abandon

inductive CallStep (settings : SyncSettings) (paginator : EventsPaginator) :
    SyncProcess → CallAction → SyncProcess → Prop
  | tick {s : SyncProcess} (now : Instant) :
      CallStep settings paginator s (.tick now) { s with now }
  | start {s : SyncProcess} (full : Bool) (free : s.call = none) :
      CallStep settings paginator s (.start full)
        { s with call := some ⟨full, s.now, .getMeta⟩ }
  | getMeta {s : SyncProcess} {call : SyncCall} (running : s.call = some call)
      (here : call.point = .getMeta) :
      CallStep settings paginator s .getMeta
        { s with
          metadata := some (SyncMetadataRepository.get s.metadata s.now)
          call := some { call with
            point := .markRunning (SyncService.startFrom settings call.full
              (SyncMetadataRepository.get s.metadata s.now)) } }
  | markRunning {s : SyncProcess} {call : SyncCall} {changedAt : Instant}
      (running : s.call = some call) (here : call.point = .markRunning changedAt) :
      CallStep settings paginator s .markRunning
        { s with
          metadata := some (SyncMetadataRepository.markRunning s.metadata s.now)
          call := some { call with point := .fetching ⟨changedAt, 0, none, [], 0⟩ none } }
  | page {s : SyncProcess} {call : SyncCall} {fetch : Fetch} {url : Option String}
      (page : EventsPage) (running : s.call = some call) (here : call.point = .fetching fetch url) :
      CallStep settings paginator s (.page page)
        { s with
          call := some { call with
            point := .iterating { fetch with pagesSeen := fetch.pagesSeen + 1 } page.results
              page.next } }
  | iterate {s : SyncProcess} {call : SyncCall} {fetch : Fetch} {page : List SProviderEvent}
      {next : Option String} (running : s.call = some call)
      (here : call.point = .iterating fetch page next) :
      CallStep settings paginator s .iterate
        { s with
          call := some { call with
            point := SyncService.iterate settings paginator s.now fetch next page } }
  | store {s : SyncProcess} {call : SyncCall} {fetch : Fetch} {page : List SProviderEvent}
      {next : Option String} {events : Table EventORM.id} (running : s.call = some call)
      (here : call.point = .storing fetch page next)
      (stored : EventRepository.upsertMany s.events (SyncService.rows call.startedAt fetch) =
        some events) :
      CallStep settings paginator s .store
        { s with
          events
          call := some { call with point := .iterating (SyncService.stored fetch) page next } }
  | storeLast {s : SyncProcess} {call : SyncCall} {fetch : Fetch} {events : Table EventORM.id}
      (running : s.call = some call) (here : call.point = .storingLast fetch)
      (stored : EventRepository.upsertMany s.events (SyncService.rows call.startedAt fetch) =
        some events) :
      CallStep settings paginator s .storeLast
        { s with
          events
          call := some { call with point := .markSuccess (SyncService.stored fetch) s.now } }
  -- The last batch is committed, but its commit or the closing of the session raises. After any
  -- other batch this is `store` and then `fail`.
  | storeLastLost {s : SyncProcess} {call : SyncCall} {fetch : Fetch} {events : Table EventORM.id}
      (error : Raised) (running : s.call = some call) (here : call.point = .storingLast fetch)
      (stored : EventRepository.upsertMany s.events (SyncService.rows call.startedAt fetch) =
        some events) :
      CallStep settings paginator s (.storeLastLost error)
        { s with events, call := some { call with point := .markFailure error } }
  | fail {s : SyncProcess} {call : SyncCall} (error : Raised) (running : s.call = some call)
      (inside : call.point.guarded = true) :
      CallStep settings paginator s (.fail error)
        { s with call := some { call with point := .markFailure error } }
  | succeed {s : SyncProcess} {call : SyncCall} {fetch : Fetch} {finishedAt : Instant}
      (running : s.call = some call) (here : call.point = .markSuccess fetch finishedAt) :
      CallStep settings paginator s
        (.succeed ⟨fetch.total, call.startedAt, finishedAt, SyncService.newChangedAt fetch,
          call.full⟩)
        { s with
          metadata := some (SyncMetadataRepository.markSuccess s.metadata finishedAt
            (SyncService.newChangedAt fetch) s.now)
          call := none }
  | recordFailure {s : SyncProcess} {call : SyncCall} {error : Raised}
      (running : s.call = some call) (here : call.point = .markFailure error)
      (writable : storable (truncate 2000 error.str) = true) :
      CallStep settings paginator s .recordFailure
        { s with
          metadata := some (SyncMetadataRepository.markFailure s.metadata error.str s.now)
          call := none }
  -- A cancellation, a crash or an exception that nothing handles.
  | abandon {s : SyncProcess} : CallStep settings paginator s .abandon { s with call := none }

def SyncProcess.lastSyncTime (s : SyncProcess) : Option Instant :=
  s.metadata.bind SyncMetadataORM.lastSyncTime

def SyncProcess.lastChangedAt (s : SyncProcess) : Option Instant :=
  s.metadata.bind SyncMetadataORM.lastChangedAt

/-- Runs begin with any events and with metadata of which both halves of the cursor are set or
    none is. -/
def syncCalls (settings : SyncSettings) (paginator : EventsPaginator) :
    System SyncProcess CallAction where
  Initial s := s.call = none ∧ s.lastSyncTime.isSome = s.lastChangedAt.isSome
  Step := CallStep settings paginator

variable {settings : SyncSettings} {paginator : EventsPaginator}

def SyncTask.toCall (task : SyncTask) : SyncCall := ⟨task.full, task.startedAt, task.point⟩

def SyncState.toProcess (s : SyncState) : SyncProcess :=
  ⟨s.now, s.events, s.metadata, s.task.map SyncTask.toCall⟩

theorem toProcess_running {s : SyncState} {task : SyncTask} (running : s.task = some task) :
    s.toProcess.call = some task.toCall := by
  rw [SyncState.toProcess, running]
  rfl

theorem step_toProcess {s t : SyncState} {a : SyncAction}
    (step : SyncStep settings paginator s a t) :
    t.toProcess = s.toProcess ∨ ∃ b, CallStep settings paginator s.toProcess b t.toProcess := by
  cases step with
  | change => exact Or.inl rfl
  | tick now => exact Or.inr ⟨_, .tick now⟩
  | start full free =>
    have free' : s.toProcess.call = none := by rw [SyncState.toProcess, free]; rfl
    exact Or.inr ⟨_, .start full free'⟩
  | getMeta running here => exact Or.inr ⟨_, .getMeta (toProcess_running running) here⟩
  | markRunning running here => exact Or.inr ⟨_, .markRunning (toProcess_running running) here⟩
  | page page running here => exact Or.inr ⟨_, .page page (toProcess_running running) here⟩
  | iterate running here => exact Or.inr ⟨_, .iterate (toProcess_running running) here⟩
  | store running here stored =>
    exact Or.inr ⟨_, .store (toProcess_running running) here stored⟩
  | storeLast running here stored =>
    exact Or.inr ⟨_, .storeLast (toProcess_running running) here stored⟩
  | fail error running inside => exact Or.inr ⟨_, .fail error (toProcess_running running) inside⟩
  | succeed running here => exact Or.inr ⟨_, .succeed (toProcess_running running) here⟩
  | recordFailure running here writable =>
    exact Or.inr ⟨_, .recordFailure (toProcess_running running) here writable⟩
  | abandon => exact Or.inr ⟨_, .abandon⟩

theorem run_toProcess {s t : SyncState} {moves : List (Move SyncState SyncAction)}
    (run : Run (syncs settings paginator) s moves t) :
    ∃ moves', Run (syncCalls settings paginator) s.toProcess moves' t.toProcess := by
  induction run with
  | refl => exact ⟨[], .refl⟩
  | move _ step ih =>
    obtain ⟨moves', run⟩ := ih
    rcases step_toProcess step with same | ⟨b, step⟩
    · rw [same]
      exact ⟨moves', run⟩
    · exact ⟨_, run.move step⟩

end EventsAggregator
