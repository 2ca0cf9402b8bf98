import EventsAggregator.Clients.Http
import EventsAggregator.Db.Session

namespace EventsAggregator

open Relational

inductive SyncStatus
  | idle
  | running
  | success
  | failed
  deriving DecidableEq, Repr

structure SyncMetadataORM where
  lastSyncTime : Option Instant
  lastChangedAt : Option Instant
  syncStatus : SyncStatus
  lastError : Option Text
  updatedAt : Instant
  deriving DecidableEq, Repr

namespace SyncMetadataRepository

/-- A missing row is created, and committed, on the way. -/
def get (metadata : Option SyncMetadataORM) (now : Instant) : SyncMetadataORM :=
  metadata.getD
    { lastSyncTime := none, lastChangedAt := none, syncStatus := .idle, lastError := none,
      updatedAt := now }

def markRunning (metadata : Option SyncMetadataORM) (now : Instant) : SyncMetadataORM :=
  { get metadata now with syncStatus := .running, lastError := none, updatedAt := now }

def markSuccess (metadata : Option SyncMetadataORM) (syncedAt lastChangedAt now : Instant) :
    SyncMetadataORM :=
  { get metadata now with
    syncStatus := .success
    lastSyncTime := some syncedAt
    lastChangedAt := some lastChangedAt
    lastError := none
    updatedAt := now }

def markFailure (metadata : Option SyncMetadataORM) (error : Text) (now : Instant) :
    SyncMetadataORM :=
  { get metadata now with
    syncStatus := .failed
    lastError := some (truncate 2000 error)
    updatedAt := now }

end SyncMetadataRepository

/-- What lies beyond the length of a `VARCHAR` may be spaces, which PostgreSQL cuts off. -/
def fitsVarchar (length : Nat) (text : Text) : Bool :=
  (text.points.drop length).all (· = .char ' ') && storable text

/-- The driver takes a time to UTC, which holds the years from 1 to 9999. -/
def inUtc (instant : Instant) : Bool := 0 ≤ instant && instant < 3652059 * microsecondsPerDay

namespace EventRow

def storable (row : EventRow) : Bool :=
  fitsVarchar 500 row.name && fitsVarchar 255 row.placeName && fitsVarchar 100 row.placeCity &&
    fitsVarchar 500 row.placeAddress && EventsAggregator.storable row.seatsPattern &&
    [row.eventTime, row.registrationDeadline, row.changedAt].all inUtc &&
    -2147483648 ≤ row.numberOfVisitors && row.numberOfVisitors ≤ 2147483647

def varchar (length : Nat) (text : Text) : String := (truncate length text).string?.getD ""

def stored (row : EventRow) : EventORM where
  id := row.id
  name := varchar 500 row.name
  status := row.status
  placeId := row.placeId
  placeName := varchar 255 row.placeName
  placeCity := varchar 100 row.placeCity
  placeAddress := varchar 500 row.placeAddress
  seatsPattern := row.seatsPattern.string?.getD ""
  eventTime := row.eventTime
  registrationDeadline := row.registrationDeadline
  numberOfVisitors := row.numberOfVisitors
  changedAt := row.changedAt
  syncedAt := row.syncedAt

end EventRow

/-- A statement has a parameter for each of the 13 columns of each row, and the driver sends no
    more than 32767. -/
def maxRows : Nat := 32767 / 13

/-- `INSERT ... ON CONFLICT (id) DO UPDATE` of all rows in one statement, and its commit. The
    statement may not touch a row twice. -/
def EventRepository.upsertMany (events : Table EventORM.id) (rows : List EventRow) :
    Option (Table EventORM.id) :=
  if (rows.map EventRow.id).Nodup ∧ rows.length ≤ maxRows ∧ ∀ row ∈ rows, row.storable = true then
    some ((rows.map EventRow.stored).foldl Table.upsert events)
  else none

theorem find?_upserts_other {events : Table EventORM.id} {rows : List EventORM} {id : UUID}
    (absent : ∀ row ∈ rows, row.id ≠ id) :
    (rows.foldl Table.upsert events).find? id = events.find? id := by
  induction rows generalizing events with
  | nil => rfl
  | cons row rest ih =>
    obtain ⟨first, others⟩ := List.forall_mem_cons.mp absent
    rw [List.foldl_cons, ih others, Table.find?_upsert, if_neg first]

theorem find?_upserts {events : Table EventORM.id} {rows : List EventORM} {row : EventORM}
    (distinct : (rows.map EventORM.id).Nodup) (member : row ∈ rows) :
    (rows.foldl Table.upsert events).find? row.id = some row := by
  induction rows generalizing events with
  | nil => cases member
  | cons first rest ih =>
    obtain ⟨fresh, distinct⟩ := List.nodup_cons.mp distinct
    rw [List.foldl_cons]
    rcases List.mem_cons.mp member with rfl | member
    · rw [find?_upserts_other, Table.find?_upsert, if_pos rfl]
      intro other inside same
      exact fresh (same ▸ List.mem_map_of_mem inside)
    · exact ih distinct member

theorem upsertMany_eq_some {events events' : Table EventORM.id} {rows : List EventRow}
    (stored : EventRepository.upsertMany events rows = some events') :
    ((rows.map EventRow.stored).map EventORM.id).Nodup ∧
      events' = (rows.map EventRow.stored).foldl Table.upsert events := by
  unfold EventRepository.upsertMany at stored
  split at stored
  · rename_i accepted
    refine ⟨?_, (Option.some.inj stored).symm⟩
    rw [List.map_map]
    exact accepted.1
  · cases stored

end EventsAggregator
