import EventsAggregator.Values.Texts
import EventsAggregator.Values.Uuid
import Mathlib.Data.Int.Order.Basic

namespace EventsAggregator

/-- Microseconds since 0001-01-01T00:00:00Z, before which a time with an offset can lie. -/
abbrev Instant := Int

def microsecondsPerDay : Nat := 86400000000

inductive EventStatus
  | new
  | published
  | finished
  | unknown
  deriving DecidableEq, Repr

def EventStatus.value : EventStatus → String
  | .new => "new"
  | .published => "published"
  | .finished => "finished"
  | .unknown => "unknown"

inductive OutboxStatus
  | pending
  | sent
  | failed
  deriving DecidableEq, Repr

inductive OutboxEventType
  | ticketPurchased
  | ticketCancelled
  deriving DecidableEq, Repr

/-- A JSON object whose values are strings, as the services write them. -/
abbrev Payload := List (String × String)

structure EventORM where
  id : UUID
  name : String
  status : EventStatus
  placeId : UUID
  placeName : String
  placeCity : String
  placeAddress : String
  seatsPattern : String
  eventTime : Instant
  registrationDeadline : Instant
  numberOfVisitors : Int
  changedAt : Instant
  syncedAt : Instant
  deriving DecidableEq, Repr

structure EventRow where
  id : UUID
  name : Text
  status : EventStatus
  placeId : UUID
  placeName : Text
  placeCity : Text
  placeAddress : Text
  seatsPattern : Text
  eventTime : Instant
  registrationDeadline : Instant
  numberOfVisitors : Int
  changedAt : Instant
  syncedAt : Instant
  deriving DecidableEq, Repr

structure TicketORM where
  ticketId : UUID
  eventId : UUID
  firstName : String
  lastName : String
  email : String
  seat : String
  createdAt : Instant
  deriving DecidableEq, Repr

structure OutboxEventORM where
  id : UUID
  eventType : OutboxEventType
  payload : Payload
  status : OutboxStatus
  attempts : Nat
  lastError : Option Text
  createdAt : Instant
  sentAt : Option Instant
  deriving DecidableEq, Repr

structure IdempotencyRecordORM where
  key : String
  requestHash : String
  responseBody : Payload
  statusCode : Nat
  createdAt : Instant
  deriving DecidableEq, Repr

def TicketORM.storable (ticket : TicketORM) : Bool :=
  EventsAggregator.storable ticket.firstName && EventsAggregator.storable ticket.lastName &&
    EventsAggregator.storable ticket.email && EventsAggregator.storable ticket.seat

end EventsAggregator
