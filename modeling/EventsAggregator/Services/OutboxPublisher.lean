import EventsAggregator.Clients.Capashino
import EventsAggregator.Db.Outbox
import EventsAggregator.Transition.Run
import Mathlib.Logic.Function.Basic

namespace EventsAggregator

open Relational Transition

structure OutboxSettings where
  outboxBatchSize : Nat
  outboxMaxAttempts : Int

/-- How far `_dispatch` comes on its own: to its end, or to a request to Capashino. -/
inductive Dispatch
  | ended (outcome : Except Raised Unit)
  | send (notification : SCapashinoNotificationCreate)

namespace OutboxPublisher

def buildTicketMessage (payload : Payload) : Option String := do
  let eventName ← payload.lookup "event_name"
  let seat ← payload.lookup "seat"
  let ticketId ← payload.lookup "ticket_id"
  return s!"Вы успешно зарегистрированы на мероприятие - {eventName}. " ++
    s!"Место: {seat}. Номер билета: {ticketId}."

def sendTicketPurchased (event : OutboxEventORM) : Dispatch :=
  match buildTicketMessage event.payload with
  | none => .ended (.error (.other "KeyError"))
  | some message =>
    match event.payload.lookup "ticket_id" with
    | none => .ended (.error (.other "KeyError"))
    | some ticketId =>
      match UUID.parse ticketId with
      | none => .ended (.error (.other "badly formed hexadecimal UUID string"))
      | some referenceId =>
        if messageLength : 1 ≤ message.length then
          .send { message, referenceId, idempotencyKey := event.id.str, messageLength }
        else .ended (.error (.other "ValidationError"))

/-- `_dispatch`. The services write rows of these two types only. -/
def dispatch (event : OutboxEventORM) : Dispatch :=
  match event.eventType with
  | .ticketPurchased => sendTicketPurchased event
  | .ticketCancelled => .ended (.ok ())

def record (settings : OutboxSettings) (now : Instant) : Except Raised Unit → Mark
  | .ok _ => .sent now
  | .error (.client error) =>
    if error.isInstance .capashinoPermanentError then .failedAttempt error.message 1
    else if error.isInstance .apiClientError then
      if error.statusCode = some 409 then .sent now
      else .failedAttempt error.message settings.outboxMaxAttempts
    else .failedAttempt "unexpected error" settings.outboxMaxAttempts
  | .error _ => .failedAttempt "unexpected error" settings.outboxMaxAttempts

end OutboxPublisher

/-- Where a worker is suspended while it handles the first row that is left of its batch. -/
inductive PublishPoint
  | ready
  | sending (notification : SCapashinoNotificationCreate)
  | marking (mark : Mark)
  | committing (mark : Mark)

/-- A worker between two batches, or in one: the rows as `fetch_pending` loaded them, those of
    them that are left, and the rows that its open transaction has locked. -/
inductive Worker
  | idle
  | working (batch todo : List OutboxEventORM) (point : PublishPoint) (locks : List UUID)

namespace Worker

def batch : Worker → List OutboxEventORM
  | .idle => []
  | .working batch _ _ _ => batch

def todo : Worker → List OutboxEventORM
  | .idle => []
  | .working _ todo _ _ => todo

def locks : Worker → List UUID
  | .idle => []
  | .working _ _ _ locks => locks

def fetched : List OutboxEventORM → Worker
  | [] => .idle
  | batch => .working batch batch .ready (batch.map OutboxEventORM.id)

def next (batch : List OutboxEventORM) : List OutboxEventORM → Worker
  | [] => .idle
  | todo => .working batch todo .ready []

end Worker

/-- Any number of publishers over one outbox and one Capashino. `sent` holds every request that
    was sent, with the row it was sent for: it may reach Capashino at any later moment. -/
structure PublisherState (C : Capashino) where
  outbox : Table OutboxEventORM.id
  capashino : C.State
  sent : List (UUID × SCapashinoNotificationCreate)
  now : Instant
  workers : Nat → Worker

inductive PublisherAction
  | add (row : OutboxEventORM)
  | fetch (worker : Nat)
  | dispatch (worker : Nat)
  | answer (worker : Nat) (transport : Transport)
  | update (worker : Nat)
  | commit (worker : Nat)
  | commitLost (worker : Nat)
  | abandon (worker : Nat)
  | late (notification : SCapashinoNotificationCreate) (transport : Transport)
  | tick (now : Instant)

variable {C : Capashino}

def LockedByOthers (workers : Nat → Worker) (i : Nat) (id : UUID) : Prop :=
  ∃ j, j ≠ i ∧ id ∈ (workers j).locks

inductive PublisherStep (libraries : Libraries) (settings : OutboxSettings) :
    PublisherState C → PublisherAction → PublisherState C → Prop
  | add {s : PublisherState C} {outbox : Table OutboxEventORM.id} (id : UUID)
      (eventType : OutboxEventType) (payload : Payload) (createdAt : Instant)
      (inserted : s.outbox.insert? (.pending id eventType payload createdAt) = some outbox) :
      PublisherStep libraries settings s (.add (.pending id eventType payload createdAt))
        { s with outbox }
  | fetch {s : PublisherState C} {i : Nat} {batch : List OutboxEventORM}
      (idle : s.workers i = .idle)
      (fetched : OutboxRepository.FetchPending settings.outboxBatchSize (LockedByOthers s.workers i)
        s.outbox batch) :
      PublisherStep libraries settings s (.fetch i)
        { s with workers := Function.update s.workers i (.fetched batch) }
  | send {s : PublisherState C} {i : Nat} {batch rest : List OutboxEventORM}
      {event : OutboxEventORM} {locks : List UUID} {notification : SCapashinoNotificationCreate}
      (found : s.workers i = .working batch (event :: rest) .ready locks)
      (dispatched : OutboxPublisher.dispatch event = .send notification) :
      PublisherStep libraries settings s (.dispatch i)
        { s with
          sent := (event.id, notification) :: s.sent
          workers := Function.update s.workers i
            (.working batch (event :: rest) (.sending notification) locks) }
  | acknowledge {s : PublisherState C} {i : Nat} {batch rest : List OutboxEventORM}
      {event : OutboxEventORM} {locks : List UUID} {outcome : Except Raised Unit}
      (found : s.workers i = .working batch (event :: rest) .ready locks)
      (dispatched : OutboxPublisher.dispatch event = .ended outcome) :
      PublisherStep libraries settings s (.dispatch i)
        { s with
          workers := Function.update s.workers i (.working batch (event :: rest)
            (.marking (OutboxPublisher.record settings s.now outcome)) locks) }
  | answer {s : PublisherState C} {i : Nat} {batch rest : List OutboxEventORM}
      {event : OutboxEventORM} {locks : List UUID} {notification : SCapashinoNotificationCreate}
      {transport : Transport} {capashino : C.State}
      (found : s.workers i = .working batch (event :: rest) (.sending notification) locks)
      (handled : C.Handles s.capashino notification transport capashino) :
      PublisherStep libraries settings s (.answer i transport)
        { s with
          capashino
          workers := Function.update s.workers i (.working batch (event :: rest)
            (.marking (OutboxPublisher.record settings s.now
              ((CapashinoClient.receiveNotification libraries transport).map fun _ => ())))
            locks) }
  -- The UPDATE of the flush waits for a lock of another transaction on its row and then holds it.
  | update {s : PublisherState C} {i : Nat} {batch rest : List OutboxEventORM}
      {event : OutboxEventORM} {locks : List UUID} {mark : Mark}
      (found : s.workers i = .working batch (event :: rest) (.marking mark) locks)
      (free : ¬ LockedByOthers s.workers i event.id)
      (storable : ∀ error ∈ (mark.apply event).lastError, storable error = true) :
      PublisherStep libraries settings s (.update i)
        { s with
          workers := Function.update s.workers i
            (.working batch (event :: rest) (.committing mark) (event.id :: locks)) }
  | commit {s : PublisherState C} {i : Nat} {batch rest : List OutboxEventORM}
      {event : OutboxEventORM} {locks : List UUID} {mark : Mark}
      (found : s.workers i = .working batch (event :: rest) (.committing mark) locks) :
      PublisherStep libraries settings s (.commit i)
        { s with
          outbox := writeBack s.outbox event mark
          workers := Function.update s.workers i (.next batch rest) }
  -- The commit takes effect, but the worker only gets to see an exception.
  | commitLost {s : PublisherState C} {i : Nat} {batch rest : List OutboxEventORM}
      {event : OutboxEventORM} {locks : List UUID} {mark : Mark}
      (found : s.workers i = .working batch (event :: rest) (.committing mark) locks) :
      PublisherStep libraries settings s (.commitLost i)
        { s with
          outbox := writeBack s.outbox event mark
          workers := Function.update s.workers i .idle }
  -- An exception that `_publish_one` lets through, a cancellation or a crash: a rollback.
  | abandon {s : PublisherState C} {i : Nat} :
      PublisherStep libraries settings s (.abandon i)
        { s with workers := Function.update s.workers i .idle }
  | late {s : PublisherState C} {id : UUID} {notification : SCapashinoNotificationCreate}
      {transport : Transport} {capashino : C.State} (waiting : (id, notification) ∈ s.sent)
      (handled : C.Handles s.capashino notification transport capashino) :
      PublisherStep libraries settings s (.late notification transport) { s with capashino }
  | tick {s : PublisherState C} (now : Instant) :
      PublisherStep libraries settings s (.tick now) { s with now }

def publishers (libraries : Libraries) (settings : OutboxSettings) (C : Capashino) :
    System (PublisherState C) PublisherAction where
  Initial s := s.outbox = .empty ∧ C.Initial s.capashino ∧ s.sent = [] ∧
    ∀ i, s.workers i = .idle
  Step := PublisherStep libraries settings

end EventsAggregator
