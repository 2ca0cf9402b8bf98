import EventsAggregator.Db.Models
import EventsAggregator.Relational.Table

namespace EventsAggregator

open Relational

structure Database where
  events : Table EventORM.id
  tickets : Table TicketORM.ticketId
  outbox : Table OutboxEventORM.id
  idempotencyKeys : Table IdempotencyRecordORM.key

def Database.empty : Database := ⟨.empty, .empty, .empty, .empty⟩

/-- The unit of work of one `AsyncSession`: what it will write when it commits. -/
structure Session where
  tickets : List TicketORM
  outbox : List OutboxEventORM
  records : List IdempotencyRecordORM
  deleted : List UUID

def Session.new : Session := ⟨[], [], [], []⟩

def TicketRepository.add (session : Session) (ticket : TicketORM) : Session :=
  { session with tickets := session.tickets ++ [ticket] }

/-- `session.delete` in `TicketRepository.delete`; the commit is the caller's next step. -/
def TicketRepository.delete (session : Session) (ticket : TicketORM) : Session :=
  { session with deleted := session.deleted ++ [ticket.ticketId] }

/-- `OutboxRepository.add`. The primary key is drawn by `uuid4` when the row is flushed. -/
def OutboxRepository.add (session : Session) (id : UUID) (eventType : OutboxEventType)
    (payload : Payload) (now : Instant) : Session :=
  { session with outbox := session.outbox ++ [
      { id, eventType, payload, status := .pending, attempts := 0, lastError := none,
        createdAt := now, sentAt := none }] }

def IdempotencyRepository.add (session : Session) (key requestHash : String)
    (responseBody : Payload) (statusCode : Nat) (now : Instant) : Session :=
  { session with records := session.records ++ [
      { key, requestHash, responseBody, statusCode, createdAt := now }] }

/-- Flush and commit. A taken primary key, a missing event or an unstorable text refuses the
    whole unit of work; deleting a row that is gone deletes nothing. -/
def Database.commit (db : Database) (session : Session) : Option Database := do
  guard (session.tickets.all fun ticket =>
    ticket.storable && (db.events.find? ticket.eventId).isSome)
  guard (session.records.all fun record => storable record.key)
  let tickets ← session.tickets.foldlM Table.insert? db.tickets
  let outbox ← session.outbox.foldlM Table.insert? db.outbox
  let idempotencyKeys ← session.records.foldlM Table.insert? db.idempotencyKeys
  return { db with tickets := session.deleted.foldl Table.erase tickets, outbox, idempotencyKeys }

theorem guard_eq_some {p : Prop} [Decidable p] {done : Unit}
    (passed : guard p = some done) : p := by
  simp only [guard] at passed
  split at passed
  · assumption
  · cases passed

theorem commit_eq_some {db db' : Database} {session : Session}
    (accepted : db.commit session = some db') :
    (∀ ticket ∈ session.tickets, ticket.storable = true) ∧
      (∀ record ∈ session.records, storable record.key = true) ∧
      (∃ tickets, session.tickets.foldlM Table.insert? db.tickets = some tickets ∧
        db'.tickets = session.deleted.foldl Table.erase tickets) ∧
      session.outbox.foldlM Table.insert? db.outbox = some db'.outbox ∧
      session.records.foldlM Table.insert? db.idempotencyKeys = some db'.idempotencyKeys ∧
      db'.events = db.events := by
  simp only [Database.commit, Option.bind_eq_bind, Option.bind_eq_some_iff, Option.pure_def,
    Option.some.injEq] at accepted
  obtain ⟨_, checked, _, keyed, tickets, inserted, outbox, rows, records, stored, rfl⟩ := accepted
  have all := guard_eq_some checked
  have keys := guard_eq_some keyed
  refine ⟨fun ticket member => ?_, List.all_eq_true.mp keys, ⟨tickets, inserted, rfl⟩, rows, stored,
    rfl⟩
  exact (Bool.and_eq_true_iff.mp (List.all_eq_true.mp all ticket member)).1

end EventsAggregator
