import EventsAggregator.Services.Progress
import EventsAggregator.Relational.Matching

namespace EventsAggregator

open Relational Transition

def OutboxEventORM.Purchases (row : OutboxEventORM) (ticketId : String) : Prop :=
  row.eventType = .ticketPurchased ∧ row.payload.lookup "ticket_id" = some ticketId

def OutboxEventORM.CancelsAfter (row earlier : OutboxEventORM) : Prop :=
  ∃ ticketId, row.payload.lookup "ticket_id" = some ticketId ∧ earlier.Purchases ticketId

def BoughtBy {ρ : Type} (names : ρ → Option String) (r : ρ) (row : OutboxEventORM) : Prop :=
  ∃ ticketId, names r = some ticketId ∧ row.Purchases ticketId

def TicketORM.names (ticket : TicketORM) : Option String := some ticket.ticketId.str

def IdempotencyRecordORM.names (record : IdempotencyRecordORM) : Option String :=
  record.responseBody.lookup "ticket_id"

structure Database.Accounted (db : Database) : Prop where
  tickets : Matched db.tickets db.outbox (BoughtBy TicketORM.names)
  records : Matched db.idempotencyKeys db.outbox (BoughtBy IdempotencyRecordORM.names)
  cancellations : Preceded (fun row => row.eventType = .ticketCancelled)
    OutboxEventORM.CancelsAfter db.outbox.rows

variable {Process : Type} {P : Provider} [DecidableEq Process] {runtime : Runtime}
  {s t : State Process P} {a : Action Process} {db : Database}

omit [DecidableEq Process] in
theorem change_keeps_row (change : DbChange runtime s a db) {k : UUID} {row : OutboxEventORM}
    (found : s.db.outbox.find? k = some row) :
    ∃ row', db.outbox.find? k = some row' ∧
      row'.eventType = row.eventType ∧ row'.payload = row.payload := by
  cases change with
  | unchanged idle => exact ⟨row, found, rfl, rfl⟩
  | registered here connected committing written =>
    exact ⟨row, Table.find?_kept written.outbox found, rfl, rfl⟩
  | deleted here committing => exact ⟨row, found, rfl, rfl⟩
  | cancelled here committing inserted =>
    exact ⟨row, Table.find?_kept inserted found, rfl, rfl⟩
  | upserted event => exact ⟨row, found, rfl, rfl⟩
  | published id mark =>
    unfold Database.publish
    rw [Table.find?_update]
    by_cases here : k = id
    · subst here
      exact ⟨row.deliver mark, by simp [found], rfl, rfl⟩
    · exact ⟨row, by simp [here, found], rfl, rfl⟩

/-- A move of a `register` request either is its commit, which writes a whole registration, or
    leaves the committed tables alone. -/
def RegisterWritesAll (runtime : Runtime) (m : Move (State Process P) (Action Process)) : Prop :=
  ∀ i task payload point, m.action.request = some i → m.source.tasks i = some task →
    task.code = .register payload point →
    (∀ outboxId, m.action = .commit i outboxId → ∃ event ticketId now,
      point = .commit event ticketId now ∧
        Registered runtime payload event ticketId now outboxId m.source.db m.target.db) ∧
    ((∀ outboxId, m.action ≠ .commit i outboxId) → m.target.db = m.source.db)

omit [DecidableEq Process] in
theorem change_writes_all (change : DbChange runtime s a t.db) :
    RegisterWritesAll runtime ⟨s, a, t⟩ := by
  intro i task payload point acting found code
  refine ⟨fun outboxId commit => ?_, change_idle change acting⟩
  simp only at commit found ⊢
  subst commit
  exact change_registered change found code

end EventsAggregator
