import EventsAggregator.Clients.Http
import EventsAggregator.Db.Session

namespace EventsAggregator

open Relational

def OutboxEventORM.pending (id : UUID) (eventType : OutboxEventType) (payload : Payload)
    (createdAt : Instant) : OutboxEventORM :=
  { id, eventType, payload, status := .pending, attempts := 0, lastError := none, createdAt,
    sentAt := none }

namespace OutboxRepository

/-- `SELECT ... WHERE status = 'pending' ORDER BY created_at LIMIT limit FOR UPDATE SKIP LOCKED`,
    where `locked` are the rows that other transactions have locked. Rows created at the same
    instant come in any order. -/
def FetchPending (limit : Nat) (locked : UUID → Prop) (outbox : Table OutboxEventORM.id)
    (batch : List OutboxEventORM) : Prop :=
  ∃ sorted : List OutboxEventORM, (sorted.map OutboxEventORM.id).Nodup ∧
    (∀ row, row ∈ sorted ↔ row ∈ outbox.rows ∧ row.status = .pending ∧ ¬ locked row.id) ∧
    sorted.Pairwise (fun row later => row.createdAt ≤ later.createdAt) ∧
    batch = sorted.take limit

def markSent (event : OutboxEventORM) (now : Instant) : OutboxEventORM :=
  { event with status := .sent, sentAt := some now }

def markFailedAttempt (event : OutboxEventORM) (error : Text) (maxAttempts : Int) :
    OutboxEventORM :=
  let attempts := event.attempts + 1
  { event with
    attempts
    lastError := some (truncate 2000 error)
    status := if maxAttempts ≤ attempts then .failed else event.status }

end OutboxRepository

inductive Mark
  | sent (now : Instant)
  | failedAttempt (error : Text) (maxAttempts : Int)

def Mark.apply (event : OutboxEventORM) : Mark → OutboxEventORM
  | .sent now => OutboxRepository.markSent event now
  | .failedAttempt error maxAttempts => OutboxRepository.markFailedAttempt event error maxAttempts

theorem sent_storable (row : OutboxEventORM) (clean : row.lastError = none) (now : Instant) :
    ∀ error ∈ ((Mark.sent now).apply row).lastError, storable error = true := by
  simp [Mark.apply, OutboxRepository.markSent, clean]

/-- A column of a flush is written only when its value in memory differs from the loaded one. -/
def column {Value : Type} [DecidableEq Value] (loaded updated current : Value) : Value :=
  if updated = loaded then current else updated

theorem column_loaded {Value : Type} [DecidableEq Value] (loaded updated : Value) :
    column loaded updated loaded = updated := by
  unfold column
  split
  · rename_i same
    exact same.symm
  · rfl

/-- The `UPDATE` of a flush, on whatever the row holds by now. -/
def flush (loaded updated current : OutboxEventORM) : OutboxEventORM :=
  { current with
    status := column loaded.status updated.status current.status
    attempts := column loaded.attempts updated.attempts current.attempts
    lastError := column loaded.lastError updated.lastError current.lastError
    sentAt := column loaded.sentAt updated.sentAt current.sentAt }

@[simp] theorem flush_id (loaded updated current : OutboxEventORM) :
    (flush loaded updated current).id = current.id := rfl

@[simp] theorem flush_eventType (loaded updated current : OutboxEventORM) :
    (flush loaded updated current).eventType = current.eventType := rfl

@[simp] theorem flush_payload (loaded updated current : OutboxEventORM) :
    (flush loaded updated current).payload = current.payload := rfl

theorem flush_unchanged (row : OutboxEventORM) (mark : Mark) :
    flush row (mark.apply row) row = mark.apply row := by
  cases mark with
  | sent now => simp only [flush, column_loaded, Mark.apply, OutboxRepository.markSent]
  | failedAttempt error maxAttempts =>
    simp only [flush, column_loaded, Mark.apply, OutboxRepository.markFailedAttempt]

def writeBack (outbox : Table OutboxEventORM.id) (loaded : OutboxEventORM) (mark : Mark) :
    Table OutboxEventORM.id :=
  outbox.update loaded.id (flush loaded (mark.apply loaded)) fun _ same =>
    (flush_id ..).trans same

theorem find?_writeBack (outbox : Table OutboxEventORM.id) (loaded : OutboxEventORM) (mark : Mark)
    (id : UUID) : (writeBack outbox loaded mark).find? id =
      if id = loaded.id then (outbox.find? id).map (flush loaded (mark.apply loaded))
      else outbox.find? id := by
  rw [writeBack, Table.find?_update]
  by_cases same : id = loaded.id
  · rw [if_pos same, if_pos same, same]
  · rw [if_neg same, if_neg same]

theorem find?_writeBack_self {outbox : Table OutboxEventORM.id} {loaded : OutboxEventORM}
    (mark : Mark) (current : outbox.find? loaded.id = some loaded) :
    (writeBack outbox loaded mark).find? loaded.id = some (mark.apply loaded) := by
  rw [find?_writeBack, if_pos rfl, current, Option.map_some, flush_unchanged]

theorem find?_writeBack_of_ne {outbox : Table OutboxEventORM.id} {loaded : OutboxEventORM}
    {mark : Mark} {id : UUID} (other : id ≠ loaded.id) :
    (writeBack outbox loaded mark).find? id = outbox.find? id := by
  rw [find?_writeBack, if_neg other]

theorem fetch_pending_rows {limit : Nat} {locked : UUID → Prop} {outbox : Table OutboxEventORM.id}
    (free : ∀ id, ¬ locked id)
    (sorted : (outbox.rows.filter (·.status = .pending)).Pairwise
      fun row later => row.createdAt ≤ later.createdAt) :
    OutboxRepository.FetchPending limit locked outbox
      ((outbox.rows.filter (·.status = .pending)).take limit) :=
  ⟨outbox.rows.filter (·.status = .pending),
    outbox.unique.sublist (List.filter_sublist.map _), by simp [free], sorted, rfl⟩

theorem fetched_mem {limit : Nat} {locked : UUID → Prop} {outbox : Table OutboxEventORM.id}
    {batch : List OutboxEventORM}
    (fetched : OutboxRepository.FetchPending limit locked outbox batch) {row : OutboxEventORM}
    (member : row ∈ batch) :
    outbox.find? row.id = some row ∧ row.status = .pending ∧ ¬ locked row.id := by
  obtain ⟨sorted, _, exact, _, rfl⟩ := fetched
  obtain ⟨present, status, free⟩ := (exact row).mp (List.mem_of_mem_take member)
  exact ⟨(outbox.find?_eq_some _ _).mpr ⟨present, rfl⟩, status, free⟩

theorem fetched_nodup {limit : Nat} {locked : UUID → Prop} {outbox : Table OutboxEventORM.id}
    {batch : List OutboxEventORM}
    (fetched : OutboxRepository.FetchPending limit locked outbox batch) :
    (batch.map OutboxEventORM.id).Nodup := by
  obtain ⟨sorted, distinct, _, _, rfl⟩ := fetched
  rw [List.map_take]
  exact distinct.sublist (List.take_sublist limit _)

end EventsAggregator
