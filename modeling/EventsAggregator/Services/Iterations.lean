import EventsAggregator.Services.Shares

namespace EventsAggregator

open Relational Transition

/-- What becomes of the request for a row, and the time at which the row is marked. -/
structure Attempted where
  transport : Transport
  now : Instant

namespace OutboxPublisher

variable (libraries : Libraries) (settings : OutboxSettings)

def mark (event : OutboxEventORM) (attempted : Attempted) : Mark :=
  match dispatch event with
  | .ended outcome => record settings attempted.now outcome
  | .send _ => record settings attempted.now
      ((CapashinoClient.receiveNotification libraries attempted.transport).map fun _ => ())

end OutboxPublisher

def Mark.storable : Mark → Bool
  | .sent _ => true
  | .failedAttempt error _ => EventsAggregator.storable (truncate 2000 error)

def OutboxRepository.commit (outbox : Table OutboxEventORM.id) (event : OutboxEventORM)
    (mark : Mark) : Option (Table OutboxEventORM.id) :=
  if mark.storable then some (writeBack outbox event mark) else none

/-- What an iteration leaves behind: the outbox, the rows that it dispatched, and whether it came
    to the end of its batch. -/
structure Iteration where
  outbox : Table OutboxEventORM.id
  dispatched : List UUID
  finished : Bool

def Iteration.after (id : UUID) (behind : Iteration) : Iteration :=
  { behind with dispatched := id :: behind.dispatched }

namespace OutboxPublisher

variable (libraries : Libraries) (settings : OutboxSettings)

def publishOne (outbox : Table OutboxEventORM.id) (event : OutboxEventORM)
    (attempted : Attempted) : Option (Table OutboxEventORM.id) :=
  OutboxRepository.commit outbox event (mark libraries settings event attempted)

def processBatch (attempts : UUID → Attempted) :
    List OutboxEventORM → Table OutboxEventORM.id → Iteration
  | [], outbox => ⟨outbox, [], true⟩
  | event :: rest, outbox =>
    match publishOne libraries settings outbox event (attempts event.id) with
    | none => ⟨outbox, [event.id], false⟩
    | some outbox => (processBatch attempts rest outbox).after event.id

end OutboxPublisher

inductive IterationAction
  | add (row : OutboxEventORM)
  | iterate (batch : List OutboxEventORM) (attempts : UUID → Attempted)

inductive IterationStep (libraries : Libraries) (settings : OutboxSettings) :
    Table OutboxEventORM.id → IterationAction → Table OutboxEventORM.id → Prop
  | add {outbox outbox' : Table OutboxEventORM.id} (id : UUID) (eventType : OutboxEventType)
      (payload : Payload) (createdAt : Instant)
      (inserted : outbox.insert? (.pending id eventType payload createdAt) = some outbox') :
      IterationStep libraries settings outbox (.add (.pending id eventType payload createdAt))
        outbox'
  | iterate {outbox : Table OutboxEventORM.id} {batch : List OutboxEventORM}
      (attempts : UUID → Attempted)
      (fetched : OutboxRepository.FetchPending settings.outboxBatchSize (fun _ => False) outbox
        batch) :
      IterationStep libraries settings outbox (.iterate batch attempts)
        (OutboxPublisher.processBatch libraries settings attempts batch outbox).outbox

def iterations (libraries : Libraries) (settings : OutboxSettings) :
    System (Table OutboxEventORM.id) IterationAction where
  Initial _ := True
  Step := IterationStep libraries settings

variable {libraries : Libraries} {settings : OutboxSettings}

/-- An iteration that came to the end of its batch: the rows of the batch are marked, and no other
    row has changed. -/
structure Processed (marked : OutboxEventORM → Mark) (batch : List OutboxEventORM)
    (outbox : Table OutboxEventORM.id) (after : Iteration) : Prop where
  dispatched : after.dispatched = batch.map OutboxEventORM.id
  finished : after.finished = true
  written : ∀ event ∈ batch, after.outbox.find? event.id = some ((marked event).apply event)
  kept : ∀ id, id ∉ batch.map OutboxEventORM.id → after.outbox.find? id = outbox.find? id

namespace OutboxPublisher

theorem process_refused {attempts : UUID → Attempted} {event : OutboxEventORM}
    {rest : List OutboxEventORM} {outbox : Table OutboxEventORM.id}
    (refused : (mark libraries settings event (attempts event.id)).storable = false) :
    processBatch libraries settings attempts (event :: rest) outbox =
      ⟨outbox, [event.id], false⟩ := by
  have failed : publishOne libraries settings outbox event (attempts event.id) = none :=
    if_neg (ne_true_of_eq_false refused)
  rw [processBatch, failed]

theorem process_committed {attempts : UUID → Attempted} {event : OutboxEventORM}
    {rest : List OutboxEventORM} {outbox : Table OutboxEventORM.id} {mark : Mark}
    (marked : OutboxPublisher.mark libraries settings event (attempts event.id) = mark)
    (storable : mark.storable = true) :
    processBatch libraries settings attempts (event :: rest) outbox =
      (processBatch libraries settings attempts rest (writeBack outbox event mark)).after
        event.id := by
  have committed : publishOne libraries settings outbox event (attempts event.id) =
      some (writeBack outbox event mark) := by
    rw [publishOne, marked]
    exact if_pos storable
  rw [processBatch, committed]

theorem process_batch {attempts : UUID → Attempted} {batch : List OutboxEventORM}
    {outbox : Table OutboxEventORM.id} (distinct : (batch.map OutboxEventORM.id).Nodup)
    (current : ∀ event ∈ batch, outbox.find? event.id = some event)
    (storable : ∀ event ∈ batch,
      (mark libraries settings event (attempts event.id)).storable = true) :
    Processed (fun event => mark libraries settings event (attempts event.id)) batch outbox
      (processBatch libraries settings attempts batch outbox) := by
  induction batch generalizing outbox with
  | nil => exact ⟨rfl, rfl, List.forall_mem_nil _, fun _ _ => rfl⟩
  | cons event rest ih =>
    obtain ⟨apart, distinct⟩ := List.nodup_cons.mp distinct
    obtain ⟨here, behind⟩ := List.forall_mem_cons.mp current
    obtain ⟨first, later⟩ := List.forall_mem_cons.mp storable
    have other : ∀ later ∈ rest, later.id ≠ event.id := fun later member same =>
      apart (same ▸ List.mem_map_of_mem member)
    have after := @ih (writeBack outbox event (mark libraries settings event (attempts event.id)))
      distinct (fun later member =>
        (find?_writeBack_of_ne (other later member)).trans (behind later member)) later
    rw [process_committed rfl first]
    refine ⟨congrArg (event.id :: ·) after.dispatched, after.finished, ?_, ?_⟩
    · refine List.forall_mem_cons.mpr ⟨?_, after.written⟩
      exact (after.kept event.id apart).trans (find?_writeBack_self _ here)
    · intro id outside
      obtain ⟨unlike, outside⟩ := not_or.mp (mt List.mem_cons.mpr outside)
      exact (after.kept id outside).trans (find?_writeBack_of_ne unlike)

theorem finished_iff {attempts : UUID → Attempted} {batch : List OutboxEventORM}
    {outbox : Table OutboxEventORM.id} :
    (processBatch libraries settings attempts batch outbox).finished = true ↔
      ∀ event ∈ batch, (mark libraries settings event (attempts event.id)).storable = true := by
  induction batch generalizing outbox with
  | nil => exact iff_of_true rfl (List.forall_mem_nil _)
  | cons event rest ih =>
    rw [List.forall_mem_cons]
    by_cases first : (mark libraries settings event (attempts event.id)).storable = true
    · rw [process_committed rfl first]
      exact ih.trans (and_iff_right first).symm
    · rw [process_refused (eq_false_of_ne_true first)]
      exact iff_of_false Bool.false_ne_true fun both => first both.1

end OutboxPublisher

section Workers

variable {C : Capashino}

def Stored (outbox : Table OutboxEventORM.id) : Prop :=
  ∀ row ∈ outbox.rows, ∀ error ∈ row.lastError, storable error = true

def AnswersAll (C : Capashino) : Prop :=
  ∀ capashino notification transport,
    ∃ capashino', C.Handles capashino notification transport capashino'

theorem apply_storable {event : OutboxEventORM} {mark : Mark}
    (stored : ∀ error ∈ event.lastError, storable error = true) (fits : mark.storable = true) :
    ∀ error ∈ (mark.apply event).lastError, storable error = true := by
  cases mark with
  | sent now => exact stored
  | failedAttempt error maxAttempts =>
    rintro _ ⟨⟩
    exact fits

def Worker.resting (batch : List OutboxEventORM) (locks : List UUID) : List OutboxEventORM → Worker
  | [] => .idle
  | todo => .working batch todo .ready locks

def OthersIdle (i : Nat) (s : PublisherState C) : Prop := ∀ j, j ≠ i → s.workers j = .idle

theorem others_idle_update {i : Nat} {workers : Nat → Worker} {worker : Worker}
    (alone : ∀ j, j ≠ i → workers j = .idle) :
    ∀ j, j ≠ i → Function.update workers i worker j = .idle := fun j other =>
  (Function.update_of_ne other worker workers).trans (alone j other)

theorem others_unlocked {i : Nat} {s : PublisherState C} (alone : OthersIdle i s) (id : UUID) :
    ¬ LockedByOthers s.workers i id :=
  not_locked fun j other => congrArg Worker.locks (alone j other)

theorem publish_row (answers : AnswersAll C) {s : PublisherState C} {i : Nat}
    {batch rest : List OutboxEventORM} {event : OutboxEventORM} {locks : List UUID}
    (alone : OthersIdle i s) (found : s.workers i = .working batch (event :: rest) .ready locks)
    (stored : ∀ error ∈ event.lastError, storable error = true) (attempted : Attempted)
    (fits : (OutboxPublisher.mark libraries settings event attempted).storable = true) :
    ∃ moves t, Run (publishers libraries settings C) s moves t ∧ OthersIdle i t ∧
      t.outbox =
        writeBack s.outbox event (OutboxPublisher.mark libraries settings event attempted) ∧
      t.workers i = .next batch rest := by
  have waited := (@Run.refl _ _ (publishers libraries settings C) s).move
    (.tick attempted.now)
  have marked : ∃ moves t mark, Run (publishers libraries settings C) s moves t ∧ OthersIdle i t ∧
      t.outbox = s.outbox ∧ mark = OutboxPublisher.mark libraries settings event attempted ∧
      t.workers i = .working batch (event :: rest) (.marking mark) locks := by
    cases dispatched : OutboxPublisher.dispatch event with
    | ended outcome =>
      refine ⟨_, _, _, waited.move (.acknowledge found dispatched), others_idle_update alone, rfl,
        ?_, Function.update_self ..⟩
      rw [OutboxPublisher.mark, dispatched]
    | send notification =>
      have sent := waited.move (.send found dispatched)
      obtain ⟨capashino, handled⟩ := answers s.capashino notification attempted.transport
      refine ⟨_, _, _, sent.move (.answer (Function.update_self ..) handled),
        others_idle_update (others_idle_update alone), rfl, ?_, Function.update_self ..⟩
      rw [OutboxPublisher.mark, dispatched]
  obtain ⟨moves, t, mark, run, alone, outbox, rfl, there⟩ := marked
  have updated := run.move (.update there (others_unlocked alone event.id)
    (apply_storable stored fits))
  have committed := updated.move (.commit (Function.update_self ..))
  refine ⟨_, _, committed, others_idle_update (others_idle_update alone), ?_,
    Function.update_self ..⟩
  rw [← outbox]

theorem batch_run (answers : AnswersAll C) (attempts : UUID → Attempted) {i : Nat}
    {batch todo : List OutboxEventORM} {s : PublisherState C} {locks : List UUID}
    (alone : OthersIdle i s) (there : s.workers i = .resting batch locks todo)
    (stored : ∀ event ∈ todo, ∀ error ∈ event.lastError, storable error = true) :
    ∃ moves t, Run (publishers libraries settings C) s moves t ∧ (∀ j, t.workers j = .idle) ∧
      t.outbox =
        (OutboxPublisher.processBatch libraries settings attempts todo s.outbox).outbox := by
  induction todo generalizing s locks with
  | nil =>
    refine ⟨[], s, .refl, fun j => ?_, rfl⟩
    by_cases here : j = i
    · rw [here]
      exact there
    · exact alone j here
  | cons event rest ih =>
    obtain ⟨first, later⟩ := List.forall_mem_cons.mp stored
    by_cases fits : (OutboxPublisher.mark libraries settings event
        (attempts event.id)).storable = true
    · obtain ⟨moves, t, run, alone, outbox, next⟩ := publish_row answers alone there first _ fits
      have resting : t.workers i = .resting batch [] rest := by
        rw [next]
        cases rest <;> rfl
      obtain ⟨more, u, onward, idle, after⟩ := ih alone resting later
      refine ⟨_, u, Run.trans run onward, idle, ?_⟩
      rw [after, outbox, OutboxPublisher.process_committed rfl fits]
      rfl
    · have abandoned := (@Run.refl _ _ (publishers libraries settings C) s).move
        (.abandon (i := i))
      refine ⟨_, _, abandoned, fun j => ?_, ?_⟩
      · by_cases here : j = i
        · rw [here]
          exact Function.update_self ..
        · exact others_idle_update alone j here
      · rw [OutboxPublisher.process_refused (eq_false_of_ne_true fits)]

/-- An iteration is a run of one worker. -/
theorem iteration_run (answers : AnswersAll C) {s : PublisherState C} {batch : List OutboxEventORM}
    (idle : ∀ j, s.workers j = .idle) (stored : Stored s.outbox)
    (fetched : OutboxRepository.FetchPending settings.outboxBatchSize (fun _ => False) s.outbox
      batch) (attempts : UUID → Attempted) :
    ∃ moves t, Run (publishers libraries settings C) s moves t ∧ (∀ j, t.workers j = .idle) ∧
      t.outbox =
        (OutboxPublisher.processBatch libraries settings attempts batch s.outbox).outbox := by
  have unlocked : LockedByOthers s.workers 0 = fun _ => False := by
    funext id
    exact eq_false (others_unlocked (fun j _ => idle j) id)
  have taken := (@Run.refl _ _ (publishers libraries settings C) s).move
    (.fetch (idle 0) (unlocked ▸ fetched))
  have away : OthersIdle 0
      { s with workers := Function.update s.workers 0 (.fetched batch) } :=
    others_idle_update fun j _ => idle j
  have resting : Function.update s.workers 0 (.fetched batch) 0 =
      .resting batch (batch.map OutboxEventORM.id) batch := by
    rw [Function.update_self]
    cases batch <;> rfl
  obtain ⟨moves, t, run, rest, outbox⟩ := batch_run answers attempts away resting
    fun event member =>
      stored event ((s.outbox.find?_eq_some _ _).mp (fetched_mem fetched member).1).1
  exact ⟨_, t, Run.trans taken run, rest, outbox⟩

end Workers

end EventsAggregator
