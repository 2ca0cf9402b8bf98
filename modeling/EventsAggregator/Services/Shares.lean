import EventsAggregator.Services.OutboxPublisher

namespace EventsAggregator

open Relational Transition

variable {libraries : Libraries} {settings : OutboxSettings} {C : Capashino}

def PublisherAction.committer : PublisherAction → Option Nat
  | .commit i | .commitLost i => some i
  | _ => none

inductive OutboxChange (s : PublisherState C) : PublisherAction → Table OutboxEventORM.id → Prop
  | unchanged {a : PublisherAction} (idle : a.committer = none) : OutboxChange s a s.outbox
  | inserted {outbox : Table OutboxEventORM.id} {id : UUID} {eventType : OutboxEventType}
      {payload : Payload} {createdAt : Instant}
      (inserted : s.outbox.insert? (.pending id eventType payload createdAt) = some outbox) :
      OutboxChange s (.add (.pending id eventType payload createdAt)) outbox
  | written {a : PublisherAction} {i : Nat} {batch rest : List OutboxEventORM}
      {event : OutboxEventORM} {locks : List UUID} {mark : Mark} (acting : a.committer = some i)
      (found : s.workers i = .working batch (event :: rest) (.committing mark) locks) :
      OutboxChange s a (writeBack s.outbox event mark)

inductive ShareChange (settings : OutboxSettings) (s : PublisherState C) (a : PublisherAction)
    (t : PublisherState C) (i : Nat) : Prop
  | kept (idle : a.committer ≠ some i) (batch : (t.workers i).batch = (s.workers i).batch)
      (todo : (t.workers i).todo = (s.workers i).todo)
  | dropped (idle : t.workers i = .idle)
  | fetched {batch : List OutboxEventORM} (acting : a = .fetch i)
      (fetched : OutboxRepository.FetchPending settings.outboxBatchSize (LockedByOthers s.workers i)
        s.outbox batch) (outbox : t.outbox = s.outbox) (there : t.workers i = .fetched batch)
  | handled {batch rest : List OutboxEventORM} {event : OutboxEventORM} {locks : List UUID}
      {mark : Mark} (acting : a.committer = some i)
      (found : s.workers i = .working batch (event :: rest) (.committing mark) locks)
      (outbox : t.outbox = writeBack s.outbox event mark) (there : t.workers i = .next batch rest)

theorem step_outbox {s t : PublisherState C} {a : PublisherAction}
    (step : PublisherStep libraries settings s a t) : OutboxChange s a t.outbox := by
  cases step with
  | add id eventType payload createdAt inserted => exact .inserted inserted
  | commit found => exact .written rfl found
  | commitLost found => exact .written rfl found
  | fetch | send | acknowledge | answer | update | abandon | late | tick =>
    exact .unchanged rfl

theorem share_other {s t : PublisherState C} {a : PublisherAction} {i j : Nat} {worker : Worker}
    (target : t.workers = Function.update s.workers i worker) (other : j ≠ i)
    (idle : a.committer ≠ some j) : ShareChange settings s a t j := by
  have same : t.workers j = s.workers j := by
    rw [target]
    exact Function.update_of_ne other worker s.workers
  exact .kept idle (congrArg Worker.batch same) (congrArg Worker.todo same)

theorem share_turn {s t : PublisherState C} {a : PublisherAction} {i : Nat}
    {batch todo : List OutboxEventORM} {point point' : PublishPoint} {locks locks' : List UUID}
    (found : s.workers i = .working batch todo point locks)
    (target : t.workers = Function.update s.workers i (.working batch todo point' locks'))
    (idle : a.committer = none) (j : Nat) : ShareChange settings s a t j := by
  have quiet : a.committer ≠ some j := by simp [idle]
  by_cases here : j = i
  · subst here
    have there : t.workers j = .working batch todo point' locks' := by
      rw [target]
      exact Function.update_self ..
    exact .kept quiet (by rw [there, found]; rfl) (by rw [there, found]; rfl)
  · exact share_other target here quiet

theorem step_share {s t : PublisherState C} {a : PublisherAction}
    (step : PublisherStep libraries settings s a t) (j : Nat) :
    ShareChange settings s a t j := by
  cases step with
  | add | late | tick => exact .kept (by simp [PublisherAction.committer]) rfl rfl
  | send found dispatched => exact share_turn found rfl rfl j
  | acknowledge found dispatched => exact share_turn found rfl rfl j
  | answer found handled => exact share_turn found rfl rfl j
  | update found free storable => exact share_turn found rfl rfl j
  | @fetch i batch idle fetched =>
    by_cases here : j = i
    · subst here
      exact .fetched rfl fetched rfl (Function.update_self ..)
    · exact share_other rfl here (by simp [PublisherAction.committer])
  | @abandon i =>
    by_cases here : j = i
    · subst here
      exact .dropped (Function.update_self ..)
    · exact share_other rfl here (by simp [PublisherAction.committer])
  | @commit i batch rest event locks mark found =>
    by_cases here : j = i
    · subst here
      exact .handled rfl found rfl (Function.update_self ..)
    · exact share_other rfl here (by simpa [PublisherAction.committer] using Ne.symm here)
  | @commitLost i batch rest event locks mark found =>
    by_cases here : j = i
    · subst here
      exact .dropped (Function.update_self ..)
    · exact share_other rfl here (by simpa [PublisherAction.committer] using Ne.symm here)

theorem not_locked {workers : Nat → Worker} {i : Nat} {id : UUID}
    (unlocked : ∀ j, j ≠ i → (workers j).locks = []) : ¬ LockedByOthers workers i id := by
  rintro ⟨j, other, locked⟩
  rw [unlocked j other] at locked
  cases locked

theorem locked_update (workers : Nat → Worker) (i : Nat) (worker : Worker) (id : UUID) :
    LockedByOthers (Function.update workers i worker) i id ↔ LockedByOthers workers i id := by
  unfold LockedByOthers
  apply exists_congr
  intro j
  apply and_congr_right
  intro other
  rw [Function.update_of_ne other]

theorem attempt_row {r s : PublisherState C}
    {earlier : List (Move (PublisherState C) PublisherAction)} {i : Nat}
    {batch rest : List OutboxEventORM} {event : OutboxEventORM} {locks : List UUID}
    {notification : SCapashinoNotificationCreate} {transport : Transport} {mark : Mark}
    (capashino : C.State)
    (run : Run (publishers libraries settings C) r earlier s)
    (found : s.workers i = .working batch (event :: rest) .ready locks)
    (dispatched : OutboxPublisher.dispatch event = .send notification)
    (handled : C.Handles s.capashino notification transport capashino)
    (recorded : OutboxPublisher.record settings s.now
      ((CapashinoClient.receiveNotification libraries transport).map fun _ => ()) = mark)
    (free : ¬ LockedByOthers s.workers i event.id)
    (writable : ∀ error ∈ (mark.apply event).lastError, storable error = true) :
    ∃ turn, turn.map Move.action = [.update i, .answer i transport, .dispatch i] ∧
      Run (publishers libraries settings C) r (turn ++ earlier)
        { s with
          capashino
          sent := (event.id, notification) :: s.sent
          workers := Function.update s.workers i
            (.working batch (event :: rest) (.committing mark) (event.id :: locks)) } := by
  subst recorded
  have sending := run.move (.send found dispatched)
  have answered := sending.move (.answer (Function.update_self ..) handled)
  have updated := answered.move (.update (Function.update_self ..)
    (by rwa [locked_update, locked_update]) writable)
  simp only [Function.update_idem] at updated
  refine ⟨[_, _, _], ?_, updated⟩
  rfl

end EventsAggregator
