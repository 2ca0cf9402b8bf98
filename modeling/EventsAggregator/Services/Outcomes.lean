import EventsAggregator.Services.Deliveries

namespace EventsAggregator

open Relational Transition

variable {libraries : Libraries} {settings : OutboxSettings} {C : Capashino}

def failedAttempt? (m : Move (PublisherState C) PublisherAction) : Option UUID :=
  m.action.committer.bind fun i =>
    match m.source.workers i with
    | .working _ (event :: _) (.committing (.failedAttempt _ _)) _ => some event.id
    | _ => none

def PublisherState.attempts (s : PublisherState C) (id : UUID) : Nat :=
  (s.outbox.find? id).elim 0 OutboxEventORM.attempts

def StatusFinal (m : Move (PublisherState C) PublisherAction) : Prop :=
  ∀ id row, m.source.outbox.find? id = some row → row.status ≠ .pending →
    ∃ row', m.target.outbox.find? id = some row' ∧ row'.status = row.status

theorem head_current {s : PublisherState C} (shared : Shared .todo s) {i : Nat}
    {batch rest : List OutboxEventORM} {event : OutboxEventORM} {point : PublishPoint}
    {locks : List UUID} (found : s.workers i = .working batch (event :: rest) point locks) :
    s.outbox.find? event.id = some event ∧ event.status = .pending := by
  apply shared.current i event
  rw [found]
  exact List.mem_cons_self ..

theorem status_step {s t : PublisherState C} {a : PublisherAction} (shared : Shared .todo s)
    (step : PublisherStep libraries settings s a t) : StatusFinal ⟨s, a, t⟩ := by
  intro id row present settled
  show ∃ row', t.outbox.find? id = some row' ∧ row'.status = row.status
  generalize there : t.outbox = outbox
  have change := there ▸ step_outbox step
  cases change with
  | unchanged => exact ⟨row, present, rfl⟩
  | inserted inserted => exact ⟨row, Table.find?_kept inserted present, rfl⟩
  | @written a i batch rest event locks mark acting found =>
    obtain ⟨current, pending⟩ := head_current shared found
    have other : id ≠ event.id := by
      rintro rfl
      rw [current] at present
      cases present
      exact settled pending
    exact ⟨row, by rw [find?_writeBack_of_ne other]; exact present, rfl⟩

theorem failedAttempt_idle {s t : PublisherState C} {a : PublisherAction}
    (idle : a.committer = none) : failedAttempt? ⟨s, a, t⟩ = none := by
  simp [failedAttempt?, idle]

theorem failedAttempt_acting {s t : PublisherState C} {a : PublisherAction} {i : Nat}
    {batch rest : List OutboxEventORM} {event : OutboxEventORM} {locks : List UUID} {mark : Mark}
    (acting : a.committer = some i)
    (found : s.workers i = .working batch (event :: rest) (.committing mark) locks) :
    failedAttempt? ⟨s, a, t⟩ = match mark with
      | .sent _ => none
      | .failedAttempt _ _ => some event.id := by
  simp only [failedAttempt?, acting, Option.bind_some, found]
  cases mark <;> rfl

theorem attempts_step {s t : PublisherState C} {a : PublisherAction} (shared : Shared .todo s)
    (step : PublisherStep libraries settings s a t) (id : UUID) :
    t.attempts id = s.attempts id + if failedAttempt? ⟨s, a, t⟩ = some id then 1 else 0 := by
  unfold PublisherState.attempts
  generalize there : t.outbox = outbox
  have change := there ▸ step_outbox step
  cases change with
  | unchanged idle =>
    rw [failedAttempt_idle idle]
    simp
  | @inserted _ fresh eventType payload createdAt inserted =>
    rw [failedAttempt_idle rfl, Table.find?_inserted inserted]
    obtain ⟨absent, _⟩ := (s.outbox.insert?_eq_some _ _).mp inserted
    by_cases here : fresh = id
    · subst here
      have absent : s.outbox.find? fresh = none := absent
      simp [OutboxEventORM.pending, absent]
    · simp [OutboxEventORM.pending, here]
  | @written a i batch rest event locks mark acting found =>
    obtain ⟨current, _⟩ := head_current shared found
    rw [failedAttempt_acting acting found]
    by_cases here : id = event.id
    · subst here
      rw [find?_writeBack_self mark current, current]
      cases mark with
      | sent now => simp [Mark.apply, OutboxRepository.markSent]
      | failedAttempt error maxAttempts => simp [Mark.apply, OutboxRepository.markFailedAttempt]
    · rw [find?_writeBack_of_ne here]
      cases mark <;> simp [Ne.symm here]

theorem attempts_counted {s t : PublisherState C}
    {moves : List (Move (PublisherState C) PublisherAction)}
    (initial : (publishers libraries settings C).Initial s)
    (run : Run (publishers libraries settings C) s moves t)
    (guard : ∀ m ∈ moves, PortionsLocked .todo m) (id : UUID) :
    t.attempts id = (moves.filterMap failedAttempt?).count id := by
  induction run with
  | refl => simp [PublisherState.attempts, initial.1]
  | @move moves t u a run step ih =>
    have earlier : ∀ m ∈ moves, PortionsLocked .todo m := fun m member =>
      guard m (List.mem_cons_of_mem _ member)
    have shared := shared_run initial run earlier
    rw [attempts_step shared step, ih earlier]
    cases label : failedAttempt? ⟨t, a, u⟩ with
    | none => simp [List.filterMap_cons_none label]
    | some id' =>
      rw [List.filterMap_cons_some label, List.count_cons]
      simp

theorem outcomes_kept {s t : PublisherState C}
    {moves : List (Move (PublisherState C) PublisherAction)}
    (initial : (publishers libraries settings C).Initial s)
    (run : Run (publishers libraries settings C) s moves t)
    (guard : ∀ m ∈ moves, PortionsLocked .todo m) :
    (∀ m ∈ moves, StatusFinal m) ∧
      ∀ row ∈ t.outbox.rows, row.attempts = (moves.filterMap failedAttempt?).count row.id := by
  constructor
  · intro m member
    have shared := shared_source initial run guard member
    exact status_step shared (run.step_of_mem member)
  · intro row member
    rw [← attempts_counted initial run guard row.id, PublisherState.attempts,
      (t.outbox.find?_eq_some row.id row).mpr ⟨member, rfl⟩]
    rfl

theorem lone_attempt_counted : ∃ moves t,
    Run (publishers sampleLibraries sampleSettings anyCapashino) (freshPublishers anyCapashino ())
      moves t ∧ t.outbox.rows.map (·.attempts) = [1] ∧ (∀ m ∈ moves, StatusFinal m) ∧
      ∀ row ∈ t.outbox.rows, row.attempts = (moves.filterMap failedAttempt?).count row.id := by
  obtain ⟨moves, t, run, guard, _, one⟩ := unauthorized_attempt
  exact ⟨moves, t, run, one, outcomes_kept (fresh_initial trivial) run (guard .todo)⟩

theorem outcomes_not_kept : ¬ ∀ (s t : PublisherState anyCapashino)
    (moves : List (Move (PublisherState anyCapashino) PublisherAction)),
    (publishers sampleLibraries sampleSettings anyCapashino).Initial s →
      Run (publishers sampleLibraries sampleSettings anyCapashino) s moves t →
        (∀ m ∈ moves, StatusFinal m) ∧
          ∀ row ∈ t.outbox.rows, row.attempts = (moves.filterMap failedAttempt?).count row.id := by
  intro kept
  obtain ⟨moves, run⟩ := contended_reached
  have mine : ¬ LockedByOthers contended.workers 1 ⟨101⟩ := by
    apply not_locked
    intro j other
    match j with
    | 0 => rfl
    | 1 => exact absurd rfl other
    | j + 2 => rfl
  obtain ⟨_, _, sending⟩ :=
    attempt_row () run (Function.update_self ..) (dispatch_soldRow ..) trivial
    (@record_notificationBody 201 ⟨2⟩ 0 (by decide) (by decide)) mine
    (sent_storable _ rfl _)
  have sent := sending.move (.commit (Function.update_self ..))
  obtain ⟨_, _, refused⟩ :=
    @attempt_row _ _ _ _ _ _ 0 _ _ _ _ _ (.response unauthorized) _ () sent rfl
    (dispatch_soldRow ..) trivial (record_unauthorized 0) (not_locked fun j other => by
      match j with
      | 0 => exact absurd rfl other
      | 1 => rfl
      | j + 2 => rfl) (by
      intro error written
      cases written
      decide)
  have failed := refused.move (.commit (Function.update_self ..))
  obtain ⟨final, _⟩ := kept _ _ _ (fresh_initial trivial) failed
  obtain ⟨row, found, same⟩ := final _ (List.mem_cons_self ..) ⟨101⟩ _ rfl (by decide)
  have status := congrArg (Option.map OutboxEventORM.status) found
  rw [Option.map_some, same] at status
  exact absurd status (by decide)

end EventsAggregator
