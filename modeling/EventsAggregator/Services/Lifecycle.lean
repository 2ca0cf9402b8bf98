import EventsAggregator.Services.Notifications
import EventsAggregator.Services.Outcomes

namespace EventsAggregator

open Relational Transition

variable {libraries : Libraries} {settings : OutboxSettings} {C : Capashino}

def PublisherAction.worker : PublisherAction → Option Nat
  | .fetch i | .dispatch i | .answer i _ | .update i | .commit i | .commitLost i | .abandon i =>
    some i
  | .add _ | .late _ _ | .tick _ => none

def Mark.error? : Mark → Option Text
  | .sent _ => none
  | .failedAttempt error _ => some error

def recordedError? (m : Move (PublisherState C) PublisherAction) : Option (UUID × Text) :=
  m.action.committer.bind fun i =>
    match m.source.workers i with
    | .working _ (event :: _) (.committing mark) _ => mark.error?.map fun error => (event.id, error)
    | _ => none

def lastRecorded? (moves : List (Move (PublisherState C) PublisherAction)) (id : UUID) :
    Option Text :=
  (moves.filterMap recordedError?).lookup id

/-- Capashino rejected the notification for a row permanently, and the client raised this error. -/
def Rejected (libraries : Libraries) (moves : List (Move (PublisherState C) PublisherAction))
    (id : UUID) (error : Text) : Prop :=
  ∃ m ∈ moves, ∃ i transport rejection, m.action = .answer i transport ∧
    (m.source.workers i).todo.head?.map OutboxEventORM.id = some id ∧
    CapashinoClient.receiveNotification libraries transport = .error (.client rejection) ∧
    rejection.isInstance .capashinoPermanentError = true ∧ rejection.message = error

structure Lifecycle (libraries : Libraries) (settings : OutboxSettings)
    (moves : List (Move (PublisherState C) PublisherAction)) (row : OutboxEventORM) : Prop where
  counted : row.attempts = (moves.filterMap failedAttempt?).count row.id
  recorded : row.lastError = (lastRecorded? moves row.id).map (truncate 2000)
  pending : row.status = .pending →
    row.attempts < settings.outboxMaxAttempts ∧ row.sentAt = none
  sent : row.status = .sent → row.sentAt.isSome = true
  failed : row.status = .failed → 1 ≤ row.attempts ∧ row.sentAt = none ∧
    ((∃ error, lastRecorded? moves row.id = some error ∧ Rejected libraries moves row.id error) ∨
      row.attempts = settings.outboxMaxAttempts)

/-- What one move may do to a row. -/
def MovesOn (m : Move (PublisherState C) PublisherAction) (row row' : OutboxEventORM) : Prop :=
  row'.id = row.id ∧ row'.eventType = row.eventType ∧ row'.payload = row.payload ∧
    row'.createdAt = row.createdAt ∧ (row'.status = row.status ∨ row.status = .pending) ∧
    row'.attempts = row.attempts + if failedAttempt? m = some row.id then 1 else 0

namespace Worker

def mark? : Worker → Option (UUID × Mark)
  | .working _ (event :: _) (.marking mark) _ | .working _ (event :: _) (.committing mark) _ =>
    some (event.id, mark)
  | _ => none

theorem mark?_fetched (batch : List OutboxEventORM) : (fetched batch).mark? = none := by
  cases batch <;> rfl

theorem mark?_next (batch rest : List OutboxEventORM) : (next batch rest).mark? = none := by
  cases rest <;> rfl

end Worker

def Justified (libraries : Libraries) (settings : OutboxSettings)
    (moves : List (Move (PublisherState C) PublisherAction)) (worker : Worker) : Prop :=
  ∀ id error maxAttempts, worker.mark? = some (id, .failedAttempt error maxAttempts) →
    maxAttempts = settings.outboxMaxAttempts ∨
      maxAttempts = 1 ∧ Rejected libraries moves id error

theorem record_failed {now : Instant} {outcome : Except Raised Unit} {error : Text}
    {maxAttempts : Int}
    (recorded : OutboxPublisher.record settings now outcome = .failedAttempt error maxAttempts) :
    maxAttempts = settings.outboxMaxAttempts ∨ maxAttempts = 1 ∧ ∃ rejection,
      outcome = .error (.client rejection) ∧
        rejection.isInstance .capashinoPermanentError = true ∧ rejection.message = error := by
  unfold OutboxPublisher.record at recorded
  split at recorded
  · cases recorded
  · rename_i rejection
    split at recorded
    · rename_i permanent
      cases recorded
      exact Or.inr ⟨rfl, rejection, rfl, permanent, rfl⟩
    · split at recorded
      · split at recorded
        · cases recorded
        · cases recorded
          exact Or.inl rfl
      · cases recorded
        exact Or.inl rfl
  · cases recorded
    exact Or.inl rfl

theorem dispatch_ended {event : OutboxEventORM} {outcome : Except Raised Unit}
    (dispatched : OutboxPublisher.dispatch event = .ended outcome) (rejection : APIClientError) :
    outcome ≠ .error (.client rejection) := by
  rintro rfl
  cases type : event.eventType with
  | ticketPurchased =>
    obtain ⟨_, raised⟩ := purchased_ended type dispatched
    cases raised
  | ticketCancelled =>
    rw [OutboxPublisher.dispatch, type] at dispatched
    cases dispatched

theorem Rejected.mono {moves moves' : List (Move (PublisherState C) PublisherAction)} {id : UUID}
    {error : Text} (rejected : Rejected libraries moves id error) (fewer : moves ⊆ moves') :
    Rejected libraries moves' id error := by
  obtain ⟨m, member, rest⟩ := rejected
  exact ⟨m, fewer member, rest⟩

theorem justified_none {moves : List (Move (PublisherState C) PublisherAction)} {worker : Worker}
    (none : worker.mark? = none) : Justified libraries settings moves worker := by
  intro id error maxAttempts waiting
  rw [none] at waiting
  cases waiting

theorem Justified.kept {moves moves' : List (Move (PublisherState C) PublisherAction)}
    {worker worker' : Worker} (justified : Justified libraries settings moves worker)
    (fewer : moves ⊆ moves') (same : worker'.mark? = worker.mark?) :
    Justified libraries settings moves' worker' := by
  intro id error maxAttempts waiting
  rw [same] at waiting
  rcases justified id error maxAttempts waiting with ordinary | ⟨once, rejected⟩
  · exact Or.inl ordinary
  · exact Or.inr ⟨once, rejected.mono fewer⟩

theorem justified_other {moves moves' : List (Move (PublisherState C) PublisherAction)}
    {workers : Nat → Worker} {i : Nat} {worker : Worker}
    (justified : ∀ j, Justified libraries settings moves (workers j)) (fewer : moves ⊆ moves')
    (acting : Justified libraries settings moves' worker) (j : Nat) :
    Justified libraries settings moves' (Function.update workers i worker j) := by
  by_cases here : j = i
  · subst here
    rw [Function.update_self]
    exact acting
  · rw [Function.update_of_ne here]
    exact (justified j).kept fewer rfl

theorem justified_step {moves : List (Move (PublisherState C) PublisherAction)}
    {s t : PublisherState C} {a : PublisherAction}
    (justified : ∀ i, Justified libraries settings moves (s.workers i))
    (step : PublisherStep libraries settings s a t) (i : Nat) :
    Justified libraries settings (⟨s, a, t⟩ :: moves) (t.workers i) := by
  have fewer : moves ⊆ ⟨s, a, t⟩ :: moves := List.subset_cons_self _ moves
  cases step with
  | add | late | tick => exact (justified i).kept fewer rfl
  | @fetch i batch idle fetched =>
    exact justified_other justified fewer (justified_none (Worker.mark?_fetched batch)) _
  | abandon => exact justified_other justified fewer (justified_none rfl) _
  | commitLost found => exact justified_other justified fewer (justified_none rfl) _
  | @commit i batch rest event locks mark found =>
    exact justified_other justified fewer (justified_none (Worker.mark?_next batch rest)) _
  | send found dispatched => exact justified_other justified fewer (justified_none rfl) _
  | @acknowledge i batch rest event locks outcome found dispatched =>
    refine justified_other justified fewer (fun id error maxAttempts waiting => ?_) _
    obtain ⟨rfl, recorded⟩ := Prod.mk.inj (Option.some.inj waiting)
    rcases record_failed recorded with ordinary | ⟨_, rejection, raised, _⟩
    · exact Or.inl ordinary
    · exact absurd raised (dispatch_ended dispatched rejection)
  | @answer i batch rest event locks notification transport capashino found handled =>
    refine justified_other justified fewer (fun id error maxAttempts waiting => ?_) _
    obtain ⟨rfl, recorded⟩ := Prod.mk.inj (Option.some.inj waiting)
    rcases record_failed recorded with ordinary | ⟨once, rejection, raised, permanent, message⟩
    · exact Or.inl ordinary
    · have received : CapashinoClient.receiveNotification libraries transport =
          .error (.client rejection) := by
        cases result : CapashinoClient.receiveNotification libraries transport with
        | ok => rw [result] at raised; cases raised
        | error failure => rw [result] at raised; cases raised; rfl
      have head : (s.workers i).todo.head?.map OutboxEventORM.id = some event.id := by
        rw [found]
        rfl
      exact Or.inr ⟨once, _, List.mem_cons_self .., i, transport, rejection, rfl, head, received,
        permanent, message⟩
  | @update i batch rest event locks mark found free storable =>
    have before : (s.workers i).mark? = some (event.id, mark) := by
      rw [found]
      rfl
    have after : (Worker.working batch (event :: rest) (.committing mark)
        (event.id :: locks)).mark? = (s.workers i).mark? := before.symm
    exact justified_other justified fewer ((justified i).kept fewer after) _

theorem recorded_ids (moves : List (Move (PublisherState C) PublisherAction)) :
    (moves.filterMap recordedError?).map Prod.fst = moves.filterMap failedAttempt? := by
  rw [List.map_filterMap]
  apply List.filterMap_congr
  intro m _
  unfold recordedError? failedAttempt?
  rw [Option.map_bind]
  apply Option.bind_congr
  intro i _
  dsimp only [Function.comp_apply]
  generalize m.source.workers i = worker
  rcases worker with _ | ⟨_, _ | _, _ | _ | _ | ⟨_ | _⟩, _⟩ <;> rfl

theorem never_recorded {moves : List (Move (PublisherState C) PublisherAction)} {id : UUID}
    (never : (moves.filterMap failedAttempt?).count id = 0) : lastRecorded? moves id = none := by
  rw [← recorded_ids, List.count_eq_zero] at never
  rw [lastRecorded?, List.lookup_eq_none_iff]
  intro entry member
  have other : id ≠ entry.1 := by
    rintro rfl
    exact never (List.mem_map_of_mem member)
  simpa using other

theorem recorded_idle {s t : PublisherState C} {a : PublisherAction}
    (idle : a.committer = none) : recordedError? ⟨s, a, t⟩ = none := by
  simp [recordedError?, idle]

theorem recorded_acting {s t : PublisherState C} {a : PublisherAction} {i : Nat}
    {batch rest : List OutboxEventORM} {event : OutboxEventORM} {locks : List UUID} {mark : Mark}
    (acting : a.committer = some i)
    (found : s.workers i = .working batch (event :: rest) (.committing mark) locks) :
    recordedError? ⟨s, a, t⟩ = mark.error?.map fun error => (event.id, error) := by
  simp only [recordedError?, acting, Option.bind_some, found]

theorem lastRecorded_none {m : Move (PublisherState C) PublisherAction}
    (moves : List (Move (PublisherState C) PublisherAction)) (id : UUID)
    (none : recordedError? m = none) : lastRecorded? (m :: moves) id = lastRecorded? moves id := by
  rw [lastRecorded?, List.filterMap_cons_none none]
  rfl

theorem lastRecorded_some {m : Move (PublisherState C) PublisherAction} {id : UUID}
    {error : Text} (moves : List (Move (PublisherState C) PublisherAction)) (id' : UUID)
    (some : recordedError? m = some (id, error)) :
    lastRecorded? (m :: moves) id' =
      if id' = id then .some error else lastRecorded? moves id' := by
  rw [lastRecorded?, List.filterMap_cons_some some, List.lookup_cons]
  by_cases here : id' = id
  · simp [here]
  · have other : (id' == id) = false := beq_false_of_ne here
    rw [other, if_neg here]
    rfl

theorem Lifecycle.kept {moves : List (Move (PublisherState C) PublisherAction)}
    {m : Move (PublisherState C) PublisherAction} {row : OutboxEventORM}
    (lifecycle : Lifecycle libraries settings moves row)
    (counted : row.attempts = ((m :: moves).filterMap failedAttempt?).count row.id)
    (recorded : lastRecorded? (m :: moves) row.id = lastRecorded? moves row.id) :
    Lifecycle libraries settings (m :: moves) row where
  counted := counted
  recorded := by
    rw [recorded]
    exact lifecycle.recorded
  pending := lifecycle.pending
  sent := lifecycle.sent
  failed status := by
    obtain ⟨positive, unsent, cause⟩ := lifecycle.failed status
    refine ⟨positive, unsent, ?_⟩
    rcases cause with ⟨error, last, rejected⟩ | limit
    · exact Or.inl ⟨error, recorded.trans last, rejected.mono (List.subset_cons_self m moves)⟩
    · exact Or.inr limit

theorem lifecycle_pending (room : 1 ≤ settings.outboxMaxAttempts) {id : UUID}
    {eventType : OutboxEventType} {payload : Payload} {createdAt : Instant}
    {moves : List (Move (PublisherState C) PublisherAction)}
    (never : (moves.filterMap failedAttempt?).count id = 0) :
    Lifecycle libraries settings moves (.pending id eventType payload createdAt) where
  counted := never.symm
  recorded := by
    show none = (lastRecorded? moves id).map (truncate 2000)
    rw [never_recorded never]
    rfl
  pending _ := by
    have first : ((0 : Nat) : Int) < settings.outboxMaxAttempts := by omega
    exact ⟨first, rfl⟩
  sent status := nomatch status
  failed status := nomatch status

theorem lifecycle_sent {moves : List (Move (PublisherState C) PublisherAction)}
    {m : Move (PublisherState C) PublisherAction} {event : OutboxEventORM} {now : Instant}
    (lifecycle : Lifecycle libraries settings moves event)
    (counted : event.attempts = ((m :: moves).filterMap failedAttempt?).count event.id)
    (none : recordedError? m = none) :
    Lifecycle libraries settings (m :: moves) ((Mark.sent now).apply event) where
  counted := counted
  recorded := by
    rw [lastRecorded_none moves _ none]
    exact lifecycle.recorded
  pending status := nomatch status
  sent _ := rfl
  failed status := nomatch status

theorem lifecycle_failed {moves : List (Move (PublisherState C) PublisherAction)}
    {m : Move (PublisherState C) PublisherAction} {event : OutboxEventORM} {error : Text}
    {maxAttempts : Int} (lifecycle : Lifecycle libraries settings moves event)
    (waiting : event.status = .pending)
    (justified : maxAttempts = settings.outboxMaxAttempts ∨
      maxAttempts = 1 ∧ Rejected libraries moves event.id error)
    (counted : event.attempts + 1 = ((m :: moves).filterMap failedAttempt?).count event.id)
    (recorded : recordedError? m = some (event.id, error)) :
    Lifecycle libraries settings (m :: moves)
      ((Mark.failedAttempt error maxAttempts).apply event) := by
  obtain ⟨below, unsent⟩ := lifecycle.pending waiting
  have last : lastRecorded? (m :: moves) event.id = some error := by
    rw [lastRecorded_some moves _ recorded, if_pos rfl]
  have status : ((Mark.failedAttempt error maxAttempts).apply event).status =
      if maxAttempts ≤ ((event.attempts + 1 : Nat) : Int) then .failed else .pending := by
    show (if maxAttempts ≤ ((event.attempts + 1 : Nat) : Int) then .failed else event.status) = _
    rw [waiting]
  have attempts : ((Mark.failedAttempt error maxAttempts).apply event).attempts =
      event.attempts + 1 := rfl
  refine ⟨counted, ?_, ?_, ?_, ?_⟩
  · show some (truncate 2000 error) = (lastRecorded? (m :: moves) event.id).map (truncate 2000)
    rw [last]
    rfl
  · intro still
    refine ⟨?_, unsent⟩
    rw [status] at still
    split at still
    · cases still
    · rw [attempts]
      rcases justified with rfl | ⟨rfl, _⟩ <;> omega
  · intro sent
    rw [status] at sent
    split at sent <;> cases sent
  · intro failed
    rw [status] at failed
    split at failed
    · rename_i limit
      refine ⟨by rw [attempts]; omega, unsent, ?_⟩
      rcases justified with rfl | ⟨rfl, rejected⟩
      · right
        rw [attempts]
        omega
      · exact Or.inl ⟨error, last, rejected.mono (List.subset_cons_self m moves)⟩
    · cases failed

theorem lifecycle_written {moves : List (Move (PublisherState C) PublisherAction)}
    {m : Move (PublisherState C) PublisherAction} {event : OutboxEventORM} {mark : Mark}
    (lifecycle : Lifecycle libraries settings moves event) (waiting : event.status = .pending)
    (justified : ∀ error maxAttempts, mark = .failedAttempt error maxAttempts →
      maxAttempts = settings.outboxMaxAttempts ∨
        maxAttempts = 1 ∧ Rejected libraries moves event.id error)
    (counted : (mark.apply event).attempts =
      ((m :: moves).filterMap failedAttempt?).count event.id)
    (recorded : recordedError? m = mark.error?.map fun error => (event.id, error)) :
    Lifecycle libraries settings (m :: moves) (mark.apply event) := by
  cases mark with
  | sent now => exact lifecycle_sent lifecycle counted recorded
  | failedAttempt error maxAttempts =>
    exact lifecycle_failed lifecycle waiting (justified error maxAttempts rfl) counted recorded

theorem lifecycle_step {r s t : PublisherState C}
    {moves : List (Move (PublisherState C) PublisherAction)} {a : PublisherAction}
    (room : 1 ≤ settings.outboxMaxAttempts)
    (initial : (publishers libraries settings C).Initial r)
    (run : Run (publishers libraries settings C) r moves s)
    (step : PublisherStep libraries settings s a t)
    (guard : ∀ m ∈ (⟨s, a, t⟩ : Move (PublisherState C) PublisherAction) :: moves,
      PortionsLocked .todo m)
    (justified : ∀ i, Justified libraries settings moves (s.workers i))
    (lifecycles : ∀ row ∈ s.outbox.rows, Lifecycle libraries settings moves row) :
    ∀ row ∈ t.outbox.rows, Lifecycle libraries settings (⟨s, a, t⟩ :: moves) row := by
  intro row member
  have counted := (outcomes_kept initial (run.move step) guard).2 row member
  generalize there : t.outbox = outbox at member
  have change := there ▸ step_outbox step
  cases change with
  | unchanged idle =>
    exact (lifecycles row member).kept counted (lastRecorded_none moves _ (recorded_idle idle))
  | @inserted _ id eventType payload createdAt inserted =>
    obtain ⟨absent, rows⟩ := (s.outbox.insert?_eq_some _ _).mp inserted
    rw [rows] at member
    rcases List.mem_append.mp member with earlier | fresh
    · exact (lifecycles row earlier).kept counted (lastRecorded_none moves _ (recorded_idle rfl))
    · cases List.mem_singleton.mp fresh
      exact lifecycle_pending room counted.symm
  | @written _ i batch rest event locks mark acting found =>
    have shared := shared_run initial run fun m inside => guard m (List.mem_cons_of_mem _ inside)
    obtain ⟨current, waiting⟩ := head_current shared found
    have recorded := @recorded_acting C s t a i batch rest event locks mark acting found
    have present := (Table.find?_eq_some _ row.id row).mpr ⟨member, rfl⟩
    by_cases here : row.id = event.id
    · rw [here, find?_writeBack_self mark current] at present
      cases present
      refine lifecycle_written (lifecycles event ((s.outbox.find?_eq_some _ _).mp current).1)
        waiting ?_ (here ▸ counted) recorded
      rintro error maxAttempts rfl
      apply justified i event.id error maxAttempts
      rw [found]
      rfl
    · rw [find?_writeBack_of_ne here] at present
      obtain ⟨earlier, _⟩ := (s.outbox.find?_eq_some _ _).mp present
      refine (lifecycles row earlier).kept counted ?_
      cases mark with
      | sent now => exact lastRecorded_none moves _ recorded
      | failedAttempt error maxAttempts => rw [lastRecorded_some moves _ recorded, if_neg here]

theorem moves_on {s t : PublisherState C} {a : PublisherAction} (shared : Shared .todo s)
    (step : PublisherStep libraries settings s a t) {row : OutboxEventORM}
    (member : row ∈ s.outbox.rows) : ∃ row' ∈ t.outbox.rows, MovesOn ⟨s, a, t⟩ row row' := by
  have present := (s.outbox.find?_eq_some row.id row).mpr ⟨member, rfl⟩
  have counted := attempts_step shared step row.id
  have here : s.attempts row.id = row.attempts := by
    rw [PublisherState.attempts, present]
    rfl
  have moved : ∀ row' : OutboxEventORM, t.outbox.find? row.id = some row' →
      row'.eventType = row.eventType → row'.payload = row.payload →
      row'.createdAt = row.createdAt → (row'.status = row.status ∨ row.status = .pending) →
      ∃ row' ∈ t.outbox.rows, MovesOn ⟨s, a, t⟩ row row' := by
    intro row' found eventType payload createdAt status
    obtain ⟨member', same⟩ := (t.outbox.find?_eq_some _ _).mp found
    refine ⟨row', member', same, eventType, payload, createdAt, status, ?_⟩
    rw [here] at counted
    rw [← counted, PublisherState.attempts, found]
    rfl
  have change := step_outbox step
  generalize t.outbox = outbox at change moved
  cases change with
  | unchanged => exact moved row present rfl rfl rfl (Or.inl rfl)
  | inserted inserted =>
    exact moved row (Table.find?_kept inserted present) rfl rfl rfl (Or.inl rfl)
  | @written _ i batch rest event locks mark acting found =>
    by_cases same : row.id = event.id
    · obtain ⟨current, waiting⟩ := head_current shared found
      rw [same, current] at present
      cases present
      have written := find?_writeBack_self mark current
      cases mark <;> exact moved _ written rfl rfl rfl (Or.inr waiting)
    · exact moved row ((find?_writeBack_of_ne same).trans present) rfl rfl rfl (Or.inl rfl)

theorem others_idle {s t : PublisherState C}
    {moves : List (Move (PublisherState C) PublisherAction)} {lone : Nat}
    (initial : (publishers libraries settings C).Initial s)
    (run : Run (publishers libraries settings C) s moves t)
    (alone : ∀ m ∈ moves, ∀ i, m.action.worker = some i → i = lone) :
    ∀ j, j ≠ lone → t.workers j = .idle := by
  refine run.guarded (I := fun t => ∀ j, j ≠ lone → t.workers j = .idle)
    (G := fun m => ∀ i, m.action.worker = some i → i = lone) ?_ alone
    fun j _ => initial.2.2.2 j
  intro t a u idle acts step j other
  have kept : ∀ i worker, a.worker = some i → Function.update t.workers i worker j = .idle := by
    intro i worker acting
    have apart : j ≠ i := by
      rw [acts i acting]
      exact other
    rw [Function.update_of_ne apart]
    exact idle j other
  cases step with
  | add | late | tick => exact idle j other
  | fetch | send | acknowledge | answer | update | commit | commitLost | abandon =>
    exact kept _ _ rfl

theorem lone_locked {s t : PublisherState C}
    {moves : List (Move (PublisherState C) PublisherAction)} {lone : Nat}
    (initial : (publishers libraries settings C).Initial s)
    (run : Run (publishers libraries settings C) s moves t)
    (alone : ∀ m ∈ moves, ∀ i, m.action.worker = some i → i = lone) :
    ∀ m ∈ moves, PortionsLocked .todo m := by
  intro m member i fetching j other event inside
  obtain ⟨later, earlier, rfl, before, _, _⟩ := run.cut member
  have acting : i = lone := by
    apply alone m member
    rw [fetching]
    rfl
  have idle := others_idle initial before
    (fun n inside => alone n (by simp [inside])) j (acting ▸ other)
  rw [idle] at inside
  cases inside

theorem rows_keep_to_lifecycle (room : 1 ≤ settings.outboxMaxAttempts) {s t : PublisherState C}
    {moves : List (Move (PublisherState C) PublisherAction)} {lone : Nat}
    (initial : (publishers libraries settings C).Initial s)
    (run : Run (publishers libraries settings C) s moves t)
    (alone : ∀ m ∈ moves, ∀ i, m.action.worker = some i → i = lone) :
    (∀ row ∈ t.outbox.rows, Lifecycle libraries settings moves row) ∧
      ∀ m ∈ moves, ∀ row ∈ m.source.outbox.rows, ∃ row' ∈ m.target.outbox.rows,
        MovesOn m row row' := by
  have guard := lone_locked initial run alone
  constructor
  · clear alone
    have both : (∀ i, Justified libraries settings moves (t.workers i)) ∧
        ∀ row ∈ t.outbox.rows, Lifecycle libraries settings moves row := by
      induction run with
      | refl =>
        constructor
        · intro i
          apply justified_none
          rw [initial.2.2.2 i]
          rfl
        · rw [initial.1]
          exact fun row member => nomatch member
      | move run step ih =>
        obtain ⟨justified, lifecycles⟩ := ih fun m member =>
          guard m (List.mem_cons_of_mem _ member)
        exact ⟨justified_step justified step,
          lifecycle_step room initial run step guard justified lifecycles⟩
    exact both.2
  · intro m member row inside
    exact moves_on (shared_source initial run guard member) (run.step_of_mem member) inside

theorem unauthorized_row_fails : ∃ moves t,
    Run (publishers sampleLibraries sampleSettings anyCapashino) (freshPublishers anyCapashino ())
      moves t ∧ t.outbox.rows.map (·.status) = [.failed] ∧
      (∀ row ∈ t.outbox.rows, Lifecycle sampleLibraries sampleSettings moves row) ∧
      ∀ m ∈ moves, ∀ row ∈ m.source.outbox.rows, ∃ row' ∈ m.target.outbox.rows,
        MovesOn m row row' := by
  have start := @Run.refl _ _ (publishers sampleLibraries sampleSettings anyCapashino)
    (freshPublishers anyCapashino ())
  have added := start.move (PublisherStep.add ⟨100⟩ .ticketPurchased
    (soldRow ⟨100⟩ ⟨7⟩ 10).payload 10 rfl)
  have fetched := added.move (@PublisherStep.fetch _ _ _ _ 0 [soldRow ⟨100⟩ ⟨7⟩ 10] rfl
    (fetch_pending_rows (fun _ => not_locked fun _ _ => rfl) (List.pairwise_singleton _ _)))
  obtain ⟨turn, actions, attempted⟩ := attempt_row () fetched (Function.update_self ..)
    (dispatch_soldRow ..) trivial (record_unauthorized 0)
    (by
      rw [locked_update]
      exact not_locked fun _ _ => rfl)
    (by
      intro error written
      cases written
      decide)
  have committed := attempted.move (.commit (Function.update_self ..))
  refine ⟨_, _, committed, rfl, @rows_keep_to_lifecycle sampleLibraries sampleSettings
    anyCapashino (by decide) _ _ _ 0 (fresh_initial trivial) committed ?_⟩
  intro m member i acting
  have acted := List.mem_map_of_mem (f := Move.action) member
  rw [List.map_cons, List.map_append, actions] at acted
  simp only [List.map_cons, List.map_nil, List.cons_append, List.nil_append, List.mem_cons,
    List.not_mem_nil, or_false] at acted
  rcases acted with same | same | same | same | same | same <;>
    simp [same, PublisherAction.worker] at acting <;> exact acting.symm

end EventsAggregator
