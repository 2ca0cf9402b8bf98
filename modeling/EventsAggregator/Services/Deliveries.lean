import EventsAggregator.Services.OutboxRows
import EventsAggregator.Transition.Ownership

namespace EventsAggregator

open Relational Transition

variable {libraries : Libraries} {settings : OutboxSettings} {C : Capashino}

/-- What a worker is said to have: the rows of its current unfinished batch, or only those of them
    that are left. -/
inductive Portion
  | batch
  | todo

def Portion.rows : Portion → Worker → List OutboxEventORM
  | .batch => Worker.batch
  | .todo => Worker.todo

def Portion.Has (portion : Portion) (worker : Worker) (id : UUID) : Prop :=
  id ∈ (portion.rows worker).map OutboxEventORM.id

instance decidableHas (portion : Portion) (worker : Worker) (id : UUID) :
    Decidable (portion.Has worker id) :=
  inferInstanceAs (Decidable (_ ∈ _))

variable {portion : Portion}

structure Shared (portion : Portion) (s : PublisherState C) : Prop where
  exclusive : Exclusive fun i id => portion.Has (s.workers i) id
  ordered : ∀ i, (s.workers i).todo <:+ (s.workers i).batch
  distinct : ∀ i, ((s.workers i).batch.map OutboxEventORM.id).Nodup
  current : ∀ i, ∀ event ∈ (s.workers i).todo,
    s.outbox.find? event.id = some event ∧ event.status = .pending

/-- A worker that fetches finds the pending rows that the other workers have still locked by
    them. -/
def PortionsLocked (portion : Portion) (m : Move (PublisherState C) PublisherAction) : Prop :=
  ∀ i, m.action = .fetch i → ∀ j, j ≠ i → ∀ event ∈ portion.rows (m.source.workers j), ∀ row,
    m.source.outbox.find? event.id = some row → row.status = .pending →
      event.id ∈ (m.source.workers j).locks

theorem todo_has {s : PublisherState C} (shared : Shared portion s) {i : Nat}
    {event : OutboxEventORM} (member : event ∈ (s.workers i).todo) :
    portion.Has (s.workers i) event.id := by
  apply List.mem_map_of_mem
  cases portion with
  | batch => exact (shared.ordered i).subset member
  | todo => exact member

theorem fetched_batch (batch : List OutboxEventORM) : (Worker.fetched batch).batch = batch := by
  cases batch <;> rfl

theorem fetched_todo (batch : List OutboxEventORM) : (Worker.fetched batch).todo = batch := by
  cases batch <;> rfl

theorem fetched_rows (portion : Portion) (batch : List OutboxEventORM) :
    portion.rows (.fetched batch) = batch := by
  cases portion with
  | batch => exact fetched_batch batch
  | todo => exact fetched_todo batch

theorem next_todo (batch rest : List OutboxEventORM) : (Worker.next batch rest).todo = rest := by
  cases rest <;> rfl

theorem next_batch (batch rest : List OutboxEventORM) :
    (Worker.next batch rest).batch = [] ∧ rest = [] ∨ (Worker.next batch rest).batch = batch := by
  cases rest with
  | nil => exact Or.inl ⟨rfl, rfl⟩
  | cons => exact Or.inr rfl

theorem next_rows (portion : Portion) {batch rest : List OutboxEventORM} {event : OutboxEventORM}
    {point : PublishPoint} {locks : List UUID} : portion.rows (.next batch rest) ⊆
      portion.rows (.working batch (event :: rest) point locks) := by
  cases portion with
  | batch =>
    show (Worker.next batch rest).batch ⊆ batch
    rcases next_batch batch rest with ⟨empty, _⟩ | same
    · rw [empty]
      exact List.nil_subset batch
    · rw [same]
      exact List.Subset.refl batch
  | todo =>
    show (Worker.next batch rest).todo ⊆ event :: rest
    rw [next_todo]
    exact List.subset_cons_self event rest

theorem same_rows {worker worker' : Worker} (batch : worker'.batch = worker.batch)
    (todo : worker'.todo = worker.todo) : portion.rows worker' = portion.rows worker := by
  cases portion with
  | batch => exact batch
  | todo => exact todo

theorem idle_rows (portion : Portion) : portion.rows .idle = [] := by
  cases portion <;> rfl

theorem share_fewer {s t : PublisherState C} {a : PublisherAction} {i : Nat}
    (change : ShareChange settings s a t i) (unfetched : a ≠ .fetch i) {id : UUID}
    (has : portion.Has (t.workers i) id) : portion.Has (s.workers i) id := by
  have fewer : portion.rows (t.workers i) ⊆ portion.rows (s.workers i) := by
    cases change with
    | kept idle batch todo =>
      rw [same_rows batch todo]
      exact List.Subset.refl _
    | dropped idle =>
      rw [idle, idle_rows]
      exact List.nil_subset _
    | fetched acting => exact absurd acting unfetched
    | handled acting found outbox there =>
      rw [there, found]
      exact next_rows portion
  exact List.map_subset _ fewer has

theorem exclusive_step {s t : PublisherState C} {a : PublisherAction}
    (shared : Shared portion s) (guard : PortionsLocked portion ⟨s, a, t⟩)
    (step : PublisherStep libraries settings s a t) :
    Exclusive fun i id => portion.Has (t.workers i) id := by
  by_cases fetching : ∃ i, a = .fetch i
  · obtain ⟨i, rfl⟩ := fetching
    refine shared.exclusive.acquire (i := i) ?_ ?_
    · intro j id other has
      exact share_fewer (step_share step j) (by simpa using Ne.symm other) has
    · intro j id other has theirs
      cases step_share step i with
      | kept idle batch todo =>
        have mine : portion.Has (s.workers i) id := by
          rwa [Portion.Has, ← same_rows batch todo]
        exact other (shared.exclusive j i id theirs mine)
      | dropped idle =>
        rw [idle, Portion.Has, idle_rows] at has
        cases has
      | handled acting => cases acting
      | @fetched batch acting fetched outbox there =>
        rw [there, Portion.Has, fetched_rows] at has
        obtain ⟨event, member, rfl⟩ := List.mem_map.mp has
        obtain ⟨row, pending, unlocked⟩ := fetched_mem fetched member
        obtain ⟨event', member', same⟩ := List.mem_map.mp theirs
        have locked := guard i rfl j other event' member' event (by rw [same]; exact row) pending
        rw [same] at locked
        exact unlocked ⟨j, other, locked⟩
  · refine shared.exclusive.release fun i id has => ?_
    exact share_fewer (step_share step i) (fun acting => fetching ⟨i, acting⟩) has

theorem suffix_step {s t : PublisherState C} {a : PublisherAction} {i : Nat}
    (shared : Shared portion s) (change : ShareChange settings s a t i) :
    (t.workers i).todo <:+ (t.workers i).batch := by
  have before := shared.ordered i
  cases change with
  | kept idle batch todo => rwa [batch, todo]
  | dropped idle => simp [idle, Worker.todo]
  | @fetched batch acting fetched outbox there =>
    have whole : (t.workers i).todo = (t.workers i).batch := by
      rw [there, fetched_batch, fetched_todo]
    exact whole ▸ List.suffix_rfl
  | @handled batch rest event locks mark acting found outbox there =>
    rw [found] at before
    rw [there, next_todo]
    rcases next_batch batch rest with ⟨empty, rfl⟩ | same
    · exact List.nil_suffix
    · rw [same]
      exact (List.suffix_cons event rest).trans before

theorem distinct_step {s t : PublisherState C} {a : PublisherAction} {i : Nat}
    (shared : Shared portion s) (change : ShareChange settings s a t i) :
    ((t.workers i).batch.map OutboxEventORM.id).Nodup := by
  have before := shared.distinct i
  cases change with
  | kept idle batch todo => rwa [batch]
  | dropped idle => simp [idle, Worker.batch]
  | @fetched batch acting fetched outbox there =>
    rw [there, fetched_batch]
    exact fetched_nodup fetched
  | @handled batch rest event locks mark acting found outbox there =>
    rw [found] at before
    rw [there]
    rcases next_batch batch rest with ⟨empty, _⟩ | same
    · simp [empty]
    · rwa [same]

theorem rest_other {s : PublisherState C} (shared : Shared portion s) {i : Nat}
    {event : OutboxEventORM} {rest : List OutboxEventORM}
    (head : (s.workers i).todo = event :: rest) {event' : OutboxEventORM}
    (member : event' ∈ rest) : event'.id ≠ event.id := by
  have distinct := (shared.distinct i).sublist ((shared.ordered i).sublist.map _)
  rw [head, List.map_cons, List.nodup_cons] at distinct
  intro same
  apply distinct.1
  rw [← same]
  exact List.mem_map_of_mem member

theorem written_other {s : PublisherState C} (shared : Shared portion s) {i j : Nat} (other : j ≠ i)
    {event event' : OutboxEventORM} (mine : event ∈ (s.workers i).todo)
    (theirs : event' ∈ (s.workers j).todo) : event'.id ≠ event.id := by
  intro same
  have has := todo_has shared theirs
  rw [same] at has
  exact other (shared.exclusive j i event.id has (todo_has shared mine))

theorem current_step {s t : PublisherState C} {a : PublisherAction} (shared : Shared portion s)
    (step : PublisherStep libraries settings s a t) (i : Nat) :
    ∀ event ∈ (t.workers i).todo,
      t.outbox.find? event.id = some event ∧ event.status = .pending := by
  intro event left
  cases step_share step i with
  | dropped idle =>
    rw [idle] at left
    cases left
  | @fetched batch acting fetched outbox there =>
    rw [there, fetched_todo] at left
    obtain ⟨row, pending, _⟩ := fetched_mem fetched left
    exact ⟨outbox ▸ row, pending⟩
  | @handled batch rest handled locks mark acting found outbox there =>
    rw [there, next_todo] at left
    have head : (s.workers i).todo = handled :: rest := by rw [found]; rfl
    obtain ⟨row, pending⟩ := shared.current i event (head ▸ List.mem_cons_of_mem _ left)
    refine ⟨?_, pending⟩
    rw [outbox, find?_writeBack_of_ne (rest_other shared head left)]
    exact row
  | kept idle batch todo =>
    rw [todo] at left
    obtain ⟨row, pending⟩ := shared.current i event left
    refine ⟨?_, pending⟩
    generalize outbox : t.outbox = table at *
    have change := outbox ▸ step_outbox step
    cases change with
    | unchanged => exact row
    | inserted inserted => exact Table.find?_kept inserted row
    | @written a j batch rest handled locks mark acting found =>
      have other : i ≠ j := fun same => idle (same ▸ acting)
      have mine : handled ∈ (s.workers j).todo := by rw [found]; exact List.mem_cons_self ..
      rw [find?_writeBack_of_ne (written_other shared other mine left)]
      exact row

theorem shared_step {s t : PublisherState C} {a : PublisherAction} (shared : Shared portion s)
    (guard : PortionsLocked portion ⟨s, a, t⟩) (step : PublisherStep libraries settings s a t) :
    Shared portion t where
  exclusive := exclusive_step shared guard step
  ordered i := suffix_step shared (step_share step i)
  distinct i := distinct_step shared (step_share step i)
  current := current_step shared step

theorem shared_initial {s : PublisherState C} (idle : ∀ i, s.workers i = .idle) :
    Shared portion s where
  exclusive := Exclusive.none fun i id => by simp [idle, Portion.Has, idle_rows]
  ordered i := by simp [idle, Worker.todo]
  distinct i := by simp [idle, Worker.batch]
  current i event left := by simp [idle, Worker.todo] at left

theorem shared_run {s t : PublisherState C} {moves : List (Move (PublisherState C) PublisherAction)}
    (initial : (publishers libraries settings C).Initial s)
    (run : Run (publishers libraries settings C) s moves t)
    (guard : ∀ m ∈ moves, PortionsLocked portion m) : Shared portion t :=
  run.guarded (fun _ _ _ shared guard step => shared_step shared guard step) guard
    (shared_initial initial.2.2.2)

theorem shared_source {s t : PublisherState C}
    {moves : List (Move (PublisherState C) PublisherAction)}
    {m : Move (PublisherState C) PublisherAction}
    (initial : (publishers libraries settings C).Initial s)
    (run : Run (publishers libraries settings C) s moves t)
    (guard : ∀ m ∈ moves, PortionsLocked portion m) (member : m ∈ moves) :
    Shared portion m.source :=
  run.guarded_source (fun _ _ _ shared guard step => shared_step shared guard step) guard
    (shared_initial initial.2.2.2) member

/-- The row that the worker dispatches is in no other unfinished batch, and is still pending. -/
def DispatchesAlone (s : PublisherState C) (i : Nat) : Prop :=
  ∃ event rest, (s.workers i).todo = event :: rest ∧
    (∀ j, j ≠ i → ¬ Portion.batch.Has (s.workers j) event.id) ∧
    ∃ row, s.outbox.find? event.id = some row ∧ row.status = .pending

theorem dispatch_todo {s t : PublisherState C} {i : Nat}
    (step : PublisherStep libraries settings s (.dispatch i) t) :
    ∃ event rest, (s.workers i).todo = event :: rest := by
  cases step with
  | send found dispatched => exact ⟨_, _, by rw [found]; rfl⟩
  | acknowledge found dispatched => exact ⟨_, _, by rw [found]; rfl⟩

theorem rows_dispatched_by_one {s t : PublisherState C}
    {moves : List (Move (PublisherState C) PublisherAction)}
    (initial : (publishers libraries settings C).Initial s)
    (run : Run (publishers libraries settings C) s moves t)
    (guard : ∀ m ∈ moves, PortionsLocked .batch m) :
    ∀ m ∈ moves, ∀ i, m.action = .dispatch i → DispatchesAlone m.source i := by
  intro m member i dispatching
  have step := run.step_of_mem member
  have shared := shared_source initial run guard member
  rw [dispatching] at step
  obtain ⟨event, rest, head⟩ := dispatch_todo step
  have left : event ∈ (m.source.workers i).todo := by
    rw [head]
    exact List.mem_cons_self ..
  refine ⟨event, rest, head, ?_, event, shared.current i event left⟩
  intro j other theirs
  exact other (shared.exclusive j i event.id theirs (todo_has shared left))

theorem lone_attempt {capashino capashino' : C.State} {transport : Transport} {mark : Mark}
    (handled : C.Handles capashino (ticketNotification ⟨100⟩ ⟨7⟩) transport capashino')
    (recorded : OutboxPublisher.record sampleSettings 0
      ((CapashinoClient.receiveNotification sampleLibraries transport).map fun _ => ()) = mark)
    (writable : ∀ error ∈ (mark.apply (soldRow ⟨100⟩ ⟨7⟩ 10)).lastError, storable error = true) :
    ∃ moves t, Run (publishers sampleLibraries sampleSettings C) (freshPublishers C capashino)
        moves t ∧ (∀ portion, ∀ m ∈ moves, PortionsLocked portion m) ∧
      (∃ m ∈ moves, m.action = .dispatch 0) ∧
      t.capashino = capashino' ∧ t.outbox.rows = [mark.apply (soldRow ⟨100⟩ ⟨7⟩ 10)] := by
  have start := @Run.refl _ _ (publishers sampleLibraries sampleSettings C)
    (freshPublishers C capashino)
  have added := start.move (PublisherStep.add ⟨100⟩ .ticketPurchased
    (soldRow ⟨100⟩ ⟨7⟩ 10).payload 10 rfl)
  have fetched := added.move (@PublisherStep.fetch _ _ _ _ 0 [soldRow ⟨100⟩ ⟨7⟩ 10] rfl
    (fetch_pending_rows (fun _ => not_locked fun _ _ => rfl) (List.pairwise_singleton _ _)))
  obtain ⟨turn, actions, attempted⟩ := attempt_row capashino' fetched (Function.update_self ..)
    (dispatch_soldRow ..) handled recorded (by
      rw [locked_update]
      exact not_locked fun _ _ => rfl) writable
  have committed := attempted.move (.commit (Function.update_self ..))
  refine ⟨_, _, committed, ?_, ?_, rfl, ?_⟩
  · intro portion m member i fetching j other event inside
    rcases List.mem_cons.mp member with rfl | member
    · cases fetching
    rcases List.mem_append.mp member with member | member
    · have acted := List.mem_map_of_mem (f := Move.action) member
      rw [actions, fetching] at acted
      simp at acted
    · rcases List.mem_cons.mp member with rfl | member
      · have nothing : event ∈ portion.rows .idle := inside
        rw [idle_rows] at nothing
        cases nothing
      · cases List.mem_singleton.mp member
        cases fetching
  · have acted : PublisherAction.dispatch 0 ∈ turn.map Move.action := by simp [actions]
    obtain ⟨m, member, acting⟩ := List.mem_map.mp acted
    exact ⟨m, List.mem_cons_of_mem _ (List.mem_append_left _ member), acting⟩
  · rw [← flush_unchanged (soldRow ⟨100⟩ ⟨7⟩ 10) mark]
    rfl

theorem unauthorized_attempt : ∃ moves t,
    Run (publishers sampleLibraries sampleSettings anyCapashino) (freshPublishers anyCapashino ())
      moves t ∧ (∀ portion, ∀ m ∈ moves, PortionsLocked portion m) ∧
      (∃ m ∈ moves, m.action = .dispatch 0) ∧ t.outbox.rows.map (·.attempts) = [1] := by
  obtain ⟨moves, t, run, guard, dispatched, _, rows⟩ :=
    @lone_attempt anyCapashino () () _ _ trivial (record_unauthorized 0) (by
      intro error written
      cases written
      decide)
  refine ⟨moves, t, run, guard, dispatched, ?_⟩
  rw [rows]
  rfl

theorem lone_worker_dispatches_alone : ∃ moves t,
    Run (publishers sampleLibraries sampleSettings anyCapashino) (freshPublishers anyCapashino ())
      moves t ∧ ∃ m ∈ moves, m.action = .dispatch 0 ∧ DispatchesAlone m.source 0 := by
  obtain ⟨moves, t, run, guard, ⟨m, member, acting⟩, _⟩ := unauthorized_attempt
  exact ⟨moves, t, run, m, member, acting,
    rows_dispatched_by_one (fresh_initial trivial) run (guard .batch) m member 0 acting⟩

def contended : PublisherState anyCapashino where
  outbox := writeBack sampleOutbox (soldRow ⟨100⟩ ⟨7⟩ 10) (.sent 0)
  capashino := ()
  sent := [(⟨100⟩, ticketNotification ⟨100⟩ ⟨7⟩)]
  now := 0
  workers := Function.update
    (Function.update (fun _ => .idle) 0
      (.working sampleOutbox.rows [soldRow ⟨101⟩ ⟨8⟩ 11] .ready [])) 1
    (.working [soldRow ⟨101⟩ ⟨8⟩ 11] [soldRow ⟨101⟩ ⟨8⟩ 11] .ready [⟨101⟩])

theorem contended_reached : ∃ moves,
    Run (publishers sampleLibraries sampleSettings anyCapashino)
      (freshPublishers anyCapashino ()) moves contended := by
  have start := @Run.refl _ _ (publishers sampleLibraries sampleSettings anyCapashino)
    (freshPublishers anyCapashino ())
  have one := start.move (PublisherStep.add ⟨100⟩ .ticketPurchased
    (soldRow ⟨100⟩ ⟨7⟩ 10).payload 10 rfl)
  have two := one.move (PublisherStep.add ⟨101⟩ .ticketPurchased
    (soldRow ⟨101⟩ ⟨8⟩ 11).payload 11 rfl)
  have fetched := two.move (@PublisherStep.fetch _ _ _ _ 0 sampleOutbox.rows rfl
    (fetch_pending_rows (fun _ => not_locked fun _ _ => rfl) (by decide)))
  obtain ⟨_, _, attempted⟩ := attempt_row () fetched (Function.update_self ..)
    (dispatch_soldRow ..) trivial (@record_notificationBody 201 ⟨1⟩ 0 (by decide) (by decide)) (by
      rw [locked_update]
      exact not_locked fun _ _ => rfl) (sent_storable _ rfl _)
  have committed := attempted.move (.commit (Function.update_self ..))
  simp only [Function.update_idem] at committed
  have second := committed.move (@PublisherStep.fetch _ _ _ _ 1 [soldRow ⟨101⟩ ⟨8⟩ 11] rfl
    (fetch_pending_rows (fun _ => not_locked fun j _ => by
      cases j <;> rfl) (by decide)))
  exact ⟨_, second⟩

/-- The first worker still has the row that the second one dispatches. -/
theorem dispatched_by_two : ¬ ∀ (s t : PublisherState anyCapashino)
    (moves : List (Move (PublisherState anyCapashino) PublisherAction)),
    (publishers sampleLibraries sampleSettings anyCapashino).Initial s →
      Run (publishers sampleLibraries sampleSettings anyCapashino) s moves t →
        ∀ m ∈ moves, ∀ i, m.action = .dispatch i → DispatchesAlone m.source i := by
  intro alone
  obtain ⟨moves, run⟩ := contended_reached
  have sending := run.move (@PublisherStep.send _ _ _ _ 1 _ _ _ _ _ rfl (dispatch_soldRow ..))
  obtain ⟨event, rest, head, others, _⟩ := alone _ _ _ (fresh_initial trivial) sending _
    (List.mem_cons_self ..) 1 rfl
  have mine : soldRow ⟨101⟩ ⟨8⟩ 11 = event := (List.cons.inj head).1
  subst mine
  have has : Portion.batch.Has (contended.workers 0) ⟨101⟩ := by decide
  exact others 0 (by decide) has

end EventsAggregator
