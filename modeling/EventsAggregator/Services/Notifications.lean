import EventsAggregator.Services.Deliveries

namespace EventsAggregator

open Relational Transition

variable {libraries : Libraries} {settings : OutboxSettings} {success : Nat → Bool}

abbrev Notified (libraries : Libraries) (success : Nat → Bool) :=
  PublisherState (notificationService libraries success)

def PublisherState.held (s : Notified libraries success) :
    Table SCapashinoNotificationCreate.idempotencyKey := s.capashino

def SameRequest (row row' : OutboxEventORM) : Prop :=
  row.id = row'.id ∧ row.eventType = row'.eventType ∧ row.payload = row'.payload

theorem dispatch_congr {row row' : OutboxEventORM} (same : SameRequest row row') :
    OutboxPublisher.dispatch row = OutboxPublisher.dispatch row' := by
  obtain ⟨id, eventType, payload⟩ := same
  simp only [OutboxPublisher.dispatch, OutboxPublisher.sendTicketPurchased, id, eventType, payload]

theorem SameRequest.trans {row row' row'' : OutboxEventORM} (first : SameRequest row row')
    (second : SameRequest row' row'') : SameRequest row row'' :=
  ⟨first.1.trans second.1, first.2.1.trans second.2.1, first.2.2.trans second.2.2⟩

theorem flush_sameRequest (loaded updated row : OutboxEventORM) :
    SameRequest (flush loaded updated row) row :=
  ⟨rfl, rfl, rfl⟩

structure Grows (s t : Notified libraries success) : Prop where
  rows : ∀ id row, s.outbox.find? id = some row →
    ∃ row', t.outbox.find? id = some row' ∧ SameRequest row' row
  sent : s.sent ⊆ t.sent
  held : ∀ key, (s.held.find? key).isSome → (t.held.find? key).isSome

theorem service_held {held held' : Table SCapashinoNotificationCreate.idempotencyKey}
    {notification : SCapashinoNotificationCreate} {transport : Transport}
    (handled : (notificationService libraries success).Handles held notification transport held')
    {key : String} (present : (held.find? key).isSome) : (held'.find? key).isSome := by
  obtain ⟨same | inserted, _⟩ := handled
  · rwa [same]
  · obtain ⟨found, here⟩ := Option.isSome_iff_exists.mp present
    rw [Table.find?_kept inserted here]
    rfl

theorem service_new {held held' : Table SCapashinoNotificationCreate.idempotencyKey}
    {notification : SCapashinoNotificationCreate} {transport : Transport}
    (handled : (notificationService libraries success).Handles held notification transport held')
    {n : SCapashinoNotificationCreate} (member : n ∈ held'.rows) :
    n ∈ held.rows ∨ n = notification := by
  obtain ⟨same | inserted, _⟩ := handled
  · exact Or.inl (same ▸ member)
  · rw [((Table.insert?_eq_some _ _ _).mp inserted).2] at member
    simpa using member

theorem step_grows {s t : Notified libraries success} {a : PublisherAction}
    (step : PublisherStep libraries settings s a t) : Grows s t where
  rows := by
    intro id row present
    generalize there : t.outbox = outbox
    have change := there ▸ step_outbox step
    cases change with
    | unchanged => exact ⟨row, present, rfl, rfl, rfl⟩
    | inserted inserted => exact ⟨row, Table.find?_kept inserted present, rfl, rfl, rfl⟩
    | @written a i batch rest event locks mark acting found =>
      rw [find?_writeBack, present]
      split
      · exact ⟨_, rfl, flush_sameRequest ..⟩
      · exact ⟨row, rfl, rfl, rfl, rfl⟩
  sent := by
    cases step with
    | send => exact List.subset_cons_self _ _
    | add | fetch | acknowledge | answer | update | commit | commitLost | abandon | late | tick =>
      exact List.Subset.refl _
  held := by
    intro key present
    cases step with
    | answer found handled => exact service_held handled present
    | late waiting handled => exact service_held handled present
    | add | fetch | send | acknowledge | update | commit | commitLost | abandon | tick =>
      exact present

def PublishPoint.confirms : PublishPoint → Bool
  | .marking (.sent _) | .committing (.sent _) => true
  | _ => false

/-- What a worker knows about the row at hand. -/
structure Knows (s : Notified libraries success) (event : OutboxEventORM) (point : PublishPoint) :
    Prop where
  sending : ∀ notification, point = .sending notification →
    OutboxPublisher.dispatch event = .send notification ∧ (event.id, notification) ∈ s.sent
  confirmed : point.confirms = true → event.eventType = .ticketPurchased →
    (s.held.find? event.id.str).isSome

structure Sound (s : Notified libraries success) (worker : Worker) : Prop where
  loaded : ∀ event ∈ worker.batch,
    ∃ row, s.outbox.find? event.id = some row ∧ SameRequest row event
  left : worker.todo ⊆ worker.batch
  knows : ∀ batch event rest point locks, worker = .working batch (event :: rest) point locks →
    Knows s event point

theorem sound_idle (s : Notified libraries success) : Sound s .idle where
  loaded := by simp [Worker.batch]
  left := by simp [Worker.todo]
  knows := by
    intro batch event rest point locks here
    cases here

theorem knows_quiet {s : Notified libraries success} {event : OutboxEventORM}
    {point : PublishPoint} (quiet : ∀ notification, point ≠ .sending notification)
    (confirmed : point.confirms = true → event.eventType = .ticketPurchased →
      (s.held.find? event.id.str).isSome) : Knows s event point where
  sending := fun notification awaited => absurd awaited (quiet notification)
  confirmed

theorem knows_ready (s : Notified libraries success) (event : OutboxEventORM) :
    Knows s event .ready := by
  apply knows_quiet (by simp)
  intro confirms
  cases confirms

theorem loaded_grows {s t : Notified libraries success} {batch : List OutboxEventORM}
    (loaded : ∀ event ∈ batch, ∃ row, s.outbox.find? event.id = some row ∧ SameRequest row event)
    (grows : Grows s t) :
    ∀ event ∈ batch, ∃ row, t.outbox.find? event.id = some row ∧ SameRequest row event := by
  intro event member
  obtain ⟨row, present, same⟩ := loaded event member
  obtain ⟨row', present', same'⟩ := grows.rows event.id row present
  exact ⟨row', present', same'.trans same⟩

theorem sound_grows {s t : Notified libraries success} {worker : Worker}
    (sound : Sound s worker) (grows : Grows s t) : Sound t worker where
  loaded := loaded_grows sound.loaded grows
  left := sound.left
  knows := by
    intro batch event rest point locks here
    obtain ⟨sending, confirmed⟩ := sound.knows batch event rest point locks here
    constructor
    · intro notification awaited
      obtain ⟨dispatched, sent⟩ := sending notification awaited
      exact ⟨dispatched, grows.sent sent⟩
    · intro confirms purchased
      exact grows.held _ (confirmed confirms purchased)

theorem sound_turn {s t : Notified libraries success} {batch rest : List OutboxEventORM}
    {event : OutboxEventORM} {point point' : PublishPoint} {locks locks' : List UUID}
    (sound : Sound s (.working batch (event :: rest) point locks)) (grows : Grows s t)
    (knows : Knows t event point') : Sound t (.working batch (event :: rest) point' locks') where
  loaded := loaded_grows sound.loaded grows
  left := sound.left
  knows := by
    intro batch event rest point locks here
    cases here
    exact knows

theorem sound_next {s t : Notified libraries success} {batch rest : List OutboxEventORM}
    {event : OutboxEventORM} {point : PublishPoint} {locks : List UUID}
    (sound : Sound s (.working batch (event :: rest) point locks)) (grows : Grows s t) :
    Sound t (.next batch rest) := by
  cases rest with
  | nil => exact sound_idle t
  | cons event' rest =>
    refine ⟨loaded_grows sound.loaded grows, ?_, ?_⟩
    · exact List.Subset.trans (List.subset_cons_self event _) sound.left
    · intro batch event rest point locks here
      cases here
      exact knows_ready t _

theorem sound_fetched {s t : Notified libraries success} {limit : Nat} {locked : UUID → Prop}
    {batch : List OutboxEventORM}
    (fetched : OutboxRepository.FetchPending limit locked s.outbox batch) (grows : Grows s t) :
    Sound t (.fetched batch) := by
  cases batch with
  | nil => exact sound_idle t
  | cons event rest =>
    refine ⟨?_, List.Subset.refl _, ?_⟩
    · apply loaded_grows _ grows
      intro event' member
      exact ⟨event', (fetched_mem fetched member).1, rfl, rfl, rfl⟩
    · intro batch event rest point locks here
      cases here
      exact knows_ready t _

theorem record_sent {now now' : Instant} {outcome : Except Raised Unit}
    (recorded : OutboxPublisher.record settings now outcome = .sent now') :
    outcome = .ok () ∨ ∃ error, outcome = .error (.client error) ∧ error.statusCode = some 409 := by
  unfold OutboxPublisher.record at recorded
  split at recorded
  · exact Or.inl rfl
  · rename_i error
    split at recorded
    · cases recorded
    · split at recorded
      · split at recorded
        · rename_i conflict
          exact Or.inr ⟨error, rfl, conflict⟩
        · cases recorded
      · cases recorded
  · cases recorded

theorem purchased_ended {event : OutboxEventORM} {outcome : Except Raised Unit}
    (purchased : event.eventType = .ticketPurchased)
    (dispatched : OutboxPublisher.dispatch event = .ended outcome) :
    ∃ description, outcome = .error (.other description) := by
  simp only [OutboxPublisher.dispatch, purchased, OutboxPublisher.sendTicketPurchased] at dispatched
  split at dispatched
  · cases dispatched
    exact ⟨_, rfl⟩
  · split at dispatched
    · cases dispatched
      exact ⟨_, rfl⟩
    · split at dispatched
      · cases dispatched
        exact ⟨_, rfl⟩
      · split at dispatched
        · cases dispatched
        · cases dispatched
          exact ⟨_, rfl⟩

theorem dispatch_send {event : OutboxEventORM} {notification : SCapashinoNotificationCreate}
    (dispatched : OutboxPublisher.dispatch event = .send notification) :
    notification.idempotencyKey = event.id.str ∧
      OutboxPublisher.buildTicketMessage event.payload = some notification.message ∧
      (event.payload.lookup "ticket_id").bind UUID.parse = some notification.referenceId := by
  unfold OutboxPublisher.dispatch at dispatched
  split at dispatched
  · unfold OutboxPublisher.sendTicketPurchased at dispatched
    split at dispatched
    · cases dispatched
    · rename_i message built
      split at dispatched
      · cases dispatched
      · rename_i ticketId reference
        split at dispatched
        · cases dispatched
        · rename_i referenceId parsed
          split at dispatched
          · cases dispatched
            exact ⟨rfl, built, by rw [reference]; exact parsed⟩
          · cases dispatched
  · cases dispatched

theorem confirmed_answer (confirming : ∀ status, status < 400 → success status = true)
    {held held' : Table SCapashinoNotificationCreate.idempotencyKey}
    {notification : SCapashinoNotificationCreate} {transport : Transport} {now now' : Instant}
    (handled : (notificationService libraries success).Handles held notification transport held')
    (recorded : OutboxPublisher.record settings now
      ((CapashinoClient.receiveNotification libraries transport).map fun _ => ()) = .sent now') :
    (held'.find? notification.idempotencyKey).isSome := by
  rcases record_sent recorded with success | ⟨error, failed, conflict⟩
  · cases received : CapashinoClient.receiveNotification libraries transport with
    | error raised =>
      rw [received] at success
      cases success
    | ok body =>
      obtain ⟨response, answered, status, wellFormed⟩ := receive_ok received
      exact (handled.2 response answered).1 (confirming _ status) wellFormed
  · cases received : CapashinoClient.receiveNotification libraries transport with
    | ok body =>
      rw [received] at failed
      cases failed
    | error raised =>
      rw [received] at failed
      cases failed
      obtain ⟨response, answered, status⟩ := receive_error_status received conflict
      exact service_held handled ((handled.2 response answered).2 status)

theorem sound_update {s t : Notified libraries success} {i : Nat} {worker : Worker}
    (sound : ∀ j, Sound s (s.workers j)) (grows : Grows s t) (mine : Sound t worker) (j : Nat) :
    Sound t (Function.update s.workers i worker j) := by
  by_cases here : j = i
  · subst here
    rwa [Function.update_self]
  · rw [Function.update_of_ne here]
    exact sound_grows (sound j) grows

theorem sound_step {s t : Notified libraries success} {a : PublisherAction}
    (confirming : ∀ status, status < 400 → success status = true)
    (sound : ∀ i, Sound s (s.workers i)) (step : PublisherStep libraries settings s a t) :
    ∀ i, Sound t (t.workers i) := by
  have grows := step_grows step
  cases step with
  | add | late | tick => exact fun i => sound_grows (sound i) grows
  | fetch idle fetched => exact sound_update sound grows (sound_fetched fetched grows)
  | abandon => exact sound_update sound grows (sound_idle _)
  | commitLost found => exact sound_update sound grows (sound_idle _)
  | @commit i batch rest event locks mark found =>
    exact sound_update sound grows (sound_next (found ▸ sound i) grows)
  | @send i batch rest event locks notification found dispatched =>
    refine sound_update sound grows (sound_turn (found ▸ sound i) grows ⟨?_, ?_⟩)
    · intro sent awaited
      cases awaited
      exact ⟨dispatched, List.mem_cons_self ..⟩
    · intro confirms
      cases confirms
  | @acknowledge i batch rest event locks outcome found dispatched =>
    refine sound_update sound grows (sound_turn (found ▸ sound i) grows (knows_quiet (by simp) ?_))
    intro confirms purchased
    obtain ⟨description, rfl⟩ := purchased_ended purchased dispatched
    cases confirms
  | @answer i batch rest event locks notification transport held found handled =>
    obtain ⟨sending, _⟩ := (sound i).knows batch event rest _ locks found
    obtain ⟨dispatched, _⟩ := sending notification rfl
    refine sound_update sound grows (sound_turn (found ▸ sound i) grows (knows_quiet (by simp) ?_))
    intro confirms purchased
    rw [← (dispatch_send dispatched).1]
    cases recorded : OutboxPublisher.record settings s.now
        ((CapashinoClient.receiveNotification libraries transport).map fun _ => ()) with
    | sent now => exact confirmed_answer confirming handled recorded
    | failedAttempt error maxAttempts =>
      rw [recorded] at confirms
      cases confirms
  | @update i batch rest event locks mark found free storable =>
    obtain ⟨_, confirmed⟩ := (sound i).knows batch event rest _ locks found
    refine sound_update sound grows (sound_turn (found ▸ sound i) grows (knows_quiet (by simp) ?_))
    intro confirms purchased
    cases mark with
    | sent now => exact confirmed rfl purchased
    | failedAttempt error maxAttempts => cases confirms

theorem flush_sent {loaded current : OutboxEventORM} {mark : Mark}
    (sent : (flush loaded (mark.apply loaded) current).status = .sent) :
    current.status = .sent ∨ ∃ now, mark = .sent now := by
  cases mark with
  | sent now => exact Or.inr ⟨now, rfl⟩
  | failedAttempt error maxAttempts =>
    refine Or.inl ?_
    simp only [flush, column, Mark.apply, OutboxRepository.markFailedAttempt] at sent
    split at sent
    · split at sent
      · exact sent
      · cases sent
    · rw [if_pos rfl] at sent
      exact sent

structure Accounted (s : Notified libraries success) : Prop where
  workers : ∀ i, Sound s (s.workers i)
  requested : ∀ id notification, (id, notification) ∈ s.sent →
    ∃ row, s.outbox.find? id = some row ∧ OutboxPublisher.dispatch row = .send notification
  origin : ∀ notification ∈ s.held.rows, ∃ id, (id, notification) ∈ s.sent
  settled : ∀ row ∈ s.outbox.rows, row.status = .sent → row.eventType = .ticketPurchased →
    (s.held.find? row.id.str).isSome

theorem requested_step {s t : Notified libraries success} {a : PublisherAction}
    (accounted : Accounted s) (step : PublisherStep libraries settings s a t) :
    ∀ id notification, (id, notification) ∈ t.sent →
      ∃ row, t.outbox.find? id = some row ∧ OutboxPublisher.dispatch row = .send notification := by
  intro id notification sent
  have grows := step_grows step
  have old : (id, notification) ∈ s.sent →
      ∃ row, t.outbox.find? id = some row ∧ OutboxPublisher.dispatch row = .send notification := by
    intro sent
    obtain ⟨row, present, dispatched⟩ := accounted.requested id notification sent
    obtain ⟨row', present', same⟩ := grows.rows id row present
    exact ⟨row', present', (dispatch_congr same).trans dispatched⟩
  cases step with
  | @send i batch rest event locks notification' found dispatched =>
    rcases List.mem_cons.mp sent with new | sent
    · cases new
      have member : event ∈ (s.workers i).batch :=
        (accounted.workers i).left (by rw [found]; exact List.mem_cons_self ..)
      obtain ⟨row, present, same⟩ := (accounted.workers i).loaded event member
      exact ⟨row, present, (dispatch_congr same).trans dispatched⟩
    · exact old sent
  | add | fetch | acknowledge | answer | update | commit | commitLost | abandon | late | tick =>
    exact old sent

theorem origin_step {s t : Notified libraries success} {a : PublisherAction}
    (accounted : Accounted s) (step : PublisherStep libraries settings s a t) :
    ∀ notification ∈ t.held.rows, ∃ id, (id, notification) ∈ t.sent := by
  intro notification member
  have grows := step_grows step
  have old : notification ∈ s.held.rows → ∃ id, (id, notification) ∈ t.sent := by
    intro member
    obtain ⟨id, sent⟩ := accounted.origin notification member
    exact ⟨id, grows.sent sent⟩
  cases step with
  | @answer i batch rest event locks request transport held found handled =>
    rcases service_new handled member with member | rfl
    · exact old member
    · obtain ⟨sending, _⟩ := (accounted.workers i).knows batch event rest _ locks found
      exact ⟨event.id, (sending notification rfl).2⟩
  | @late id request transport held waiting handled =>
    rcases service_new handled member with member | rfl
    · exact old member
    · exact ⟨id, waiting⟩
  | add | fetch | send | acknowledge | update | commit | commitLost | abandon | tick =>
    exact old member

theorem settled_step {s t : Notified libraries success} {a : PublisherAction}
    (accounted : Accounted s) (step : PublisherStep libraries settings s a t) :
    ∀ row ∈ t.outbox.rows, row.status = .sent → row.eventType = .ticketPurchased →
      (t.held.find? row.id.str).isSome := by
  intro row member status purchased
  have grows := step_grows step
  have old : ∀ row ∈ s.outbox.rows, row.status = .sent → row.eventType = .ticketPurchased →
      (t.held.find? row.id.str).isSome := fun row member status purchased =>
    grows.held _ (accounted.settled row member status purchased)
  generalize there : t.outbox = outbox at member
  have change := there ▸ step_outbox step
  cases change with
  | unchanged => exact old row member status purchased
  | inserted inserted =>
    rw [((Table.insert?_eq_some _ _ _).mp inserted).2] at member
    rcases List.mem_append.mp member with member | member
    · exact old row member status purchased
    · cases List.mem_singleton.mp member
      cases status
  | @written a i batch rest event locks mark acting found =>
    have lookup := (Table.find?_eq_some _ row.id row).mpr ⟨member, rfl⟩
    rw [find?_writeBack] at lookup
    split at lookup
    · rename_i here
      obtain ⟨current, present, rfl⟩ := Option.map_eq_some_iff.mp lookup
      rcases flush_sent status with already | ⟨now, rfl⟩
      · exact old current ((Table.find?_eq_some ..).mp present).1 already purchased
      · have sound := found ▸ accounted.workers i
        obtain ⟨_, confirmed⟩ := sound.knows batch event rest _ locks rfl
        obtain ⟨row, present', _, type, _⟩ :=
          sound.loaded event (sound.left (List.mem_cons_self ..))
        rw [here, present'] at present
        cases present
        rw [here]
        exact grows.held _ (confirmed rfl (type.symm.trans purchased))
    · exact old row ((Table.find?_eq_some ..).mp lookup).1 status purchased

theorem accounted_run {s t : Notified libraries success}
    {moves : List (Move (Notified libraries success) PublisherAction)}
    (confirming : ∀ status, status < 400 → success status = true)
    (initial : (publishers libraries settings (notificationService libraries success)).Initial s)
    (run : Run (publishers libraries settings (notificationService libraries success)) s moves t) :
    Accounted t := by
  obtain ⟨rows, held, sent, idle⟩ := initial
  refine run.invariant (fun _ _ _ accounted step => ?_) ?_
  · exact ⟨sound_step confirming accounted.workers step, requested_step accounted step,
      origin_step accounted step, settled_step accounted step⟩
  · have held : s.held = .empty := held
    refine ⟨fun i => ?_, ?_, ?_, ?_⟩
    · rw [idle i]
      exact sound_idle s
    · simp [sent]
    · simp [held]
    · simp [rows]

def PublisherState.Requested (s : Notified libraries success) (row : OutboxEventORM)
    (notification : SCapashinoNotificationCreate) : Prop :=
  (row.id, notification) ∈ s.sent

theorem requested_key {s : Notified libraries success} (accounted : Accounted s)
    {row : OutboxEventORM} (present : row ∈ s.outbox.rows)
    {notification : SCapashinoNotificationCreate} (requested : s.Requested row notification) :
    OutboxPublisher.dispatch row = .send notification := by
  obtain ⟨row', found, dispatched⟩ := accounted.requested row.id notification requested
  have same := (s.outbox.find?_eq_some row.id row).mpr ⟨present, rfl⟩
  rw [found] at same
  cases same
  exact dispatched

/-- No row has two notifications, no two rows share one, and a purchase that counts as sent has
    its own, built from its payload. -/
structure ExactlyOnce (s : Notified libraries success) : Prop where
  origin : ∀ notification ∈ s.held.rows, ∃ row ∈ s.outbox.rows, s.Requested row notification
  single : ∀ notification ∈ s.held.rows, ∀ notification' ∈ s.held.rows, ∀ row ∈ s.outbox.rows,
    ∀ row' ∈ s.outbox.rows, s.Requested row notification → s.Requested row' notification' →
      (notification = notification' ↔ row = row')
  delivered : ∀ row ∈ s.outbox.rows, row.eventType = .ticketPurchased → row.status = .sent →
    ∃ notification ∈ s.held.rows, notification.idempotencyKey = row.id.str ∧
      (row.payload.lookup "ticket_id").bind UUID.parse = some notification.referenceId ∧
      OutboxPublisher.buildTicketMessage row.payload = some notification.message ∧
      ∀ other ∈ s.held.rows, s.Requested row other ∨ other.idempotencyKey = row.id.str →
        other = notification

theorem held_dispatch {s : Notified libraries success} (accounted : Accounted s)
    {notification : SCapashinoNotificationCreate} (member : notification ∈ s.held.rows)
    {row : OutboxEventORM} (present : row ∈ s.outbox.rows)
    (key : notification.idempotencyKey = row.id.str) :
    OutboxPublisher.dispatch row = .send notification := by
  obtain ⟨id, sent⟩ := accounted.origin notification member
  obtain ⟨row', found, dispatched⟩ := accounted.requested id notification sent
  obtain ⟨present', rfl⟩ := (s.outbox.find?_eq_some id row').mp found
  have same : row'.id = row.id :=
    UUID.str_injective ((dispatch_send dispatched).1.symm.trans key)
  rw [← s.outbox.row_unique present' present same]
  exact dispatched

theorem exactly_once_of_accounted {s : Notified libraries success} (accounted : Accounted s) :
    ExactlyOnce s where
  origin := by
    intro notification member
    obtain ⟨id, sent⟩ := accounted.origin notification member
    obtain ⟨row, found, _⟩ := accounted.requested id notification sent
    obtain ⟨present, rfl⟩ := (s.outbox.find?_eq_some id row).mp found
    exact ⟨row, present, sent⟩
  single := by
    intro notification _ notification' _ row present row' present' requested requested'
    have mine := requested_key accounted present requested
    have theirs := requested_key accounted present' requested'
    constructor
    · rintro rfl
      have keys := (dispatch_send mine).1.symm.trans (dispatch_send theirs).1
      exact s.outbox.row_unique present present' (UUID.str_injective keys)
    · rintro rfl
      exact Dispatch.send.inj (mine.symm.trans theirs)
  delivered := by
    intro row present purchased status
    obtain ⟨notification, found⟩ :=
      Option.isSome_iff_exists.mp (accounted.settled row present status purchased)
    obtain ⟨member, key⟩ := (s.held.find?_eq_some _ _).mp found
    have dispatched := held_dispatch accounted member present key
    obtain ⟨_, message, reference⟩ := dispatch_send dispatched
    refine ⟨notification, member, key, reference, message, ?_⟩
    intro other there same
    have asked : OutboxPublisher.dispatch row = .send other := by
      rcases same with requested | same
      · exact requested_key accounted present requested
      · exact held_dispatch accounted there present same
    exact Dispatch.send.inj (asked.symm.trans dispatched)

/-- A service that stores what it answers with a status below 400 and a well-formed body. -/
def confirmingService (libraries : Libraries) : Capashino :=
  notificationService libraries fun status => decide (status < 400)

theorem notifications_exactly_once {s t : PublisherState (confirmingService libraries)}
    {moves : List (Move (PublisherState (confirmingService libraries)) PublisherAction)}
    (initial : (publishers libraries settings (confirmingService libraries)).Initial s)
    (run : Run (publishers libraries settings (confirmingService libraries)) s moves t) :
    ExactlyOnce t :=
  exactly_once_of_accounted (accounted_run (by simp) initial run)

theorem stores {held held' : Table SCapashinoNotificationCreate.idempotencyKey}
    {notification : SCapashinoNotificationCreate} {response : Response}
    (inserted : held.insert? notification = some held') (status : response.statusCode ≠ 409) :
    (notificationService libraries success).Handles held notification (.response response)
      held' := by
  refine ⟨Or.inr inserted, ?_⟩
  intro answered same
  cases same
  refine ⟨fun _ _ => ?_, fun conflict => absurd conflict status⟩
  rw [Table.find?_inserted inserted, if_pos rfl]
  rfl

theorem stores_nothing {held : Table SCapashinoNotificationCreate.idempotencyKey}
    {notification : SCapashinoNotificationCreate} {response : Response}
    (unconfirmed : success response.statusCode = false) (status : response.statusCode ≠ 409) :
    (notificationService libraries success).Handles held notification (.response response)
      held := by
  refine ⟨Or.inl rfl, ?_⟩
  intro answered same
  cases same
  refine ⟨fun confirmed => ?_, fun conflict => absurd conflict status⟩
  rw [unconfirmed] at confirmed
  cases confirmed

theorem one_purchase_notified : ∃ moves t,
    Run (publishers sampleLibraries sampleSettings (confirmingService sampleLibraries))
      (freshPublishers (confirmingService sampleLibraries) Table.empty) moves t ∧
      t.outbox.rows = [(Mark.sent 0).apply (soldRow ⟨100⟩ ⟨7⟩ 10)] ∧ ExactlyOnce t := by
  obtain ⟨moves, t, run, _, _, _, rows⟩ := @lone_attempt (confirmingService sampleLibraries) _ _ _ _
    (@stores _ _ .empty _ _ (notificationBody 201 ⟨1⟩) rfl (by decide))
    (record_notificationBody ⟨1⟩ 0 (by decide) (by decide)) (sent_storable _ rfl 0)
  exact ⟨moves, t, run, rows, notifications_exactly_once (fresh_initial rfl) run⟩

def successful (status : Nat) : Bool := 200 ≤ status && status < 300

/-- An answer 300 is no error to the client: its row counts as sent, and nothing is stored. -/
theorem sent_without_notification : ¬ ∀ (s t : Notified sampleLibraries successful)
    (moves : List (Move (Notified sampleLibraries successful) PublisherAction)),
    (publishers sampleLibraries sampleSettings
      (notificationService sampleLibraries successful)).Initial s →
      Run (publishers sampleLibraries sampleSettings
        (notificationService sampleLibraries successful)) s moves t → ExactlyOnce t := by
  intro once
  obtain ⟨moves, t, run, _, _, held, rows⟩ :=
    @lone_attempt (notificationService sampleLibraries successful) _ _ _ _
      (@stores_nothing _ _ .empty _ (notificationBody 300 ⟨1⟩) rfl (by decide))
      (record_notificationBody ⟨1⟩ 0 (by decide) (by decide)) (sent_storable _ rfl 0)
  obtain ⟨notification, member, _⟩ := (once _ _ _ (fresh_initial rfl) run).delivered
    ((Mark.sent 0).apply (soldRow ⟨100⟩ ⟨7⟩ 10)) (by simp [rows]) rfl rfl
  have held : t.held = .empty := held
  rw [held] at member
  cases member

end EventsAggregator
