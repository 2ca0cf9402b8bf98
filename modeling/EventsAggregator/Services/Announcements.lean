import EventsAggregator.Services.Application

namespace EventsAggregator

open Relational Transition

section TicketBooked

variable {Process : Type} {P : Provider} {C : Capashino} [DecidableEq Process]

structure Books (runtime : Runtime) (m : Move (Application Process P C) (AppAction Process))
    (outboxId : UUID) (payload : SEventRegistrationCreate) (event : EventORM) (ticketId : UUID) :
    Prop where
  committed : ∃ i task now, m.action = .request (.commit i outboxId) ∧
    m.source.requests.tasks i = some task ∧
    task.code = .register payload (.commit event ticketId now) ∧
    Registered runtime payload event ticketId now outboxId m.source.requests.db m.target.requests.db

def TicketBooked (runtime : Runtime)
    (moves : List (Move (Application Process P C) (AppAction Process))) (outboxId : UUID)
    (payload : SEventRegistrationCreate) (event : EventORM) (ticketId : UUID) : Prop :=
  ∃ m ∈ moves, Books runtime m outboxId payload event ticketId

def purchasedNotification (outboxId : UUID) (payload : SEventRegistrationCreate) (event : EventORM)
    (ticketId : UUID) : SCapashinoNotificationCreate :=
  ⟨purchasedMessage payload event ticketId, ticketId, outboxId.str,
    purchasedMessage_length payload event ticketId⟩

def AnnouncedBy (row : OutboxEventORM) (payload : SEventRegistrationCreate) (event : EventORM)
    (ticketId : UUID) : Prop :=
  row.eventType = .ticketPurchased ∧ row.payload = purchasedPayload payload event ticketId

variable {config : AppConfig} {s t : Application Process P C} {b : AppAction Process}
  {moves : List (Move (Application Process P C) (AppAction Process))}

theorem dispatch_announced {row : OutboxEventORM} {payload : SEventRegistrationCreate}
    {event : EventORM} {ticketId : UUID} (announced : AnnouncedBy row payload event ticketId) :
    OutboxPublisher.dispatch row = .send (purchasedNotification row.id payload event ticketId) :=
  dispatch_purchased payload event ticketId announced.1 announced.2

theorem announced_same {row row' : OutboxEventORM} {payload : SEventRegistrationCreate}
    {event : EventORM} {ticketId : UUID} (announced : AnnouncedBy row payload event ticketId)
    (same : SameRequest row' row) : AnnouncedBy row' payload event ticketId :=
  ⟨same.2.1.trans announced.1, same.2.2.trans announced.2⟩

theorem request_keeps {u v : State Process P} {a : Action Process}
    (step : Step config.runtime u a v) {id : UUID} {row : OutboxEventORM}
    (found : u.db.outbox.find? id = some row) :
    ∃ row', v.db.outbox.find? id = some row' ∧ SameRequest row' row := by
  obtain ⟨row', there, type, payload⟩ := change_keeps_row (step_db step) found
  have keys := ((Table.find?_eq_some _ id row).mp found).2
  have keys' := ((Table.find?_eq_some _ id row').mp there).2
  exact ⟨row', there, keys'.trans keys.symm, type, payload⟩

theorem publisher_keeps {p q : PublisherState C} {a : PublisherAction}
    (step : PublisherStep config.libraries config.outbox p a q) {id : UUID} {row : OutboxEventORM}
    (found : p.outbox.find? id = some row) :
    ∃ row', q.outbox.find? id = some row' ∧ SameRequest row' row := by
  generalize there : q.outbox = outbox
  have change := there ▸ step_outbox step
  cases change with
  | unchanged => exact ⟨row, found, rfl, rfl, rfl⟩
  | inserted inserted => exact ⟨row, Table.find?_kept inserted found, rfl, rfl, rfl⟩
  | @written a i batch rest event locks mark acting working =>
    rw [find?_writeBack, found]
    split
    · exact ⟨_, rfl, flush_sameRequest ..⟩
    · exact ⟨row, rfl, rfl, rfl, rfl⟩

theorem app_keeps (step : AppStep config s b t) {id : UUID} {row : OutboxEventORM}
    (found : s.requests.db.outbox.find? id = some row) :
    ∃ row', t.requests.db.outbox.find? id = some row' ∧ SameRequest row' row := by
  cases step with
  | request own step => exact request_keeps step found
  | publish own step => exact publisher_keeps step found
  | sync own step => exact ⟨row, found, rfl, rfl, rfl⟩
  | tick now => exact ⟨row, found, rfl, rfl, rfl⟩

theorem request_origin {u v : State Process P} {a : Action Process} (own : a.own = true)
    (step : Step config.runtime u a v) {row : OutboxEventORM} (member : row ∈ v.db.outbox.rows)
    (purchased : row.eventType = .ticketPurchased) : row ∈ u.db.outbox.rows ∨
      ∃ i task payload event ticketId now, a = .commit i row.id ∧ u.tasks i = some task ∧
        task.code = .register payload (.commit event ticketId now) ∧
        Registered config.runtime payload event ticketId now row.id u.db v.db ∧
        AnnouncedBy row payload event ticketId := by
  generalize there : v.db = db at member
  have change := there ▸ step_db step
  cases change with
  | unchanged => exact Or.inl member
  | @registered i task payload event ticketId outboxId now db found connected committing written =>
    rw [((Table.insert?_eq_some _ _ _).mp written.outbox).2] at member
    rcases List.mem_append.mp member with member | member
    · exact Or.inl member
    · cases List.mem_singleton.mp member
      exact Or.inr ⟨i, task, payload, event, ticketId, now, rfl, found, committing, written, rfl,
        rfl⟩
  | deleted => exact Or.inl member
  | cancelled found committing inserted =>
    rw [((Table.insert?_eq_some _ _ _).mp inserted).2] at member
    rcases List.mem_append.mp member with member | member
    · exact Or.inl member
    · cases List.mem_singleton.mp member
      cases purchased
  | upserted | published => cases own

theorem publisher_origin {p q : PublisherState C} {a : PublisherAction} (own : a.own = true)
    (step : PublisherStep config.libraries config.outbox p a q) {row : OutboxEventORM}
    (member : row ∈ q.outbox.rows) : ∃ row' ∈ p.outbox.rows, SameRequest row row' := by
  generalize there : q.outbox = outbox at member
  have change := there ▸ step_outbox step
  cases change with
  | unchanged => exact ⟨row, member, rfl, rfl, rfl⟩
  | inserted => cases own
  | @written a i batch rest event locks mark acting working =>
    have found := (Table.find?_eq_some _ row.id row).mpr ⟨member, rfl⟩
    rw [find?_writeBack] at found
    split at found
    · obtain ⟨row', found', rfl⟩ := Option.map_eq_some_iff.mp found
      exact ⟨row', ((Table.find?_eq_some _ _ _).mp found').1, flush_sameRequest ..⟩
    · exact ⟨row, ((Table.find?_eq_some _ _ _).mp found).1, rfl, rfl, rfl⟩

/-- Every purchase in the outbox announces a booking of the run, and every booking is announced. -/
structure Announced (runtime : Runtime)
    (moves : List (Move (Application Process P C) (AppAction Process)))
    (s : Application Process P C) : Prop where
  origin : ∀ row ∈ s.requests.db.outbox.rows, row.eventType = .ticketPurchased →
    ∃ payload event ticketId, TicketBooked runtime moves row.id payload event ticketId ∧
      AnnouncedBy row payload event ticketId
  announced : ∀ outboxId payload event ticketId,
    TicketBooked runtime moves outboxId payload event ticketId →
      ∃ row, s.requests.db.outbox.find? outboxId = some row ∧
        AnnouncedBy row payload event ticketId

theorem origin_app_step (announced : Announced config.runtime moves s)
    (step : AppStep config s b t) {row : OutboxEventORM} (member : row ∈ t.requests.db.outbox.rows)
    (purchased : row.eventType = .ticketPurchased) : ∃ payload event ticketId,
      TicketBooked config.runtime (⟨s, b, t⟩ :: moves) row.id payload event ticketId ∧
        AnnouncedBy row payload event ticketId := by
  have before : ∀ row' ∈ s.requests.db.outbox.rows, SameRequest row row' →
      ∃ payload event ticketId,
        TicketBooked config.runtime (⟨s, b, t⟩ :: moves) row.id payload event ticketId ∧
          AnnouncedBy row payload event ticketId := by
    intro row' member same
    obtain ⟨payload, event, ticketId, ⟨m, past, books⟩, announced⟩ :=
      announced.origin row' member (same.2.1.symm.trans purchased)
    refine ⟨payload, event, ticketId, ?_, announced_same announced same⟩
    exact ⟨m, List.mem_cons_of_mem _ past, same.1 ▸ books⟩
  cases step with
  | @request a u own step =>
    rcases request_origin own step member purchased with old |
      ⟨i, task, payload, event, ticketId, now, rfl, found, code, written, here⟩
    · exact before row old ⟨rfl, rfl, rfl⟩
    · exact ⟨payload, event, ticketId,
        ⟨_, List.mem_cons_self, ⟨i, task, now, rfl, found, code, written⟩⟩, here⟩
  | publish own step =>
    obtain ⟨row', old, same⟩ := publisher_origin own step member
    exact before row' old same
  | sync own step => exact before row member ⟨rfl, rfl, rfl⟩
  | tick now => exact before row member ⟨rfl, rfl, rfl⟩

theorem announced_run (initial : (application Process config P C).Initial s)
    (run : Run (application Process config P C) s moves t) :
    Announced config.runtime moves t := by
  apply run.history (I := Announced config.runtime)
  · intro moves s b t _ announced step
    refine ⟨fun row member purchased => origin_app_step announced step member purchased, ?_⟩
    rintro outboxId payload event ticketId ⟨m, member, books⟩
    rcases List.mem_cons.mp member with rfl | member
    · obtain ⟨i, task, now, _, _, _, written⟩ := books.committed
      refine ⟨purchasedRow payload event ticketId now outboxId, ?_, rfl, rfl⟩
      rw [Table.find?_inserted written.outbox]
      exact if_pos rfl
    · obtain ⟨row, found, here⟩ := announced.announced _ _ _ _ ⟨m, member, books⟩
      obtain ⟨row', found', same⟩ := app_keeps step found
      exact ⟨row', found', announced_same here same⟩
  · have empty : s.requests.db.outbox = .empty := initial.2.1.1
    refine ⟨by simp [empty], ?_⟩
    rintro outboxId payload event ticketId ⟨m, member, _⟩
    cases member

end TicketBooked

variable {Process : Type} {P : Provider} {config : AppConfig}

abbrev Announcing (Process : Type) (P : Provider) (config : AppConfig) :=
  Application Process P (confirmingService config.libraries)

/-- Capashino is only ever asked to tell of tickets that were committed before, in the words that
    the booking gave, and a booking whose row is sent has exactly one notification of its own. -/
structure Tells (moves : List (Move (Announcing Process P config) (AppAction Process)))
    (s : Announcing Process P config) : Prop where
  requested : ∀ id notification, (id, notification) ∈ s.sent → ∃ payload event ticketId,
    TicketBooked config.runtime moves id payload event ticketId ∧
      notification = purchasedNotification id payload event ticketId
  held : ∀ notification ∈ s.publishing.held.rows, ∃ id payload event ticketId,
    TicketBooked config.runtime moves id payload event ticketId ∧
      notification = purchasedNotification id payload event ticketId
  delivered : ∀ id payload event ticketId row,
    TicketBooked config.runtime moves id payload event ticketId →
      s.requests.db.outbox.find? id = some row → row.status = .sent →
        purchasedNotification id payload event ticketId ∈ s.publishing.held.rows ∧
          ∀ other ∈ s.publishing.held.rows, other.idempotencyKey = id.str →
            other = purchasedNotification id payload event ticketId

variable {s t : Announcing Process P config}
  {moves : List (Move (Announcing Process P config) (AppAction Process))}

theorem requested_booking (announced : Announced config.runtime moves s)
    (accounted : Accounted s.publishing) {id : UUID} {notification : SCapashinoNotificationCreate}
    (sent : (id, notification) ∈ s.sent) : ∃ payload event ticketId,
      TicketBooked config.runtime moves id payload event ticketId ∧
        notification = purchasedNotification id payload event ticketId := by
  obtain ⟨row, found, dispatched⟩ := accounted.requested id notification sent
  obtain ⟨member, rfl⟩ := (Table.find?_eq_some _ _ _).mp found
  have purchased : row.eventType = .ticketPurchased := by
    cases type : row.eventType with
    | ticketPurchased => rfl
    | ticketCancelled =>
      rw [OutboxPublisher.dispatch, type] at dispatched
      cases dispatched
  obtain ⟨payload, event, ticketId, booked, here⟩ := announced.origin row member purchased
  have same := (dispatch_announced here).symm.trans dispatched
  exact ⟨payload, event, ticketId, booked, (Dispatch.send.inj same).symm⟩

theorem tells_of_announced (announced : Announced config.runtime moves s)
    (accounted : Accounted s.publishing) : Tells moves s where
  requested id notification sent := requested_booking announced accounted sent
  held notification member := by
    obtain ⟨id, sent⟩ := accounted.origin notification member
    exact ⟨id, requested_booking announced accounted sent⟩
  delivered := by
    intro id payload event ticketId row booked found status
    obtain ⟨row', found', here⟩ := announced.announced _ _ _ _ booked
    cases found.symm.trans found'
    obtain ⟨member, rfl⟩ := (Table.find?_eq_some _ _ _).mp found
    have mine : ∀ other ∈ s.publishing.held.rows, other.idempotencyKey = row.id.str →
        other = purchasedNotification row.id payload event ticketId := by
      intro other there key
      have asked := held_dispatch accounted there member key
      exact Dispatch.send.inj (asked.symm.trans (dispatch_announced here))
    obtain ⟨notification, stored⟩ :=
      Option.isSome_iff_exists.mp (accounted.settled row member status here.1)
    obtain ⟨there, key⟩ := (Table.find?_eq_some _ _ _).mp stored
    exact ⟨mine notification there key ▸ there, mine⟩

variable [DecidableEq Process]

theorem service_tells_of_bookings (initial : (application Process config P
      (confirmingService config.libraries)).Initial s)
    (run : Run (application Process config P (confirmingService config.libraries)) s moves t) :
    Tells moves t := by
  obtain ⟨_, run', _⟩ := application_publishers.run run
  have accounted : Accounted t.publishing := accounted_run (by simp) initial.2.1 run'
  exact tells_of_announced (announced_run initial run) accounted

theorem service_tells_of_sale :
    ∃ (moves : List (Move (Announcing Unit anyProvider sampleConfig) (AppAction Unit)))
      (t : Announcing Unit anyProvider sampleConfig),
      Run (application Unit sampleConfig anyProvider (confirmingService sampleLibraries))
        freshApplication moves t ∧
      t.sent = [(⟨100⟩, ticketNotification ⟨100⟩ ⟨7⟩)] ∧ Tells moves t := by
  obtain ⟨moves, t, run, sent, _⟩ := sample_sale
  exact ⟨moves, t, run, sent, service_tells_of_bookings fresh_application run⟩

end EventsAggregator
