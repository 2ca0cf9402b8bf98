import EventsAggregator.Services.Effects
import EventsAggregator.Services.Shares

namespace EventsAggregator

open Relational Transition

section Dispatched

variable (payload : SEventRegistrationCreate) (event : EventORM) (ticketId : UUID) (now : Instant)
  (outboxId : UUID)

def purchasedMessage : String :=
  s!"Вы успешно зарегистрированы на мероприятие - {event.name}. " ++
    s!"Место: {payload.seat}. Номер билета: {ticketId.str}."

theorem length_append_last {front last : String} (nonempty : 1 ≤ last.length) :
    1 ≤ (front ++ last).length := by
  rw [String.length_append]
  exact Nat.le_add_left_of_le nonempty

theorem purchasedMessage_length : 1 ≤ (purchasedMessage payload event ticketId).length := by
  have stop : 1 ≤ (".": String).length := by decide
  exact length_append_last (length_append_last stop)

theorem dispatch_purchased {row : OutboxEventORM} (type : row.eventType = .ticketPurchased)
    (written : row.payload = purchasedPayload payload event ticketId) :
    OutboxPublisher.dispatch row =
      .send ⟨purchasedMessage payload event ticketId, ticketId, row.id.str,
        purchasedMessage_length payload event ticketId⟩ := by
  have message : OutboxPublisher.buildTicketMessage (purchasedPayload payload event ticketId) =
      some (purchasedMessage payload event ticketId) := rfl
  have reference : (purchasedPayload payload event ticketId).lookup "ticket_id" =
      some ticketId.str := rfl
  simp only [OutboxPublisher.dispatch, type, OutboxPublisher.sendTicketPurchased, written, message,
    reference, UUID.parse_str, purchasedMessage_length, dif_pos]

theorem dispatch_purchasedRow :
    OutboxPublisher.dispatch (purchasedRow payload event ticketId now outboxId) =
      .send ⟨purchasedMessage payload event ticketId, ticketId, outboxId.str,
        purchasedMessage_length payload event ticketId⟩ :=
  dispatch_purchased payload event ticketId rfl rfl

end Dispatched

variable {runtime : Runtime} {Process : Type} [DecidableEq Process] {P : Provider}

theorem request_outbox {s t : State Process P} {a : Action Process}
    (step : Step runtime s a t) :
    t.db.outbox = s.db.outbox ∨
      (∃ id eventType payload createdAt,
        s.db.outbox.insert? (.pending id eventType payload createdAt) = some t.db.outbox) ∨
      ∃ id mark, a = .publish id mark ∧ t.db = s.db.publish id mark := by
  generalize there : t.db = db
  have change := there ▸ step_db step
  cases change with
  | unchanged idle => exact Or.inl rfl
  | registered found connected committing written =>
    exact Or.inr (Or.inl ⟨_, _, _, _, written.outbox⟩)
  | deleted found committing => exact Or.inl rfl
  | cancelled found committing inserted => exact Or.inr (Or.inl ⟨_, _, _, _, inserted⟩)
  | upserted event => exact Or.inl rfl
  | published id mark => exact Or.inr (Or.inr ⟨id, mark, rfl, rfl⟩)

theorem writeBack_publish (db : Database) (loaded : OutboxEventORM) (mark : Mark) :
    ∃ delivery, (db.publish loaded.id delivery).outbox = writeBack db.outbox loaded mark := by
  have same : ∀ delivery : Delivery, (∀ row ∈ db.outbox.rows, row.id = loaded.id →
      row.deliver delivery = flush loaded (mark.apply loaded) row) →
      (db.publish loaded.id delivery).outbox = writeBack db.outbox loaded mark := by
    intro delivery each
    ext1
    apply List.map_congr_left
    intro row member
    by_cases here : row.id = loaded.id
    · simp only [if_pos here, each row member here]
    · simp only [if_neg here]
  cases found : db.outbox.find? loaded.id with
  | none =>
    refine ⟨⟨.pending, 0, none, none⟩, same _ fun row member here => ?_⟩
    exact absurd here ((db.outbox.find?_eq_none _).mp found row member)
  | some current =>
    obtain ⟨present, key⟩ := (db.outbox.find?_eq_some _ _).mp found
    let after := flush loaded (mark.apply loaded) current
    refine ⟨⟨after.status, after.attempts, after.lastError, after.sentAt⟩,
      same _ fun row member here => ?_⟩
    rw [db.outbox.row_unique member present (here.trans key.symm)]
    rfl

section Sample

def anyCapashino : Capashino := ⟨Unit, fun _ => True, fun _ _ _ _ => True⟩

def sampleSettings : OutboxSettings := ⟨100, 5⟩

def soldRow (outboxId ticketId : UUID) (now : Instant) : OutboxEventORM :=
  purchasedRow (samplePayload none unkeyed) sampleEvent ticketId now outboxId

def ticketNotification (outboxId ticketId : UUID) : SCapashinoNotificationCreate :=
  ⟨purchasedMessage (samplePayload none unkeyed) sampleEvent ticketId, ticketId, outboxId.str,
    purchasedMessage_length ..⟩

theorem dispatch_soldRow (outboxId ticketId : UUID) (now : Instant) :
    OutboxPublisher.dispatch (soldRow outboxId ticketId now) =
      .send (ticketNotification outboxId ticketId) :=
  dispatch_purchasedRow ..

def freshPublishers (C : Capashino) (capashino : C.State) : PublisherState C :=
  { outbox := .empty, capashino, sent := [], now := 0, workers := fun _ => .idle }

def sampleOutbox : Table OutboxEventORM.id :=
  ⟨[soldRow ⟨100⟩ ⟨7⟩ 10, soldRow ⟨101⟩ ⟨8⟩ 11], by decide⟩

def notificationBody (statusCode : Nat) (id : UUID) : Response where
  statusCode
  headers := []
  content := [123, 125]
  text := .ok ""
  json := .value (.obj [("id", .str id.str), ("message", .str ""), ("reference_id", .str id.str),
    ("created_at", .str "0001-01-01T00:00:00Z")])
  method := "POST"
  url := "http://capashino/api/notifications"

theorem receive_notificationBody {statusCode : Nat} (id : UUID) (low : statusCode < 400)
    (content : statusCode ≠ 204) : ∃ notification,
    CapashinoClient.receiveNotification sampleLibraries
      (.response (notificationBody statusCode id)) = .ok notification := by
  have status : ¬ statusCode ≥ 400 := by omega
  simp [CapashinoClient.receiveNotification, notificationBody, BaseAPIClient.request, status,
    content, BaseAPIClient.parse, SCapashinoNotificationResponse.modelValidate, requiredField,
    optionalField, validateStr, sampleLibraries, List.lookup_cons, UUID.parse_str]

theorem record_notificationBody {statusCode : Nat} (id : UUID) (now : Instant)
    (low : statusCode < 400) (content : statusCode ≠ 204) :
    OutboxPublisher.record sampleSettings now
      ((CapashinoClient.receiveNotification sampleLibraries
        (.response (notificationBody statusCode id))).map fun _ => ()) = .sent now := by
  obtain ⟨notification, received⟩ := receive_notificationBody id low content
  rw [received]
  rfl

def unauthorized : Response where
  statusCode := 401
  headers := []
  content := [100]
  text := .ok "denied"
  json := .valueError
  method := "POST"
  url := "http://capashino/api/notifications"

theorem record_unauthorized (now : Instant) : OutboxPublisher.record sampleSettings now
    ((CapashinoClient.receiveNotification sampleLibraries
      (.response unauthorized)).map fun _ => ()) =
      .failedAttempt "Capashino rejected request: HTTP 401: denied" 1 := rfl

theorem fresh_initial {libraries : Libraries} {settings : OutboxSettings} {C : Capashino}
    {capashino : C.State} (initial : C.Initial capashino) :
    (publishers libraries settings C).Initial (freshPublishers C capashino) :=
  ⟨rfl, initial, rfl, fun _ => rfl⟩

end Sample

end EventsAggregator
