import EventsAggregator.Services.Seats
import EventsAggregator.Clients.Provider
import EventsAggregator.Db.Session

namespace EventsAggregator

structure SEventRegistrationCreate where
  eventId : UUID
  firstName : String
  lastName : String
  email : String
  seat : String
  idempotencyKey : Option String
  firstNameLength : 1 ≤ firstName.length ∧ firstName.length ≤ 100
  lastNameLength : 1 ≤ lastName.length ∧ lastName.length ≤ 100
  seatLength : 1 ≤ seat.length ∧ seat.length ≤ 10
  keyLength : ∀ key ∈ idempotencyKey, 1 ≤ key.length ∧ key.length ≤ 255

/-- The library functions whose results the services only pass on or compare. -/
structure Runtime where
  hashtext : String → BitVec 32
  sha256 : String → String
  repr : String → String
  isoformat : Instant → String

def computeRequestHash (runtime : Runtime) (payload : SEventRegistrationCreate) : String :=
  runtime.sha256 ("|".intercalate
    [payload.eventId.str, payload.firstName, payload.lastName, payload.email, payload.seat])

def SEventRegistrationCreate.toProvider (payload : SEventRegistrationCreate) :
    SProviderRegistrationCreate where
  firstName := payload.firstName
  lastName := payload.lastName
  seat := payload.seat
  email := payload.email
  firstNameLength := payload.firstNameLength
  lastNameLength := payload.lastNameLength
  seatLength := payload.seatLength

/-- Where a call of `TicketService.register` is suspended, with the locals it still needs.
    The answers to its two provider calls arrive before the coroutine is scheduled again. -/
inductive RegisterPoint
  | lockKey (key : String)
  | getKey (key : String)
  | getEvent
  | askSeats (event : EventORM)
  | seatsAnswered (event : EventORM) (answer : Except APIClientError (List Text))
  | askRegister (event : EventORM)
  | registerAnswered (event : EventORM) (answer : Except APIClientError UUID)
  | commit (event : EventORM) (ticketId : UUID) (now : Instant)
  | committed (ticketId : UUID)
  | returned (ticketId : UUID)
  | raised (error : Raised)

def beginRegister (payload : SEventRegistrationCreate) : RegisterPoint :=
  match payload.idempotencyKey with
  | some key => .lockKey key
  | none => .getEvent

def checkExisting (runtime : Runtime) (payload : SEventRegistrationCreate) (key : String)
    (existing : Option IdempotencyRecordORM) : RegisterPoint :=
  match existing with
  | none => .getEvent
  | some record =>
    if record.requestHash ≠ computeRequestHash runtime payload then
      .raised (.domain ⟨.idempotencyConflict,
        s!"Idempotency key {runtime.repr key} was already used with different data"⟩)
    else
      match (record.responseBody.lookup "ticket_id").bind UUID.parse with
      | some ticketId => .returned ticketId
      | none => .raised (.other "no ticket_id in the stored response")

def checkSeat (payload : SEventRegistrationCreate) (event : EventORM) (available : List Text) :
    RegisterPoint :=
  if available = [] then
    .raised (.domain ⟨.noAvailableSeats, s!"No seats available for event {payload.eventId}"⟩)
  else if (payload.seat : Text) ∉ available then
    .raised (.domain ⟨.seatAlreadyTaken, s!"Seat {payload.seat} is not available"⟩)
  else .askRegister event

def checkEvent (payload : SEventRegistrationCreate) (found : Option EventORM) (now : Instant)
    (cache : SeatsCache) : RegisterPoint :=
  match found with
  | none => .raised (.domain ⟨.eventNotFound, s!"Event {payload.eventId} not found"⟩)
  | some event =>
    if event.registrationDeadline ≤ now then
      .raised (.domain ⟨.registrationDeadlinePassed,
        s!"Registration deadline passed for event {payload.eventId}"⟩)
    else
      match resolveAvailableSeats event cache with
      | .error error => .raised (.domain error)
      | .ok none => .askSeats event
      | .ok (some available) => checkSeat payload event available

def receiveSeats (payload : SEventRegistrationCreate) (event : EventORM)
    (answer : Except APIClientError (List Text)) (cache : SeatsCache) :
    RegisterPoint × SeatsCache :=
  match receiveAvailableSeats event answer cache with
  | (.ok available, cache) => (checkSeat payload event available, cache)
  | (.error error, cache) => (.raised error, cache)

def receiveRegistration (payload : SEventRegistrationCreate) (event : EventORM)
    (answer : Except APIClientError UUID) (now : Instant) : RegisterPoint :=
  match answer with
  | .ok ticketId => .commit event ticketId now
  | .error error =>
    if error.isInstance .providerNotFound then
      .raised (.domain ⟨.eventNotFound, s!"Event {payload.eventId} not found"⟩)
    else if error.isInstance .providerBadRequest then
      .raised (.domain ⟨.seatAlreadyTaken, s!"Seat {payload.seat} is not available"⟩)
    else .raised (.client error)

def purchasedTicket (payload : SEventRegistrationCreate) (ticketId : UUID) (now : Instant) :
    TicketORM :=
  { ticketId, eventId := payload.eventId, firstName := payload.firstName,
    lastName := payload.lastName, email := payload.email, seat := payload.seat, createdAt := now }

def purchasedPayload (payload : SEventRegistrationCreate) (event : EventORM) (ticketId : UUID) :
    Payload :=
  [("ticket_id", ticketId.str), ("event_id", payload.eventId.str), ("event_name", event.name),
    ("first_name", payload.firstName), ("last_name", payload.lastName), ("email", payload.email),
    ("seat", payload.seat)]

def stageRegistration (runtime : Runtime) (payload : SEventRegistrationCreate) (event : EventORM)
    (ticketId : UUID) (now : Instant) (outboxId : UUID) : Session :=
  let session := TicketRepository.add .new (purchasedTicket payload ticketId now)
  let session := OutboxRepository.add session outboxId .ticketPurchased
    (purchasedPayload payload event ticketId) now
  match payload.idempotencyKey with
  | none => session
  | some key =>
    IdempotencyRepository.add session key (computeRequestHash runtime payload)
      [("ticket_id", ticketId.str)] 201 now

/-- Where a call of `TicketService.unregister` is suspended. `commitDelete` and `deleted` are
    the branch in which the provider does not know the ticket. -/
inductive UnregisterPoint
  | getTicket
  | askUnregister (ticket : TicketORM)
  | answered (ticket : TicketORM) (answer : Except APIClientError Bool)
  | commitDelete (ticket : TicketORM)
  | deleted (ticket : TicketORM)
  | commitCancel (ticket : TicketORM) (success : Bool) (now : Instant)
  | cancelled (ticket : TicketORM) (success : Bool)
  | returned (success : Bool)
  | raised (error : Raised)

def UnregisterPoint.ticket? : UnregisterPoint → Option TicketORM
  | .askUnregister ticket | .answered ticket _ | .commitDelete ticket | .deleted ticket
  | .commitCancel ticket _ _ | .cancelled ticket _ => some ticket
  | .getTicket | .returned _ | .raised _ => none

def registrationNotFound (ticketId : UUID) : Raised :=
  .domain ⟨.registrationNotFound, s!"Ticket {ticketId} not found"⟩

def checkTicket (ticketId : UUID) (found : Option TicketORM) : UnregisterPoint :=
  match found with
  | none => .raised (registrationNotFound ticketId)
  | some ticket => .askUnregister ticket

def receiveCancellation (ticket : TicketORM) (answer : Except APIClientError Bool)
    (now : Instant) : UnregisterPoint :=
  match answer with
  | .ok success => .commitCancel ticket success now
  | .error error =>
    if error.isInstance .providerNotFound then .commitDelete ticket else .raised (.client error)

def cancelledPayload (runtime : Runtime) (ticketId : UUID) (ticket : TicketORM) (now : Instant) :
    Payload :=
  [("ticket_id", ticketId.str), ("event_id", ticket.eventId.str),
    ("cancelled_at", runtime.isoformat now)]

def stageCancellation (runtime : Runtime) (ticketId : UUID) (ticket : TicketORM) (now : Instant)
    (outboxId : UUID) : Session :=
  TicketRepository.delete
    (OutboxRepository.add .new outboxId .ticketCancelled
      (cancelledPayload runtime ticketId ticket now) now) ticket

inductive SeatsPoint
  | getEvent
  | askSeats (event : EventORM)
  | answered (event : EventORM) (answer : Except APIClientError (List Text))
  | returned (seats : List Text)
  | raised (error : Raised)

def checkSeatsEvent (eventId : UUID) (found : Option EventORM) (cache : SeatsCache) : SeatsPoint :=
  match found with
  | none => .raised (.domain ⟨.eventNotFound, s!"Event {eventId} not found"⟩)
  | some event =>
    match resolveAvailableSeats event cache with
    | .error error => .raised (.domain error)
    | .ok none => .askSeats event
    | .ok (some seats) => .returned seats

def receiveSeatsList (event : EventORM) (answer : Except APIClientError (List Text))
    (cache : SeatsCache) : SeatsPoint × SeatsCache :=
  match receiveAvailableSeats event answer cache with
  | (.ok seats, cache) => (.returned seats, cache)
  | (.error error, cache) => (.raised error, cache)

theorem beginRegister_cases (payload : SEventRegistrationCreate) :
    (payload.idempotencyKey = none ∧ beginRegister payload = .getEvent) ∨
      ∃ key, payload.idempotencyKey = some key ∧ beginRegister payload = .lockKey key := by
  unfold beginRegister
  cases payload.idempotencyKey with
  | none => exact Or.inl ⟨rfl, rfl⟩
  | some key => exact Or.inr ⟨key, rfl, rfl⟩

theorem checkExisting_cases (runtime : Runtime) (payload : SEventRegistrationCreate) (key : String)
    (existing : Option IdempotencyRecordORM) :
    (existing = none ∧ checkExisting runtime payload key existing = .getEvent) ∨
      ∃ record, existing = some record ∧
        ((∃ error, checkExisting runtime payload key existing = .raised error) ∨
          ∃ ticketId, record.requestHash = computeRequestHash runtime payload ∧
            (record.responseBody.lookup "ticket_id").bind UUID.parse = some ticketId ∧
            checkExisting runtime payload key existing = .returned ticketId) := by
  cases existing with
  | none => exact Or.inl ⟨rfl, rfl⟩
  | some record =>
    refine Or.inr ⟨record, rfl, ?_⟩
    by_cases same : record.requestHash = computeRequestHash runtime payload
    · cases parsed : (record.responseBody.lookup "ticket_id").bind UUID.parse with
      | none =>
        exact Or.inl ⟨.other "no ticket_id in the stored response", by
          simp [checkExisting, same, parsed]⟩
      | some ticketId =>
        exact Or.inr ⟨ticketId, same, rfl, by simp [checkExisting, same, parsed]⟩
    · exact Or.inl ⟨_, if_pos same⟩

theorem checkSeat_cases (payload : SEventRegistrationCreate) (event : EventORM)
    (available : List Text) :
    ((payload.seat : Text) ∉ available ∧ ∃ error, checkSeat payload event available = .raised error) ∨
      (payload.seat : Text) ∈ available ∧ checkSeat payload event available = .askRegister event := by
  unfold checkSeat
  by_cases empty : available = []
  · subst empty
    exact Or.inl ⟨by simp, _, if_pos rfl⟩
  · rw [if_neg empty]
    by_cases free : (payload.seat : Text) ∈ available
    · exact Or.inr ⟨free, if_neg (by simpa using free)⟩
    · exact Or.inl ⟨free, _, if_pos free⟩

theorem checkEvent_cases (payload : SEventRegistrationCreate) (found : Option EventORM)
    (now : Instant) (cache : SeatsCache) :
    (∃ error, checkEvent payload found now cache = .raised error) ∨
      ∃ event, found = some event ∧
        ((cache.get event.id.str = none ∧ checkEvent payload found now cache = .askSeats event) ∨
          ∃ available, cache.get event.id.str = some available ∧ (payload.seat : Text) ∈ available ∧
            checkEvent payload found now cache = .askRegister event) := by
  cases found with
  | none => exact Or.inl ⟨_, rfl⟩
  | some event =>
    unfold checkEvent resolveAvailableSeats
    by_cases late : event.registrationDeadline ≤ now
    · exact Or.inl ⟨_, if_pos late⟩
    · by_cases published : event.status = .published
      · simp only [late, published, ne_eq, not_true_eq_false, if_false]
        cases cached : cache.get event.id.str with
        | none => exact Or.inr ⟨event, rfl, Or.inl ⟨cached, rfl⟩⟩
        | some available =>
          rcases checkSeat_cases payload event available with ⟨_, raised⟩ | ⟨free, asks⟩
          · exact Or.inl raised
          · exact Or.inr ⟨event, rfl, Or.inr ⟨available, cached, free, asks⟩⟩
      · simp only [late, published, ne_eq, not_false_eq_true, if_true, if_false]
        exact Or.inl ⟨_, rfl⟩

theorem receiveAvailableSeats_cases (event : EventORM)
    (answer : Except APIClientError (List Text)) (cache : SeatsCache) :
    (∃ seats, answer = .ok seats ∧
        receiveAvailableSeats event answer cache = (.ok seats, cache.set event.id.str seats)) ∨
      ∃ error, receiveAvailableSeats event answer cache = (.error error, cache) := by
  cases answer with
  | ok seats => exact Or.inl ⟨seats, rfl, rfl⟩
  | error error =>
    unfold receiveAvailableSeats
    simp only
    split
    · exact Or.inr ⟨_, rfl⟩
    · exact Or.inr ⟨_, rfl⟩

theorem receiveSeats_cases (payload : SEventRegistrationCreate) (event : EventORM)
    (answer : Except APIClientError (List Text)) (cache : SeatsCache) :
    (∃ available, answer = .ok available ∧ receiveSeats payload event answer cache =
        (checkSeat payload event available, cache.set event.id.str available)) ∨
      ∃ error, receiveSeats payload event answer cache = (.raised error, cache) := by
  unfold receiveSeats
  rcases receiveAvailableSeats_cases event answer cache with ⟨seats, ok, same⟩ | ⟨error, same⟩
  · exact Or.inl ⟨seats, ok, by rw [same]⟩
  · exact Or.inr ⟨error, by rw [same]⟩

theorem receiveRegistration_cases (payload : SEventRegistrationCreate) (event : EventORM)
    (answer : Except APIClientError UUID) (now : Instant) :
    (∃ ticketId, answer = .ok ticketId ∧
        receiveRegistration payload event answer now = .commit event ticketId now) ∨
      ∃ error, receiveRegistration payload event answer now = .raised error := by
  cases answer with
  | ok ticketId => exact Or.inl ⟨ticketId, rfl, rfl⟩
  | error error =>
    unfold receiveRegistration
    simp only
    split
    · exact Or.inr ⟨_, rfl⟩
    · split
      · exact Or.inr ⟨_, rfl⟩
      · exact Or.inr ⟨_, rfl⟩

theorem receiveCancellation_cases (ticket : TicketORM) (answer : Except APIClientError Bool)
    (now : Instant) :
    (∃ success, answer = .ok success ∧
        receiveCancellation ticket answer now = .commitCancel ticket success now) ∨
      (∃ error, answer = .error error ∧ error.isInstance .providerNotFound = true ∧
        receiveCancellation ticket answer now = .commitDelete ticket) ∨
      ∃ error, receiveCancellation ticket answer now = .raised error := by
  cases answer with
  | ok success => exact Or.inl ⟨success, rfl, rfl⟩
  | error error =>
    unfold receiveCancellation
    by_cases missing : error.isInstance .providerNotFound = true
    · exact Or.inr (Or.inl ⟨error, rfl, missing, if_pos missing⟩)
    · exact Or.inr (Or.inr ⟨_, if_neg missing⟩)

theorem checkSeatsEvent_cases (eventId : UUID) (found : Option EventORM) (cache : SeatsCache) :
    (∃ error, checkSeatsEvent eventId found cache = .raised error) ∨
      ∃ event, found = some event ∧
        ((cache.get event.id.str = none ∧ checkSeatsEvent eventId found cache = .askSeats event) ∨
          ∃ seats, cache.get event.id.str = some seats ∧
            checkSeatsEvent eventId found cache = .returned seats) := by
  cases found with
  | none => exact Or.inl ⟨_, rfl⟩
  | some event =>
    unfold checkSeatsEvent resolveAvailableSeats
    by_cases published : event.status = .published
    · simp only [published, ne_eq, not_true_eq_false, if_false]
      cases cached : cache.get event.id.str with
      | none => exact Or.inr ⟨event, rfl, Or.inl ⟨cached, rfl⟩⟩
      | some seats => exact Or.inr ⟨event, rfl, Or.inr ⟨seats, cached, rfl⟩⟩
    · simp only [published, ne_eq, not_false_eq_true, if_true]
      exact Or.inl ⟨_, rfl⟩

theorem receiveSeatsList_cases (event : EventORM) (answer : Except APIClientError (List Text))
    (cache : SeatsCache) :
    (∃ seats, answer = .ok seats ∧
        receiveSeatsList event answer cache = (.returned seats, cache.set event.id.str seats)) ∨
      ∃ error, receiveSeatsList event answer cache = (.raised error, cache) := by
  unfold receiveSeatsList
  rcases receiveAvailableSeats_cases event answer cache with ⟨seats, ok, same⟩ | ⟨error, same⟩
  · exact Or.inl ⟨seats, ok, by rw [same]⟩
  · exact Or.inr ⟨error, by rw [same]⟩

end EventsAggregator
