import EventsAggregator.Services.Tickets
import EventsAggregator.Transition.Run

namespace EventsAggregator

open Relational Transition

inductive Job
  | register (payload : SEventRegistrationCreate)
  | unregister (ticketId : UUID)
  | seats (eventId : UUID)

inductive Code
  | register (payload : SEventRegistrationCreate) (point : RegisterPoint)
  | unregister (ticketId : UUID) (point : UnregisterPoint)
  | seats (eventId : UUID) (point : SeatsPoint)

def Job.begin : Job → Code
  | .register payload => .register payload (beginRegister payload)
  | .unregister ticketId => .unregister ticketId .getTicket
  | .seats eventId => .seats eventId .getEvent

def Code.job : Code → Job
  | .register payload _ => .register payload
  | .unregister ticketId _ => .unregister ticketId
  | .seats eventId _ => .seats eventId

/-- Runs a coroutine whose await is over up to its next await, return or raise. -/
def Code.resume (runtime : Runtime) (db : Database) (now : Instant) (cache : SeatsCache) :
    Code → Option (Code × SeatsCache)
  | .register payload (.getKey key) =>
    some (.register payload
      (checkExisting runtime payload key (db.idempotencyKeys.find? key)), cache)
  | .register payload .getEvent =>
    some (.register payload (checkEvent payload (db.events.find? payload.eventId) now cache), cache)
  | .register payload (.seatsAnswered event answer) =>
    let received := receiveSeats payload event answer cache
    some (.register payload received.1, received.2)
  | .register payload (.registerAnswered event answer) =>
    some (.register payload (receiveRegistration payload event answer now), cache)
  | .register payload (.committed ticketId) =>
    some (.register payload (.returned ticketId), cache.invalidate payload.eventId.str)
  | .unregister ticketId .getTicket =>
    some (.unregister ticketId (checkTicket ticketId (db.tickets.find? ticketId)), cache)
  | .unregister ticketId (.answered ticket answer) =>
    some (.unregister ticketId (receiveCancellation ticket answer now), cache)
  | .unregister ticketId (.deleted _) =>
    some (.unregister ticketId (.raised (registrationNotFound ticketId)), cache)
  | .unregister ticketId (.cancelled ticket success) =>
    some (.unregister ticketId (.returned success), cache.invalidate ticket.eventId.str)
  | .seats eventId .getEvent =>
    some (.seats eventId (checkSeatsEvent eventId (db.events.find? eventId) cache), cache)
  | .seats eventId (.answered event answer) =>
    let received := receiveSeatsList event answer cache
    some (.seats eventId received.1, received.2)
  | _ => none

def Code.reads : Code → Bool
  | .register _ (.getKey _) | .register _ .getEvent | .unregister _ .getTicket
  | .seats _ .getEvent => true
  | _ => false

def Code.call : Code → Option ProviderCall
  | .register _ (.askSeats event) => some (.seats event.id)
  | .register payload (.askRegister _) => some (.register payload.eventId payload.toProvider)
  | .unregister ticketId (.askUnregister ticket) => some (.unregister ticket.eventId ticketId)
  | .seats _ (.askSeats event) => some (.seats event.id)
  | _ => none

def Code.receive : Code → ProviderAnswer → Option Code
  | .register payload (.askSeats event), .seats result =>
    some (.register payload (.seatsAnswered event result))
  | .register payload (.askRegister event), .registration result =>
    some (.register payload (.registerAnswered event result))
  | .unregister ticketId (.askUnregister ticket), .cancellation result =>
    some (.unregister ticketId (.answered ticket result))
  | .seats eventId (.askSeats event), .seats result =>
    some (.seats eventId (.answered event result))
  | _, _ => none

def Code.commit (runtime : Runtime) (outboxId : UUID) : Code → Option (Session × Code)
  | .register payload (.commit event ticketId now) =>
    some (stageRegistration runtime payload event ticketId now outboxId,
      .register payload (.committed ticketId))
  | .unregister ticketId (.commitDelete ticket) =>
    some (TicketRepository.delete .new ticket, .unregister ticketId (.deleted ticket))
  | .unregister ticketId (.commitCancel ticket success now) =>
    some (stageCancellation runtime ticketId ticket now outboxId,
      .unregister ticketId (.cancelled ticket success))
  | _ => none

/-- An exception at the await of a coroutine that is still running ends it. -/
def Code.fail (error : Raised) : Code → Option Code
  | .register _ (.returned _) | .register _ (.raised _) | .unregister _ (.returned _)
  | .unregister _ (.raised _) | .seats _ (.returned _) | .seats _ (.raised _) => none
  | .register payload _ => some (.register payload (.raised error))
  | .unregister ticketId _ => some (.unregister ticketId (.raised error))
  | .seats eventId _ => some (.seats eventId (.raised error))

/-- PostgreSQL does not take the key that the statement of `lock_key` is about. -/
def LockRefused (code : Code) : Prop :=
  ∃ payload key, code = .register payload (.lockKey key) ∧ storable key = false

structure Task (Process : Type) where
  process : Process
  code : Code
  connected : Bool
  lock : Option String

/-- Any number of server processes over one database and one provider. `abandoned` holds the
    provider calls whose caller is gone but which the provider may still come to handle. -/
structure State (Process : Type) (P : Provider) where
  db : Database
  provider : P.State
  cache : Process → SeatsCache
  now : Instant
  tasks : Nat → Option (Task Process)
  abandoned : List ProviderCall

structure Delivery where
  status : OutboxStatus
  attempts : Nat
  lastError : Option Text
  sentAt : Option Instant

def OutboxEventORM.deliver (row : OutboxEventORM) (mark : Delivery) : OutboxEventORM :=
  { row with
    status := mark.status, attempts := mark.attempts, lastError := mark.lastError,
    sentAt := mark.sentAt }

def Database.publish (db : Database) (id : UUID) (mark : Delivery) : Database :=
  { db with outbox := db.outbox.update id (fun row => row.deliver mark) fun row same =>
      show (row.deliver mark).id = id from same }

def Database.upsertEvent (db : Database) (event : EventORM) : Database :=
  { db with events := db.events.upsert event }

inductive Action (Process : Type)
  | start (request : Nat) (process : Process) (job : Job)
  | lockKey (request : Nat)
  | resume (request : Nat)
  | answer (request : Nat) (answer : ProviderAnswer)
  | commit (request : Nat) (outboxId : UUID)
  | fail (request : Nat) (error : Raised)
  | disconnect (request : Nat)
  | late (call : ProviderCall) (answer : ProviderAnswer)
  | tick (now : Instant)
  | evict (process : Process) (eventId : String)
  | upsert (event : EventORM)
  | publish (id : UUID) (mark : Delivery)

variable {Process : Type} {P : Provider}

def State.setTask (s : State Process P) (i : Nat) (task : Task Process) : State Process P :=
  { s with tasks := Function.update s.tasks i (some task) }

variable [DecidableEq Process]

inductive Step (runtime : Runtime) : State Process P → Action Process → State Process P → Prop
  | start {s : State Process P} {i : Nat} (process : Process) (job : Job)
      (fresh : s.tasks i = none) :
      Step runtime s (.start i process job) (s.setTask i ⟨process, job.begin, true, none⟩)
  -- pg_advisory_xact_lock(hashtext(key)) is granted while no other transaction holds the hash, and
  -- refused with an error for a key that PostgreSQL cannot take.
  | lockKey {s : State Process P} {i : Nat} {task : Task Process}
      {payload : SEventRegistrationCreate} {key : String} (found : s.tasks i = some task)
      (connected : task.connected = true) (waiting : task.code = .register payload (.lockKey key))
      (storable : storable key = true)
      (free : ∀ j other held, j ≠ i → s.tasks j = some other → other.lock = some held →
        runtime.hashtext held ≠ runtime.hashtext key) :
      Step runtime s (.lockKey i)
        (s.setTask i { task with code := .register payload (.getKey key), lock := some key })
  | resume {s : State Process P} {i : Nat} {task : Task Process} {code : Code} {cache : SeatsCache}
      (found : s.tasks i = some task) (connected : task.code.reads = true → task.connected = true)
      (resumed : task.code.resume runtime s.db s.now (s.cache task.process) = some (code, cache)) :
      Step runtime s (.resume i)
        { s.setTask i { task with code } with cache := Function.update s.cache task.process cache }
  | answer {s : State Process P} {i : Nat} {task : Task Process} {code : Code}
      {call : ProviderCall} {answer : ProviderAnswer} {provider : P.State}
      (found : s.tasks i = some task) (asked : task.code.call = some call)
      (handled : P.Handles s.provider call answer provider)
      (received : task.code.receive answer = some code) :
      Step runtime s (.answer i answer) { s.setTask i { task with code } with provider }
  | commit {s : State Process P} {i : Nat} {task : Task Process} {code : Code}
      {outboxId : UUID} {session : Session} {db : Database} (found : s.tasks i = some task)
      (connected : task.connected = true)
      (committing : task.code.commit runtime outboxId = some (session, code))
      (accepted : s.db.commit session = some db) :
      Step runtime s (.commit i outboxId) { s.setTask i { task with code, lock := none } with db }
  | fail {s : State Process P} {i : Nat} {task : Task Process} {code : Code} {error : Raised}
      (found : s.tasks i = some task) (failed : task.code.fail error = some code) :
      Step runtime s (.fail i error)
        { s.setTask i { task with code } with abandoned := task.code.call.toList ++ s.abandoned }
  -- The session is closed or loses its connection: the server rolls its transaction back.
  | disconnect {s : State Process P} {i : Nat} {task : Task Process}
      (found : s.tasks i = some task) :
      Step runtime s (.disconnect i) (s.setTask i { task with connected := false, lock := none })
  | late {s : State Process P} {call : ProviderCall} {answer : ProviderAnswer}
      {provider : P.State} (waiting : call ∈ s.abandoned)
      (handled : P.Handles s.provider call answer provider) :
      Step runtime s (.late call answer)
        { s with provider, abandoned := s.abandoned.erase call }
  | tick {s : State Process P} (now : Instant) : Step runtime s (.tick now) { s with now }
  | evict {s : State Process P} (process : Process) (eventId : String) :
      Step runtime s (.evict process eventId)
        { s with cache := Function.update s.cache process ((s.cache process).invalidate eventId) }
  | upsert {s : State Process P} (event : EventORM) :
      Step runtime s (.upsert event) { s with db := s.db.upsertEvent event }
  -- The outbox worker records a delivery attempt.
  | publish {s : State Process P} (id : UUID) (mark : Delivery) :
      Step runtime s (.publish id mark) { s with db := s.db.publish id mark }

def system (Process : Type) [DecidableEq Process] (runtime : Runtime) (P : Provider) :
    System (State Process P) (Action Process) where
  Initial s := s.db.tickets = .empty ∧ s.db.outbox = .empty ∧ s.db.idempotencyKeys = .empty ∧
    P.Initial s.provider ∧ (∀ process, s.cache process = .empty) ∧
    (∀ i, s.tasks i = none) ∧ s.abandoned = []
  Step := Step runtime

section Sample

def anyProvider : Provider := ⟨Unit, fun _ => True, fun _ _ _ _ => True⟩

def sampleRuntime : Runtime := ⟨fun _ => 0, id, id, fun _ => "2026-01-01T00:00:00+00:00"⟩

def sampleEvent : EventORM :=
  { id := ⟨1⟩, name := "Concert", status := .published, placeId := ⟨2⟩, placeName := "Hall",
    placeCity := "Moscow", placeAddress := "Arbat 1", seatsPattern := "A1-1", eventTime := 9,
    registrationDeadline := 8, numberOfVisitors := 0, changedAt := 1, syncedAt := 1 }

def samplePayload (idempotencyKey : Option String)
    (keyLength : ∀ key ∈ idempotencyKey, 1 ≤ key.length ∧ key.length ≤ 255) :
    SEventRegistrationCreate :=
  { eventId := ⟨1⟩, firstName := "Ivan", lastName := "Ivanov", email := "ivan@example.com",
    seat := "A1", idempotencyKey, firstNameLength := by decide, lastNameLength := by decide,
    seatLength := by decide, keyLength }

theorem unkeyed : ∀ key ∈ (none : Option String), 1 ≤ key.length ∧ key.length ≤ 255 := by
  simp

def sampleDatabase : Database :=
  { Database.empty with events := ⟨[sampleEvent], by decide⟩ }

def sampleState (P : Provider) (provider : P.State) : State Unit P :=
  { db := sampleDatabase, provider, cache := fun _ => .empty, now := 0, tasks := fun _ => none,
    abandoned := [] }

theorem sample_initial {P : Provider} {provider : P.State} (initial : P.Initial provider) :
    (system Unit sampleRuntime P).Initial (sampleState P provider) :=
  ⟨rfl, rfl, rfl, initial, fun _ => rfl, fun _ => rfl, rfl⟩

theorem sample_booking : ∃ moves t,
    Run (system Unit sampleRuntime anyProvider) (sampleState anyProvider ()) moves t ∧
      t.db.tickets.rows.length = 1 ∧ t.db.outbox.rows.length = 1 ∧
      (t.db.idempotencyKeys.find? "k").isSome = true := by
  have start := @Run.refl _ _ (system Unit sampleRuntime anyProvider) (sampleState anyProvider ())
  have requested := start.move (Step.start ()
    (.register (samplePayload (some "k") (by decide))) (rfl : State.tasks _ 0 = none))
  have locked := requested.move (Step.lockKey (rfl : State.tasks _ 0 = some _) rfl rfl rfl
    (fun j _ _ other found => by simp [State.setTask, sampleState, other] at found))
  have unknown := locked.move (Step.resume (rfl : State.tasks _ 0 = some _) (fun _ => rfl) rfl)
  have checked := unknown.move (Step.resume (rfl : State.tasks _ 0 = some _) (fun _ => rfl) rfl)
  have seats := checked.move
    (@Step.answer _ _ _ _ _ 0 _ _ _ (.seats (.ok ["A1"])) () rfl rfl trivial rfl)
  have free := seats.move (Step.resume (rfl : State.tasks _ 0 = some _) (fun _ => rfl) rfl)
  have granted := free.move
    (@Step.answer _ _ _ _ _ 0 _ _ _ (.registration (.ok ⟨7⟩)) () rfl rfl trivial rfl)
  have staged := granted.move (Step.resume (rfl : State.tasks _ 0 = some _) (fun _ => rfl) rfl)
  have bought := staged.move (@Step.commit _ _ _ _ _ 0 _ _ ⟨100⟩ _ _ rfl rfl rfl rfl)
  exact ⟨_, _, bought, by decide, by decide, by decide⟩

end Sample

end EventsAggregator
