import EventsAggregator.Services.Requests

namespace EventsAggregator

open Relational Transition

def purchasedRow (payload : SEventRegistrationCreate) (event : EventORM) (ticketId : UUID)
    (now : Instant) (outboxId : UUID) : OutboxEventORM :=
  { id := outboxId, eventType := .ticketPurchased,
    payload := purchasedPayload payload event ticketId, status := .pending, attempts := 0,
    lastError := none, createdAt := now, sentAt := none }

def cancelledRow (runtime : Runtime) (ticketId : UUID) (ticket : TicketORM) (now : Instant)
    (outboxId : UUID) : OutboxEventORM :=
  { id := outboxId, eventType := .ticketCancelled,
    payload := cancelledPayload runtime ticketId ticket now, status := .pending, attempts := 0,
    lastError := none, createdAt := now, sentAt := none }

def registrationRecord (runtime : Runtime) (payload : SEventRegistrationCreate) (ticketId : UUID)
    (now : Instant) (key : String) : IdempotencyRecordORM :=
  { key, requestHash := computeRequestHash runtime payload,
    responseBody := [("ticket_id", ticketId.str)], statusCode := 201, createdAt := now }

variable {runtime : Runtime} {payload : SEventRegistrationCreate} {event : EventORM}
  {ticketId outboxId : UUID} {ticket : TicketORM} {now : Instant} {db db' : Database}

structure Registered (runtime : Runtime) (payload : SEventRegistrationCreate) (event : EventORM)
    (ticketId : UUID) (now : Instant) (outboxId : UUID) (db db' : Database) : Prop where
  events : db'.events = db.events
  ticket : db.tickets.insert? (purchasedTicket payload ticketId now) = some db'.tickets
  outbox : db.outbox.insert? (purchasedRow payload event ticketId now outboxId) = some db'.outbox
  unkeyed : payload.idempotencyKey = none → db'.idempotencyKeys = db.idempotencyKeys
  keyed : ∀ key, payload.idempotencyKey = some key →
    db.idempotencyKeys.insert? (registrationRecord runtime payload ticketId now key) =
      some db'.idempotencyKeys
  storable : (purchasedTicket payload ticketId now).storable = true
  keyStorable : ∀ key, payload.idempotencyKey = some key → EventsAggregator.storable key = true

theorem commit_registration
    (accepted : db.commit (stageRegistration runtime payload event ticketId now outboxId) =
      some db') : Registered runtime payload event ticketId now outboxId db db' := by
  obtain ⟨storable, keys, ⟨tickets, inserted, same⟩, rows, stored, events⟩ :=
    commit_eq_some accepted
  cases keyed : payload.idempotencyKey with
  | none =>
    simp [stageRegistration, keyed, TicketRepository.add, OutboxRepository.add, Session.new]
      at storable inserted same rows stored
    exact ⟨events, same ▸ inserted, rows, fun _ => stored.symm, by simp [keyed], storable,
      by simp [keyed]⟩
  | some key =>
    simp [stageRegistration, keyed, TicketRepository.add, OutboxRepository.add,
      IdempotencyRepository.add, Session.new] at storable keys inserted same rows stored
    refine ⟨events, same ▸ inserted, rows, by simp [keyed], ?_, storable, ?_⟩
    · intro other here
      cases keyed.symm.trans here
      exact stored
    · intro other here
      cases keyed.symm.trans here
      exact keys

theorem commit_deletion (accepted : db.commit (TicketRepository.delete .new ticket) = some db') :
    db'.tickets = db.tickets.erase ticket.ticketId ∧ db'.outbox = db.outbox ∧
      db'.idempotencyKeys = db.idempotencyKeys ∧ db'.events = db.events := by
  obtain ⟨_, _, ⟨tickets, inserted, same⟩, rows, stored, events⟩ := commit_eq_some accepted
  simp [TicketRepository.delete, Session.new] at inserted same rows stored
  exact ⟨inserted ▸ same, rows.symm, stored.symm, events⟩

theorem commit_cancellation
    (accepted : db.commit (stageCancellation runtime ticketId ticket now outboxId) = some db') :
    db'.tickets = db.tickets.erase ticket.ticketId ∧
      db.outbox.insert? (cancelledRow runtime ticketId ticket now outboxId) = some db'.outbox ∧
      db'.idempotencyKeys = db.idempotencyKeys ∧ db'.events = db.events := by
  obtain ⟨_, _, ⟨tickets, inserted, same⟩, rows, stored, events⟩ := commit_eq_some accepted
  simp [stageCancellation, TicketRepository.delete, OutboxRepository.add, Session.new]
    at inserted same rows stored
  exact ⟨inserted ▸ same, rows, stored.symm, events⟩

theorem countP_publish (db : Database) (id : UUID) (mark : Delivery) (p : OutboxEventORM → Bool)
    (same : ∀ row, p (row.deliver mark) = p row) :
    (db.publish id mark).outbox.rows.countP p = db.outbox.rows.countP p :=
  db.outbox.countP_update id (fun row => row.deliver mark) (fun _ here => here) p same

variable {Process : Type} {P : Provider} [DecidableEq Process]

/-- All that one step can do to the committed tables. -/
inductive DbChange (runtime : Runtime) (s : State Process P) : Action Process → Database → Prop
  | unchanged {a : Action Process} (idle : ∀ i outboxId, a ≠ .commit i outboxId) :
      DbChange runtime s a s.db
  | registered {i : Nat} {task : Task Process} {payload : SEventRegistrationCreate}
      {event : EventORM} {ticketId outboxId : UUID} {now : Instant} {db : Database}
      (found : s.tasks i = some task) (connected : task.connected = true)
      (committing : task.code = .register payload (.commit event ticketId now))
      (written : Registered runtime payload event ticketId now outboxId s.db db) :
      DbChange runtime s (.commit i outboxId) db
  | deleted {i : Nat} {task : Task Process} {ticketId outboxId : UUID} {ticket : TicketORM}
      (found : s.tasks i = some task)
      (committing : task.code = .unregister ticketId (.commitDelete ticket)) :
      DbChange runtime s (.commit i outboxId)
        { s.db with tickets := s.db.tickets.erase ticket.ticketId }
  | cancelled {i : Nat} {task : Task Process} {ticketId outboxId : UUID} {ticket : TicketORM}
      {success : Bool} {now : Instant} {outbox : Table OutboxEventORM.id}
      (found : s.tasks i = some task)
      (committing : task.code = .unregister ticketId (.commitCancel ticket success now))
      (inserted : s.db.outbox.insert? (cancelledRow runtime ticketId ticket now outboxId) =
        some outbox) :
      DbChange runtime s (.commit i outboxId)
        { s.db with tickets := s.db.tickets.erase ticket.ticketId, outbox }
  | upserted (event : EventORM) :
      DbChange runtime s (.upsert event) (s.db.upsertEvent event)
  | published (id : UUID) (mark : Delivery) :
      DbChange runtime s (.publish id mark) (s.db.publish id mark)

omit [DecidableEq Process] in
theorem commit_db {s : State Process P} {i : Nat} {task : Task Process} {session : Session}
    {code : Code} {outboxId : UUID} {db : Database} (found : s.tasks i = some task)
    (connected : task.connected = true)
    (committing : task.code.commit runtime outboxId = some (session, code))
    (accepted : s.db.commit session = some db) :
    DbChange runtime s (.commit i outboxId) db := by
  unfold Code.commit at committing
  split at committing
  · rename_i payload event ticketId now here
    cases committing
    exact .registered found connected here (commit_registration accepted)
  · rename_i ticketId ticket here
    cases committing
    obtain ⟨tickets, outbox, records, events⟩ := commit_deletion accepted
    have result : db = { s.db with tickets := s.db.tickets.erase ticket.ticketId } := by
      cases db
      simp_all
    rw [result]
    exact .deleted found here
  · rename_i ticketId ticket success now here
    cases committing
    obtain ⟨tickets, outbox, records, events⟩ := commit_cancellation accepted
    have result : db =
        { s.db with tickets := s.db.tickets.erase ticket.ticketId, outbox := db.outbox } := by
      cases db
      simp_all
    rw [result]
    exact .cancelled found here outbox
  · cases committing

omit [DecidableEq Process] in
theorem change_registered {s : State Process P} {i : Nat} {outboxId : UUID} {db : Database}
    {task : Task Process} {payload : SEventRegistrationCreate} {point : RegisterPoint}
    (change : DbChange runtime s (.commit i outboxId) db) (found : s.tasks i = some task)
    (code : task.code = .register payload point) : ∃ event ticketId now,
      point = .commit event ticketId now ∧
        Registered runtime payload event ticketId now outboxId s.db db := by
  cases change with
  | unchanged idle => exact absurd rfl (idle i outboxId)
  | registered here connected committing written =>
    cases found.symm.trans here
    cases code.symm.trans committing
    exact ⟨_, _, _, rfl, written⟩
  | deleted here committing =>
    cases found.symm.trans here
    cases code.symm.trans committing
  | cancelled here committing inserted =>
    cases found.symm.trans here
    cases code.symm.trans committing

theorem step_db {s t : State Process P} {a : Action Process} (step : Step runtime s a t) :
    DbChange runtime s a t.db := by
  cases step with
  | commit found connected committing accepted =>
    exact commit_db found connected committing accepted
  | upsert event => exact .upserted event
  | publish id mark => exact .published id mark
  | start | lockKey | resume | answer | fail | disconnect | late | tick | evict =>
    exact .unchanged (by intro i outboxId; simp)

def Action.request : Action Process → Option Nat
  | .start i _ _ | .lockKey i | .resume i | .answer i _ | .commit i _ | .fail i _
  | .disconnect i => some i
  | _ => none

omit [DecidableEq Process] in
theorem change_idle {s : State Process P} {a : Action Process} {db : Database}
    (change : DbChange runtime s a db) {i : Nat} (acting : a.request = some i)
    (idle : ∀ outboxId, a ≠ .commit i outboxId) : db = s.db := by
  cases change with
  | unchanged => rfl
  | upserted event => cases acting
  | published id mark => cases acting
  | registered | deleted | cancelled =>
    cases acting
    exact absurd rfl (idle _)

theorem step_other {s t : State Process P} {a : Action Process} (step : Step runtime s a t)
    {j : Nat} (other : a.request ≠ some j) : t.tasks j = s.tasks j := by
  cases step with
  | start | lockKey | resume | answer | commit | fail | disconnect =>
    exact Function.update_of_ne (fun same => other (congrArg some same.symm)) _ _
  | late | tick | evict | upsert | publish => rfl

theorem others_kept {s t : State Process P} {moves : List (Move (State Process P) (Action Process))}
    (run : Run (system Process runtime P) s moves t) {i : Nat}
    (alone : ∀ m ∈ moves, ∀ j, m.action.request = some j → j = i) {j : Nat} (other : j ≠ i) :
    t.tasks j = s.tasks j :=
  run.guarded (I := fun u => u.tasks j = s.tasks j)
    (G := fun m => ∀ j, m.action.request = some j → j = i)
    (fun _ _ _ same own step => (step_other step fun acting => other (own j acting)).trans same)
    alone rfl

omit [DecidableEq Process] in
theorem setTask_tasks (s : State Process P) (i j : Nat) (task : Task Process) :
    (s.setTask i task).tasks j = if j = i then some task else s.tasks j := by
  simp [State.setTask, Function.update_apply]

omit [DecidableEq Process] in
theorem setTask_self (s : State Process P) (i : Nat) (task : Task Process) :
    (s.setTask i task).tasks i = some task := by
  rw [setTask_tasks, if_pos rfl]

inductive Resumed (runtime : Runtime) (db : Database) (now : Instant) (cache : SeatsCache) :
    Code → Code → SeatsCache → Prop
  | unknownKey {payload : SEventRegistrationCreate} {key : String}
      (missing : db.idempotencyKeys.find? key = none) :
      Resumed runtime db now cache (.register payload (.getKey key))
        (.register payload .getEvent) cache
  | replayed {payload : SEventRegistrationCreate} {key : String} {record : IdempotencyRecordORM}
      {ticketId : UUID} (found : db.idempotencyKeys.find? key = some record)
      (same : record.requestHash = computeRequestHash runtime payload)
      (parsed : (record.responseBody.lookup "ticket_id").bind UUID.parse = some ticketId) :
      Resumed runtime db now cache (.register payload (.getKey key))
        (.register payload (.returned ticketId)) cache
  | conflicting {payload : SEventRegistrationCreate} {key : String} {record : IdempotencyRecordORM}
      (error : Raised) (found : db.idempotencyKeys.find? key = some record) :
      Resumed runtime db now cache (.register payload (.getKey key))
        (.register payload (.raised error)) cache
  | uncached {payload : SEventRegistrationCreate} {event : EventORM}
      (found : db.events.find? payload.eventId = some event)
      (missing : cache.get event.id.str = none) :
      Resumed runtime db now cache (.register payload .getEvent)
        (.register payload (.askSeats event)) cache
  | cached {payload : SEventRegistrationCreate} {event : EventORM} {available : List Text}
      (found : db.events.find? payload.eventId = some event)
      (hit : cache.get event.id.str = some available) (free : (payload.seat : Text) ∈ available) :
      Resumed runtime db now cache (.register payload .getEvent)
        (.register payload (.askRegister event)) cache
  | closed {payload : SEventRegistrationCreate} (error : Raised) :
      Resumed runtime db now cache (.register payload .getEvent)
        (.register payload (.raised error)) cache
  | free {payload : SEventRegistrationCreate} {event : EventORM} {available : List Text}
      (free : (payload.seat : Text) ∈ available) :
      Resumed runtime db now cache (.register payload (.seatsAnswered event (.ok available)))
        (.register payload (.askRegister event)) (cache.set event.id.str available)
  | taken {payload : SEventRegistrationCreate} {event : EventORM} {available : List Text}
      (error : Raised) (taken : (payload.seat : Text) ∉ available) :
      Resumed runtime db now cache (.register payload (.seatsAnswered event (.ok available)))
        (.register payload (.raised error)) (cache.set event.id.str available)
  | unlisted {payload : SEventRegistrationCreate} {event : EventORM} {answer : APIClientError}
      (error : Raised) :
      Resumed runtime db now cache (.register payload (.seatsAnswered event (.error answer)))
        (.register payload (.raised error)) cache
  | granted {payload : SEventRegistrationCreate} {event : EventORM} {ticketId : UUID} :
      Resumed runtime db now cache (.register payload (.registerAnswered event (.ok ticketId)))
        (.register payload (.commit event ticketId now)) cache
  | refused {payload : SEventRegistrationCreate} {event : EventORM} {answer : APIClientError}
      (error : Raised) :
      Resumed runtime db now cache (.register payload (.registerAnswered event (.error answer)))
        (.register payload (.raised error)) cache
  | booked {payload : SEventRegistrationCreate} {ticketId : UUID} :
      Resumed runtime db now cache (.register payload (.committed ticketId))
        (.register payload (.returned ticketId)) (cache.invalidate payload.eventId.str)
  | known {ticketId : UUID} {ticket : TicketORM}
      (found : db.tickets.find? ticketId = some ticket) :
      Resumed runtime db now cache (.unregister ticketId .getTicket)
        (.unregister ticketId (.askUnregister ticket)) cache
  | unknown {ticketId : UUID} (missing : db.tickets.find? ticketId = none) :
      Resumed runtime db now cache (.unregister ticketId .getTicket)
        (.unregister ticketId (.raised (registrationNotFound ticketId))) cache
  | released {ticketId : UUID} {ticket : TicketORM} {success : Bool} :
      Resumed runtime db now cache (.unregister ticketId (.answered ticket (.ok success)))
        (.unregister ticketId (.commitCancel ticket success now)) cache
  | lost {ticketId : UUID} {ticket : TicketORM} {answer : APIClientError}
      (missing : answer.isInstance .providerNotFound = true) :
      Resumed runtime db now cache (.unregister ticketId (.answered ticket (.error answer)))
        (.unregister ticketId (.commitDelete ticket)) cache
  | kept {ticketId : UUID} {ticket : TicketORM} {answer : APIClientError} (error : Raised) :
      Resumed runtime db now cache (.unregister ticketId (.answered ticket (.error answer)))
        (.unregister ticketId (.raised error)) cache
  | deleted {ticketId : UUID} {ticket : TicketORM} :
      Resumed runtime db now cache (.unregister ticketId (.deleted ticket))
        (.unregister ticketId (.raised (registrationNotFound ticketId))) cache
  | cancelled {ticketId : UUID} {ticket : TicketORM} {success : Bool} :
      Resumed runtime db now cache (.unregister ticketId (.cancelled ticket success))
        (.unregister ticketId (.returned success)) (cache.invalidate ticket.eventId.str)
  | seatsUncached {eventId : UUID} {event : EventORM}
      (found : db.events.find? eventId = some event) (missing : cache.get event.id.str = none) :
      Resumed runtime db now cache (.seats eventId .getEvent) (.seats eventId (.askSeats event))
        cache
  | seatsCached {eventId : UUID} {event : EventORM} {seats : List Text}
      (found : db.events.find? eventId = some event) (hit : cache.get event.id.str = some seats) :
      Resumed runtime db now cache (.seats eventId .getEvent) (.seats eventId (.returned seats))
        cache
  | seatsClosed {eventId : UUID} (error : Raised) :
      Resumed runtime db now cache (.seats eventId .getEvent) (.seats eventId (.raised error)) cache
  | seatsListed {eventId : UUID} {event : EventORM} {seats : List Text} :
      Resumed runtime db now cache (.seats eventId (.answered event (.ok seats)))
        (.seats eventId (.returned seats)) (cache.set event.id.str seats)
  | seatsUnlisted {eventId : UUID} {event : EventORM} {answer : APIClientError} (error : Raised) :
      Resumed runtime db now cache (.seats eventId (.answered event (.error answer)))
        (.seats eventId (.raised error)) cache

theorem resume_cases {runtime : Runtime} {db : Database} {now : Instant} {cache cache' : SeatsCache}
    {code code' : Code} (resumed : code.resume runtime db now cache = some (code', cache')) :
    Resumed runtime db now cache code code' cache' := by
  unfold Code.resume at resumed
  split at resumed <;> cases resumed
  case h_1 payload key =>
    rcases checkExisting_cases runtime payload key (db.idempotencyKeys.find? key) with
      ⟨missing, same⟩ | ⟨record, found, ⟨error, same⟩ | ⟨ticketId, hash, parsed, same⟩⟩
    all_goals rw [same]
    · exact .unknownKey missing
    · exact .conflicting error found
    · exact .replayed found hash parsed
  case h_2 payload =>
    rcases checkEvent_cases payload (db.events.find? payload.eventId) now cache with
      ⟨error, same⟩ | ⟨event, found, ⟨missing, same⟩ | ⟨available, hit, free, same⟩⟩
    all_goals rw [same]
    · exact .closed error
    · exact .uncached found missing
    · exact .cached found hit free
  case h_3 payload event answer =>
    cases answer with
    | ok available =>
      have listed : receiveSeats payload event (.ok available) cache =
          (checkSeat payload event available, cache.set event.id.str available) := rfl
      rw [listed]
      rcases checkSeat_cases payload event available with ⟨taken, error, same⟩ | ⟨free, same⟩
      all_goals simp only [same]
      · exact .taken error taken
      · exact .free free
    | error answer =>
      rcases receiveSeats_cases payload event (.error answer) cache with
        ⟨_, ok, _⟩ | ⟨error, same⟩
      · cases ok
      · rw [same]
        exact .unlisted error
  case h_4 payload event answer =>
    cases answer with
    | ok ticketId => exact .granted
    | error answer =>
      rcases receiveRegistration_cases payload event (.error answer) now with
        ⟨_, ok, _⟩ | ⟨error, same⟩
      · cases ok
      · rw [same]
        exact .refused error
  case h_5 => exact .booked
  case h_6 ticketId =>
    cases found : db.tickets.find? ticketId with
    | none => exact .unknown found
    | some ticket => exact .known found
  case h_7 ticketId ticket answer =>
    cases answer with
    | ok success => exact .released
    | error answer =>
      rcases receiveCancellation_cases ticket (.error answer) now with
        ⟨_, ok, _⟩ | ⟨_, failed, missing, same⟩ | ⟨error, same⟩
      · cases ok
      · cases failed
        rw [same]
        exact .lost missing
      · rw [same]
        exact .kept error
  case h_8 => exact .deleted
  case h_9 => exact .cancelled
  case h_10 eventId =>
    rcases checkSeatsEvent_cases eventId (db.events.find? eventId) cache with
      ⟨error, same⟩ | ⟨event, found, ⟨missing, same⟩ | ⟨seats, hit, same⟩⟩
    all_goals rw [same]
    · exact .seatsClosed error
    · exact .seatsUncached found missing
    · exact .seatsCached found hit
  case h_11 eventId event answer =>
    cases answer with
    | ok seats => exact .seatsListed
    | error answer =>
      rcases receiveSeatsList_cases event (.error answer) cache with ⟨_, ok, _⟩ | ⟨error, same⟩
      · cases ok
      · rw [same]
        exact .seatsUnlisted error

inductive CodeStep (runtime : Runtime) (s : State Process P) (a : Action Process)
    (t : State Process P) : Code → Code → Prop
  | same (code : Code) : CodeStep runtime s a t code code
  | locked (payload : SEventRegistrationCreate) (key : String) (clean : storable key = true) :
      CodeStep runtime s a t (.register payload (.lockKey key)) (.register payload (.getKey key))
  | resumed {now : Instant} {cache cache' : SeatsCache} {code code' : Code}
      (unchanged : t.db = s.db)
      (resumed : code.resume runtime s.db now cache = some (code', cache')) :
      CodeStep runtime s a t code code'
  | received {call : ProviderCall} {answer : ProviderAnswer} {code code' : Code}
      (asked : code.call = some call) (handled : P.Handles s.provider call answer t.provider)
      (received : code.receive answer = some code') : CodeStep runtime s a t code code'
  | committed {outboxId : UUID} {session : Session} {code code' : Code}
      (committing : code.commit runtime outboxId = some (session, code'))
      (accepted : s.db.commit session = some t.db) : CodeStep runtime s a t code code'
  | failed {i : Nat} {error : Raised} {code code' : Code} (acting : a = .fail i error)
      (failed : code.fail error = some code') : CodeStep runtime s a t code code'

omit [DecidableEq Process] in
theorem setTask_code {s t : State Process P} {a : Action Process} {i j : Nat}
    {task task' mine : Task Process} (found : s.tasks i = some task)
    (moved : CodeStep runtime s a t task.code task'.code)
    (target : t.tasks = (s.setTask i task').tasks) (here : s.tasks j = some mine) :
    ∃ next, t.tasks j = some next ∧ CodeStep runtime s a t mine.code next.code := by
  rw [target, setTask_tasks]
  by_cases same : j = i
  · subst same
    cases found.symm.trans here
    exact ⟨task', if_pos rfl, moved⟩
  · exact ⟨mine, by rw [if_neg same, here], .same _⟩

theorem step_code {s t : State Process P} {a : Action Process} (step : Step runtime s a t) {j : Nat}
    {mine : Task Process} (here : s.tasks j = some mine) :
    ∃ next, t.tasks j = some next ∧ CodeStep runtime s a t mine.code next.code := by
  cases step with
  | @start i process job fresh =>
    refine ⟨mine, ?_, .same _⟩
    rw [setTask_tasks, if_neg, here]
    intro same
    rw [same, fresh] at here
    cases here
  | @lockKey i task payload key found connected waiting clean free =>
    refine setTask_code found ?_ rfl here
    rw [waiting]
    exact .locked payload key clean
  | resume found connected resumed => exact setTask_code found (.resumed rfl resumed) rfl here
  | answer found asked handled received =>
    exact setTask_code found (.received asked handled received) rfl here
  | commit found connected committing accepted =>
    exact setTask_code found (.committed committing accepted) rfl here
  | fail found failed => exact setTask_code found (.failed rfl failed) rfl here
  | @disconnect i task found =>
    exact @setTask_code _ _ _ _ _ _ _ _ _ { task with connected := false, lock := none } _ found
      (.same _) rfl here
  | late | tick | evict | upsert | publish => exact ⟨mine, here, .same _⟩

theorem step_begins {s t : State Process P} {a : Action Process} (step : Step runtime s a t)
    {j : Nat} {next : Task Process} (fresh : s.tasks j = none) (there : t.tasks j = some next) :
    ∃ process job, a = .start j process job ∧ next.code = job.begin := by
  cases step with
  | @start i process job _ =>
    rw [setTask_tasks] at there
    split at there
    · rename_i same
      cases there
      exact ⟨process, job, by rw [same], rfl⟩
    · rw [fresh] at there
      cases there
  | lockKey found | resume found | answer found | commit found | fail found | disconnect found =>
    simp only [setTask_tasks] at there
    split at there
    · rename_i same
      rw [same, found] at fresh
      cases fresh
    · rw [fresh] at there
      cases there
  | late | tick | evict | upsert | publish =>
    simp only [fresh] at there
    cases there

def EveryCode (Q : Code → Prop) (s : State Process P) : Prop :=
  ∀ i task, s.tasks i = some task → Q task.code

theorem every_code {Q : Code → Prop} {s t : State Process P} {a : Action Process}
    (step : Step runtime s a t) (every : EveryCode Q s) (begin : ∀ job : Job, Q job.begin)
    (onward : ∀ code code', Q code → CodeStep runtime s a t code code' → Q code') :
    EveryCode Q t := by
  intro i next there
  cases here : s.tasks i with
  | none =>
    obtain ⟨_, job, _, same⟩ := step_begins step here there
    rw [same]
    exact begin job
  | some task =>
    obtain ⟨next', there', moved⟩ := step_code step here
    cases there.symm.trans there'
    exact onward _ _ (every i task here) moved

omit [DecidableEq Process] in
theorem every_initial {Q : Code → Prop} {s : State Process P} (idle : ∀ i, s.tasks i = none) :
    EveryCode Q s := by
  intro i task found
  rw [idle i] at found
  cases found

end EventsAggregator
