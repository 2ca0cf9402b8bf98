import EventsAggregator.Api.ExceptionHandlers
import EventsAggregator.Clients.Normalisation
import EventsAggregator.Clients.SeatProvider
import EventsAggregator.Services.Effects
import EventsAggregator.Services.Sync

namespace EventsAggregator

open Transition

/-- What the services see of a call of the client. Only an `APIClientError` is an answer to them:
    every other exception goes through them. -/
def caught {Model Value : Type} (answer : Except APIClientError Value → ProviderAnswer)
    (value : Model → Value) : Except Raised Model → Except Raised ProviderAnswer
  | .ok model => .ok (answer (.ok (value model)))
  | .error (.client error) => .ok (answer (.error error))
  | .error raised => .error raised

namespace ProviderCall

def request : ProviderCall → HttpRequest
  | .seats eventId => EventsProviderClient.getAvailableSeatsRequest eventId
  | .register eventId payload => EventsProviderClient.registerRequest eventId payload
  | .unregister eventId ticketId => EventsProviderClient.unregisterRequest eventId ticketId

def perform (libraries : Libraries) (send : HttpRequest → Transport) :
    ProviderCall → Except Raised ProviderAnswer
  | .seats eventId =>
    caught .seats SProviderAvailableSeats.seats
      (EventsProviderClient.getAvailableSeats libraries send eventId)
  | .register eventId payload =>
    caught .registration SProviderRegistration.ticketId
      (EventsProviderClient.register libraries send eventId payload)
  | .unregister eventId ticketId =>
    caught .cancellation SProviderCancellationResponse.success
      (EventsProviderClient.unregister libraries send eventId ticketId)

end ProviderCall

namespace Code

def hear (libraries : Libraries) (send : HttpRequest → Transport) (code : Code) : Option Code :=
  match code.call with
  | none => none
  | some call =>
    match call.perform libraries send with
    | .ok answer => code.receive answer
    | .error raised => code.fail raised

def response : Code → Option ApiResponse
  | .register _ (.returned ticketId) =>
    some (jsonResponse 201 [] (.obj [("ticket_id", .str ticketId.str)]))
  | .unregister _ (.returned success) =>
    some (jsonResponse 200 [] (.obj [("success", .bool success)]))
  | .seats eventId (.returned available) =>
    some (jsonResponse 200 [] (.obj [("event_id", .str eventId.str),
      ("available_seats", .arr (available.map .str))]))
  | .register _ (.raised error) | .unregister _ (.raised error) | .seats _ (.raised error) =>
    some (handleException error)
  | _ => none

def respond (runtime : Runtime) (db : Database) (now : Instant) (cache : SeatsCache)
    (code : Code) : Option ApiResponse :=
  match code.resume runtime db now cache with
  | some (resumed, _) => resumed.response
  | none => code.response

end Code

namespace SyncService

def fetchPage (libraries : Libraries) (send : HttpRequest → Transport) (changedAt : String) :
    Option String → Except Raised EventsPage
  | none => EventsProviderClient.getEventsList libraries send (some changedAt)
  | some url => EventsProviderClient.getEventsPage libraries send url

def fetchPageRequest (changedAt : String) : Option String → HttpRequest
  | none => EventsProviderClient.getEventsListRequest (some changedAt)
  | some url => EventsProviderClient.getEventsPageRequest url

/-- What a sync that failed raises: the commit in `mark_failure` can raise an exception of its
    own. -/
def reraised (error : Raised) : Raised :=
  if storable (truncate 2000 error.str) then error
  else .other "cannot be stored"

end SyncService

/-- A request to this API that waits for the provider: in the service of a ticket or seats endpoint,
    or in `POST /sync/trigger` for a page. -/
inductive Waiter
  | service (code : Code) (call : ProviderCall) (asks : code.call = some call)
  | trigger (changedAt : String) (url : Option String)

namespace Waiter

def request : Waiter → HttpRequest
  | .service _ call _ => call.request
  | .trigger changedAt url => SyncService.fetchPageRequest changedAt url

def respond (libraries : Libraries) (send : HttpRequest → Transport) (runtime : Runtime)
    (db : Database) (now : Instant) (cache : SeatsCache) : Waiter → Option ApiResponse
  | .service code _ _ => (code.hear libraries send).bind (Code.respond runtime db now cache)
  | .trigger changedAt url =>
    match SyncService.fetchPage libraries send changedAt url with
    | .ok _ => none
    | .error error => some (handleException (SyncService.reraised error))

def Passes (message : Text) : Waiter → Prop
  | .service _ _ _ => message.encodable = true
  | .trigger _ _ => message.encodable = true ∧ storable (truncate 2000 message) = true

/-- The body of a 429 can be read for a message, and nothing goes wrong with the message. -/
def Accepts (libraries : Libraries) (response : Response) (waiter : Waiter) : Prop :=
  response.Readable libraries ∧
    ∀ message, BaseAPIClient.extractErrorMessage libraries response = .ok message →
      waiter.Passes message

end Waiter

def limitedBy (libraries : Libraries) (response : Response) (n : Nat) : Raised :=
  match BaseAPIClient.extractErrorMessage libraries response with
  | .ok message => .client ⟨.providerRateLimited, message, some 429, some (.decimal false n 0)⟩
  | .error raised => raised

section Limited

variable {libraries : Libraries} {send : HttpRequest → Transport} {response : Response} {n : Nat}

theorem retryAfter_numeral (delay : response.headers.get? "Retry-After" = some n.repr) :
    EventsProviderClient.retryAfter response.headers = .ok (some (.decimal false n 0)) := by
  unfold EventsProviderClient.retryAfter
  rw [delay]
  split
  · rename_i absent
    cases absent
  · rename_i empty
    have read := Floats.float_numeral n
    rw [Option.some.inj empty] at read
    cases read
  · rename_i text found
    rw [← Option.some.inj found, Floats.float_numeral]

theorem receive_limitedBy {Model : Type} {modelValidate : Json → Validated Model}
    {request : HttpRequest} (answered : send request = .response response)
    (status : response.statusCode = 429)
    (delay : response.headers.get? "Retry-After" = some n.repr) :
    EventsProviderClient.receive libraries modelValidate send request =
      .error (limitedBy libraries response n) := by
  simp only [EventsProviderClient.receive, answered, BaseAPIClient.request,
    EventsProviderClient.errorFromResponse, status, limitedBy, retryAfter_numeral delay]
  cases BaseAPIClient.extractErrorMessage libraries response with
  | ok message => rfl
  | error raised => rfl

theorem limitedBy_cases (libraries : Libraries) (response : Response) (n : Nat) :
    (response.Readable libraries ∧
      ∃ message, BaseAPIClient.extractErrorMessage libraries response = .ok message ∧
        limitedBy libraries response n =
          .client ⟨.providerRateLimited, message, some 429, some (.decimal false n 0)⟩) ∨
      ¬ response.Readable libraries ∧
        ∃ description, limitedBy libraries response n = .other description := by
  rcases BaseAPIClient.extract_cases libraries response with
    ⟨readable, message, read⟩ | ⟨unreadable, description, raised⟩
  · exact Or.inl ⟨readable, message, read, by rw [limitedBy, read]⟩
  · exact Or.inr ⟨unreadable, description, by rw [limitedBy, raised]⟩

theorem perform_limitedBy {call : ProviderCall}
    (answered : send call.request = .response response) (status : response.statusCode = 429)
    (delay : response.headers.get? "Retry-After" = some n.repr) :
    (∀ error, limitedBy libraries response n = .client error →
        call.perform libraries send = .ok (call.failure error)) ∧
      ∀ description, limitedBy libraries response n = .other description →
        call.perform libraries send = .error (.other description) := by
  cases call with
  | seats | register | unregister =>
    simp only [ProviderCall.request] at answered
    simp only [ProviderCall.perform, EventsProviderClient.getAvailableSeats,
      EventsProviderClient.register, EventsProviderClient.unregister]
    rw [receive_limitedBy answered status delay]
    constructor
    · intro error limited
      rw [limited]
      rfl
    · intro description limited
      rw [limited]
      rfl

end Limited

section Respond

variable {runtime : Runtime} {db : Database} {now : Instant} {cache : SeatsCache} {code : Code}
  {call : ProviderCall}

theorem failure_respond {error : APIClientError} (asks : code.call = some call)
    (found : error.isInstance .providerNotFound = false)
    (good : error.isInstance .providerBadRequest = false) :
    (code.receive (call.failure error)).bind (Code.respond runtime db now cache) =
      some (handleException (.client error)) := by
  have seats (event : EventORM) : receiveAvailableSeats event (.error error) cache =
      (.error (.client error), cache) := by
    simp [receiveAvailableSeats, found]
  cases code with
  | register payload point =>
    cases point with
    | askSeats event =>
      cases asks
      simp [ProviderCall.failure, Code.receive, Code.respond, Code.resume, receiveSeats, seats,
        Code.response]
    | askRegister event =>
      cases asks
      simp [ProviderCall.failure, Code.receive, Code.respond, Code.resume, receiveRegistration,
        found, good, Code.response]
    | lockKey | getKey | getEvent | seatsAnswered | registerAnswered | commit | committed
    | returned | raised => cases asks
  | unregister ticketId point =>
    cases point with
    | askUnregister ticket =>
      cases asks
      simp [ProviderCall.failure, Code.receive, Code.respond, Code.resume, receiveCancellation,
        found, Code.response]
    | getTicket | answered | commitDelete | deleted | commitCancel | cancelled | returned
    | raised => cases asks
  | seats eventId point =>
    cases point with
    | askSeats event =>
      cases asks
      simp [ProviderCall.failure, Code.receive, Code.respond, Code.resume, receiveSeatsList, seats,
        Code.response]
    | getEvent | answered | returned | raised => cases asks

theorem failed_respond (raised : Raised) (asks : code.call = some call) :
    (code.fail raised).bind (Code.respond runtime db now cache) =
      some (handleException raised) := by
  cases code with
  | register payload point =>
    cases point <;> cases asks <;> rfl
  | unregister ticketId point =>
    cases point <;> cases asks
    rfl
  | seats eventId point =>
    cases point <;> cases asks
    rfl

theorem reraised_eq_iff (error : Raised) :
    SyncService.reraised error = error ↔ storable (truncate 2000 error.str) = true := by
  unfold SyncService.reraised
  by_cases writable : storable (truncate 2000 error.str) = true
  · simp [writable]
  · rw [if_neg writable]
    apply iff_of_false _ writable
    rintro rfl
    exact writable (by decide)

end Respond

section Relayed

variable {libraries : Libraries} {send : HttpRequest → Transport} {runtime : Runtime}
  {db : Database} {now : Instant} {cache : SeatsCache} {response : Response} {n : Nat}

theorem service_limited {code : Code} {call : ProviderCall} (asks : code.call = some call)
    (answered : send call.request = .response response) (status : response.statusCode = 429)
    (delay : response.headers.get? "Retry-After" = some n.repr) :
    (Waiter.service code call asks).respond libraries send runtime db now cache =
      some (handleException (limitedBy libraries response n)) := by
  obtain ⟨answer, raise⟩ := @perform_limitedBy libraries _ _ _ _ answered status delay
  simp only [Waiter.respond, Code.hear, asks]
  rcases limitedBy_cases libraries response n with
    ⟨_, message, _, limited⟩ | ⟨_, description, limited⟩
  · rw [limited, answer _ limited]
    exact failure_respond asks rfl rfl
  · rw [limited, raise _ limited]
    exact failed_respond _ asks

theorem trigger_limited {changedAt : String} {url : Option String}
    (answered : send (SyncService.fetchPageRequest changedAt url) = .response response)
    (status : response.statusCode = 429)
    (delay : response.headers.get? "Retry-After" = some n.repr) :
    (Waiter.trigger changedAt url).respond libraries send runtime db now cache =
      some (handleException (SyncService.reraised (limitedBy libraries response n))) := by
  have raised : SyncService.fetchPage libraries send changedAt url =
      .error (limitedBy libraries response n) := by
    cases url with
    | none => exact receive_limitedBy answered status delay
    | some url => exact receive_limitedBy answered status delay
  rw [Waiter.respond, raised]

theorem limitedBy_relays :
    (handleException (limitedBy libraries response n)).Relays n ↔
      n = 0 ∧ response.Readable libraries ∧
        ∀ message, BaseAPIClient.extractErrorMessage libraries response = .ok message →
          message.encodable = true := by
  rcases limitedBy_cases libraries response n with
    ⟨readable, message, read, limited⟩ | ⟨unreadable, description, limited⟩
  · rw [limited, relays_limited_iff]
    simp [readable, read]
  · rw [limited]
    exact iff_of_false (not_relays_other description n) fun all => unreadable all.2.1

theorem reraised_relays :
    (handleException (SyncService.reraised (limitedBy libraries response n))).Relays n ↔
      n = 0 ∧ response.Readable libraries ∧
        ∀ message, BaseAPIClient.extractErrorMessage libraries response = .ok message →
          message.encodable = true ∧ storable (truncate 2000 message) = true := by
  rcases limitedBy_cases libraries response n with
    ⟨readable, message, read, limited⟩ | ⟨unreadable, description, limited⟩
  · have str : (limitedBy libraries response n).str = message := by
      rw [limited]
      rfl
    by_cases writable : storable (truncate 2000 message) = true
    · rw [(reraised_eq_iff _).mpr (by rw [str]; exact writable), limitedBy_relays]
      simp [readable, read, writable]
    · rw [SyncService.reraised, str, if_neg writable]
      apply iff_of_false (not_relays_other _ n)
      intro holds
      exact writable (holds.2.2 message read).2
  · apply iff_of_false _ fun holds => unreadable holds.2.1
    rw [limited, SyncService.reraised]
    split
    · exact not_relays_other _ n
    · exact not_relays_other _ n

/-- A delay that the provider names in seconds is relayed exactly if it is zero and nothing goes
    wrong with the message. -/
theorem rate_limit_relayed_iff (waiter : Waiter)
    (answered : send waiter.request = .response response) (status : response.statusCode = 429)
    (delay : response.headers.get? "Retry-After" = some n.repr) :
    (∃ sent, waiter.respond libraries send runtime db now cache = some sent ∧ sent.Relays n) ↔
      n = 0 ∧ waiter.Accepts libraries response := by
  cases waiter with
  | service code call asks =>
    rw [service_limited asks answered status delay]
    simp only [Option.some.injEq, exists_eq_left', Waiter.Accepts]
    exact limitedBy_relays
  | trigger changedAt url =>
    rw [trigger_limited answered status delay]
    simp only [Option.some.injEq, exists_eq_left', Waiter.Accepts]
    exact reraised_relays

def sampleWaiter : Waiter := .service (.seats ⟨1⟩ (.askSeats sampleEvent)) (.seats ⟨1⟩) rfl

theorem rate_limit_relayed_iff_zero : ∃ sent, sampleWaiter.respond sampleLibraries
    (fun _ => .response (rateLimited (0 : Nat).repr)) sampleRuntime sampleDatabase 0 .empty =
      some sent ∧ sent.Relays 0 :=
  (rate_limit_relayed_iff sampleWaiter rfl rfl (rateLimited_delay _)).mpr
    ⟨rfl, rateLimited_readable _ _, by rintro message ⟨⟩; rfl⟩

/-- The provider asks for 30 seconds, and this API for "30.0". -/
theorem thirty_not_relayed : ¬ ∀ (waiter : Waiter) (libraries : Libraries)
    (send : HttpRequest → Transport) (runtime : Runtime) (db : Database) (now : Instant)
    (cache : SeatsCache) (response : Response) (n : Nat),
    send waiter.request = .response response → response.statusCode = 429 →
      response.headers.get? "Retry-After" = some n.repr →
        ∃ sent, waiter.respond libraries send runtime db now cache = some sent ∧
          sent.Relays n := by
  intro always
  obtain ⟨sent, responded, relays⟩ := always sampleWaiter sampleLibraries
    (fun _ => .response (rateLimited (30 : Nat).repr)) sampleRuntime sampleDatabase 0 .empty _ 30
    rfl rfl (rateLimited_delay _)
  rw [sampleWaiter, service_limited rfl rfl rfl (rateLimited_delay _)] at responded
  cases responded
  have zero := (limitedBy_relays.mp relays).1
  cases zero

end Relayed

section Steps

variable {Process : Type} [DecidableEq Process] {P : Provider} {runtime : Runtime}
  {libraries : Libraries} {send : HttpRequest → Transport}

theorem hear_cases {code heard : Code} (hears : code.hear libraries send = some heard) :
    ∃ call, code.call = some call ∧
      ((∃ answer, call.perform libraries send = .ok answer ∧ code.receive answer = some heard) ∨
        ∃ raised, code.fail raised = some heard) := by
  unfold Code.hear at hears
  cases asks : code.call with
  | none =>
    rw [asks] at hears
    cases hears
  | some call =>
    simp only [asks] at hears
    refine ⟨call, rfl, ?_⟩
    cases performed : call.perform libraries send with
    | ok answer =>
      rw [performed] at hears
      exact Or.inl ⟨answer, rfl, hears⟩
    | error raised =>
      rw [performed] at hears
      exact Or.inr ⟨raised, hears⟩

theorem hear_reads {code heard : Code} (hears : code.hear libraries send = some heard) :
    heard.reads = false := by
  obtain ⟨call, _, ⟨answer, _, received⟩ | ⟨raised, failed⟩⟩ := hear_cases hears
  · unfold Code.receive at received
    split at received <;> cases received <;> rfl
  · unfold Code.fail at failed
    split at failed <;> cases failed <;> rfl

theorem hear_step {s : State Process P} {i : Nat} {task : Task Process} {heard : Code}
    (found : s.tasks i = some task) (hears : task.code.hear libraries send = some heard)
    (gives : ∀ call answer, call.perform libraries send = .ok answer →
      ∃ provider, P.Handles s.provider call answer provider) :
    ∃ a t, Step runtime s a t ∧ t.tasks i = some { task with code := heard } ∧ t.db = s.db ∧
      t.now = s.now ∧ t.cache = s.cache := by
  obtain ⟨call, asks, ⟨answer, performed, received⟩ | ⟨raised, failed⟩⟩ := hear_cases hears
  · obtain ⟨provider, handled⟩ := gives call answer performed
    exact ⟨_, _, .answer found asks handled received, setTask_self s i _, rfl, rfl, rfl⟩
  · exact ⟨_, _, .fail found failed, setTask_self s i _, rfl, rfl, rfl⟩

theorem respond_step {s : State Process P} {i : Nat} {task : Task Process} {sent : ApiResponse}
    (found : s.tasks i = some task) (heard : task.code.reads = false)
    (responded : task.code.respond runtime s.db s.now (s.cache task.process) = some sent) :
    task.code.response = some sent ∨ ∃ t resumed, Step runtime s (.resume i) t ∧
      t.tasks i = some { task with code := resumed } ∧ resumed.response = some sent := by
  unfold Code.respond at responded
  split at responded
  · rename_i resumed cache runs
    right
    refine ⟨_, resumed, .resume found ?_ runs, setTask_self s i _, responded⟩
    intro reads
    rw [heard] at reads
    cases reads
  · exact Or.inl responded

/-- What a waiting request is answered with is what it comes to in a run of the services. -/
theorem service_run {s : State Process P} {i : Nat} {task : Task Process} {call : ProviderCall}
    {sent : ApiResponse} (found : s.tasks i = some task) (asks : task.code.call = some call)
    (gives : ∀ call answer, call.perform libraries send = .ok answer →
      ∃ provider, P.Handles s.provider call answer provider)
    (responded : (Waiter.service task.code call asks).respond libraries send runtime s.db s.now
      (s.cache task.process) = some sent) :
    ∃ moves t resumed, Run (system Process runtime P) s moves t ∧
      t.tasks i = some { task with code := resumed } ∧ resumed.response = some sent := by
  obtain ⟨heard, hears, responds⟩ := Option.bind_eq_some_iff.mp responded
  obtain ⟨a, t, step, there, db, now, cache⟩ :=
    @hear_step _ _ _ runtime _ _ _ _ _ _ found hears gives
  have start : Run (system Process runtime P) s [] s := .refl
  have run := start.move step
  rw [← db, ← now, ← cache] at responds
  rcases respond_step there (hear_reads hears) responds with
    ended | ⟨u, resumed, resume, ends, ended⟩
  · exact ⟨_, t, heard, run, there, ended⟩
  · exact ⟨_, u, resumed, run.move resume, ends, ended⟩

end Steps

end EventsAggregator
