import EventsAggregator.Clients.EventsProvider

namespace EventsAggregator

/-- The result of a request method is a validated model or an `APIClientError`. -/
def Normalised {Model : Type} (result : Except Raised Model) : Prop :=
  ∀ raised, result = .error raised → ∃ error, raised = .client error

def Headers.DelayReadable (headers : Headers) : Prop :=
  ∀ text, headers.get? "Retry-After" = some text → text = "" ∨ (Floats.float text).isSome = true

/-- `httpx` raises nothing but a `TimeoutException` or a `RequestError`, and what it hands back can
    be read: as an error for a status from 400 on, and as JSON below that if there is a body. -/
def Transport.Normal (readable : Response → Prop) : Transport → Prop
  | .timeout | .requestError _ => True
  | .raised _ => False
  | .response answer =>
    if answer.statusCode ≥ 400 then readable answer
    else answer.statusCode = 204 ∨ answer.content = [] ∨
      ∀ description, answer.json ≠ .raised description

inductive ClientMethod : Type → Type 1
  | getEventsPage (url : String) : ClientMethod EventsPage
  | getEventsList (changedAt : Option String) : ClientMethod EventsPage
  | getAvailableSeats (eventId : UUID) : ClientMethod SProviderAvailableSeats
  | register (eventId : UUID) (payload : SProviderRegistrationCreate) :
    ClientMethod SProviderRegistration
  | unregister (eventId ticketId : UUID) : ClientMethod SProviderCancellationResponse
  | sendNotification (notification : SCapashinoNotificationCreate) :
    ClientMethod SCapashinoNotificationResponse

namespace ClientMethod

variable {Model : Type}

def request : ClientMethod Model → HttpRequest
  | .getEventsPage url => EventsProviderClient.getEventsPageRequest url
  | .getEventsList changedAt => EventsProviderClient.getEventsListRequest changedAt
  | .getAvailableSeats eventId => EventsProviderClient.getAvailableSeatsRequest eventId
  | .register eventId payload => EventsProviderClient.registerRequest eventId payload
  | .unregister eventId ticketId => EventsProviderClient.unregisterRequest eventId ticketId
  | .sendNotification notification => CapashinoClient.sendNotificationRequest notification

def call (libraries : Libraries) (send : HttpRequest → Transport) :
    ClientMethod Model → Except Raised Model
  | .getEventsPage url => EventsProviderClient.getEventsPage libraries send url
  | .getEventsList changedAt => EventsProviderClient.getEventsList libraries send changedAt
  | .getAvailableSeats eventId => EventsProviderClient.getAvailableSeats libraries send eventId
  | .register eventId payload => EventsProviderClient.register libraries send eventId payload
  | .unregister eventId ticketId => EventsProviderClient.unregister libraries send eventId ticketId
  | .sendNotification notification => CapashinoClient.sendNotification libraries send notification

def OfProvider : ClientMethod Model → Prop
  | .sendNotification _ => False
  | _ => True

/-- What an error response must be like for the method's client to make an exception of it. -/
def Readable (method : ClientMethod Model) (libraries : Libraries) (response : Response) : Prop :=
  response.Readable libraries ∧
    (method.OfProvider → response.statusCode = 429 → response.headers.DelayReadable)

end ClientMethod

theorem delay_cases (headers : Headers) :
    (headers.DelayReadable ∧ ∃ seconds, EventsProviderClient.retryAfter headers = .ok seconds) ∨
      ¬ headers.DelayReadable ∧
        ∃ description, EventsProviderClient.retryAfter headers = .error (.other description) := by
  unfold EventsProviderClient.retryAfter Headers.DelayReadable
  cases headers.get? "Retry-After" with
  | none => exact Or.inl ⟨by simp, none, rfl⟩
  | some text =>
    by_cases empty : text = ""
    · subst empty
      exact Or.inl ⟨by simp, none, rfl⟩
    · cases read : Floats.float text with
      | some seconds => exact Or.inl ⟨by simp [read], some seconds, by simp [read]⟩
      | none =>
        refine Or.inr ⟨by simp [empty, read], s!"could not convert string to float: '{text}'", ?_⟩
        simp [read]

def Builds (errorFromResponse : Response → Except Raised APIClientError)
    (readable : Response → Prop) : Prop :=
  ∀ response, (readable response ∧ ∃ error, errorFromResponse response = .ok error) ∨
    ¬ readable response ∧ ∃ description, errorFromResponse response = .error (.other description)

theorem provider_builds (libraries : Libraries) :
    Builds (EventsProviderClient.errorFromResponse libraries) fun response =>
      response.Readable libraries ∧ (response.statusCode = 429 → response.headers.DelayReadable) := by
  intro response
  unfold EventsProviderClient.errorFromResponse
  rcases BaseAPIClient.extract_cases libraries response with
    ⟨readable, message, extracted⟩ | ⟨unreadable, description, extracted⟩
  · simp only [extracted, readable, true_and]
    by_cases limited : response.statusCode = 429
    · simp only [limited]
      rcases delay_cases response.headers with ⟨delay, seconds, read⟩ | ⟨delay, description, read⟩
      · exact Or.inl ⟨fun _ => delay, by simp [read, Except.map]⟩
      · exact Or.inr ⟨by simp [delay], by simp [read, Except.map]⟩
    · refine Or.inl ⟨fun here => absurd here limited, ?_⟩
      rw [if_neg limited]
      split_ifs <;> exact ⟨_, rfl⟩
  · simp only [extracted, unreadable, false_and]
    exact Or.inr ⟨not_false, description, rfl⟩

theorem capashino_builds (libraries : Libraries) :
    Builds (CapashinoClient.errorFromResponse libraries) (Response.Readable libraries) := by
  intro response
  unfold CapashinoClient.errorFromResponse
  rcases BaseAPIClient.extract_cases libraries response with
    ⟨readable, message, extracted⟩ | ⟨unreadable, description, extracted⟩
  · simp only [extracted]
    refine Or.inl ⟨readable, ?_⟩
    split_ifs <;> exact ⟨_, rfl⟩
  · simp only [extracted]
    exact Or.inr ⟨unreadable, description, rfl⟩

theorem normalised_ok {Model : Type} (model : Model) :
    Normalised (.ok model : Except Raised Model) :=
  fun _ raised => nomatch raised

theorem normalised_client {Model : Type} (error : APIClientError) :
    Normalised (.error (.client error) : Except Raised Model) := by
  rintro _ ⟨⟩
  exact ⟨error, rfl⟩

theorem not_normalised_other {Model : Type} (description : String) :
    ¬ Normalised (.error (.other description) : Except Raised Model) := by
  intro normalised
  obtain ⟨error, raised⟩ := normalised _ rfl
  cases raised

theorem request_normalised {errorFromResponse : Response → Except Raised APIClientError}
    {readable : Response → Prop} (builds : Builds errorFromResponse readable) (method url : String)
    (transport : Transport) :
    Normalised (BaseAPIClient.request errorFromResponse method url transport) ↔
      transport.Normal readable := by
  cases transport with
  | timeout | requestError => exact iff_of_true (normalised_client _) trivial
  | raised description => exact iff_of_false (not_normalised_other description) not_false
  | response response =>
    simp only [BaseAPIClient.request, Transport.Normal]
    by_cases failed : response.statusCode ≥ 400
    · rw [if_pos failed, if_pos failed]
      rcases builds response with ⟨read, error, built⟩ | ⟨unread, description, built⟩
      · rw [built]
        exact iff_of_true (normalised_client error) read
      · rw [built]
        exact iff_of_false (not_normalised_other description) unread
    · rw [if_neg failed, if_neg failed]
      by_cases empty : response.statusCode = 204 ∨ response.content = []
      · rw [if_pos empty, ← or_assoc]
        exact iff_of_true (normalised_ok _) (Or.inl empty)
      · rw [if_neg empty, ← or_assoc]
        cases response.json with
        | value json => exact iff_of_true (normalised_ok json) (Or.inr (by simp))
        | valueError => exact iff_of_true (normalised_client _) (Or.inr (by simp))
        | raised description =>
          refine iff_of_false (not_normalised_other description) ?_
          exact not_or.mpr ⟨empty, fun clean => clean description rfl⟩

theorem parse_normalised {Model : Type} (modelValidate : Json → Except Nat Model) (data : Json) :
    Normalised (BaseAPIClient.parse modelValidate data) := by
  unfold BaseAPIClient.parse
  split
  · exact normalised_ok _
  · exact normalised_client _

theorem parsed_normalised {Model : Type} {modelValidate : Json → Except Nat Model}
    {requested : Except Raised Json} :
    Normalised (match requested with
      | .error raised => .error raised
      | .ok data => BaseAPIClient.parse modelValidate data) ↔ Normalised requested := by
  cases requested with
  | ok data => exact iff_of_true (parse_normalised modelValidate data) (normalised_ok data)
  | error raised =>
    constructor
    · rintro normalised _ ⟨⟩
      exact normalised _ rfl
    · rintro normalised _ ⟨⟩
      exact normalised _ rfl

theorem receive_normalised {Model : Type} (libraries : Libraries)
    (modelValidate : Json → Validated Model) (send : HttpRequest → Transport)
    (request : HttpRequest) :
    Normalised (EventsProviderClient.receive libraries modelValidate send request) ↔
      (send request).Normal fun response => response.Readable libraries ∧
        (response.statusCode = 429 → response.headers.DelayReadable) :=
  parsed_normalised.trans (request_normalised (provider_builds libraries) _ _ _)

theorem normal_congr {readable readable' : Response → Prop}
    (same : ∀ response, readable response ↔ readable' response) (transport : Transport) :
    transport.Normal readable ↔ transport.Normal readable' := by
  have equal : readable = readable' := funext fun response => propext (same response)
  rw [equal]

theorem call_normalised {Model : Type} (method : ClientMethod Model) (libraries : Libraries)
    (send : HttpRequest → Transport) :
    Normalised (method.call libraries send) ↔ (send method.request).Normal (method.Readable libraries) := by
  have provider : method.OfProvider → ∀ response, (response.Readable libraries ∧
      (response.statusCode = 429 → response.headers.DelayReadable)) ↔
        method.Readable libraries response :=
    fun here response => by simp [ClientMethod.Readable, here]
  cases method with
  | getEventsPage | getEventsList | getAvailableSeats | register | unregister =>
    exact (receive_normalised libraries _ send _).trans (normal_congr (provider trivial) _)
  | sendNotification notification =>
    refine parsed_normalised.trans ((request_normalised (capashino_builds libraries) _ _ _).trans
      (normal_congr (fun response => ?_) _))
    simp [ClientMethod.Readable, ClientMethod.OfProvider]

theorem receive_limited {Model : Type} {libraries : Libraries}
    {modelValidate : Json → Validated Model} {send : HttpRequest → Transport}
    {request : HttpRequest} {response : Response} (answered : send request = .response response)
    (limited : response.statusCode = 429) :
    (∃ error, EventsProviderClient.receive libraries modelValidate send request =
        .error (.client error) ∧ error.isInstance .providerRateLimited = true) ↔
      response.Readable libraries ∧ response.headers.DelayReadable := by
  simp only [EventsProviderClient.receive, answered, BaseAPIClient.request,
    EventsProviderClient.errorFromResponse, limited]
  rcases BaseAPIClient.extract_cases libraries response with
    ⟨readable, message, extracted⟩ | ⟨unreadable, description, extracted⟩
  · rcases delay_cases response.headers with ⟨delay, seconds, read⟩ | ⟨delay, description, read⟩
    · simp only [extracted, read]
      exact iff_of_true ⟨_, rfl, by rfl⟩ ⟨readable, delay⟩
    · simp only [extracted, read]
      refine iff_of_false ?_ fun both => delay both.2
      rintro ⟨_, raised, _⟩
      cases raised
  · simp only [extracted]
    refine iff_of_false ?_ fun both => unreadable both.1
    rintro ⟨_, raised, _⟩
    cases raised

theorem call_limited {Model : Type} {method : ClientMethod Model} {libraries : Libraries}
    {send : HttpRequest → Transport} {response : Response} (provider : method.OfProvider)
    (answered : send method.request = .response response) (limited : response.statusCode = 429) :
    (∃ error, method.call libraries send = .error (.client error) ∧
      error.isInstance .providerRateLimited = true) ↔ method.Readable libraries response := by
  have readable : method.Readable libraries response ↔
      response.Readable libraries ∧ response.headers.DelayReadable := by
    simp [ClientMethod.Readable, provider, limited]
  rw [readable]
  cases method with
  | getEventsPage | getEventsList | getAvailableSeats | register | unregister =>
    exact receive_limited answered limited
  | sendNotification => exact provider.elim

/-- Every request method ends with a model or an `APIClientError`, and after a 429 of the provider
    with a `ProviderRateLimited`, exactly if the outcome of its request is a normal one. -/
theorem client_errors_normalised_iff {Model : Type} (method : ClientMethod Model)
    (libraries : Libraries) (send : HttpRequest → Transport) :
    (Normalised (method.call libraries send) ↔ (send method.request).Normal (method.Readable libraries)) ∧
      ∀ response, method.OfProvider → send method.request = .response response →
        response.statusCode = 429 →
          ((∃ error, method.call libraries send = .error (.client error) ∧
            error.isInstance .providerRateLimited = true) ↔ method.Readable libraries response) :=
  ⟨call_normalised method libraries send, fun _ => call_limited⟩

section Sample

def rateLimited (retryAfter : String) : Response where
  statusCode := 429
  headers := [("content-type", "application/json"), ("retry-after", retryAfter)]
  content := [123, 125]
  text := .ok "{}"
  json := .value (.obj [("detail", .str "Rate limited")])
  method := "GET"
  url := "https://provider.test/events/00000000-0000-0000-0000-000000000001/seats/"

theorem rateLimited_delay (text : String) :
    (rateLimited text).headers.get? "Retry-After" = some text := by
  have type : sameName "content-type" "Retry-After" = false := by decide
  have delay : sameName "retry-after" "Retry-After" = true := by decide
  simp [Headers.get?, rateLimited, type, delay]

theorem rateLimited_readable (libraries : Libraries) (text : String) :
    (rateLimited text).Readable libraries := by
  intro unnamed
  cases unnamed

/-- The provider names a date in its `Retry-After`. -/
theorem date_not_normalised : ¬ ∀ (Model : Type) (method : ClientMethod Model)
    (libraries : Libraries) (send : HttpRequest → Transport),
    Normalised (method.call libraries send) ∧
      ∀ response, method.OfProvider → send method.request = .response response →
        response.statusCode = 429 → ∃ error, method.call libraries send = .error (.client error) ∧
          error.isInstance .providerRateLimited = true := by
  intro always
  have normal := (call_normalised _ _ _).mp (always _ (.getAvailableSeats ⟨1⟩) sampleLibraries
    fun _ => .response (rateLimited "Wed, 21 Oct 2015 07:28:00 GMT")).1
  have accepted := normal.2 trivial rfl _ (rateLimited_delay _)
  have refused : Floats.float "Wed, 21 Oct 2015 07:28:00 GMT" = none :=
    Floats.float_weekday _ (by decide)
  simp [refused] at accepted

theorem client_errors_normalised_iff_seconds : ∃ error,
    EventsProviderClient.getAvailableSeats sampleLibraries
        (fun _ => .response (rateLimited (30 : Nat).repr)) ⟨1⟩ = .error (.client error) ∧
      error.isInstance .providerRateLimited = true := by
  refine ((client_errors_normalised_iff (.getAvailableSeats ⟨1⟩) sampleLibraries _).2 _ trivial rfl
    rfl).mpr ⟨rateLimited_readable _ _, fun _ _ text found => ?_⟩
  cases (rateLimited_delay _).symm.trans found
  rw [Floats.float_numeral]
  exact Or.inr rfl

end Sample

end EventsAggregator
