import EventsAggregator.Clients.Capashino
import EventsAggregator.Clients.Pagination
import EventsAggregator.Clients.Provider

namespace EventsAggregator

structure SProviderAvailableSeats where
  seats : List Text

structure SProviderRegistration where
  ticketId : UUID

structure SProviderCancellationResponse where
  success : Bool

/-- A validated value, or the number of errors in what was to be validated. -/
abbrev Validated (Value : Type) := Except Nat Value

namespace Validated

variable {α β : Type}

def build (value : α) : Validated α := .ok value

def and : Validated (α → β) → Validated α → Validated β
  | .ok build, .ok value => .ok (build value)
  | .ok _, .error count | .error count, .ok _ => .error count
  | .error before, .error count => .error (before + count)

def ofOption : Option α → Validated α
  | some value => .ok value
  | none => .error 1

def each (validate : Json → Validated α) : List Json → Validated (List α)
  | [] => build []
  | json :: rest => ((build List.cons).and (validate json)).and (each validate rest)

end Validated

def nestedField {Value : Type} (items : List (Text × Json)) (key : String)
    (validate : Json → Validated Value) : Validated Value :=
  match items.lookup (key : Text) with
  | some json => validate json
  | none => .error 1

def validateField {Value : Type} (items : List (Text × Json)) (key : String)
    (validate : Json → Option Value) : Validated Value :=
  .ofOption (requiredField items key validate)

def validateList {Value : Type} (validate : Json → Validated Value) :
    Json → Validated (List Value)
  | .arr items => .each validate items
  | _ => .error 1

def EventStatus.validate : Json → EventStatus
  | .str text =>
    if text = "new" then .new
    else if text = "published" then .published
    else if text = "finished" then .finished
    else .unknown
  | _ => .unknown

def SProviderPlace.modelValidate (libraries : Libraries) : Json → Validated SProviderPlace
  | .obj items =>
    (Validated.build fun (id : UUID) (name city address seatsPattern : Text) (_ _ : Instant) =>
        ({ id, name, city, address, seatsPattern } : SProviderPlace))
      |>.and (validateField items "id" libraries.uuid)
      |>.and (validateField items "name" validateStr)
      |>.and (validateField items "city" validateStr)
      |>.and (validateField items "address" validateStr)
      |>.and (validateField items "seats_pattern" validateStr)
      |>.and (validateField items "changed_at" libraries.awareDatetime)
      |>.and (validateField items "created_at" libraries.awareDatetime)
  | _ => .error 1

def SProviderEvent.modelValidate (libraries : Libraries) : Json → Validated SProviderEvent
  | .obj items =>
    (Validated.build fun (id : UUID) (name : Text) (place : SProviderPlace)
          (eventTime registrationDeadline : Instant) (status : EventStatus)
          (numberOfVisitors : Int) (changedAt _ _ : Instant) =>
        ({ id, name, place, eventTime, registrationDeadline, status, numberOfVisitors,
            changedAt } : SProviderEvent))
      |>.and (validateField items "id" libraries.uuid)
      |>.and (validateField items "name" validateStr)
      |>.and (nestedField items "place" (SProviderPlace.modelValidate libraries))
      |>.and (validateField items "event_time" libraries.awareDatetime)
      |>.and (validateField items "registration_deadline" libraries.awareDatetime)
      |>.and (validateField items "status" fun json => some (EventStatus.validate json))
      |>.and (validateField items "number_of_visitors" libraries.int)
      |>.and (validateField items "changed_at" libraries.awareDatetime)
      |>.and (validateField items "created_at" libraries.awareDatetime)
      |>.and (validateField items "status_changed_at" libraries.awareDatetime)
  | _ => .error 1

/-- Links with a lone surrogate are out of the model, and refused here. -/
def validateUrl (json : Json) : Option String := (validateStr json).bind Text.string?

def EventsPage.modelValidate (libraries : Libraries) : Json → Validated EventsPage
  | .obj items =>
    (Validated.build fun (next : Option String) (_ : Option Text) (results : List SProviderEvent) =>
        ({ next, results } : EventsPage))
      |>.and (.ofOption (optionalField items "next" validateUrl))
      |>.and (.ofOption (optionalField items "previous" validateStr))
      |>.and (nestedField items "results" (validateList (SProviderEvent.modelValidate libraries)))
  | _ => .error 1

def SProviderAvailableSeats.modelValidate : Json → Validated SProviderAvailableSeats
  | .obj items =>
    (Validated.build SProviderAvailableSeats.mk)
      |>.and (nestedField items "seats" (validateList fun json => .ofOption (validateStr json)))
  | _ => .error 1

def SProviderRegistration.modelValidate (libraries : Libraries) :
    Json → Validated SProviderRegistration
  | .obj items =>
    (Validated.build SProviderRegistration.mk)
      |>.and (validateField items "ticket_id" libraries.uuid)
  | _ => .error 1

def SProviderCancellationResponse.modelValidate (libraries : Libraries) :
    Json → Validated SProviderCancellationResponse
  | .obj items =>
    (Validated.build SProviderCancellationResponse.mk)
      |>.and (validateField items "success" libraries.bool)
  | _ => .error 1

structure HttpRequest where
  method : String
  url : String
  params : List (String × String)
  json : Option Payload

namespace EventsProviderClient

def retryAfter (headers : Headers) : Except Raised (Option Floats.Literal) :=
  match headers.get? "Retry-After" with
  | none | some "" => .ok none
  | some text =>
    match Floats.float text with
    | some seconds => .ok (some seconds)
    | none => .error (.other s!"could not convert string to float: '{text}'")

def errorFromResponse (libraries : Libraries) (response : Response) :
    Except Raised APIClientError :=
  let status := response.statusCode
  match BaseAPIClient.extractErrorMessage libraries response with
  | .error raised => .error raised
  | .ok message =>
    if status = 400 then .ok ⟨.providerBadRequest, message, some status, none⟩
    else if status = 401 then .ok ⟨.providerAuthError, message, some status, none⟩
    else if status = 404 then .ok ⟨.providerNotFound, message, some status, none⟩
    else if status = 429 then
      (retryAfter response.headers).map fun seconds =>
        ⟨.providerRateLimited, message, some 429, seconds⟩
    else if status = 500 then .ok ⟨.providerServerError, message, some status, none⟩
    else .ok ⟨.eventsProviderError, message, some status, none⟩

def receive {Model : Type} (libraries : Libraries) (modelValidate : Json → Validated Model)
    (send : HttpRequest → Transport) (request : HttpRequest) : Except Raised Model :=
  match BaseAPIClient.request (errorFromResponse libraries) request.method request.url
      (send request) with
  | .error raised => .error raised
  | .ok data => BaseAPIClient.parse modelValidate data

def getEventsPageRequest (url : String) : HttpRequest := ⟨"GET", url, [], none⟩

def getEventsPage (libraries : Libraries) (send : HttpRequest → Transport) (url : String) :
    Except Raised EventsPage :=
  receive libraries (EventsPage.modelValidate libraries) send (getEventsPageRequest url)

def getEventsListRequest (changedAt : Option String) : HttpRequest :=
  ⟨"GET", "/events/", listParams changedAt, none⟩

def getEventsList (libraries : Libraries) (send : HttpRequest → Transport)
    (changedAt : Option String) : Except Raised EventsPage :=
  receive libraries (EventsPage.modelValidate libraries) send (getEventsListRequest changedAt)

def getAvailableSeatsRequest (eventId : UUID) : HttpRequest :=
  ⟨"GET", s!"/events/{eventId}/seats/", [], none⟩

def getAvailableSeats (libraries : Libraries) (send : HttpRequest → Transport) (eventId : UUID) :
    Except Raised SProviderAvailableSeats :=
  receive libraries SProviderAvailableSeats.modelValidate send (getAvailableSeatsRequest eventId)

def registerRequest (eventId : UUID) (payload : SProviderRegistrationCreate) : HttpRequest :=
  ⟨"POST", s!"/events/{eventId}/register/", [], some [("first_name", payload.firstName),
    ("last_name", payload.lastName), ("seat", payload.seat), ("email", payload.email)]⟩

def register (libraries : Libraries) (send : HttpRequest → Transport) (eventId : UUID)
    (payload : SProviderRegistrationCreate) : Except Raised SProviderRegistration :=
  receive libraries (SProviderRegistration.modelValidate libraries) send
    (registerRequest eventId payload)

def unregisterRequest (eventId ticketId : UUID) : HttpRequest :=
  ⟨"DELETE", s!"/events/{eventId}/unregister/", [], some [("ticket_id", ticketId.str)]⟩

def unregister (libraries : Libraries) (send : HttpRequest → Transport)
    (eventId ticketId : UUID) : Except Raised SProviderCancellationResponse :=
  receive libraries (SProviderCancellationResponse.modelValidate libraries) send
    (unregisterRequest eventId ticketId)

end EventsProviderClient

def CapashinoClient.sendNotificationRequest (notification : SCapashinoNotificationCreate) :
    HttpRequest :=
  ⟨"POST", "/api/notifications", [], some [("message", notification.message),
    ("reference_id", notification.referenceId.str),
    ("idempotency_key", notification.idempotencyKey)]⟩

def CapashinoClient.sendNotification (libraries : Libraries) (send : HttpRequest → Transport)
    (notification : SCapashinoNotificationCreate) :
    Except Raised SCapashinoNotificationResponse :=
  receiveNotification libraries (send (sendNotificationRequest notification))

end EventsAggregator
