import EventsAggregator.Clients.Http
import EventsAggregator.Relational.Table

namespace EventsAggregator

open Relational

structure SCapashinoNotificationCreate where
  message : String
  referenceId : UUID
  idempotencyKey : String
  messageLength : 1 ≤ message.length
  deriving DecidableEq

structure SCapashinoNotificationResponse where
  id : UUID
  userId : Option UUID
  message : Text
  referenceId : UUID
  createdAt : Instant
  idempotencyKey : Option Text

def requiredField {Value : Type} (items : List (Text × Json)) (key : String)
    (validate : Json → Option Value) : Option Value :=
  (items.lookup (key : Text)).bind validate

def optionalField {Value : Type} (items : List (Text × Json)) (key : String)
    (validate : Json → Option Value) : Option (Option Value) :=
  match items.lookup (key : Text) with
  | none | some .null => some none
  | some value => (validate value).map some

def validateStr : Json → Option Text
  | .str value => some value
  | _ => none

def SCapashinoNotificationResponse.modelValidate (libraries : Libraries) :
    Json → Except Nat SCapashinoNotificationResponse
  | .obj items =>
    let id := requiredField items "id" libraries.uuid
    let userId := optionalField items "user_id" libraries.uuid
    let message := requiredField items "message" validateStr
    let referenceId := requiredField items "reference_id" libraries.uuid
    let createdAt := requiredField items "created_at" libraries.awareDatetime
    let idempotencyKey := optionalField items "idempotency_key" validateStr
    match id, userId, message, referenceId, createdAt, idempotencyKey with
    | some id, some userId, some message, some referenceId, some createdAt, some idempotencyKey =>
      .ok { id, userId, message, referenceId, createdAt, idempotencyKey }
    | _, _, _, _, _, _ =>
      .error ([id.isNone, userId.isNone, message.isNone, referenceId.isNone, createdAt.isNone,
        idempotencyKey.isNone].count true)
  | _ => .error 1

namespace CapashinoClient

def errorFromResponse (libraries : Libraries) (response : Response) :
    Except Raised APIClientError :=
  match BaseAPIClient.extractErrorMessage libraries response with
  | .error raised => .error raised
  | .ok message =>
    if response.statusCode ∈ [400, 401, 403, 422] then
      .ok ⟨.capashinoPermanentError, ("Capashino rejected request: " : Text) ++ message,
        some response.statusCode, none⟩
    else if response.statusCode = 409 then
      .ok ⟨.apiClientError, ("Capashino idempotency conflict: " : Text) ++ message,
        some response.statusCode, none⟩
    else
      .ok ⟨.apiClientError, ("Capashino temporary error: " : Text) ++ message, some response.statusCode,
        none⟩

def receiveNotification (libraries : Libraries) (transport : Transport) :
    Except Raised SCapashinoNotificationResponse :=
  match BaseAPIClient.request (errorFromResponse libraries) "POST" "/api/notifications"
      transport with
  | .error raised => .error raised
  | .ok data => BaseAPIClient.parse (SCapashinoNotificationResponse.modelValidate libraries) data

end CapashinoClient

def Response.WellFormed (libraries : Libraries) (response : Response) : Prop :=
  ∃ json notification, response.json = .value json ∧
    SCapashinoNotificationResponse.modelValidate libraries json = .ok notification

theorem request_ok {errorFromResponse : Response → Except Raised APIClientError}
    {method url : String} {transport : Transport} {data : Json}
    (received : BaseAPIClient.request errorFromResponse method url transport = .ok data) :
    ∃ response, transport = .response response ∧ response.statusCode < 400 ∧
      (data = .obj [] ∨ response.json = .value data) := by
  cases transport with
  | timeout | requestError | raised => cases received
  | response response =>
    refine ⟨response, rfl, ?_⟩
    simp only [BaseAPIClient.request] at received
    split at received
    · split at received <;> cases received
    · rename_i status
      refine ⟨by omega, ?_⟩
      split at received
      · cases received
        exact Or.inl rfl
      · split at received
        · rename_i json decoded
          cases received
          exact Or.inr decoded
        · cases received
        · cases received

theorem empty_object_refused (libraries : Libraries)
    (notification : SCapashinoNotificationResponse) :
    SCapashinoNotificationResponse.modelValidate libraries (.obj []) ≠ .ok notification := by
  simp [SCapashinoNotificationResponse.modelValidate, requiredField]

theorem receive_ok {libraries : Libraries} {transport : Transport}
    {notification : SCapashinoNotificationResponse}
    (received : CapashinoClient.receiveNotification libraries transport = .ok notification) :
    ∃ response, transport = .response response ∧ response.statusCode < 400 ∧
      response.WellFormed libraries := by
  unfold CapashinoClient.receiveNotification at received
  split at received
  · cases received
  · rename_i data requested
    obtain ⟨response, answered, status, body⟩ := request_ok requested
    have valid :
        SCapashinoNotificationResponse.modelValidate libraries data = .ok notification := by
      unfold BaseAPIClient.parse at received
      split at received
      · rename_i model validated
        cases received
        exact validated
      · cases received
    refine ⟨response, answered, status, data, notification, ?_, valid⟩
    rcases body with rfl | body
    · exact absurd valid (empty_object_refused libraries notification)
    · exact body

theorem error_status {libraries : Libraries} {response : Response} {error : APIClientError}
    (failed : CapashinoClient.errorFromResponse libraries response = .ok error) :
    error.statusCode = some response.statusCode := by
  unfold CapashinoClient.errorFromResponse at failed
  split at failed
  · cases failed
  · split at failed
    · cases failed
      rfl
    · split at failed <;> cases failed <;> rfl

theorem receive_error_status {libraries : Libraries} {transport : Transport}
    {error : APIClientError} {status : Nat}
    (received : CapashinoClient.receiveNotification libraries transport = .error (.client error))
    (carries : error.statusCode = some status) :
    ∃ response, transport = .response response ∧ response.statusCode = status := by
  unfold CapashinoClient.receiveNotification at received
  split at received
  · rename_i raised requested
    cases received
    cases transport with
    | timeout | requestError | raised =>
      cases requested
      try cases carries
    | response response =>
      refine ⟨response, rfl, ?_⟩
      simp only [BaseAPIClient.request] at requested
      split at requested
      · split at requested
        · rename_i built failed
          cases requested
          exact Option.some.inj ((error_status failed).symm.trans carries)
        · rename_i other failed
          cases requested
          unfold CapashinoClient.errorFromResponse at failed
          rcases BaseAPIClient.extract_cases libraries response with
            ⟨_, message, extracted⟩ | ⟨_, description, extracted⟩
          · rw [extracted] at failed
            simp only at failed
            split at failed
            · cases failed
            · split at failed <;> cases failed
          · rw [extracted] at failed
            cases failed
      · split at requested
        · cases requested
        · split at requested
          · cases requested
          · cases requested
            cases carries
          · cases requested
  · unfold BaseAPIClient.parse at received
    split at received
    · cases received
    · cases received
      cases carries

/-- The notification service as its client sees it: how handling a request may change it and
    what may become of the answer. -/
structure Capashino where
  State : Type
  Initial : State → Prop
  Handles : State → SCapashinoNotificationCreate → Transport → State → Prop

/-- Keeps at most one notification per idempotency key. An answer whose status is a `success` and
    whose body is well formed confirms that the notification is stored, a 409 that it already
    was; apart from that any answer, or none, may follow whether it is stored or not. -/
def notificationService (libraries : Libraries) (success : Nat → Bool) : Capashino where
  State := Table SCapashinoNotificationCreate.idempotencyKey
  Initial stored := stored = .empty
  Handles stored request transport stored' :=
    (stored' = stored ∨ stored.insert? request = some stored') ∧
      ∀ response, transport = .response response →
        (success response.statusCode = true → response.WellFormed libraries →
          (stored'.find? request.idempotencyKey).isSome) ∧
        (response.statusCode = 409 → (stored.find? request.idempotencyKey).isSome)

end EventsAggregator
