import EventsAggregator.Clients.Http
import EventsAggregator.Values.Doubles

namespace EventsAggregator

inductive Content
  | json (value : Json)
  | text (value : String)

structure ApiResponse where
  statusCode : Nat
  headers : Headers
  content : Content

def internalServerError : ApiResponse := ⟨500, [], .text "Internal Server Error"⟩

/-- `JSONResponse`. Neither an endpoint nor a handler catches what its encoding raises. -/
def jsonResponse (statusCode : Nat) (headers : Headers) (content : Json) : ApiResponse :=
  if content.encodable then ⟨statusCode, headers, .json content⟩ else internalServerError

def detailResponse (statusCode : Nat) (detail : Text) (headers : Headers) : ApiResponse :=
  jsonResponse statusCode headers (.obj [("detail", .str detail)])

def retryAfterText : Option Floats.Literal → String
  | none => "60"
  | some seconds => if seconds.round.isZero then "60" else seconds.round.str

def providerErrorHandler (exc : APIClientError) : ApiResponse :=
  if exc.isInstance .providerBadRequest then detailResponse 400 exc.message []
  else if exc.isInstance .providerNotFound then detailResponse 404 exc.message []
  else if exc.isInstance .providerRateLimited then
    detailResponse 429 exc.message [("Retry-After", retryAfterText exc.retryAfter)]
  else detailResponse 500 "Upstream provider error" []

def statusMap : List (DomainErrorClass × Nat) :=
  [(.eventNotFound, 404), (.registrationNotFound, 404), (.noAvailableSeats, 400),
    (.seatAlreadyTaken, 400), (.registrationDeadlinePassed, 400), (.idempotencyConflict, 409)]

def domainErrorHandler (exc : DomainError) : ApiResponse :=
  detailResponse ((statusMap.lookup exc.cls).getD 400) exc.message []

/-- What is sent when an endpoint raises. No handler is registered for other exceptions. -/
def handleException : Raised → ApiResponse
  | .domain exc => domainErrorHandler exc
  | .client exc => providerErrorHandler exc
  | .other _ => internalServerError

def deltaSeconds (text : String) : Option Nat :=
  if text.toList ≠ [] ∧ text.toList.all Char.isDigit then some (Nat.ofDigitChars 10 text.toList 0)
  else none

/-- A client that heeds the response waits for `n` seconds or longer. -/
def ApiResponse.Relays (response : ApiResponse) (n : Nat) : Prop :=
  response.statusCode = 429 ∧
    ∃ text seconds, response.headers.get? "Retry-After" = some text ∧
      deltaSeconds text = some seconds ∧ n ≤ seconds

theorem detailResponse_eq (statusCode : Nat) (detail : Text) (headers : Headers) :
    detailResponse statusCode detail headers =
      if detail.encodable then ⟨statusCode, headers, .json (.obj [("detail", .str detail)])⟩
      else internalServerError := by
  simp [detailResponse, jsonResponse, Json.encodable, Json.entriesEncodable]

theorem detail_failure {statusCode : Nat} (failure : 400 ≤ statusCode) (detail : Text)
    (headers : Headers) : 400 ≤ (detailResponse statusCode detail headers).statusCode := by
  rw [detailResponse_eq]
  split
  · exact failure
  · decide

/-- Every response to an exception is a failure. -/
theorem handled_failure (raised : Raised) : 400 ≤ (handleException raised).statusCode := by
  cases raised with
  | domain exc =>
    apply detail_failure
    cases exc.cls <;> decide
  | client exc =>
    unfold handleException providerErrorHandler
    dsimp only
    split
    · exact detail_failure (by decide) ..
    · split
      · exact detail_failure (by decide) ..
      · split
        · exact detail_failure (by decide) ..
        · exact detail_failure (by decide) ..
  | other description =>
    show 400 ≤ 500
    omega

theorem providerErrorHandler_limited (message : Text) (statusCode : Option Nat)
    (seconds : Option Floats.Literal) :
    providerErrorHandler ⟨.providerRateLimited, message, statusCode, seconds⟩ =
      detailResponse 429 message [("Retry-After", retryAfterText seconds)] := rfl

theorem deltaSeconds_repr (n : Nat) : deltaSeconds n.repr = some n := by
  unfold deltaSeconds
  rw [Nat.toList_repr, if_pos, Nat.ofDigitChars_ten_toDigits]
  constructor
  · exact Nat.toDigits_ne_nil
  · exact List.all_eq_true.mpr fun c inside =>
      Nat.isDigit_of_mem_toDigits (by decide) (by decide) inside

theorem deltaSeconds_str (x : Floats.Double) : deltaSeconds x.str = none := by
  apply if_neg
  rintro ⟨_, digits⟩
  obtain ⟨c, inside, other⟩ := Floats.str_not_digits x
  have digit := List.all_eq_true.mp digits c inside
  rw [other] at digit
  cases digit

theorem deltaSeconds_retryAfter (seconds : Option Floats.Literal) :
    deltaSeconds (retryAfterText seconds) =
      if ∀ read ∈ seconds, read.round.isZero = true then some 60 else none := by
  cases seconds with
  | none =>
    rw [if_pos (by simp)]
    exact deltaSeconds_repr 60
  | some read =>
    by_cases zero : read.round.isZero = true
    · rw [retryAfterText, if_pos zero, if_pos (by simpa using zero)]
      exact deltaSeconds_repr 60
    · rw [retryAfterText, if_neg zero, if_neg (by simpa using zero)]
      exact deltaSeconds_str _

theorem not_relays_unhandled (n : Nat) : ¬ internalServerError.Relays n := by
  rintro ⟨status, _⟩
  cases status

theorem relays_detail {message : Text} {text : String} {n : Nat} :
    (detailResponse 429 message [("Retry-After", text)]).Relays n ↔
      message.encodable = true ∧ ∃ seconds, deltaSeconds text = some seconds ∧ n ≤ seconds := by
  rw [detailResponse_eq]
  by_cases encodes : message.encodable = true
  · have same : sameName "Retry-After" "Retry-After" = true := by decide
    have found : Headers.get? [("Retry-After", text)] "Retry-After" = some text := by
      simp [Headers.get?, same]
    rw [if_pos encodes]
    constructor
    · rintro ⟨_, text', seconds, there, read, enough⟩
      cases found.symm.trans there
      exact ⟨encodes, seconds, read, enough⟩
    · rintro ⟨_, seconds, read, enough⟩
      exact ⟨rfl, text, seconds, found, read, enough⟩
  · rw [if_neg encodes]
    exact iff_of_false (not_relays_unhandled n) fun both => encodes both.1

theorem relays_limited_iff (message : Text) (statusCode : Option Nat) (n : Nat) :
    (handleException (.client
        ⟨.providerRateLimited, message, statusCode, some (.decimal false n 0)⟩)).Relays n ↔
      n = 0 ∧ message.encodable = true := by
  rw [handleException, providerErrorHandler_limited, relays_detail, deltaSeconds_retryAfter,
    and_comm]
  simp only [Option.mem_def, Option.some.injEq, forall_eq', Floats.round_zero_iff]
  apply and_congr_left'
  constructor
  · rintro ⟨seconds, read, enough⟩
    by_contra positive
    rw [if_neg positive] at read
    cases read
  · rintro rfl
    exact ⟨60, if_pos rfl, Nat.zero_le 60⟩

theorem not_relays_other (description : String) (n : Nat) :
    ¬ (handleException (.other description)).Relays n := not_relays_unhandled n

end EventsAggregator
