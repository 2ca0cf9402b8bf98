import EventsAggregator.Values.Floats
import EventsAggregator.Values.Texts

namespace EventsAggregator

inductive ErrorClass
  | apiClientError
  | apiConnectionError
  | apiInvalidResponseError
  | capashinoPermanentError
  | eventsProviderError
  | providerNotFound
  | providerAuthError
  | providerBadRequest
  | providerRateLimited
  | providerServerError
  deriving DecidableEq, Repr

def ErrorClass.mro : ErrorClass → List ErrorClass
  | .apiClientError => [.apiClientError]
  | .apiConnectionError => [.apiConnectionError, .apiClientError]
  | .apiInvalidResponseError => [.apiInvalidResponseError, .apiClientError]
  | .capashinoPermanentError => [.capashinoPermanentError, .apiClientError]
  | .eventsProviderError => [.eventsProviderError, .apiClientError]
  | .providerNotFound => [.providerNotFound, .eventsProviderError, .apiClientError]
  | .providerAuthError => [.providerAuthError, .eventsProviderError, .apiClientError]
  | .providerBadRequest => [.providerBadRequest, .eventsProviderError, .apiClientError]
  | .providerRateLimited => [.providerRateLimited, .eventsProviderError, .apiClientError]
  | .providerServerError => [.providerServerError, .eventsProviderError, .apiClientError]

/-- Only a `ProviderRateLimited` can have a `retry_after`. -/
structure APIClientError where
  cls : ErrorClass
  message : Text
  statusCode : Option Nat
  retryAfter : Option Floats.Literal
  deriving DecidableEq, Repr

def APIClientError.isInstance (error : APIClientError) (cls : ErrorClass) : Bool :=
  cls ∈ error.cls.mro

inductive DomainErrorClass
  | eventNotFound
  | registrationNotFound
  | noAvailableSeats
  | seatAlreadyTaken
  | registrationDeadlinePassed
  | eventNotPublished
  | idempotencyConflict
  deriving DecidableEq, Repr

structure DomainError where
  cls : DomainErrorClass
  message : String
  deriving DecidableEq, Repr

/-- What a service call can raise. `other` is any exception the service neither raises nor
    handles itself: a driver or constraint error, a cancellation, the end of the process. -/
inductive Raised
  | domain (error : DomainError)
  | client (error : APIClientError)
  | other (description : String)
  deriving DecidableEq, Repr

end EventsAggregator
