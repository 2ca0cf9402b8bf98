import EventsAggregator.Clients.Errors
import EventsAggregator.Values.Uuid

namespace EventsAggregator

structure SProviderRegistrationCreate where
  firstName : String
  lastName : String
  seat : String
  email : String
  firstNameLength : 1 ≤ firstName.length ∧ firstName.length ≤ 100
  lastNameLength : 1 ≤ lastName.length ∧ lastName.length ≤ 100
  seatLength : 1 ≤ seat.length ∧ seat.length ≤ 10
  deriving DecidableEq

inductive ProviderCall
  | seats (eventId : UUID)
  | register (eventId : UUID) (payload : SProviderRegistrationCreate)
  | unregister (eventId ticketId : UUID)
  deriving DecidableEq

inductive ProviderAnswer
  | seats (result : Except APIClientError (List Text))
  | registration (result : Except APIClientError UUID)
  | cancellation (result : Except APIClientError Bool)

/-- A provider as its clients see it: how handling a request may change it and what the
    client may get to see of the answer, which an error can also stand for when it is lost. -/
structure Provider where
  State : Type
  Initial : State → Prop
  Handles : State → ProviderCall → ProviderAnswer → State → Prop

end EventsAggregator
