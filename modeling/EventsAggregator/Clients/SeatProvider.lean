import EventsAggregator.Clients.Provider
import Mathlib.Data.List.Nodup

namespace EventsAggregator

structure Registration where
  ticketId : UUID
  eventId : UUID
  payload : SProviderRegistrationCreate

def Registration.place (registration : Registration) : UUID × Text :=
  (registration.eventId, registration.payload.seat)

structure Registrations where
  held : List Registration
  seatOnce : (held.map Registration.place).Nodup
  idOnce : (held.map Registration.ticketId).Nodup

namespace Registrations

def Taken (registrations : Registrations) (eventId : UUID) (seat : Text) : Prop :=
  (eventId, seat) ∈ registrations.held.map Registration.place

instance decidableTaken (registrations : Registrations) (eventId : UUID) (seat : Text) :
    Decidable (registrations.Taken eventId seat) :=
  inferInstanceAs (Decidable (_ ∈ _))

def Holds (registrations : Registrations) (ticketId : UUID) : Prop :=
  ticketId ∈ registrations.held.map Registration.ticketId

instance decidableHolds (registrations : Registrations) (ticketId : UUID) :
    Decidable (registrations.Holds ticketId) :=
  inferInstanceAs (Decidable (_ ∈ _))

def empty : Registrations := ⟨[], List.nodup_nil, List.nodup_nil⟩

def free (layout : UUID → List Text) (registrations : Registrations) (eventId : UUID) :
    List Text :=
  (layout eventId).filter fun seat => ¬ registrations.Taken eventId seat

def grant (registrations : Registrations) (registration : Registration)
    (seat : ¬ registrations.Taken registration.eventId registration.payload.seat)
    (id : ¬ registrations.Holds registration.ticketId) : Registrations where
  held := registration :: registrations.held
  seatOnce := List.nodup_cons.mpr ⟨seat, registrations.seatOnce⟩
  idOnce := List.nodup_cons.mpr ⟨id, registrations.idOnce⟩

def release (registrations : Registrations) (ticketId : UUID) : Registrations where
  held := registrations.held.filter fun registration => registration.ticketId ≠ ticketId
  seatOnce := registrations.seatOnce.sublist (List.filter_sublist.map _)
  idOnce := registrations.idOnce.sublist (List.filter_sublist.map _)

theorem taken_not_free {layout : UUID → List Text} {registrations : Registrations}
    {eventId : UUID} {seat : Text} (taken : registrations.Taken eventId seat) :
    seat ∉ registrations.free layout eventId := by
  simp [free, taken]

theorem free_not_taken {layout : UUID → List Text} {registrations : Registrations}
    {eventId : UUID} {seat : Text} (available : seat ∈ registrations.free layout eventId) :
    ¬ registrations.Taken eventId seat := by
  simpa using (List.mem_filter.mp available).2

theorem held_unique (registrations : Registrations) {r r' : Registration}
    (member : r ∈ registrations.held) (member' : r' ∈ registrations.held)
    (same : r.place = r'.place) : r = r' :=
  List.inj_on_of_nodup_map registrations.seatOnce member member' same

end Registrations

inductive Answered (layout : UUID → List Text) :
    Registrations → ProviderCall → ProviderAnswer → Registrations → Prop
  | seats {held : Registrations} (eventId : UUID) :
      Answered layout held (.seats eventId) (.seats (.ok (held.free layout eventId))) held
  | granted {held : Registrations} {eventId ticketId : UUID} {payload : SProviderRegistrationCreate}
      (available : (payload.seat : Text) ∈ held.free layout eventId) (fresh : ¬ held.Holds ticketId) :
      Answered layout held (.register eventId payload) (.registration (.ok ticketId))
        (held.grant ⟨ticketId, eventId, payload⟩ (Registrations.free_not_taken available) fresh)
  | refused {held : Registrations} {eventId : UUID} {payload : SProviderRegistrationCreate}
      {error : APIClientError} (taken : (payload.seat : Text) ∉ held.free layout eventId)
      (badRequest : error.cls = .providerBadRequest) :
      Answered layout held (.register eventId payload) (.registration (.error error)) held
  | released {held : Registrations} {eventId ticketId : UUID} (known : held.Holds ticketId) :
      Answered layout held (.unregister eventId ticketId) (.cancellation (.ok true))
        (held.release ticketId)
  | declined {held : Registrations} {eventId ticketId : UUID} :
      Answered layout held (.unregister eventId ticketId) (.cancellation (.ok false)) held
  | unknown {held : Registrations} {eventId ticketId : UUID} {error : APIClientError}
      (missing : ¬ held.Holds ticketId) (notFound : error.cls = .providerNotFound) :
      Answered layout held (.unregister eventId ticketId) (.cancellation (.error error)) held

def ProviderCall.failure (error : APIClientError) : ProviderCall → ProviderAnswer
  | .seats _ => .seats (.error error)
  | .register _ _ => .registration (.error error)
  | .unregister _ _ => .cancellation (.error error)

/-- Grants a free seat, refuses a taken one and lists the free ones. A request may get lost on
    its way, and so may the answer to a request that was handled. -/
def seatProvider (layout : UUID → List Text) : Provider where
  State := Registrations
  Initial _ := True
  Handles held call answer held' :=
    Answered layout held call answer held' ∨
      ∃ error, answer = call.failure error ∧
        (held' = held ∨ ∃ lost, Answered layout held call lost held')

theorem answered_keeps {layout : UUID → List Text} {held held' : Registrations}
    {call : ProviderCall} {answer : ProviderAnswer}
    (answered : Answered layout held call answer held')
    (keeping : ∀ eventId ticketId, call ≠ .unregister eventId ticketId) {r : Registration}
    (member : r ∈ held.held) : r ∈ held'.held := by
  cases answered with
  | seats eventId => exact member
  | granted available fresh => exact List.mem_cons_of_mem _ member
  | refused taken badRequest => exact member
  | released known => exact absurd rfl (keeping _ _)
  | declined => exact absurd rfl (keeping _ _)
  | unknown missing notFound => exact absurd rfl (keeping _ _)

theorem handles_keeps {layout : UUID → List Text} {held held' : Registrations}
    {call : ProviderCall} {answer : ProviderAnswer}
    (handled : (seatProvider layout).Handles held call answer held')
    (keeping : ∀ eventId ticketId, call ≠ .unregister eventId ticketId) {r : Registration}
    (member : r ∈ held.held) : r ∈ held'.held := by
  rcases handled with answered | ⟨error, _, rfl | ⟨lost, answered⟩⟩
  · exact answered_keeps answered keeping member
  · exact member
  · exact answered_keeps answered keeping member

theorem handles_new {layout : UUID → List Text} {held held' : Registrations}
    {call : ProviderCall} {answer : ProviderAnswer}
    (handled : (seatProvider layout).Handles held call answer held')
    (keeping : ∀ eventId ticketId, call ≠ .unregister eventId ticketId) {r : Registration}
    (member : r ∈ held'.held) : r ∈ held.held ∨ call = .register r.eventId r.payload := by
  have answered_new : ∀ answer, Answered layout held call answer held' →
      r ∈ held.held ∨ call = .register r.eventId r.payload := by
    intro answer answered
    cases answered with
    | seats eventId => exact Or.inl member
    | granted available fresh =>
      rcases List.mem_cons.mp member with rfl | member
      · exact Or.inr rfl
      · exact Or.inl member
    | refused taken badRequest => exact Or.inl member
    | released known => exact absurd rfl (keeping _ _)
    | declined => exact absurd rfl (keeping _ _)
    | unknown missing notFound => exact absurd rfl (keeping _ _)
  rcases handled with answered | ⟨error, _, rfl | ⟨lost, answered⟩⟩
  · exact answered_new answer answered
  · exact Or.inl member
  · exact answered_new lost answered

theorem handles_granted {layout : UUID → List Text} {held held' : Registrations}
    {eventId ticketId : UUID} {payload : SProviderRegistrationCreate}
    (handled : (seatProvider layout).Handles held (.register eventId payload)
      (.registration (.ok ticketId)) held') :
    ⟨ticketId, eventId, payload⟩ ∈ held'.held ∧ ¬ held.Taken eventId payload.seat := by
  rcases handled with answered | ⟨error, same, _⟩
  · cases answered with
    | granted available fresh =>
      exact ⟨List.mem_cons_self .., Registrations.free_not_taken available⟩
  · cases same

theorem handles_seats {layout : UUID → List Text} {held held' : Registrations}
    {eventId : UUID} {seats : List Text}
    (handled : (seatProvider layout).Handles held (.seats eventId) (.seats (.ok seats)) held') :
    seats = held.free layout eventId := by
  rcases handled with answered | ⟨error, same, _⟩
  · cases answered
    rfl
  · cases same

/-- A provider whose ticket ids belong to the seats: a seat that comes free is granted again under
    the same id. -/
def seatIdProvider (layout : UUID → List Text) (idOf : UUID → String → UUID) : Provider where
  State := Registrations
  Initial held := ∀ r ∈ held.held, r.ticketId = idOf r.eventId r.payload.seat
  Handles held call answer held' := (seatProvider layout).Handles held call answer held' ∧
    ∀ r ∈ held'.held, r.ticketId = idOf r.eventId r.payload.seat

def oneSeat : UUID → List Text := fun _ => ["A1"]

def Registrations.single (registration : Registration) : Registrations :=
  Registrations.empty.grant registration (by simp [Taken, empty]) (by simp [Holds, empty])

theorem single_granted {eventId ticketId : UUID} {payload : SProviderRegistrationCreate}
    (seat : payload.seat = "A1") :
    Answered oneSeat .empty (.register eventId payload) (.registration (.ok ticketId))
      (.single ⟨ticketId, eventId, payload⟩) := by
  have available : (payload.seat : Text) ∈ Registrations.empty.free oneSeat eventId := by
    simp [seat, Registrations.free, oneSeat, Registrations.Taken, Registrations.empty]
  have fresh : ¬ Registrations.empty.Holds ticketId := by
    simp [Registrations.Holds, Registrations.empty]
  exact .granted available fresh

theorem single_released (registration : Registration) :
    (Registrations.single registration).release registration.ticketId = .empty := by
  simp [Registrations.single, Registrations.grant, Registrations.release, Registrations.empty]

theorem single_holds (registration : Registration) :
    (Registrations.single registration).Holds registration.ticketId := by
  simp [Registrations.single, Registrations.Holds, Registrations.grant]

theorem single_answered {registration : Registration} {eventId : UUID} :
    Answered oneSeat (.single registration) (.unregister eventId registration.ticketId)
      (.cancellation (.ok true)) .empty := by
  rw [← single_released registration]
  exact .released (single_holds registration)

end EventsAggregator
