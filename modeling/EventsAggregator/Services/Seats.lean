import EventsAggregator.Db.Models
import EventsAggregator.Clients.Errors
import Mathlib.Logic.Function.Basic

namespace EventsAggregator

/-- The live entries of the TTL cache: an entry that expires or is evicted is no longer there. -/
structure SeatsCache where
  entries : String → Option (List Text)

namespace SeatsCache

def empty : SeatsCache := ⟨fun _ => none⟩

def get (cache : SeatsCache) (eventId : String) : Option (List Text) :=
  cache.entries eventId

def set (cache : SeatsCache) (eventId : String) (seats : List Text) : SeatsCache :=
  ⟨Function.update cache.entries eventId (some seats)⟩

def invalidate (cache : SeatsCache) (eventId : String) : SeatsCache :=
  ⟨Function.update cache.entries eventId none⟩

theorem get_set (cache : SeatsCache) (eventId other : String) (seats : List Text) :
    (cache.set eventId seats).get other =
      if other = eventId then some seats else cache.get other := by
  simp [get, set, Function.update_apply]

theorem get_invalidate (cache : SeatsCache) (eventId other : String) :
    (cache.invalidate eventId).get other = if other = eventId then none else cache.get other := by
  simp [get, invalidate, Function.update_apply]

end SeatsCache

def resolveAvailableSeats (event : EventORM) (cache : SeatsCache) :
    Except DomainError (Option (List Text)) :=
  if event.status ≠ .published then
    .error ⟨.eventNotPublished,
      s!"Event {event.id} is not available for registration (status: {event.status.value})"⟩
  else .ok (cache.get event.id.str)

def receiveAvailableSeats (event : EventORM) (answer : Except APIClientError (List Text))
    (cache : SeatsCache) : Except Raised (List Text) × SeatsCache :=
  match answer with
  | .ok seats => (.ok seats, cache.set event.id.str seats)
  | .error error =>
    if error.isInstance .providerNotFound then
      (.error (.domain ⟨.noAvailableSeats, s!"Event {event.id} not found"⟩), cache)
    else (.error (.client error), cache)

end EventsAggregator
