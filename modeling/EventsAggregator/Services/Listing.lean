import EventsAggregator.Db.Events
import EventsAggregator.Values.Urls
import Mathlib.Algebra.Order.Floor.Div

namespace EventsAggregator

open Relational

structure SEventPlaceRead where
  id : UUID
  name : String
  city : String
  address : String
  deriving DecidableEq

structure SEventRead where
  id : UUID
  name : String
  place : SEventPlaceRead
  eventTime : Instant
  registrationDeadline : Instant
  status : String
  numberOfVisitors : Int
  deriving DecidableEq

structure SEventPageRead where
  count : Nat
  next : Option String
  previous : Option String
  results : List SEventRead

def Converter.eventOrmToRead (event : EventORM) : SEventRead where
  id := event.id
  name := event.name
  place :=
    { id := event.placeId, name := event.placeName, city := event.placeCity,
      address := event.placeAddress }
  eventTime := event.eventTime
  registrationDeadline := event.registrationDeadline
  status := event.status.value
  numberOfVisitors := event.numberOfVisitors

namespace EventService

def pageParams (dateFrom : Option Date) (page pageSize : Int) : List (String × String) :=
  [("page", toString page), ("page_size", toString pageSize)] ++
    dateFrom.toList.map fun date => ("date_from", date.isoformat)

def buildPageUrl (baseUrl : String) (dateFrom : Option Date) (page pageSize : Int) (total : Nat) :
    Option String :=
  if page < 1 then none
  else if total ≤ (page - 1) * pageSize then none
  else some (baseUrl ++ "?" ++ Urls.urlencode (pageParams dateFrom page pageSize))

def ListEvents (events : Table EventORM.id) (dateFrom : Option Date) (page pageSize : Int)
    (baseUrl : String) (response : SEventPageRead) : Prop :=
  ∃ rows, EventRepository.EventsList events dateFrom pageSize ((page - 1) * pageSize) rows ∧
    response =
      { count := EventRepository.count events dateFrom
        next := buildPageUrl baseUrl dateFrom (page + 1) pageSize
          (EventRepository.count events dateFrom)
        previous := buildPageUrl baseUrl dateFrom (page - 1) pageSize
          (EventRepository.count events dateFrom)
        results := rows.map Converter.eventOrmToRead }

end EventService

section Sample

def eventAt (id : BitVec 128) (eventTime : Instant) : EventORM :=
  { id := ⟨id⟩, name := "Concert", status := .published, placeId := ⟨2⟩, placeName := "Hall",
    placeCity := "Moscow", placeAddress := "Arbat 1", seatsPattern := "A1-1", eventTime,
    registrationDeadline := 8, numberOfVisitors := 0, changedAt := 1, syncedAt := 1 }

def manyRows (n : Nat) : List EventORM :=
  (List.range n).map fun i => eventAt (BitVec.ofNat 128 i) i

theorem manyRows_nodup {n : Nat} (bound : n ≤ 2 ^ 128) :
    ((manyRows n).map EventORM.id).Nodup := by
  rw [manyRows, List.map_map]
  apply List.Nodup.map_on _ List.nodup_range
  intro i inside j inside' same
  have ids : i % 2 ^ 128 = j % 2 ^ 128 := by
    simpa [eventAt] using congrArg (fun id : UUID => id.int.toNat) same
  have small := List.mem_range.mp inside
  have small' := List.mem_range.mp inside'
  omega

def manyEvents (n : Nat) (bound : n ≤ 2 ^ 128) : Table EventORM.id :=
  ⟨manyRows n, manyRows_nodup bound⟩

theorem count_manyEvents (n : Nat) (bound : n ≤ 2 ^ 128) :
    EventRepository.count (manyEvents n bound) none = n := by
  have all : EventRepository.matching (manyEvents n bound) none = (manyEvents n bound).rows :=
    List.filter_eq_self.mpr fun _ _ => rfl
  rw [EventRepository.count, all]
  simp [manyEvents, manyRows]

end Sample

end EventsAggregator
