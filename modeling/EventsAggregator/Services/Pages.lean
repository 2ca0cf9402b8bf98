import EventsAggregator.Services.Listing

namespace EventsAggregator

open Relational

variable {events : Table EventORM.id} {dateFrom : Option Date} {pageSize : Nat} {baseUrl : String}

def lastPage (events : Table EventORM.id) (dateFrom : Option Date) (pageSize : Nat) : Nat :=
  EventRepository.count events dateFrom ⌈/⌉ pageSize

/-- The answers to the requests for all pages, each to a query of its own. -/
def Walked (events : Table EventORM.id) (dateFrom : Option Date) (pageSize : Nat)
    (baseUrl : String) (responses : Nat → SEventPageRead) : Prop :=
  ∀ page : Nat, 1 ≤ page → page ≤ lastPage events dateFrom pageSize →
    EventService.ListEvents events dateFrom page pageSize baseUrl (responses page)

def listed (events : Table EventORM.id) (dateFrom : Option Date) (pageSize : Nat)
    (responses : Nat → SEventPageRead) : List SEventRead :=
  (List.range' 1 (lastPage events dateFrom pageSize)).flatMap fun page => (responses page).results

theorem page_offset (pageSize i : Nat) :
    0 ≤ (((i + 1 : Nat) : Int) - 1) * (pageSize : Int) ∧
      ((((i + 1 : Nat) : Int) - 1) * (pageSize : Int)).toNat = i * pageSize := by
  have offset : (((i + 1 : Nat) : Int) - 1) * (pageSize : Int) = ((i * pageSize : Nat) : Int) := by
    push_cast
    ring
  rw [offset]
  exact ⟨Int.natCast_nonneg _, Int.toNat_natCast _⟩

theorem list_events_page {i : Nat} {response : SEventPageRead}
    (answered : EventService.ListEvents events dateFrom (i + 1 : Nat) pageSize baseUrl response) :
    ∃ sorted, Ordered EventORM.eventTime (EventRepository.matching events dateFrom) sorted ∧
      response.results = (page pageSize sorted i).map Converter.eventOrmToRead := by
  obtain ⟨rows, ⟨_, _, sorted, ordered, rfl⟩, rfl⟩ := answered
  refine ⟨sorted, ordered, ?_⟩
  rw [(page_offset pageSize i).2, Int.toNat_natCast, page]

theorem page_list_events (baseUrl : String) {sorted : List EventORM} (i : Nat)
    (ordered : Ordered EventORM.eventTime (EventRepository.matching events dateFrom) sorted) :
    ∃ response, EventService.ListEvents events dateFrom (i + 1 : Nat) pageSize baseUrl response ∧
      response.results = (page pageSize sorted i).map Converter.eventOrmToRead := by
  obtain ⟨nonneg, offset⟩ := page_offset pageSize i
  refine ⟨_, ⟨page pageSize sorted i,
    ⟨Int.natCast_nonneg _, nonneg, sorted, ordered, ?_⟩, rfl⟩, rfl⟩
  rw [offset, Int.toNat_natCast, page]

theorem all_pages (positive : 0 < pageSize) :
    (EventRepository.matching events dateFrom).length ≤
      lastPage events dateFrom pageSize * pageSize := by
  rw [Nat.mul_comm]
  exact le_smul_ceilDiv positive

theorem listed_eq {responses : Nat → SEventPageRead} {orders : Nat → List EventORM}
    (pages : ∀ i < lastPage events dateFrom pageSize,
      (responses (i + 1)).results = (page pageSize (orders i) i).map Converter.eventOrmToRead) :
    listed events dateFrom pageSize responses =
      (walk pageSize orders (lastPage events dateFrom pageSize)).map Converter.eventOrmToRead := by
  rw [listed, walk, List.map_flatMap, List.range'_eq_map_range, List.flatMap_map]
  apply List.flatMap_congr
  intro i inside
  rw [Nat.add_comm 1 i, pages i (List.mem_range.mp inside)]

theorem untied_listed (positive : 0 < pageSize)
    (untied : ∀ i, ¬ Tied EventORM.eventTime (EventRepository.matching events dateFrom)
      (i * pageSize)) {responses : Nat → SEventPageRead}
    (walked : Walked events dateFrom pageSize baseUrl responses) :
    (listed events dateFrom pageSize responses).Perm
      ((EventRepository.matching events dateFrom).map Converter.eventOrmToRead) := by
  have answered : ∀ i, ∃ sorted, i < lastPage events dateFrom pageSize →
      Ordered EventORM.eventTime (EventRepository.matching events dateFrom) sorted ∧
        (responses (i + 1)).results =
          (page pageSize sorted i).map Converter.eventOrmToRead := by
    intro i
    by_cases inside : i < lastPage events dateFrom pageSize
    · obtain ⟨sorted, drawn⟩ := list_events_page (walked (i + 1) (by omega) inside)
      exact ⟨sorted, fun _ => drawn⟩
    · exact ⟨[], fun before => absurd before inside⟩
  choose orders drawn using answered
  rw [listed_eq fun i inside => (drawn i inside).2]
  exact (walk_perm untied (all_pages positive) fun i inside => (drawn i inside).1).map _

theorem tied_repeats (positive : 0 < pageSize) (baseUrl : String) {i : Nat}
    (tied : Tied EventORM.eventTime (EventRepository.matching events dateFrom) (i * pageSize)) :
    ∃ responses, Walked events dateFrom pageSize baseUrl responses ∧
      ¬ (listed events dateFrom pageSize responses).Nodup := by
  obtain ⟨orders, ordered, repeated⟩ := walk_repeats positive tied (all_pages positive)
  choose answers answered results using fun i =>
    @page_list_events events dateFrom pageSize baseUrl _ i (ordered i)
  refine ⟨fun page => answers (page - 1), fun page first _ => ?_, fun distinct => ?_⟩
  · obtain ⟨i, rfl⟩ : ∃ i, page = i + 1 := ⟨page - 1, by omega⟩
    exact answered i
  · rw [listed_eq fun i _ => results i] at distinct
    exact repeated (List.Nodup.of_map _ distinct)

theorem reads_nodup : ((EventRepository.matching events dateFrom).map
    Converter.eventOrmToRead).Nodup := by
  have ids : ((EventRepository.matching events dateFrom).map Converter.eventOrmToRead).map
      SEventRead.id = (EventRepository.matching events dateFrom).map EventORM.id := by
    rw [List.map_map]
    rfl
  apply List.Nodup.of_map SEventRead.id
  rw [ids]
  exact EventRepository.matching_ids_nodup events dateFrom

theorem pages_list_every_event_iff (events : Table EventORM.id) (dateFrom : Option Date)
    (pageSize : Nat) (accepted : 1 ≤ pageSize ∧ pageSize ≤ 100) (baseUrl : String) :
    (∀ responses, Walked events dateFrom pageSize baseUrl responses →
      (listed events dateFrom pageSize responses).Perm
        ((EventRepository.matching events dateFrom).map Converter.eventOrmToRead)) ↔
      ∀ i, ¬ Tied EventORM.eventTime (EventRepository.matching events dateFrom)
        (i * pageSize) := by
  constructor
  · intro complete i tied
    obtain ⟨responses, walked, repeated⟩ := tied_repeats accepted.1 baseUrl tied
    exact repeated ((complete responses walked).nodup_iff.mpr reads_nodup)
  · intro untied responses walked
    exact untied_listed accepted.1 untied walked

section Sample

def twoEvents (first second : Instant) : Table EventORM.id :=
  ⟨[eventAt 1 first, eventAt 2 second], by simp [eventAt]⟩

/-- Two events at one time: either may be the first of each query. -/
theorem pages_repeat_an_event : ¬ ∀ events dateFrom (pageSize : Nat),
    1 ≤ pageSize ∧ pageSize ≤ 100 → ∀ baseUrl responses,
      Walked events dateFrom pageSize baseUrl responses →
        (listed events dateFrom pageSize responses).Perm
          ((EventRepository.matching events dateFrom).map Converter.eventOrmToRead) := by
  intro complete
  have tied : Tied EventORM.eventTime (EventRepository.matching (twoEvents 9 9) none) (1 * 1) := by
    decide
  obtain ⟨responses, walked, repeated⟩ := tied_repeats Nat.one_pos "http://test" tied
  have perm := complete (twoEvents 9 9) none 1 ⟨by decide, by decide⟩ "http://test" responses walked
  exact repeated (perm.nodup_iff.mpr reads_nodup)

theorem pages_list_every_event_iff_apart :
    (1 ≤ 1 ∧ 1 ≤ 100) ∧ ∀ responses, Walked (twoEvents 9 10) none 1 "http://test" responses →
      (listed (twoEvents 9 10) none 1 responses).Perm
        ((EventRepository.matching (twoEvents 9 10) none).map Converter.eventOrmToRead) := by
  have untied : ∀ i, ¬ Tied EventORM.eventTime
      (EventRepository.matching (twoEvents 9 10) none) (i * 1) := by
    rintro i ⟨row, inside, below, above⟩
    have one : row = eventAt 1 9 ∨ row = eventAt 2 10 := by
      simpa [EventRepository.matching, twoEvents] using inside
    rcases one with rfl | rfl
    · have upTo : (EventRepository.matching (twoEvents 9 10) none).countP
          (fun other => other.eventTime ≤ (eventAt 1 9).eventTime) = 1 := by decide
      omega
    · have under : (EventRepository.matching (twoEvents 9 10) none).countP
          (fun other => other.eventTime < (eventAt 2 10).eventTime) = 1 := by decide
      have upTo : (EventRepository.matching (twoEvents 9 10) none).countP
          (fun other => other.eventTime ≤ (eventAt 2 10).eventTime) = 2 := by decide
      omega
  exact ⟨by decide, (pages_list_every_event_iff (twoEvents 9 10) none 1 (by decide)
    "http://test").mpr untied⟩

end Sample

end EventsAggregator
