import EventsAggregator.Clients.EventsProvider
import EventsAggregator.Db.Columns
import EventsAggregator.Services.CursorOrder
import EventsAggregator.Services.Repeats

namespace EventsAggregator

open Relational Transition

/-- What the columns of `events` ask of an event and its schema does not. A text may be too long by
    spaces at its end. -/
structure SProviderEvent.InBounds (event : SProviderEvent) : Prop where
  name : ∀ c ∈ event.name.points.drop 500, c = .char ' '
  placeName : ∀ c ∈ event.place.name.points.drop 255, c = .char ' '
  placeCity : ∀ c ∈ event.place.city.points.drop 100, c = .char ' '
  placeAddress : ∀ c ∈ event.place.address.points.drop 500, c = .char ' '
  texts : ∀ text ∈ [event.name, event.place.name, event.place.city, event.place.address,
    event.place.seatsPattern], storable text = true
  times : ∀ instant ∈ [event.eventTime, event.registrationDeadline, event.changedAt],
    inUtc instant = true
  visitors : -2147483648 ≤ event.numberOfVisitors ∧ event.numberOfVisitors ≤ 2147483647

/-- While the provider goes on showing the event, no sync succeeds. -/
def Stalls (event : SProviderEvent) : Prop :=
  ∀ (settings : SyncSettings) (paginator : EventsPaginator) (feed : Feed) (s t : SyncProcess)
    (moves : List (Move SyncProcess CallAction)), 1 ≤ settings.syncBatchSize → s.call = none →
    Run (syncCalls settings paginator) s moves t → (∀ m ∈ moves, AnsweredBy feed m) →
    (∀ full, event ∈ feed.stream paginator (requestedFrom settings full s.lastChangedAt)) →
      ∀ m ∈ moves, m.action.succeeds = false

structure SProviderEvent.CanBeStored (event : SProviderEvent) : Prop where
  fits : ∀ syncedAt, (SyncService.toRow event syncedAt).fitsColumns = true
  upserted : ∀ events syncedAt, ∃ events',
    EventRepository.upsertMany events [SyncService.toRow event syncedAt] = some events'
  passed : ¬ Stalls event

variable {settings : SyncSettings} {paginator : EventsPaginator} {feed : Feed}
  {s t : SyncProcess} {event : SProviderEvent} {moves : List (Move SyncProcess CallAction)}

theorem toRow_storable (event : SProviderEvent) (syncedAt : Instant) :
    (SyncService.toRow event syncedAt).storable = true ↔ event.InBounds := by
  simp only [EventRow.storable, fitsVarchar, Bool.and_eq_true, decide_eq_true_eq,
    List.all_eq_true]
  constructor
  · rintro ⟨⟨⟨⟨⟨⟨⟨⟨name, first⟩, placeName, second⟩, placeCity, third⟩, placeAddress, fourth⟩,
      fifth⟩, times⟩, low⟩, high⟩
    refine ⟨name, placeName, placeCity, placeAddress, ?_, times, low, high⟩
    simp only [List.forall_mem_cons]
    exact ⟨first, second, third, fourth, fifth, List.forall_mem_nil _⟩
  · rintro ⟨name, placeName, placeCity, placeAddress, texts, times, low, high⟩
    simp only [List.forall_mem_cons] at texts
    obtain ⟨first, second, third, fourth, fifth, _⟩ := texts
    exact ⟨⟨⟨⟨⟨⟨⟨⟨name, first⟩, placeName, second⟩, placeCity, third⟩, placeAddress, fourth⟩,
      fifth⟩, times⟩, low⟩, high⟩

theorem accepted_iff {batch : List SProviderEvent} :
    Accepted batch ↔ (batch.map SProviderEvent.id).Nodup ∧ batch.length ≤ maxRows ∧
      ∀ event ∈ batch, event.InBounds := by
  simp only [Accepted, toRow_storable]

theorem mem_pages {size : Nat} (positive : 0 < size) {stream : List SProviderEvent}
    (inside : event ∈ stream) : ∃ i, event ∈ page size stream i := by
  have all : event ∈ walk size (fun _ => stream) stream.length := by
    rw [walk_same fun _ _ => rfl, List.take_of_length_le]
    · exact inside
    · exact Nat.le_mul_of_pos_right _ positive
  obtain ⟨i, _, here⟩ := List.mem_flatMap.mp all
  exact ⟨i, here⟩

theorem fetched_inBounds (positive : 1 ≤ settings.syncBatchSize) {changedAt syncedAt : Instant}
    {events : Table EventORM.id} {stream : List SProviderEvent}
    {result : Table EventORM.id × Nat × Option Instant}
    (stored : SyncService.fetchAndStore settings changedAt syncedAt events stream = some result)
    (inside : event ∈ stream) : event.InBounds := by
  have accepted := ((fetchAndStore_iff positive).mp stored).1
  obtain ⟨i, here⟩ := @mem_pages event settings.syncBatchSize.toNat (by omega) _ inside
  exact (accepted_iff.mp (accepted i)).2.2 event here

theorem succeeded_call {result : SyncResult} {u : SyncProcess}
    (run : Run (syncCalls settings paginator) s moves t) (idle : s.call = none)
    (step : CallStep settings paginator t (.succeed result) u) :
    ∃ current source past full, moves = current ++ ⟨source, .start full,
        { source with call := some ⟨full, source.now, .getMeta⟩ }⟩ :: past ∧
      Run (syncCalls settings paginator) s past source ∧ ∃ call,
        Run (syncCalls settings paginator) source call u ∧
        Successful full source.now result call ∧
        ∀ m ∈ call, m ∈ (⟨t, .succeed result, u⟩ : Move SyncProcess CallAction) :: moves := by
  obtain ⟨call, running⟩ := succeed_running step
  obtain ⟨current, source, past, full, rfl, inside, ran⟩ := call_begun run idle running
  obtain ⟨before, free, _, _⟩ := start_split run
  have begun := (@Run.refl _ _ (syncCalls settings paginator) source).move (.start full free)
  refine ⟨current, source, past, full, rfl, before, _, (begun.trans ran).move step,
    ⟨_, current, _, rfl, rfl, rfl, rfl, inside⟩, ?_⟩
  intro m member
  rcases List.mem_cons.mp member with rfl | member
  · exact List.mem_cons_self ..
  · rcases List.mem_append.mp member with member | member
    · simp [member]
    · simp [List.mem_singleton.mp member]

theorem stalls_of_not_inBounds (outside : ¬ event.InBounds) : Stalls event := by
  intro settings paginator feed s t moves positive idle run answered shown
  induction run with
  | refl => simp
  | @move moves t u a run step ih =>
    have unsuccessful := ih fun m member => answered m (List.mem_cons_of_mem _ member)
    apply List.forall_mem_cons.mpr ⟨_, unsuccessful⟩
    cases a with
    | succeed result =>
      obtain ⟨current, source, past, full, rfl, before, call, ran, success, inside⟩ :=
        succeeded_call run idle step
      have cursor := (cursor_kept before fun m member => unsuccessful m (by simp [member])).2
      obtain ⟨_, _, _, _, stored, _⟩ :=
        successful_call ran success fun m member => answered m (inside m member)
      rw [cursor] at stored
      exact absurd (fetched_inBounds positive stored (shown full)) outside
    | _ => rfl

def onlyFeed (event : SProviderEvent) : Feed := ⟨fun _ => ⟨none, [event]⟩, fun _ => ⟨none, []⟩⟩

theorem not_stalls_of_inBounds (bounds : event.InBounds) : ¬ Stalls event := by
  intro stalls
  have accepted : ∀ i, Accepted (page sampleSyncSettings.syncBatchSize.toNat [event] i) := by
    have short : [event].length ≤ sampleSyncSettings.syncBatchSize.toNat := by
      rw [List.length_singleton]
      decide
    apply (pages_short short).mpr
    simp [accepted_iff, bounds, maxRows]
  have stored := (@fetchAndStore_iff sampleSyncSettings idleProcess.now idleProcess.events
    sample_room (requestedFrom sampleSyncSettings false none) [event] _).mpr ⟨accepted, rfl⟩
  obtain ⟨moves, t, result, run, ⟨last, _, _, rfl, _, _, succeeded, _⟩, answered⟩ :=
    @call_exists sampleSyncSettings samplePaginator (onlyFeed event) _ false idleProcess rfl
      (Feed.ends_none rfl) stored
  have unsuccessful := stalls sampleSyncSettings samplePaginator (onlyFeed event) idleProcess t _
    sample_room rfl run answered (fun _ => List.mem_singleton_self event) last
    (List.mem_cons_self ..)
  rw [succeeded] at unsuccessful
  cases unsuccessful

/-- Nothing but the bounds of its fields decides whether an event can be stored, and whether the
    syncs go past it. -/
theorem can_be_stored_iff (event : SProviderEvent) :
    (event.CanBeStored ↔ event.InBounds) ∧ (Stalls event ↔ ¬ event.InBounds) := by
  refine ⟨⟨?_, ?_⟩, ⟨?_, stalls_of_not_inBounds⟩⟩
  · intro stored
    exact (toRow_storable event 0).mp ((EventRow.storable_iff _).mpr (stored.fits 0))
  · intro bounds
    have storable (syncedAt : Instant) : (SyncService.toRow event syncedAt).storable = true :=
      (toRow_storable event syncedAt).mpr bounds
    refine ⟨fun syncedAt => (EventRow.storable_iff _).mp (storable syncedAt), ?_,
      not_stalls_of_inBounds bounds⟩
    intro events syncedAt
    exact ⟨_, if_pos ⟨by simp, by simp [maxRows], by simp [storable]⟩⟩
  · intro stalls bounds
    exact not_stalls_of_inBounds bounds stalls

section Sample

def stadiumJson : Json :=
  let instant := Json.str "0001-01-01T00:00:00Z"
  .obj [("id", .str "00000000-0000-0000-0000-000000000001"), ("name", .str "Final"),
    ("place", .obj [("id", .str "00000000-0000-0000-0000-000000000002"), ("name", .str "Stadium"),
      ("city", .str "Moscow"), ("address", .str "Luzhniki 24"), ("seats_pattern", .str "A1-1000"),
      ("changed_at", instant), ("created_at", instant)]),
    ("event_time", instant), ("registration_deadline", instant), ("status", .str "published"),
    ("number_of_visitors", .number "2147483648"), ("changed_at", instant),
    ("created_at", instant), ("status_changed_at", instant)]

def stadiumLibraries : Libraries :=
  { sampleLibraries with
    int
      | .number "2147483648" => some 2147483648
      | _ => none }

def stadium : SProviderEvent where
  id := ⟨1⟩
  name := "Final"
  place := ⟨⟨2⟩, "Stadium", "Moscow", "Luzhniki 24", "A1-1000"⟩
  eventTime := 0
  registrationDeadline := 0
  status := .published
  numberOfVisitors := 2147483648
  changedAt := 0

theorem stadium_accepted :
    SProviderEvent.modelValidate stadiumLibraries stadiumJson = .ok stadium := by
  rfl

/-- One visitor more than 32 bits hold. -/
theorem stadium_not_stored : ¬ ∀ (libraries : Libraries) (json : Json) (event : SProviderEvent),
    SProviderEvent.modelValidate libraries json = .ok event → event.CanBeStored := by
  intro always
  have fits := (always _ _ _ stadium_accepted).fits 0
  exact absurd fits (by decide)

end Sample

end EventsAggregator
