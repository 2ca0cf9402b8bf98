import EventsAggregator.Services.CursorOrder
import EventsAggregator.Streams.Buffered

namespace EventsAggregator

open Relational Streams Transition

/-- What `_fetch_and_store` leaves and comes to: the lists that it passed to `upsert_many`, first
    to last, and what it returns or raises. -/
structure Fetched where
  events : Table EventORM.id
  passed : List (List EventRow)
  outcome : Except Raised (Nat × Option Instant)

namespace SyncService

def storeUntil (settings : SyncSettings) (syncedAt : Instant) (ending : Option Raised)
    (events : Table EventORM.id) (fetch : Fetch) : List SProviderEvent → Option Fetched
  | [] =>
    match ending with
    | some error => some ⟨events, [], .error error⟩
    | none =>
      if fetch.batch.isEmpty then some ⟨events, [], .ok (fetch.total, fetch.maxChangedAt)⟩
      else
        (EventRepository.upsertMany events (rows syncedAt fetch)).map fun events =>
          ⟨events, [rows syncedAt fetch], .ok ((stored fetch).total, fetch.maxChangedAt)⟩
  | event :: rest =>
    if settings.syncBatchSize ≤ (take fetch event).batch.length then
      (EventRepository.upsertMany events (rows syncedAt (take fetch event))).bind fun events =>
        (storeUntil settings syncedAt ending events (stored (take fetch event)) rest).map
          fun fetched =>
            { fetched with passed := rows syncedAt (take fetch event) :: fetched.passed }
    else storeUntil settings syncedAt ending events (take fetch event) rest

def fetchAndStoreUntil (settings : SyncSettings) (changedAt syncedAt : Instant)
    (ending : Option Raised) (events : Table EventORM.id) (stream : List SProviderEvent) :
    Option Fetched :=
  storeUntil settings syncedAt ending events ⟨changedAt, 0, none, [], 0⟩ stream

end SyncService

def toRows (syncedAt : Instant) (stream : List SProviderEvent) : List EventRow :=
  stream.map fun event => SyncService.toRow event syncedAt

def outcomeOf (fetch : Fetch) (stream : List SProviderEvent) :
    Option Raised → Except Raised (Nat × Option Instant)
  | some error => .error error
  | none => .ok (fetch.total + (fetch.batch ++ stream).length, latest fetch.maxChangedAt stream)

variable {settings : SyncSettings} {paginator : EventsPaginator} {syncedAt : Instant}
  {ending : Option Raised} {events : Table EventORM.id} {fetch : Fetch}
  {stream : List SProviderEvent} {fetched : Fetched}

def cutInto (syncedAt : Instant) (events : Table EventORM.id)
    (batches : List (List SProviderEvent)) (outcome : Except Raised (Nat × Option Instant)) :
    Fetched where
  events := upserted events syncedAt batches.flatten
  passed := batches.map (toRows syncedAt)
  outcome

theorem cutInto_cons (batch : List SProviderEvent) (batches : List (List SProviderEvent))
    (outcome : Except Raised (Nat × Option Instant)) :
    cutInto syncedAt events (batch :: batches) outcome =
      { cutInto syncedAt (upserted events syncedAt batch) batches outcome with
        passed := toRows syncedAt batch ::
          (cutInto syncedAt (upserted events syncedAt batch) batches outcome).passed } := by
  rw [cutInto, List.flatten_cons, upserted_append]
  rfl

theorem full_iff {event : SProviderEvent} :
    settings.syncBatchSize ≤ (SyncService.take fetch event).batch.length ↔
      settings.syncBatchSize.toNat ≤ (fetch.batch ++ [event]).length := by
  rw [Int.toNat_le]
  rfl

theorem outcomeOf_stored (event : SProviderEvent) (rest : List SProviderEvent)
    (ending : Option Raised) :
    outcomeOf (SyncService.stored (SyncService.take fetch event)) rest ending =
      outcomeOf fetch (event :: rest) ending := by
  cases ending with
  | some error => rfl
  | none =>
    have counted : fetch.total + (fetch.batch ++ [event]).length + rest.length =
        fetch.total + (fetch.batch ++ event :: rest).length := by
      simp only [List.length_append, List.length_cons, List.length_nil]
      omega
    simp only [outcomeOf, ← counted]
    rfl

theorem outcomeOf_take (event : SProviderEvent) (rest : List SProviderEvent)
    (ending : Option Raised) :
    outcomeOf (SyncService.take fetch event) rest ending =
      outcomeOf fetch (event :: rest) ending := by
  cases ending with
  | some error => rfl
  | none =>
    simp only [outcomeOf, take_append]
    rfl

theorem storeUntil_nil_iff :
    SyncService.storeUntil settings syncedAt none events fetch [] = some fetched ↔
      (∀ batch ∈ flushed settings.syncBatchSize.toNat true fetch.batch [], Accepted batch) ∧
      fetched = cutInto syncedAt events (flushed settings.syncBatchSize.toNat true fetch.batch [])
        (outcomeOf fetch [] none) := by
  rw [SyncService.storeUntil, flushed, outcomeOf, List.append_nil]
  by_cases empty : fetch.batch = []
  · rw [if_pos (List.isEmpty_iff.mpr empty), if_neg fun last => last.2 empty, Option.some.injEq,
      eq_comm, empty]
    simp only [List.not_mem_nil, false_imp_iff, implies_true, true_and]
    rfl
  · rw [if_neg (mt List.isEmpty_iff.mp empty), if_pos ⟨rfl, empty⟩, Option.map_eq_some_iff]
    have last : cutInto syncedAt events [fetch.batch]
        (.ok (fetch.total + fetch.batch.length, fetch.maxChangedAt)) =
          ⟨upserted events syncedAt fetch.batch, [SyncService.rows syncedAt fetch],
            .ok (fetch.total + fetch.batch.length, fetch.maxChangedAt)⟩ := by
      rw [cutInto, List.flatten_singleton]
      rfl
    simp only [upsertMany_iff, List.forall_mem_singleton, show latest fetch.maxChangedAt [] =
      fetch.maxChangedAt from rfl, last]
    constructor
    · rintro ⟨_, ⟨accepted, rfl⟩, rfl⟩
      exact ⟨accepted, rfl⟩
    · rintro ⟨accepted, rfl⟩
      exact ⟨_, ⟨accepted, rfl⟩, rfl⟩

theorem storeUntil_iff :
    SyncService.storeUntil settings syncedAt ending events fetch stream = some fetched ↔
      (∀ batch ∈ flushed settings.syncBatchSize.toNat ending.isNone fetch.batch stream,
        Accepted batch) ∧
      fetched = cutInto syncedAt events
        (flushed settings.syncBatchSize.toNat ending.isNone fetch.batch stream)
        (outcomeOf fetch stream ending) := by
  induction stream generalizing events fetch fetched with
  | nil =>
    cases ending with
    | some error =>
      have nothing : flushed settings.syncBatchSize.toNat false fetch.batch [] = [] := by
        simp [flushed]
      simp only [SyncService.storeUntil, Option.isNone_some, nothing, List.not_mem_nil,
        false_imp_iff, implies_true, true_and, Option.some.injEq, eq_comm]
      rfl
    | none => exact storeUntil_nil_iff
  | cons event rest ih =>
    by_cases full : settings.syncBatchSize ≤ (SyncService.take fetch event).batch.length
    · rw [SyncService.storeUntil, if_pos full, flushed_full rest (full_iff.mp full),
        List.forall_mem_cons, Option.bind_eq_some_iff]
      simp only [upsertMany_iff, Option.map_eq_some_iff, ih, cutInto_cons, outcomeOf_stored]
      constructor
      · rintro ⟨_, ⟨accepted, rfl⟩, _, ⟨others, rfl⟩, rfl⟩
        exact ⟨⟨accepted, others⟩, rfl⟩
      · rintro ⟨⟨accepted, others⟩, rfl⟩
        exact ⟨_, ⟨accepted, rfl⟩, _, ⟨others, rfl⟩, rfl⟩
    · rw [SyncService.storeUntil, if_neg full, flushed_room rest (mt full_iff.mpr full), ih,
        outcomeOf_take]
      rfl

theorem latest_foldl (first : Instant) (stream : List SProviderEvent) :
    latest (some first) stream =
      some ((stream.map SProviderEvent.changedAt).foldl max first) := by
  induction stream generalizing first with
  | nil => rfl
  | cons event rest ih =>
    rw [List.map_cons, List.foldl_cons, max_def_lt, ← ih]
    rfl

theorem latest_max? (stream : List SProviderEvent) :
    latest none stream = (stream.map SProviderEvent.changedAt).max? := by
  cases stream with
  | nil => rfl
  | cons event rest => exact latest_foldl event.changedAt rest

/-- What is promised of a run of `_fetch_and_store` whose upserts succeed. -/
structure NothingLost (size : Nat) (syncedAt : Instant) (ending : Option Raised)
    (events : Table EventORM.id) (stream : List SProviderEvent) (fetched : Fetched) : Prop where
  inOrder : fetched.passed.flatten <+: toRows syncedAt stream
  full : ∀ rows ∈ fetched.passed.dropLast, rows.length = size
  short : ∀ rows ∈ fetched.passed, 1 ≤ rows.length ∧ rows.length ≤ size
  committed : fetched.events = events.upserts (fetched.passed.flatten.map EventRow.stored)
  ended : ending = none → fetched.passed.flatten = toRows syncedAt stream ∧
    fetched.outcome = .ok (stream.length, (stream.map SProviderEvent.changedAt).max?)
  raised : ∀ error, ending = some error →
    fetched.passed.flatten = toRows syncedAt (stream.take (size * (stream.length / size))) ∧
      fetched.outcome = .error error

theorem batches_lose_nothing (settings : SyncSettings) (positive : 1 ≤ settings.syncBatchSize)
    (changedAt syncedAt : Instant) (ending : Option Raised) (events : Table EventORM.id)
    (stream : List SProviderEvent) {fetched : Fetched}
    (ran : SyncService.fetchAndStoreUntil settings changedAt syncedAt ending events stream =
      some fetched) :
    NothingLost settings.syncBatchSize.toNat syncedAt ending events stream fetched := by
  obtain ⟨_, rfl⟩ := storeUntil_iff.mp ran
  have room : ([] : List SProviderEvent).length < settings.syncBatchSize.toNat := by
    rw [List.length_nil]
    omega
  have flatten (batches : List (List SProviderEvent)) :
      (batches.map (toRows syncedAt)).flatten = toRows syncedAt batches.flatten :=
    List.map_flatten.symm
  have passed (batches : List (List SProviderEvent)) {rows : List EventRow}
      (inside : rows ∈ batches.map (toRows syncedAt)) :
      ∃ batch ∈ batches, batch.length = rows.length := by
    obtain ⟨batch, member, rfl⟩ := List.mem_map.mp inside
    exact ⟨batch, member, (List.length_map _).symm⟩
  obtain ⟨full, short⟩ := @flushed_length _ _ ending.isNone _ stream room
  refine ⟨?_, ?_, ?_, ?_, ?_, ?_⟩
  · show (List.map (toRows syncedAt) _).flatten <+: _
    rw [flatten]
    exact (flushed_front room).map _
  · intro rows inside
    rw [cutInto, ← List.map_dropLast] at inside
    obtain ⟨batch, member, same⟩ := passed _ inside
    rw [← same, full batch member]
  · intro rows inside
    obtain ⟨batch, member, same⟩ := passed _ inside
    rw [← same]
    exact short batch member
  · show upserted events syncedAt _ =
      events.upserts ((List.map (toRows syncedAt) _).flatten.map EventRow.stored)
    rw [flatten, toRows, List.map_map]
    rfl
  · rintro rfl
    refine ⟨?_, ?_⟩
    · show (List.map (toRows syncedAt) _).flatten = _
      rw [flatten, Option.isNone_none, flushed_ended, List.nil_append]
    · show Except.ok (0 + ([] ++ stream).length, latest none stream) = _
      rw [latest_max?, Nat.zero_add, List.nil_append]
  · rintro error rfl
    refine ⟨?_, rfl⟩
    show (List.map (toRows syncedAt) _).flatten = _
    rw [flatten, Option.isNone_some, flushed_broken room, List.nil_append]

section Sample

def pairSettings : SyncSettings := ⟨2, 730119⟩

/-- Of three events the last is dropped when the paginator raises behind it. -/
theorem batches_lose_nothing_broken : ∃ fetched,
    SyncService.fetchAndStoreUntil pairSettings 0 0 (some (.other "down")) .empty
      [concert, opera, renamedConcert] = some fetched ∧ fetched.outcome = .error (.other "down") ∧
    fetched.passed = [toRows 0 [concert, opera]] ∧
    NothingLost 2 0 (some (.other "down")) .empty [concert, opera, renamedConcert] fetched := by
  have ran : SyncService.fetchAndStoreUntil pairSettings 0 0 (some (.other "down")) .empty
      [concert, opera, renamedConcert] =
        some (cutInto 0 .empty [[concert, opera]] (.error (.other "down"))) := rfl
  exact ⟨_, ran, rfl, rfl, batches_lose_nothing pairSettings (by decide) 0 0 _ _ _ ran⟩

end Sample

section Refinement

def Fetched.returned? (fetched : Fetched) : Option (Table EventORM.id × Nat × Option Instant) :=
  match fetched.outcome with
  | .ok (total, maxChangedAt) => some (fetched.events, total, maxChangedAt)
  | .error _ => none

theorem storeAll_eq (events : Table EventORM.id) (fetch : Fetch) (stream : List SProviderEvent) :
    SyncService.storeAll settings syncedAt events fetch stream =
      (SyncService.storeUntil settings syncedAt none events fetch stream).bind
        Fetched.returned? := by
  induction stream generalizing events fetch with
  | nil =>
    unfold SyncService.storeAll SyncService.storeUntil
    split
    · rfl
    · cases EventRepository.upsertMany events (SyncService.rows syncedAt fetch) <;> rfl
  | cons event rest ih =>
    unfold SyncService.storeAll SyncService.storeUntil
    split
    · cases EventRepository.upsertMany events
        (SyncService.rows syncedAt (SyncService.take fetch event)) with
      | none => rfl
      | some events' =>
        simp only [Option.bind_some, Option.bind_map, ih]
        rfl
    · exact ih _ _

/-- A call at its loop, told by the full batches that it has stored. -/
def Cut (settings : SyncSettings) (startedAt : Instant) (before : Table EventORM.id)
    (moves : List (Move SyncProcess CallAction)) (events : Table EventORM.id) (fetch : Fetch) :
    Prop :=
  ∃ batches : List (List SProviderEvent),
    (∀ batch ∈ batches, batch.length = settings.syncBatchSize.toNat ∧ Accepted batch) ∧
      yielded moves = batches.flatten ++ fetch.batch ∧
      events = upserted before startedAt batches.flatten

def CutAt (settings : SyncSettings) (startedAt : Instant) (before : Table EventORM.id)
    (moves : List (Move SyncProcess CallAction)) (events : Table EventORM.id) : SyncPoint → Prop
  | .getMeta | .markRunning _ => events = before ∧ yielded moves = []
  | .fetching fetch _ | .iterating fetch _ _ =>
    Cut settings startedAt before moves events fetch ∧
      fetch.batch.length < settings.syncBatchSize.toNat
  | .storing fetch _ _ =>
    Cut settings startedAt before moves events fetch ∧
      fetch.batch.length = settings.syncBatchSize.toNat
  | .storingLast _ | .markSuccess .. | .markFailure _ => True

variable {startedAt : Instant} {before : Table EventORM.id} {s t : SyncProcess}
  {moves : List (Move SyncProcess CallAction)}

theorem cutAt_silent {point : SyncPoint} {m : Move SyncProcess CallAction}
    (cut : CutAt settings startedAt before moves events point) (silent : m.action ≠ .iterate) :
    CutAt settings startedAt before (m :: moves) events point := by
  have same : yielded (m :: moves) = yielded moves := yielded_silent silent
  unfold CutAt Cut at *
  rw [same]
  exact cut

theorem cut_take {event : SProviderEvent} {m : Move SyncProcess CallAction}
    (cut : Cut settings startedAt before moves events fetch)
    (shown : yielded (m :: moves) = yielded moves ++ [event]) :
    Cut settings startedAt before (m :: moves) events (SyncService.take fetch event) := by
  obtain ⟨batches, uniform, all, table⟩ := cut
  refine ⟨batches, uniform, ?_, table⟩
  rw [shown, all, List.append_assoc]
  rfl

theorem cutAt_iterate (now : Instant) {page : List SProviderEvent} {next : Option String}
    {m : Move SyncProcess CallAction}
    (cut : CutAt settings startedAt before moves events (.iterating fetch page next))
    (shown : yielded (m :: moves) = yielded moves ++ page.head?.toList) :
    CutAt settings startedAt before (m :: moves) events
      (SyncService.iterate settings paginator now fetch next page) := by
  obtain ⟨cut, room⟩ := cut
  cases page with
  | cons event page =>
    have longer : (SyncService.take fetch event).batch.length = fetch.batch.length + 1 := by
      rw [SyncService.take, List.length_append, List.length_singleton]
    simp only [SyncService.iterate]
    split
    · exact ⟨cut_take cut shown, by omega⟩
    · exact ⟨cut_take cut shown, by omega⟩
  | nil =>
    rw [List.head?_nil, Option.toList_none, List.append_nil] at shown
    simp only [SyncService.iterate]
    split
    · trivial
    · unfold CutAt Cut
      rw [shown]
      exact ⟨cut, room⟩
    · split <;> trivial

theorem cut_stored (positive : 1 ≤ settings.syncBatchSize)
    (cut : Cut settings startedAt before moves events fetch)
    (full : fetch.batch.length = settings.syncBatchSize.toNat) {events' : Table EventORM.id}
    (stored : EventRepository.upsertMany events (SyncService.rows startedAt fetch) =
      some events') :
    Cut settings startedAt before moves events' (SyncService.stored fetch) ∧
      (SyncService.stored fetch).batch.length < settings.syncBatchSize.toNat := by
  obtain ⟨batches, uniform, all, rfl⟩ := cut
  obtain ⟨accepted, rfl⟩ := upsertMany_iff.mp stored
  have together : (batches ++ [fetch.batch]).flatten = batches.flatten ++ fetch.batch := by simp
  refine ⟨⟨batches ++ [fetch.batch], ?_, ?_, ?_⟩, ?_⟩
  · rw [List.forall_mem_append, List.forall_mem_singleton]
    exact ⟨uniform, full, accepted⟩
  · rw [all, together]
    exact (List.append_nil _).symm
  · rw [together, upserted_append]
  · show 0 < settings.syncBatchSize.toNat
    omega

theorem cut_invariant (positive : 1 ≤ settings.syncBatchSize) :
    CallInvariant settings paginator startedAt (CutAt settings startedAt before) where
  silent := cutAt_silent
  getMeta _ := id
  markRunning := by
    rintro moves events changedAt ⟨same, nothing⟩
    refine ⟨⟨[], by simp, nothing, same⟩, ?_⟩
    show 0 < settings.syncBatchSize.toNat
    omega
  page _ := id
  iterate now cut shown := cutAt_iterate now cut shown
  store cut stored := cut_stored positive cut.1 cut.2 stored
  storeLast _ _ _ := trivial
  failed _ _ _ := trivial

/-- A call whose paginator raises has stored what `_fetch_and_store`, as a function of the events
    that were yielded to it, has stored when it raises. -/
theorem broken_off {full : Bool} (positive : 1 ≤ settings.syncBatchSize)
    (run : Run (syncCalls settings paginator)
      { s with call := some ⟨full, s.now, .getMeta⟩ } moves t)
    (inside : ∀ m ∈ moves, m.action.starts = false) {call : SyncCall} {fetch : Fetch}
    (running : t.call = some call)
    (loop : (∃ url, call.point = .fetching fetch url) ∨
      ∃ page next, call.point = .iterating fetch page next) (error : Raised) :
    ∃ passed, SyncService.fetchAndStoreUntil settings fetch.changedAt s.now (some error) s.events
      (yielded moves) = some ⟨t.events, passed, .error error⟩ := by
  have begun : ∀ call, some (⟨full, s.now, .getMeta⟩ : SyncCall) = some call →
      call.startedAt = s.now ∧ CutAt settings s.now s.events [] s.events call.point := by
    intro call found
    cases found
    exact ⟨rfl, rfl, rfl⟩
  have stands := ((cut_invariant positive).run run inside begun call running).2
  have cut : Cut settings s.now s.events moves t.events fetch ∧
      fetch.batch.length < settings.syncBatchSize.toNat := by
    rcases loop with ⟨url, here⟩ | ⟨page, next, here⟩
    · rwa [here] at stands
    · rwa [here] at stands
  obtain ⟨⟨batches, uniform, all, table⟩, room⟩ := cut
  have cuts : flushed settings.syncBatchSize.toNat false [] (yielded moves) = batches := by
    rw [all]
    exact flushed_flatten (by omega) (fun batch member => (uniform batch member).1) room
  refine ⟨batches.map (toRows s.now), storeUntil_iff.mpr ?_⟩
  rw [Option.isNone_some, cuts, table]
  exact ⟨fun batch member => (uniform batch member).2, rfl⟩

end Refinement

end EventsAggregator
