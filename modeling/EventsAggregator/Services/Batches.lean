import EventsAggregator.Relational.Paging
import EventsAggregator.Services.Cursor

namespace EventsAggregator

open Relational Transition

namespace SyncService

/-- The loop of `_fetch_and_store` over what is left of the events that the paginator yields, with
    its last batch: the events table and what is returned. -/
def storeAll (settings : SyncSettings) (syncedAt : Instant) (events : Table EventORM.id)
    (fetch : Fetch) : List SProviderEvent → Option (Table EventORM.id × Nat × Option Instant)
  | [] =>
    if fetch.batch.isEmpty then some (events, fetch.total, fetch.maxChangedAt)
    else
      (EventRepository.upsertMany events (rows syncedAt fetch)).map fun events =>
        (events, (stored fetch).total, fetch.maxChangedAt)
  | event :: rest =>
    if settings.syncBatchSize ≤ (take fetch event).batch.length then
      (EventRepository.upsertMany events (rows syncedAt (take fetch event))).bind fun events =>
        storeAll settings syncedAt events (stored (take fetch event)) rest
    else storeAll settings syncedAt events (take fetch event) rest

def fetchAndStore (settings : SyncSettings) (changedAt syncedAt : Instant)
    (events : Table EventORM.id) (stream : List SProviderEvent) :
    Option (Table EventORM.id × Nat × Option Instant) :=
  storeAll settings syncedAt events ⟨changedAt, 0, none, [], 0⟩ stream

end SyncService

/-- What one `INSERT ... ON CONFLICT DO UPDATE` takes: rows that fit the columns, none of them
    twice, and no more than the driver has parameters for. -/
def Accepted (batch : List SProviderEvent) : Prop :=
  (batch.map SProviderEvent.id).Nodup ∧ batch.length ≤ maxRows ∧
    ∀ event ∈ batch, (SyncService.toRow event 0).storable = true

def latest (soFar : Option Instant) (stream : List SProviderEvent) : Option Instant :=
  stream.foldl (fun soFar event =>
    match soFar with
    | none => some event.changedAt
    | some latest => some (if latest < event.changedAt then event.changedAt else latest)) soFar

variable {settings : SyncSettings} {paginator : EventsPaginator} {syncedAt : Instant}
  {events events' : Table EventORM.id} {fetch : Fetch}

theorem upsertMany_iff :
    EventRepository.upsertMany events (SyncService.rows syncedAt fetch) = some events' ↔
      Accepted fetch.batch ∧ events' = upserted events syncedAt fetch.batch := by
  have ids : (SyncService.rows syncedAt fetch).map EventRow.id =
      fetch.batch.map SProviderEvent.id := by
    rw [SyncService.rows, List.map_map]
    rfl
  have length : (SyncService.rows syncedAt fetch).length = fetch.batch.length := List.length_map _
  have table : ((SyncService.rows syncedAt fetch).map EventRow.stored).foldl Table.upsert events =
      upserted events syncedAt fetch.batch := by
    rw [SyncService.rows, List.map_map]
    rfl
  have storable : (∀ row ∈ SyncService.rows syncedAt fetch, row.storable = true) ↔
      ∀ event ∈ fetch.batch, (SyncService.toRow event 0).storable = true :=
    List.forall_mem_map
  have accepted : ((SyncService.rows syncedAt fetch).map EventRow.id).Nodup ∧
      (SyncService.rows syncedAt fetch).length ≤ maxRows ∧
      (∀ row ∈ SyncService.rows syncedAt fetch, row.storable = true) ↔ Accepted fetch.batch := by
    rw [ids, length, storable]
    rfl
  rw [EventRepository.upsertMany, Option.ite_none_right_eq_some, accepted, Option.some.injEq, table,
    eq_comm]

theorem accepted_nil : Accepted [] := by
  simp [Accepted]

theorem pages_short {size : Nat} {batch : List SProviderEvent} (short : batch.length ≤ size) :
    (∀ i, Accepted (page size batch i)) ↔ Accepted batch := by
  have first : page size batch 0 = batch := by
    rw [page, Nat.zero_mul, List.drop_zero, List.take_of_length_le short]
  constructor
  · intro all
    exact first ▸ all 0
  · intro accepted i
    cases i with
    | zero => rwa [first]
    | succ i =>
      have beyond : batch.length ≤ (i + 1) * size :=
        Nat.le_trans short (Nat.le_mul_of_pos_left size (Nat.succ_pos i))
      rw [page, List.drop_of_length_le beyond, List.take_nil]
      exact accepted_nil

theorem pages_full {size : Nat} {batch rest : List SProviderEvent} (full : batch.length = size) :
    (∀ i, Accepted (page size (batch ++ rest) i)) ↔
      Accepted batch ∧ ∀ i, Accepted (page size rest i) := by
  have first : page size (batch ++ rest) 0 = batch := by
    rw [page, Nat.zero_mul, List.drop_zero, ← full, List.take_left]
  have later (i : Nat) : page size (batch ++ rest) (i + 1) = page size rest i := by
    rw [page, page, Nat.succ_mul, Nat.add_comm, ← List.drop_drop, ← full, List.drop_left]
  constructor
  · intro all
    exact ⟨first ▸ all 0, fun i => later i ▸ all (i + 1)⟩
  · rintro ⟨accepted, all⟩ i
    cases i with
    | zero => rwa [first]
    | succ i =>
      rw [later]
      exact all i

theorem take_append (fetch : Fetch) (event : SProviderEvent) (rest : List SProviderEvent) :
    (SyncService.take fetch event).batch ++ rest = fetch.batch ++ event :: rest := by
  rw [SyncService.take, List.append_assoc]
  rfl

theorem storeAll_nil_iff {result : Table EventORM.id × Nat × Option Instant} :
    SyncService.storeAll settings syncedAt events fetch [] = some result ↔
      Accepted fetch.batch ∧ result = (upserted events syncedAt fetch.batch,
        fetch.total + fetch.batch.length, fetch.maxChangedAt) := by
  unfold SyncService.storeAll
  split
  · rename_i empty
    rw [List.isEmpty_iff.mp empty]
    constructor
    · intro same
      cases same
      exact ⟨accepted_nil, rfl⟩
    · rintro ⟨_, rfl⟩
      rfl
  · rw [Option.map_eq_some_iff]
    simp only [upsertMany_iff]
    constructor
    · rintro ⟨_, ⟨accepted, rfl⟩, rfl⟩
      exact ⟨accepted, rfl⟩
    · rintro ⟨accepted, rfl⟩
      exact ⟨_, ⟨accepted, rfl⟩, rfl⟩

theorem storeAll_full_iff {event : SProviderEvent} {rest : List SProviderEvent}
    (full : settings.syncBatchSize ≤ (SyncService.take fetch event).batch.length)
    {result : Table EventORM.id × Nat × Option Instant} :
    SyncService.storeAll settings syncedAt events fetch (event :: rest) = some result ↔
      Accepted (SyncService.take fetch event).batch ∧
        SyncService.storeAll settings syncedAt
          (upserted events syncedAt (SyncService.take fetch event).batch)
          (SyncService.stored (SyncService.take fetch event)) rest = some result := by
  rw [SyncService.storeAll, if_pos full, Option.bind_eq_some_iff]
  simp only [upsertMany_iff]
  constructor
  · rintro ⟨_, ⟨accepted, rfl⟩, stored⟩
    exact ⟨accepted, stored⟩
  · rintro ⟨accepted, stored⟩
    exact ⟨_, ⟨accepted, rfl⟩, stored⟩

theorem storeAll_room {event : SProviderEvent} (rest : List SProviderEvent)
    (room : ¬ settings.syncBatchSize ≤ (SyncService.take fetch event).batch.length) :
    SyncService.storeAll settings syncedAt events fetch (event :: rest) =
      SyncService.storeAll settings syncedAt events (SyncService.take fetch event) rest := by
  rw [SyncService.storeAll, if_neg room]

theorem storeAll_iff (positive : 1 ≤ settings.syncBatchSize)
    (room : (fetch.batch.length : Int) < settings.syncBatchSize) {stream : List SProviderEvent}
    {result : Table EventORM.id × Nat × Option Instant} :
    SyncService.storeAll settings syncedAt events fetch stream = some result ↔
      (∀ i, Accepted (page settings.syncBatchSize.toNat (fetch.batch ++ stream) i)) ∧
        result = (upserted events syncedAt (fetch.batch ++ stream),
          fetch.total + (fetch.batch ++ stream).length, latest fetch.maxChangedAt stream) := by
  induction stream generalizing fetch events with
  | nil =>
    rw [List.append_nil, pages_short (by omega)]
    exact storeAll_nil_iff
  | cons event rest ih =>
    have length : (SyncService.take fetch event).batch.length = fetch.batch.length + 1 := by
      rw [SyncService.take, List.length_append, List.length_singleton]
    have total : (SyncService.take fetch event).total = fetch.total := rfl
    have maximum : latest (SyncService.take fetch event).maxChangedAt rest =
        latest fetch.maxChangedAt (event :: rest) := rfl
    rw [← take_append, ← maximum, ← total]
    by_cases full : settings.syncBatchSize ≤ (SyncService.take fetch event).batch.length
    · have exactly : (SyncService.take fetch event).batch.length =
          settings.syncBatchSize.toNat := by omega
      have empty : (SyncService.stored (SyncService.take fetch event)).batch = [] := rfl
      have counted : (SyncService.stored (SyncService.take fetch event)).total + rest.length =
          (SyncService.take fetch event).total +
            ((SyncService.take fetch event).batch ++ rest).length := by
        rw [List.length_append, ← Nat.add_assoc]
        rfl
      rw [storeAll_full_iff full, ih (by rw [empty, List.length_nil]; omega), empty,
        List.nil_append, pages_full exactly, upserted_append, ← counted, and_assoc]
      rfl
    · rw [storeAll_room rest full]
      exact ih (by omega)

theorem fetchAndStore_iff (positive : 1 ≤ settings.syncBatchSize) {changedAt : Instant}
    {stream : List SProviderEvent} {result : Table EventORM.id × Nat × Option Instant} :
    SyncService.fetchAndStore settings changedAt syncedAt events stream = some result ↔
      (∀ i, Accepted (page settings.syncBatchSize.toNat stream i)) ∧
        result = (upserted events syncedAt stream, stream.length, latest none stream) := by
  have spec := @storeAll_iff settings syncedAt events ⟨changedAt, 0, none, [], 0⟩ positive
    (by simp; omega) stream result
  rwa [List.nil_append, Nat.zero_add] at spec

theorem fetch_and_store_singly_iff (settings : SyncSettings)
    (positive : 1 ≤ settings.syncBatchSize) (changedAt syncedAt : Instant)
    (events : Table EventORM.id) (stream : List SProviderEvent) :
    (∃ total maxChangedAt,
      SyncService.fetchAndStore settings changedAt syncedAt events stream =
        some (upserted events syncedAt stream, total, maxChangedAt)) ↔
      ∀ i, Accepted (page settings.syncBatchSize.toNat stream i) := by
  constructor
  · rintro ⟨total, maxChangedAt, stored⟩
    exact ((fetchAndStore_iff positive).mp stored).1
  · intro accepted
    exact ⟨_, _, (fetchAndStore_iff positive).mpr ⟨accepted, rfl⟩⟩

section Sample

theorem sample_room : 1 ≤ sampleSyncSettings.syncBatchSize := by decide

/-- An event that moved between two pages while they were read fails the whole batch. -/
theorem repeated_event_refused : ¬ ∀ (settings : SyncSettings), 1 ≤ settings.syncBatchSize →
    ∀ changedAt syncedAt events (stream : List SProviderEvent),
      (∀ event ∈ stream, (SyncService.toRow event 0).storable = true) →
        ∃ total maxChangedAt,
          SyncService.fetchAndStore settings changedAt syncedAt events stream =
            some (upserted events syncedAt stream, total, maxChangedAt) := by
  intro stores
  obtain ⟨total, maxChangedAt, stored⟩ := stores sampleSyncSettings sample_room 0 0 .empty
    [concert, renamedConcert] (by decide)
  have accepted := ((fetchAndStore_iff sample_room).mp stored).1 0
  exact absurd accepted.1 (by decide)

theorem fetch_and_store_singly_iff_distinct : 1 ≤ sampleSyncSettings.syncBatchSize ∧
    ∃ total maxChangedAt,
      SyncService.fetchAndStore sampleSyncSettings 0 0 .empty [concert, opera] =
        some (upserted .empty 0 [concert, opera], total, maxChangedAt) :=
  ⟨sample_room, (fetch_and_store_singly_iff sampleSyncSettings sample_room 0 0 .empty _).mpr
    ((pages_short (by decide)).mpr ⟨by decide, by decide, by decide⟩)⟩

end Sample

section CallInvariant

/-- What the moves of a call preserve, told of the moves so far, the table and the point at which
    the call stands. Of a call that fails nothing is told. -/
structure CallInvariant (settings : SyncSettings) (paginator : EventsPaginator)
    (startedAt : Instant)
    (Q : List (Move SyncProcess CallAction) → Table EventORM.id → SyncPoint → Prop) : Prop where
  silent : ∀ {m moves events point}, Q moves events point → m.action ≠ .iterate →
    Q (m :: moves) events point
  getMeta : ∀ {moves events} changedAt, Q moves events .getMeta →
    Q moves events (.markRunning changedAt)
  markRunning : ∀ {moves events changedAt}, Q moves events (.markRunning changedAt) →
    Q moves events (.fetching ⟨changedAt, 0, none, [], 0⟩ none)
  page : ∀ {moves events fetch url} (page : EventsPage), Q moves events (.fetching fetch url) →
    Q moves events
      (.iterating { fetch with pagesSeen := fetch.pagesSeen + 1 } page.results page.next)
  iterate : ∀ {m moves events fetch page next} (now : Instant),
    Q moves events (.iterating fetch page next) →
      yielded (m :: moves) = yielded moves ++ page.head?.toList →
        Q (m :: moves) events (SyncService.iterate settings paginator now fetch next page)
  store : ∀ {moves events events' fetch page next}, Q moves events (.storing fetch page next) →
    EventRepository.upsertMany events (SyncService.rows startedAt fetch) = some events' →
      Q moves events' (.iterating (SyncService.stored fetch) page next)
  storeLast : ∀ {moves events events' fetch} (now : Instant), Q moves events (.storingLast fetch) →
    EventRepository.upsertMany events (SyncService.rows startedAt fetch) = some events' →
      Q moves events' (.markSuccess (SyncService.stored fetch) now)
  failed : ∀ moves events error, Q moves events (.markFailure error)

variable {startedAt : Instant} {s t : SyncProcess} {a : CallAction}
  {moves : List (Move SyncProcess CallAction)}
  {Q : List (Move SyncProcess CallAction) → Table EventORM.id → SyncPoint → Prop}

theorem CallInvariant.step (invariant : CallInvariant settings paginator startedAt Q)
    (holds : ∀ call, s.call = some call →
      call.startedAt = startedAt ∧ Q moves s.events call.point)
    (step : CallStep settings paginator s a t) (inside : a.starts = false) {call : SyncCall}
    (found : t.call = some call) :
    call.startedAt = startedAt ∧ Q (⟨s, a, t⟩ :: moves) t.events call.point := by
  by_cases turn : a = .iterate
  · subst turn
    cases step with
    | iterate running here =>
      cases found
      obtain ⟨started, stands⟩ := holds _ running
      rw [here] at stands
      exact ⟨started, invariant.iterate s.now stands (yielded_iterate running here)⟩
  · have kept (call : SyncCall) (running : s.call = some call) {point : SyncPoint}
        (here : call.point = point) : call.startedAt = startedAt ∧
          Q (⟨s, a, t⟩ :: moves) s.events point :=
      here ▸ ⟨(holds call running).1, invariant.silent (holds call running).2 turn⟩
    cases step with
    | tick => exact kept call found rfl
    | start => cases inside
    | getMeta running here =>
      cases found
      exact (kept _ running here).imp_right (invariant.getMeta _)
    | markRunning running here =>
      cases found
      exact (kept _ running here).imp_right invariant.markRunning
    | page page running here =>
      cases found
      exact (kept _ running here).imp_right (invariant.page page)
    | iterate => exact absurd rfl turn
    | store running here stored =>
      cases found
      obtain ⟨started, stands⟩ := kept _ running here
      rw [started] at stored
      exact ⟨started, invariant.store stands stored⟩
    | storeLast running here stored =>
      cases found
      obtain ⟨started, stands⟩ := kept _ running here
      rw [started] at stored
      exact ⟨started, invariant.storeLast s.now stands stored⟩
    | storeLastLost _ running | fail _ running =>
      cases found
      exact ⟨(kept _ running rfl).1, invariant.failed _ _ _⟩
    | succeed | recordFailure | abandon => cases found

theorem CallInvariant.run (invariant : CallInvariant settings paginator startedAt Q)
    (run : Run (syncCalls settings paginator) s moves t)
    (inside : ∀ m ∈ moves, m.action.starts = false)
    (holds : ∀ call, s.call = some call → call.startedAt = startedAt ∧ Q [] s.events call.point) :
    ∀ call, t.call = some call → call.startedAt = startedAt ∧ Q moves t.events call.point := by
  induction run with
  | refl => exact holds
  | move _ step ih =>
    obtain ⟨last, earlier⟩ := List.forall_mem_cons.mp inside
    exact fun call found => invariant.step (ih earlier) step last found

end CallInvariant

section Refinement

def Continues (settings : SyncSettings) (startedAt : Instant) (before : Table EventORM.id)
    (moves : List (Move SyncProcess CallAction)) (events : Table EventORM.id) : SyncPoint → Prop
  | .getMeta | .markRunning _ => events = before ∧ yielded moves = []
  | .fetching fetch _ | .iterating fetch _ _ =>
    ∀ rest, SyncService.fetchAndStore settings fetch.changedAt startedAt before
      (yielded moves ++ rest) = SyncService.storeAll settings startedAt events fetch rest
  | .storing fetch _ _ =>
    ∀ rest, SyncService.fetchAndStore settings fetch.changedAt startedAt before
      (yielded moves ++ rest) =
        (EventRepository.upsertMany events (SyncService.rows startedAt fetch)).bind fun events =>
          SyncService.storeAll settings startedAt events (SyncService.stored fetch) rest
  | .storingLast fetch =>
    SyncService.fetchAndStore settings fetch.changedAt startedAt before (yielded moves) =
      (EventRepository.upsertMany events (SyncService.rows startedAt fetch)).map fun events =>
        (events, (SyncService.stored fetch).total, fetch.maxChangedAt)
  | .markSuccess fetch _ =>
    SyncService.fetchAndStore settings fetch.changedAt startedAt before (yielded moves) =
      some (events, fetch.total, fetch.maxChangedAt)
  | .markFailure _ => True

variable {startedAt : Instant} {before : Table EventORM.id} {s t : SyncProcess} {a : CallAction}
  {moves : List (Move SyncProcess CallAction)}

theorem storeAll_pagesSeen (fetch : Fetch) (pagesSeen : Nat) (stream : List SProviderEvent) :
    SyncService.storeAll settings syncedAt events { fetch with pagesSeen } stream =
      SyncService.storeAll settings syncedAt events fetch stream := by
  induction stream generalizing fetch events with
  | nil => rfl
  | cons event rest ih =>
    simp only [SyncService.storeAll]
    have taken : SyncService.take { fetch with pagesSeen } event =
        { SyncService.take fetch event with pagesSeen } := rfl
    have stored : SyncService.stored { SyncService.take fetch event with pagesSeen } =
        { SyncService.stored (SyncService.take fetch event) with pagesSeen } := rfl
    rw [taken, stored]
    simp only [ih]
    rfl

theorem continues_iterate (now : Instant) {page : List SProviderEvent} {next : Option String}
    (continues : Continues settings startedAt before moves events (.iterating fetch page next))
    {m : Move SyncProcess CallAction}
    (shown : yielded (m :: moves) = yielded moves ++ page.head?.toList) :
    Continues settings startedAt before (m :: moves) events
      (SyncService.iterate settings paginator now fetch next page) := by
  cases page with
  | cons first page =>
    have ahead (rest : List SProviderEvent) : SyncService.fetchAndStore settings fetch.changedAt
        startedAt before (yielded (m :: moves) ++ rest) =
          SyncService.storeAll settings startedAt events fetch (first :: rest) := by
      rw [shown, List.append_assoc]
      exact continues (first :: rest)
    simp only [SyncService.iterate]
    split
    · rename_i full
      intro rest
      rw [show (SyncService.take fetch first).changedAt = fetch.changedAt from rfl, ahead,
        SyncService.storeAll, if_pos full]
    · rename_i room
      intro rest
      rw [show (SyncService.take fetch first).changedAt = fetch.changedAt from rfl, ahead,
        SyncService.storeAll, if_neg room]
  | nil =>
    rw [List.head?_nil, Option.toList_none, List.append_nil] at shown
    have ended := continues []
    rw [List.append_nil, SyncService.storeAll] at ended
    simp only [SyncService.iterate]
    split
    · trivial
    · intro rest
      rw [shown]
      exact continues rest
    · split
      · rename_i empty
        rw [if_pos empty] at ended
        change SyncService.fetchAndStore settings fetch.changedAt startedAt before _ = _
        rw [shown, ended]
      · rename_i some
        rw [if_neg some] at ended
        change SyncService.fetchAndStore settings fetch.changedAt startedAt before _ = _
        rw [shown, ended]

theorem continues_silent {point : SyncPoint} {m : Move SyncProcess CallAction}
    (continues : Continues settings startedAt before moves events point)
    (silent : m.action ≠ .iterate) :
    Continues settings startedAt before (m :: moves) events point := by
  have same : yielded (m :: moves) = yielded moves := yielded_silent silent
  unfold Continues at *
  rw [same]
  exact continues

def ContinuesCall (settings : SyncSettings) (startedAt : Instant) (before : Table EventORM.id)
    (moves : List (Move SyncProcess CallAction)) (s : SyncProcess) : Prop :=
  ∀ call, s.call = some call → Continues settings startedAt before moves s.events call.point

theorem continues_invariant : CallInvariant settings paginator startedAt
    (Continues settings startedAt before) where
  silent := continues_silent
  getMeta _ := id
  markRunning := by
    intro moves events changedAt continues rest
    rw [continues.2, continues.1]
    rfl
  page := by
    intro moves events fetch url page continues rest
    rw [storeAll_pagesSeen]
    exact continues rest
  iterate now continues shown := continues_iterate now continues shown
  store := by
    intro moves events events' fetch page next continues stored rest
    have continued := continues rest
    rwa [stored] at continued
  storeLast := by
    intro moves events events' fetch now continues stored
    change SyncService.fetchAndStore settings _ startedAt before _ = _ at continues
    rwa [stored] at continues
  failed _ _ _ := trivial

theorem continues_run (run : Run (syncCalls settings paginator) s moves t)
    (inside : ∀ m ∈ moves, m.action.starts = false)
    (started : ∀ call, s.call = some call → call.startedAt = startedAt)
    (continues : ContinuesCall settings startedAt before [] s) :
    ContinuesCall settings startedAt before moves t := by
  intro call running
  have holds (call : SyncCall) (running : s.call = some call) : call.startedAt = startedAt ∧
      Continues settings startedAt before [] s.events call.point :=
    ⟨started call running, continues call running⟩
  exact (continues_invariant.run run inside holds call running).2

theorem fetched_and_stored {full : Bool}
    (run : Run (syncCalls settings paginator)
      { s with call := some ⟨full, s.now, .getMeta⟩ } moves t)
    (inside : ∀ m ∈ moves, m.action.starts = false) {call : SyncCall} {fetch : Fetch}
    {finishedAt : Instant} (running : t.call = some call)
    (here : call.point = .markSuccess fetch finishedAt) :
    SyncService.fetchAndStore settings fetch.changedAt s.now s.events (yielded moves) =
      some (t.events, fetch.total, fetch.maxChangedAt) := by
  have begun : ContinuesCall settings s.now s.events []
      { s with call := some ⟨full, s.now, .getMeta⟩ } := by
    intro call found
    cases found
    exact ⟨rfl, rfl⟩
  have started : ∀ call, some (⟨full, s.now, .getMeta⟩ : SyncCall) = some call →
      call.startedAt = s.now := by
    intro call found
    cases found
    rfl
  have stands := continues_run run inside started begun call running
  rwa [here] at stands

end Refinement

end EventsAggregator
