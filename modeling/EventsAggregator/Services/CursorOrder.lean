import EventsAggregator.Services.Feeds
import EventsAggregator.Services.Tracking

namespace EventsAggregator

open Relational Transition

def CursorKept (m : Move SyncProcess CallAction) : Prop :=
  ∀ before, m.source.lastChangedAt = some before →
    ∃ after, m.target.lastChangedAt = some after ∧ before ≤ after

/-- Of the events that a sync was given one is as new as the cursor, or there were none and the
    sync did not ask for events from before it. -/
def KeepsUp (settings : SyncSettings) (full : Bool) (cursor : Option Instant)
    (events : List SProviderEvent) : Prop :=
  ∀ before, cursor = some before →
    (events = [] ∧ (full = false ∨ before ≤ settings.firstInstant)) ∨
      ∃ event ∈ events, before ≤ event.changedAt

def Requesting (settings : SyncSettings) (full : Bool) (cursor : Option Instant)
    (s : SyncProcess) : Prop :=
  ∀ call, s.call = some call → call.full = full ∧ s.lastChangedAt = cursor ∧
    ∀ changedAt, call.point.requested? = some changedAt →
      changedAt = requestedFrom settings full cursor

variable {settings : SyncSettings} {paginator : EventsPaginator} {full : Bool}
  {cursor : Option Instant} {s t u : SyncProcess} {a : CallAction}
  {moves : List (Move SyncProcess CallAction)}

theorem latest_some (first : Instant) (stream : List SProviderEvent) :
    ∃ newest, latest (some first) stream = some newest ∧
      ∀ before, before ≤ newest ↔ before ≤ first ∨ ∃ event ∈ stream, before ≤ event.changedAt := by
  induction stream generalizing first with
  | nil => exact ⟨first, rfl, by simp⟩
  | cons event rest ih =>
    obtain ⟨newest, found, newer⟩ :=
      ih (if first < event.changedAt then event.changedAt else first)
    refine ⟨newest, found, fun before => ?_⟩
    have either : before ≤ (if first < event.changedAt then event.changedAt else first) ↔
        before ≤ first ∨ before ≤ event.changedAt := by
      rw [← max_def_lt, le_max_iff]
    rw [newer, either, List.exists_mem_cons_iff, or_assoc]

theorem le_latest (before requested : Instant) (stream : List SProviderEvent) :
    before ≤ (latest none stream).getD requested ↔
      (stream = [] ∧ before ≤ requested) ∨ ∃ event ∈ stream, before ≤ event.changedAt := by
  cases stream with
  | nil =>
    show before ≤ requested ↔ _
    simp
  | cons event rest =>
    obtain ⟨newest, found, newer⟩ := latest_some event.changedAt rest
    show before ≤ (latest (some event.changedAt) rest).getD requested ↔ _
    rw [found, Option.getD_some, newer, List.exists_mem_cons_iff]
    simp

/-- The maximum that the loop returns is that of the whole stream, whatever the batches are. -/
theorem storeAll_latest {syncedAt : Instant} {events after : Table EventORM.id} {fetch : Fetch}
    {stream : List SProviderEvent} {total : Nat} {maxChangedAt : Option Instant}
    (stored : SyncService.storeAll settings syncedAt events fetch stream =
      some (after, total, maxChangedAt)) : maxChangedAt = latest fetch.maxChangedAt stream := by
  induction stream generalizing events fetch with
  | nil =>
    obtain ⟨_, same⟩ := storeAll_nil_iff.mp stored
    cases same
    rfl
  | cons event rest ih =>
    by_cases full : settings.syncBatchSize ≤ (SyncService.take fetch event).batch.length
    · exact ih ((storeAll_full_iff full).mp stored).2
    · rw [storeAll_room rest full] at stored
      exact ih stored

theorem iterate_requested (now : Instant) (fetch : Fetch) (next : Option String)
    (page : List SProviderEvent) {changedAt : Instant}
    (requested : (SyncService.iterate settings paginator now fetch next page).requested? =
      some changedAt) : changedAt = fetch.changedAt := by
  cases page with
  | cons event page =>
    simp only [SyncService.iterate] at requested
    split at requested <;> exact (Option.some.inj requested).symm
  | nil =>
    simp only [SyncService.iterate] at requested
    split at requested
    · cases requested
    · exact (Option.some.inj requested).symm
    · split at requested <;> exact (Option.some.inj requested).symm

theorem Requesting.moved (requesting : Requesting settings full cursor s) {call : SyncCall}
    (running : s.call = some call) {point : SyncPoint}
    (call' : t.call = some { call with point }) (kept : t.lastChangedAt = s.lastChangedAt)
    (requested : ∀ changedAt, point.requested? = some changedAt →
      call.point.requested? = some changedAt) : Requesting settings full cursor t := by
  obtain ⟨sameFull, sameCursor, before⟩ := requesting call running
  intro other found
  rw [call'] at found
  cases found
  exact ⟨sameFull, kept.trans sameCursor, fun changedAt here => before _ (requested _ here)⟩

theorem requesting_step (requesting : Requesting settings full cursor s)
    (step : CallStep settings paginator s a t) (inside : a.starts = false) :
    Requesting settings full cursor t := by
  have kept : t.lastChangedAt = s.lastChangedAt ∨ ∃ result, a = .succeed result := by
    rcases step_cursor step with ⟨_, kept⟩ | ⟨result, succeeded, _⟩
    · exact Or.inl kept
    · exact Or.inr ⟨result, succeeded⟩
  cases step with
  | tick => exact requesting
  | start => cases inside
  | getMeta running here =>
    obtain ⟨sameFull, sameCursor, _⟩ := requesting _ running
    rintro _ ⟨⟩
    refine ⟨sameFull, (kept.resolve_right (by simp)).trans sameCursor, ?_⟩
    rintro _ ⟨⟩
    rw [startFrom_get, sameFull, sameCursor]
  | markRunning running here =>
    exact requesting.moved running rfl (kept.resolve_right (by simp))
      (by rw [here]; exact fun _ => id)
  | page _ running here | store running here | storeLast running here =>
    exact requesting.moved running rfl rfl (by rw [here]; exact fun _ => id)
  | iterate running here =>
    refine requesting.moved running rfl rfl fun changedAt requested => ?_
    rw [here, iterate_requested _ _ _ _ requested]
    rfl
  | storeLastLost _ running | fail _ running =>
    exact requesting.moved running rfl rfl (fun _ none => nomatch none)
  | succeed | recordFailure | abandon => exact fun _ running => nomatch running

theorem requesting_started (s : SyncProcess) (full : Bool) :
    Requesting settings full s.lastChangedAt { s with call := some ⟨full, s.now, .getMeta⟩ } := by
  rintro _ ⟨⟩
  exact ⟨rfl, rfl, fun _ none => nomatch none⟩

theorem requesting_run (requesting : Requesting settings full cursor s)
    (run : Run (syncCalls settings paginator) s moves t)
    (inside : ∀ m ∈ moves, m.action.starts = false) : Requesting settings full cursor t :=
  run.guarded (fun _ _ _ requesting inside step => requesting_step requesting step inside) inside
    requesting

theorem succeed_cursor {result : SyncResult}
    (ran : Run (syncCalls settings paginator)
      { s with call := some ⟨full, s.now, .getMeta⟩ } moves t)
    (inside : ∀ m ∈ moves, m.action.starts = false)
    (step : CallStep settings paginator t (.succeed result) u) :
    result.full = full ∧ u.lastChangedAt = some ((latest none (yielded moves)).getD
      (requestedFrom settings full t.lastChangedAt)) := by
  cases step with
  | @succeed call fetch finishedAt running here =>
    have stored := storeAll_latest (fetched_and_stored ran inside running here)
    obtain ⟨sameFull, sameCursor, requested⟩ :=
      requesting_run (requesting_started s full) ran inside call running
    refine ⟨sameFull, ?_⟩
    rw [here] at requested
    rw [sameCursor, ← requested _ rfl, ← stored]
    rfl

theorem succeed_running {result : SyncResult}
    (step : CallStep settings paginator s (.succeed result) t) :
    ∃ call, s.call = some call := by
  cases step with
  | succeed running => exact ⟨_, running⟩

theorem cursorKept_iff {events : List SProviderEvent} {m : Move SyncProcess CallAction}
    (committed : m.target.lastChangedAt =
      some ((latest none events).getD (requestedFrom settings full m.source.lastChangedAt))) :
    CursorKept m ↔ KeepsUp settings full m.source.lastChangedAt events := by
  unfold CursorKept KeepsUp
  apply forall_congr'
  intro before
  apply imp_congr_right
  intro found
  have requested : before ≤ requestedFrom settings full (some before) ↔
      full = false ∨ before ≤ settings.firstInstant := by
    cases full with
    | false => simp [requestedFrom]
    | true => simp [requestedFrom]
  rw [committed, found]
  simp only [Option.some.injEq, exists_eq_left', le_latest, requested]

theorem cursor_kept_iff {settings : SyncSettings} {paginator : EventsPaginator}
    {s t : SyncProcess} {moves later earlier : List (Move SyncProcess CallAction)}
    {m : Move SyncProcess CallAction} {result : SyncResult}
    (initial : (syncCalls settings paginator).Initial s)
    (run : Run (syncCalls settings paginator) s moves t) (split : moves = later ++ m :: earlier)
    (succeeded : m.action = .succeed result) :
    ∃ current start past, earlier = current ++ start :: past ∧
      start.action = .start result.full ∧ (∀ n ∈ current, n.action.starts = false) ∧
      m.target.lastChangedAt = some ((latest none (yielded current)).getD
        (requestedFrom settings result.full m.source.lastChangedAt)) ∧
      (CursorKept m ↔
        KeepsUp settings result.full m.source.lastChangedAt (yielded current)) := by
  obtain ⟨source, action, target⟩ := m
  cases split
  cases succeeded
  obtain ⟨before, step, _⟩ := run.split
  obtain ⟨call, running⟩ := succeed_running step
  obtain ⟨current, first, past, full, rfl, inside, ran⟩ := call_begun before initial.1 running
  obtain ⟨same, committed⟩ := succeed_cursor ran inside step
  subst same
  exact ⟨current, _, past, rfl, rfl, inside, committed, cursorKept_iff committed⟩

section Sample

/-- A full sync finds no events, and the cursor is back at the first date. -/
theorem cursor_falls_back : ¬ ∀ (s t : SyncProcess)
    (moves : List (Move SyncProcess CallAction)),
    (syncCalls sampleSyncSettings samplePaginator).Initial s →
      Run (syncCalls sampleSyncSettings samplePaginator) s moves t →
        ∀ m ∈ moves, m.action.succeeds = true → CursorKept m := by
  intro keeps
  have start := @Run.refl _ _ (syncCalls sampleSyncSettings samplePaginator)
    { idleProcess with
      metadata := some ⟨some sampleMidnight, some sampleMidnight, .success, none, sampleMidnight⟩ }
  have begun := start.move (.start true rfl)
  have read := begun.move (.getMeta rfl rfl)
  have marked := read.move (.markRunning rfl rfl)
  have shown := marked.move (.page ⟨none, []⟩ rfl rfl)
  have ended := shown.move (.iterate rfl rfl)
  have succeeded := ended.move (.succeed rfl rfl)
  obtain ⟨after, found, kept⟩ := keeps _ _ _ ⟨rfl, rfl⟩ succeeded _ (List.mem_cons_self ..) rfl
    sampleMidnight rfl
  cases found
  exact absurd kept (by decide)

theorem cursor_kept_iff_concert : ∃ moves t,
    Run (syncCalls sampleSyncSettings samplePaginator) idleProcess moves t ∧
      t.lastChangedAt = some concert.changedAt ∧ ∃ m ∈ moves, CursorKept m := by
  have start := @Run.refl _ _ (syncCalls sampleSyncSettings samplePaginator) idleProcess
  have begun := start.move (.start false rfl)
  have read := begun.move (.getMeta rfl rfl)
  have marked := read.move (.markRunning rfl rfl)
  have shown := marked.move (.page ⟨none, [concert]⟩ rfl rfl)
  have taken := shown.move (.iterate rfl rfl)
  have ended := taken.move (.iterate rfl rfl)
  have stored := ended.move (.storeLast rfl rfl rfl)
  have succeeded := stored.move (.succeed rfl rfl)
  obtain ⟨_, _, _, _, _, _, _, kept⟩ :=
    cursor_kept_iff ⟨rfl, rfl⟩ succeeded (List.nil_append _).symm rfl
  exact ⟨_, _, succeeded, rfl, _, List.mem_cons_self .., kept.mpr fun _ none => nomatch none⟩

end Sample

end EventsAggregator
