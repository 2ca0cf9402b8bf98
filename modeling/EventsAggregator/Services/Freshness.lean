import EventsAggregator.Services.Requests
import EventsAggregator.Services.Tracking

namespace EventsAggregator

open Relational Transition

variable {settings : SyncSettings} {paginator : EventsPaginator}

/-- When a sync succeeds, each event that has changed since its start, on a day before that of an
    event on its pages, has been on a page as it is now. -/
def LateChangesShown (m : Move SyncState SyncAction) : Prop :=
  ∀ result, m.action = .succeed result → ∀ task, m.source.task = some task → ∀ id event,
    (m.source.revisions id).head? = some event → task.startedAt ≤ event.changedAt →
      (∃ x ∈ task.shown, utcDate event.changedAt < utcDate x.1.changedAt) →
        (event, (m.source.revisions id).length) ∈ task.shown

section Success

variable {s : SyncState} {task : SyncTask} {fetch : Fetch} {finishedAt : Instant}

theorem shown_carried (stands : Stands settings paginator s task)
    (here : task.point = .markSuccess fetch finishedAt) :
    ∀ x ∈ task.shown, s.Carries x.1.id x.2 := by
  obtain ⟨stored, waiting, split, empty, carried⟩ := stands.stored [] (by rw [here]; rfl)
  rw [List.map_eq_nil_iff] at empty
  rw [split, empty, List.append_nil]
  exact carried

theorem started_carried (tracked : Tracked settings paginator s) (running : s.task = some task)
    (here : task.point = .markSuccess fetch finishedAt) {id : UUID} (known : task.started id ≠ []) :
    s.Carries id (task.started id).length := by
  have follows := tracked.follows task running
  have stands := tracked.stands task running
  have requested : task.point.requested? = some fetch.changedAt := by rw [here]; rfl
  obtain ⟨event, older, first⟩ := List.exists_cons_of_ne_nil known
  have head : (task.started id).head? = some event := by rw [first]; rfl
  by_cases due : utcDate fetch.changedAt ≤ utcDate event.changedAt
  · have ended : task.point.Ended paginator := by rw [here]; trivial
    obtain ⟨x, member, rfl⟩ := stands.complete ended _ requested id event head due
    exact carries_le (shown_carried stands here x member) (follows.shown x member).2
  · rcases stands.requested _ requested with start | cursor
    · have inside : event ∈ s.revisions id := by
        apply (follows.started id).subset
        rw [first]
        exact List.mem_cons_self ..
      have bound := utcDate_mono (tracked.provided.revisions id event inside).2.1
      rw [start] at due
      exact absurd bound due
    · exact follows.kept _ cursor id event head (lt_of_not_ge due)

theorem newChangedAt_cases (stands : Stands settings paginator s task)
    (here : task.point = .markSuccess fetch finishedAt) :
    (∃ x ∈ task.shown, x.1.changedAt = SyncService.newChangedAt fetch) ∨
      SyncService.newChangedAt fetch = settings.firstInstant ∨
      s.cursor = some (SyncService.newChangedAt fetch) := by
  unfold SyncService.newChangedAt
  cases newest : fetch.maxChangedAt with
  | some instant =>
    exact Or.inl (stands.latest fetch instant (by rw [here]; rfl) newest)
  | none => exact Or.inr (stands.requested fetch.changedAt (by rw [here]; rfl))

theorem shown_past (tracked : Tracked settings paginator s) (running : s.task = some task)
    {x : SProviderEvent × Nat} (member : x ∈ task.shown) : x.1.changedAt ≤ s.now :=
  have revision := ((tracked.follows task running).shown x member).1
  (tracked.provided.revisions _ x.1 revision.mem).2.2

theorem cursor_settled (tracked : Tracked settings paginator s) (running : s.task = some task)
    (here : task.point = .markSuccess fetch finishedAt)
    (late : ∀ id event, (s.revisions id).head? = some event → task.startedAt ≤ event.changedAt →
      (∃ x ∈ task.shown, utcDate event.changedAt < utcDate x.1.changedAt) →
        (event, (s.revisions id).length) ∈ task.shown)
    {id : UUID} {event : SProviderEvent} (head : (s.revisions id).head? = some event)
    (before : utcDate event.changedAt < utcDate (SyncService.newChangedAt fetch)) :
    s.Carries id (s.revisions id).length := by
  have follows := tracked.follows task running
  have stands := tracked.stands task running
  have inside : event ∈ s.revisions id := List.mem_of_mem_head? head
  rcases newChangedAt_cases stands here with ⟨x, member, same⟩ | first | cursor
  · by_cases unchanged : s.revisions id = task.started id
    · have known : task.started id ≠ [] := by
        rw [← unchanged]
        exact List.ne_nil_of_mem inside
      have carries := started_carried tracked running here known
      rwa [← unchanged] at carries
    · have since := follows.newer id event unchanged head
      have shown := late id event head since ⟨x, member, same ▸ before⟩
      have carries := shown_carried stands here _ shown
      have own : event.id = id := (tracked.provided.revisions id event inside).1
      rwa [own] at carries
  · have bound := utcDate_mono (tracked.provided.revisions id event inside).2.1
    rw [first] at before
    exact absurd before (not_lt_of_ge bound)
  · exact tracked.settled _ cursor id event head before

end Success

theorem tracked_succeed {s : SyncState} {task : SyncTask} {fetch : Fetch} {finishedAt : Instant}
    (tracked : Tracked settings paginator s) (running : s.task = some task)
    (here : task.point = .markSuccess fetch finishedAt)
    (late : ∀ id event, (s.revisions id).head? = some event → task.startedAt ≤ event.changedAt →
      (∃ x ∈ task.shown, utcDate event.changedAt < utcDate x.1.changedAt) →
        (event, (s.revisions id).length) ∈ task.shown) :
    Tracked settings paginator { s with
      metadata := some (SyncMetadataRepository.markSuccess s.metadata finishedAt
        (SyncService.newChangedAt fetch) s.now)
      task := none } := by
  refine ⟨⟨tracked.provided.revisions, ?_⟩, ?_, ?_, ?_⟩
  · intro c cursor
    cases cursor
    rcases newChangedAt_cases (tracked.stands task running) here with
      ⟨x, member, same⟩ | first | cursor
    · exact Or.inl (same ▸ shown_past tracked running member)
    · exact Or.inr first
    · exact tracked.provided.cursor _ cursor
  · intro c cursor id event head before
    cases cursor
    exact cursor_settled tracked running here late head before
  · intro other running
    cases running
  · intro other running
    cases running

theorem tracked_step {s t : SyncState} {a : SyncAction} (tracked : Tracked settings paginator s)
    (guard : LateChangesShown ⟨s, a, t⟩) (step : SyncStep settings paginator s a t) :
    Tracked settings paginator t := by
  cases step with
  | change event instant first =>
    refine ⟨change_provided tracked.provided instant first,
      change_settled tracked.provided tracked.settled instant first, ?_, ?_⟩
    · intro task running
      exact change_follows tracked.provided (tracked.follows task running) instant first
    · intro task running
      exact change_stands (tracked.stands task running)
  | tick now later => exact tracked_tick tracked later
  | start full free => exact tracked_start tracked
  | getMeta running here =>
    have alike := alike_metadata (get_cursor s.metadata s.now)
    exact tracked_moved tracked running (alike _) rfl
      (stands_getMeta (alike _) (tracked.stands _ running) here)
  | markRunning running here =>
    have alike := alike_metadata (markRunning_cursor s.metadata s.now)
    exact tracked_moved tracked running (alike _) rfl
      (stands_markRunning (alike _) (tracked.stands _ running) here)
  | @page task fetch url page running here current complete =>
    refine ⟨⟨tracked.provided.revisions, tracked.provided.cursor⟩, tracked.settled, ?_, ?_⟩
    · intro other same
      cases same
      exact alike_follows (alike_task s _) (follows_page (tracked.follows task running) current) _
    · intro other same
      cases same
      have stands := stands_page (tracked.stands task running) here complete
      exact ⟨stands.requested, stands.latest, stands.complete, stands.stored⟩
  | iterate running here =>
    have stands := stands_iterated (tracked.stands _ running) here
    exact tracked_moved tracked running (alike_task s _) rfl
      ⟨stands.requested, stands.latest, stands.complete, stands.stored⟩
  | @store task fetch page next events running here stored =>
    have pending : task.point.pending? = some (fetch.batch ++ page) := by rw [here]; rfl
    refine tracked_store tracked running pending stored ?_ ?_ ?_ rfl
    · rw [here]
      rfl
    · rw [here]
      intro fetch' found
      cases found
      exact ⟨fetch, rfl, rfl⟩
    · rw [here]
      exact id
  | @storeLast task fetch events running here stored =>
    have pending : task.point.pending? = some (fetch.batch ++ []) := by
      rw [here, List.append_nil]
      rfl
    refine tracked_store tracked running pending stored ?_ ?_ ?_ rfl
    · rw [here]
      rfl
    · rw [here]
      intro fetch' found
      cases found
      exact ⟨fetch, rfl, rfl⟩
    · rw [here]
      exact id
  | @fail task error running inside =>
    exact tracked_moved tracked running (alike_task s _) rfl (stands_failed _ task error)
  | @succeed task fetch finishedAt running here =>
    exact tracked_succeed tracked running here (guard _ rfl task running)
  | @recordFailure task error running here writable =>
    have alike := alike_metadata (markFailure_cursor s.metadata error.str s.now)
    exact tracked_ended tracked (alike _) rfl
  | abandon => exact tracked_ended tracked (alike_task s _) rfl

/-- What a sync that has succeeded promises: of every event that the provider had when it started,
    the local row is at least as new as the event was then. -/
def UpToDate (m : Move SyncState SyncAction) : Prop :=
  ∀ task, m.source.task = some task → ∀ id, task.started id ≠ [] →
    m.target.Carries id (task.started id).length

theorem tracked_initial {s : SyncState} (initial : (syncs settings paginator).Initial s) :
    Tracked settings paginator s := by
  obtain ⟨_, unsynced, idle, revisions⟩ := initial
  have fresh : s.cursor = none := by simp [SyncState.cursor, unsynced]
  refine ⟨⟨revisions, ?_⟩, ?_, ?_, ?_⟩
  · simp [fresh]
  · intro c cursor
    rw [fresh] at cursor
    cases cursor
  · simp [idle]
  · simp [idle]

theorem succeed_point {s t : SyncState} {result : SyncResult}
    (step : SyncStep settings paginator s (.succeed result) t) : ∃ task fetch finishedAt,
      s.task = some task ∧ task.point = .markSuccess fetch finishedAt ∧
        t.revisions = s.revisions ∧ t.events = s.events := by
  cases step with
  | succeed running here => exact ⟨_, _, _, running, here, rfl, rfl⟩

theorem syncs_lose_nothing {s t : SyncState} {moves : List (Move SyncState SyncAction)}
    (initial : (syncs settings paginator).Initial s)
    (run : Run (syncs settings paginator) s moves t) (guard : ∀ m ∈ moves, LateChangesShown m) :
    ∀ m ∈ moves, ∀ result, m.action = .succeed result → UpToDate m := by
  intro m member result success task running id known
  have step := run.step_of_mem member
  have tracked : Tracked settings paginator m.source :=
    run.guarded_source (fun _ _ _ tracked guard step => tracked_step tracked guard step) guard
      (tracked_initial initial) member
  rw [success] at step
  obtain ⟨other, fetch, finishedAt, same, here, revisions, events⟩ := succeed_point step
  cases running.symm.trans same
  have carries := started_carried tracked running here known
  unfold SyncState.Carries at *
  rwa [revisions, events]

section Requests

variable {Process : Type} [DecidableEq Process] {runtime : Runtime} {P : Provider}

def State.withEvents (u : State Process P) (events : Table EventORM.id) : State Process P :=
  { u with db := { u.db with events } }

theorem upserts_run (u : State Process P) (rows : List EventORM) : ∃ moves,
    Run (system Process runtime P) u moves
      (u.withEvents (rows.foldl Table.upsert u.db.events)) ∧
      ∀ m ∈ moves, ∃ row, m.action = .upsert row := by
  induction rows generalizing u with
  | nil => exact ⟨[], .refl, by simp⟩
  | cons row rest ih =>
    obtain ⟨moves, run, upserts⟩ := ih { u with db := u.db.upsertEvent row }
    refine ⟨_, Run.trans (Run.refl.move (Step.upsert row)) run, ?_⟩
    intro m member
    rcases List.mem_append.mp member with member | member
    · exact upserts m member
    · cases List.mem_singleton.mp member
      exact ⟨row, rfl⟩

end Requests

section Sample

variable {r s : SyncState} {earlier : List (Move SyncState SyncAction)} {task : SyncTask}
  {fetch : Fetch} {event : SProviderEvent}

def Unfinished (moves : List (Move SyncState SyncAction)) : Prop :=
  ∀ m ∈ moves, ∀ result, m.action ≠ .succeed result

theorem iterate_room (paginator : EventsPaginator) (now : Instant) {next : Option String}
    {page : List SProviderEvent}
    (room : ((fetch.batch.length + 1 : Nat) : Int) < settings.syncBatchSize) :
    SyncService.iterate settings paginator now fetch next (event :: page) =
      .iterating (SyncService.take fetch event) page next := by
  have length : (SyncService.take fetch event).batch.length = fetch.batch.length + 1 := by
    simp [SyncService.take]
  simp only [SyncService.iterate, length]
  rw [if_neg]
  omega

theorem iterate_next (now : Instant) {next : Option String} {url : String}
    (followed : paginator.follow fetch.pagesSeen next = .ok (some url)) :
    SyncService.iterate settings paginator now fetch next [] = .fetching fetch (some url) := by
  simp only [SyncService.iterate, followed]

theorem begin_sync (run : Run (syncs settings paginator) r earlier s) (full : Bool)
    (free : s.task = none) : ∃ moves,
      Run (syncs settings paginator) r (moves ++ earlier) { s with
        metadata := some (SyncMetadataRepository.markRunning
          (some (SyncMetadataRepository.get s.metadata s.now)) s.now)
        task := some ⟨full, s.now,
          .fetching ⟨SyncService.startFrom settings full
            (SyncMetadataRepository.get s.metadata s.now), 0, none, [], 0⟩ none,
          s.revisions, []⟩ } ∧ Unfinished moves := by
  have begun := run.move (.start full free)
  have read := begun.move (.getMeta rfl rfl)
  have marked := read.move (.markRunning rfl rfl)
  exact ⟨[_, _, _], marked, by simp [Unfinished]⟩

theorem read_page (event : SProviderEvent) (next : Option String)
    (run : Run (syncs settings paginator) r earlier s) (running : s.task = some task)
    {url : Option String} {point : SyncPoint} (here : task.point = .fetching fetch url)
    (current : (s.revisions event.id).head? = some event)
    (room : ((fetch.batch.length + 1 : Nat) : Int) < settings.syncBatchSize)
    (complete : paginator.follow (fetch.pagesSeen + 1) next = .ok none →
      Complete task.started fetch.changedAt
        (task.shown ++ [(event, (s.revisions event.id).length)]))
    (looped : SyncService.iterate settings paginator s.now
      (SyncService.take { fetch with pagesSeen := fetch.pagesSeen + 1 } event) next [] = point) :
    ∃ moves, Run (syncs settings paginator) r (moves ++ earlier) { s with
        task := some { task with
          point
          shown := task.shown ++ [(event, (s.revisions event.id).length)] } } ∧
      Unfinished moves := by
  have shown := run.move (.page ⟨next, [event]⟩ running here (by simpa using current) complete)
  have taken := shown.move (.iterate rfl rfl)
  have ended := taken.move (.iterate rfl (iterate_room paginator s.now room))
  rw [← looped]
  exact ⟨[_, _, _], ended, by simp [Unfinished]⟩

theorem short_sync (full : Bool) (event : SProviderEvent)
    (run : Run (syncs settings paginator) r earlier s)
    (free : s.task = none) (large : 2 ≤ settings.syncBatchSize)
    (current : (s.revisions event.id).head? = some event)
    (complete : Complete s.revisions
      (SyncService.startFrom settings full (SyncMetadataRepository.get s.metadata s.now))
      [(event, (s.revisions event.id).length)])
    (writable : (SyncService.toRow event s.now).storable = true) :
    ∃ moves source result target,
      Run (syncs settings paginator) r
        (⟨source, .succeed result, target⟩ :: (moves ++ earlier)) target ∧
      Unfinished moves ∧ source.revisions = s.revisions ∧ target.revisions = s.revisions ∧
      target.events = s.events.upsert (SyncService.toRow event s.now).stored ∧
      ∃ point, source.task =
        some ⟨full, s.now, point, s.revisions, [(event, (s.revisions event.id).length)]⟩ := by
  obtain ⟨start, begun, started⟩ := begin_sync run full free
  obtain ⟨turns, read, looped⟩ := read_page event none begun rfl rfl current
    (by
      simp only [List.length_nil]
      omega) (fun _ => complete) rfl
  have stored := read.move (.storeLast rfl rfl (if_pos ⟨by
    simp [SyncService.rows, SyncService.take], by
    simpa [SyncService.rows, SyncService.take, maxRows] using writable⟩))
  have succeeded := stored.move (.succeed rfl rfl)
  rw [← List.append_assoc, ← List.cons_append] at succeeded
  refine ⟨_, _, _, _, succeeded, ?_, rfl, rfl, rfl, _, rfl⟩
  intro m member
  rcases List.mem_cons.mp member with rfl | member
  · simp
  · rcases List.mem_append.mp member with member | member
    · exact looped m member
    · exact started m member

def secondPage : String := "http://provider/api/events/?page=2"

theorem follow_secondPage :
    samplePaginator.follow 1 (some secondPage) = .ok (some secondPage) := rfl

def renamedOpera : SProviderEvent := providerEvent ⟨2⟩ "Opera (moved)" (sampleMidnight + 5)

def unsynced : SyncState where
  revisions id := if id = ⟨1⟩ then [concert] else if id = ⟨2⟩ then [opera] else []
  now := sampleMidnight - 10
  events := .empty
  metadata := none
  task := none

theorem unsynced_initial : (syncs sampleSyncSettings samplePaginator).Initial unsynced := by
  refine ⟨rfl, rfl, rfl, ?_⟩
  intro id event member
  simp only [unsynced] at member
  split at member
  · rename_i here
    rw [List.mem_singleton] at member
    subst here member
    decide
  · split at member
    · rename_i here
      rw [List.mem_singleton] at member
      subst here member
      decide
    · cases member

/-- During a full sync the concert is renamed after its page and before midnight, the opera before
    its page and after midnight. -/
theorem renamed_across_midnight : ∃ moves s,
    Run (syncs sampleSyncSettings samplePaginator) unsynced moves s ∧ s.task = none ∧
      s.cursor = some (sampleMidnight + 5) ∧ s.now = sampleMidnight + 5 ∧
      (∀ id, s.revisions id =
        if id = ⟨1⟩ then [renamedConcert, concert] else if id = ⟨2⟩ then [renamedOpera, opera]
        else []) ∧
      s.events.find? ⟨1⟩ = some (SyncService.toRow concert (sampleMidnight - 10)).stored := by
  have start := @Run.refl _ _ (syncs sampleSyncSettings samplePaginator) unsynced
  obtain ⟨_, begun, _⟩ := begin_sync start true rfl
  obtain ⟨_, first, _⟩ := read_page concert (some secondPage) begun rfl rfl rfl (by decide)
    (fun ended => by cases follow_secondPage.symm.trans ended)
    (iterate_next _ follow_secondPage)
  have moved := first.move (.change renamedConcert rfl (by decide))
  have late := moved.move (.tick (sampleMidnight + 5) (by decide))
  have extended := late.move (.change renamedOpera rfl (by decide))
  obtain ⟨_, last, _⟩ := read_page renamedOpera none extended rfl rfl rfl (by decide) (by
      intro _ id event head _
      simp only [unsynced] at head
      split at head
      · rename_i here
        exact ⟨_, List.mem_cons_self .., here.symm⟩
      · split at head
        · rename_i here
          exact ⟨_, List.mem_cons_of_mem _ (List.mem_cons_self ..), here.symm⟩
        · cases head) rfl
  have stored := last.move (.storeLast rfl rfl (if_pos ⟨by decide, by decide⟩))
  have succeeded := stored.move (.succeed rfl rfl)
  refine ⟨_, _, succeeded, rfl, rfl, rfl, ?_, rfl⟩
  intro id
  have opera_id : renamedOpera.id = ⟨2⟩ := rfl
  have concert_id : renamedConcert.id = ⟨1⟩ := rfl
  simp only [unsynced, Function.update_apply, opera_id, concert_id]
  by_cases first : id = ⟨1⟩
  · simp [first]
  · by_cases second : id = ⟨2⟩
    · rw [second] at first ⊢
      simp only [if_neg first, if_true]
    · simp only [if_neg first, if_neg second]

theorem startFrom_cursor {c : Instant} (cursor : s.cursor = some c) :
    SyncService.startFrom settings false (SyncMetadataRepository.get s.metadata s.now) = c := by
  rw [SyncState.cursor, ← get_cursor s.metadata s.now] at cursor
  simp only [SyncService.startFrom, cursor]

/-- The next sync asks for the day after midnight. -/
theorem renaming_lost : ¬ ∀ s t moves,
    (syncs sampleSyncSettings samplePaginator).Initial s →
      Run (syncs sampleSyncSettings samplePaginator) s moves t →
        ∀ m ∈ moves, ∀ result, m.action = .succeed result → UpToDate m := by
  intro lossless
  obtain ⟨_, s, run, idle, cursor, now, revisions, stale⟩ := renamed_across_midnight
  have shown : s.revisions ⟨2⟩ = [renamedOpera, opera] := revisions ⟨2⟩
  have complete : Complete s.revisions (sampleMidnight + 5)
      [(renamedOpera, (s.revisions renamedOpera.id).length)] := by
    intro id event head due
    rw [revisions] at head
    split at head
    · cases head
      exact absurd due (by decide)
    · split at head
      · rename_i here
        exact ⟨_, List.mem_cons_self .., here.symm⟩
      · cases head
  rw [← startFrom_cursor cursor] at complete
  obtain ⟨_, source, result, target, whole, _, _, target_revisions, stored, _, running⟩ :=
    short_sync false renamedOpera run idle (by decide)
      (congrArg List.head? shown) complete (by rw [now]; decide)
  have upToDate := lossless _ _ _ unsynced_initial whole _ (List.mem_cons_self ..) result rfl
  have known : s.revisions ⟨1⟩ = [renamedConcert, concert] := revisions ⟨1⟩
  have started : s.revisions ⟨1⟩ ≠ [] := by
    rw [known]
    exact List.cons_ne_nil _ _
  obtain ⟨n, event, syncedAt, revision, newest, row⟩ :=
    upToDate _ running ⟨1⟩ started
  simp only [target_revisions, known] at revision newest
  cases revision.head newest
  have other : renamedOpera.id ≠ ⟨1⟩ := by decide
  have renamed : EventRow.varchar 500 concert.name ≠ EventRow.varchar 500 renamedConcert.name := by
    decide
  rw [stored, Table.find?_upsert, if_neg (show (SyncService.toRow renamedOpera s.now).stored.id ≠ ⟨1⟩ from
    other), stale] at row
  exact renamed (congrArg EventORM.name (Option.some.inj row))

def concertOnly : SyncState :=
  { unsynced with revisions := fun id => if id = ⟨1⟩ then [concert] else [] }

theorem concertOnly_initial : (syncs sampleSyncSettings samplePaginator).Initial concertOnly := by
  refine ⟨rfl, rfl, rfl, ?_⟩
  intro id event member
  simp only [concertOnly] at member
  split at member
  · rename_i here
    rw [List.mem_singleton] at member
    subst here member
    decide
  · cases member

theorem concert_synced : ∃ moves t,
    Run (syncs sampleSyncSettings samplePaginator) concertOnly moves t ∧
      (∃ m ∈ moves, ∃ result, m.action = .succeed result) ∧
        ∀ m ∈ moves, ∀ result, m.action = .succeed result → UpToDate m := by
  have only : ∀ id event, (concertOnly.revisions id).head? = some event →
      id = ⟨1⟩ ∧ event = concert := by
    intro id event head
    simp only [concertOnly] at head
    split at head
    · rename_i here
      exact ⟨here, (Option.some.inj head).symm⟩
    · cases head
  obtain ⟨moves, source, result, target, run, unfinished, revisions, _, _, point, running⟩ :=
    short_sync true concert (@Run.refl _ _ (syncs sampleSyncSettings samplePaginator) concertOnly)
      rfl (by decide) rfl (by
        intro id event head _
        obtain ⟨rfl, rfl⟩ := only id event head
        exact ⟨_, List.mem_cons_self .., rfl⟩) (by decide)
  refine ⟨_, _, run, ⟨_, List.mem_cons_self .., result, rfl⟩, ?_⟩
  apply syncs_lose_nothing concertOnly_initial run
  intro m member result' success
  rcases List.mem_cons.mp member with rfl | member
  · intro task same id event head since
    cases running.symm.trans same
    rw [revisions] at head
    obtain ⟨_, rfl⟩ := only id event head
    have before : ¬ concertOnly.now ≤ concert.changedAt := by decide
    exact absurd since before
  · rw [List.append_nil] at member
    exact absurd success (unfinished m member result')

end Sample

end EventsAggregator
