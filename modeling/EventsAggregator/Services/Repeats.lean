import EventsAggregator.Services.Feeds

namespace EventsAggregator

open Relational Transition

variable {settings : SyncSettings} {paginator : EventsPaginator} {feed : Feed} {full : Bool}
  {changedAt startedAt : Instant} {s t u v : SyncProcess} {a : CallAction} {result : SyncResult}
  {moves : List (Move SyncProcess CallAction)}

/-- One call, from its start to the commit of `mark_success`. -/
def Successful (full : Bool) (startedAt : Instant) (result : SyncResult)
    (moves : List (Move SyncProcess CallAction)) : Prop :=
  ∃ last middle first, moves = last :: (middle ++ [first]) ∧ first.action = .start full ∧
    first.source.now = startedAt ∧ last.action = .succeed result ∧
      ∀ m ∈ middle, m.action.starts = false

theorem upserted_absorb (events : Table EventORM.id) (early late : Instant)
    {done stream : List SProviderEvent} (first : done <+: stream) :
    upserted (upserted events early done) late stream = upserted events late stream := by
  obtain ⟨rest, rfl⟩ := first
  have sameIds : (done.map fun event => (SyncService.toRow event early).stored).map EventORM.id =
      (done.map fun event => (SyncService.toRow event late).stored).map EventORM.id := by
    rw [List.map_map, List.map_map]
    rfl
  rw [upserted_append, upserted_append]
  congr 1
  exact events.upserts_absorb sameIds

def Absorbed (stream : List SProviderEvent) (events events' : Table EventORM.id) : Prop :=
  ∀ syncedAt, upserted events' syncedAt stream = upserted events syncedAt stream

theorem idle_run (run : Run (syncCalls settings paginator) s moves t) (idle : s.call = none)
    (inside : ∀ m ∈ moves, m.action.starts = false) : t.call = none ∧ t.events = s.events := by
  apply run.guarded (I := fun u => u.call = none ∧ u.events = s.events)
    (G := fun m => m.action.starts = false) _ inside ⟨idle, rfl⟩
  rintro t a u ⟨free, events⟩ inside step
  cases step with
  | tick => exact ⟨free, events⟩
  | start => cases inside
  | abandon => exact ⟨rfl, events⟩
  | getMeta running | markRunning running | page _ running | iterate running | store running
  | storeLast running | storeLastLost _ running | fail _ running | succeed running
  | recordFailure running =>
    rw [free] at running
    cases running

theorem last_start (moves : List (Move SyncProcess CallAction)) :
    (∀ m ∈ moves, m.action.starts = false) ∨ ∃ current start past full,
      moves = current ++ start :: past ∧ start.action = .start full ∧
        ∀ m ∈ current, m.action.starts = false := by
  induction moves with
  | nil => exact Or.inl (by simp)
  | cons m rest ih =>
    cases starts : m.action.starts with
    | true =>
      obtain ⟨source, action, target⟩ := m
      cases action with
      | start full => exact Or.inr ⟨[], _, rest, full, rfl, rfl, by simp⟩
      | _ => cases starts
    | false =>
      rcases ih with none | ⟨current, start, past, full, rfl, action, others⟩
      · exact Or.inl (List.forall_mem_cons.mpr ⟨starts, none⟩)
      · exact Or.inr ⟨m :: current, start, past, full, rfl, action,
          List.forall_mem_cons.mpr ⟨starts, others⟩⟩

/-- However many attempts fail, and wherever, a later sync of the stream absorbs them. -/
theorem failed_absorbed (run : Run (syncCalls settings paginator) s moves t)
    (idle : s.call = none) (failed : ∀ m ∈ moves, m.action.succeeds = false)
    (mode : ∀ m ∈ moves, ∀ other, m.action = .start other → other = full)
    (answered : ∀ m ∈ moves, AnsweredBy feed m) :
    Absorbed (feed.stream paginator (requestedFrom settings full s.lastChangedAt))
      s.events t.events := by
  induction length : moves.length using Nat.strong_induction_on generalizing moves t with
  | _ n ih =>
    rcases last_start moves with none | ⟨current, start, past, other, rfl, action, inside⟩
    · rw [(idle_run run idle none).2]
      exact fun _ => rfl
    · obtain ⟨source, _, target⟩ := start
      cases action
      obtain ⟨before, _, rfl, after⟩ := start_split run
      have fewer : past.length < n := by
        rw [← length, List.length_append, List.length_cons]
        omega
      have absorbed := ih past.length fewer before (fun m member => failed m (by simp [member]))
        (fun m member => mode m (by simp [member]))
        (fun m member => answered m (by simp [member])) rfl
      have cursor := (cursor_kept before fun m member => failed m (by simp [member])).2
      have same : other = full := mode _ (List.mem_append_right _ (List.mem_cons_self ..)) other rfl
      subst same
      have fed := fed_run after inside (fun m member => answered m (List.mem_append_left _ member))
        (fed_started source other)
      obtain ⟨done, attempt⟩ := sync_attempt_run after inside (sync_attempt_started source other)
      change source.lastChangedAt = _ at cursor
      rw [cursor] at fed
      intro syncedAt
      rw [attempt.stored, upserted_absorb _ _ _ (attempt.yielded.trans fed.shown)]
      exact absorbed syncedAt

theorem successful_call (run : Run (syncCalls settings paginator) s moves t)
    (succeeded : Successful full startedAt result moves)
    (answered : ∀ m ∈ moves, AnsweredBy feed m) :
    s.call = none ∧ s.now = startedAt ∧
      feed.StreamEnds paginator (requestedFrom settings full s.lastChangedAt) ∧
      ∃ maxChangedAt,
        SyncService.fetchAndStore settings (requestedFrom settings full s.lastChangedAt) startedAt
          s.events (feed.stream paginator (requestedFrom settings full s.lastChangedAt)) =
            some (t.events, result.syncedCount, maxChangedAt) ∧
        result.lastChangedAt =
          maxChangedAt.getD (requestedFrom settings full s.lastChangedAt) ∧
        t.lastChangedAt = some result.lastChangedAt := by
  obtain ⟨⟨_, _, _⟩, middle, ⟨source, _, target⟩, rfl, rfl, rfl, rfl, inside⟩ := succeeded
  cases run with
  | move run step =>
    obtain ⟨before, free, rfl, after⟩ := start_split run
    cases before
    have fed := fed_run after inside (fun m member => answered m (by simp [member]))
      (fed_started s full)
    cases step with
    | succeed running here =>
      have stored := fetched_and_stored after inside running here
      have ahead := fed.ahead _ running
      rw [here] at ahead
      obtain ⟨requested, all, ends⟩ := ahead
      rw [all, requested] at stored
      exact ⟨free, rfl, ends, _, stored, by rw [← requested]; rfl, rfl⟩

theorem storeAll_table {events events' after : Table EventORM.id} {syncedAt : Instant}
    {fetch : Fetch} {stream : List SProviderEvent} {total : Nat} {maxChangedAt : Option Instant}
    (stored : SyncService.storeAll settings syncedAt events fetch stream =
      some (after, total, maxChangedAt)) :
    after = upserted events syncedAt (fetch.batch ++ stream) ∧
      SyncService.storeAll settings syncedAt events' fetch stream =
        some (upserted events' syncedAt (fetch.batch ++ stream), total, maxChangedAt) := by
  induction stream generalizing events events' fetch with
  | nil =>
    rw [List.append_nil]
    obtain ⟨accepted, same⟩ := storeAll_nil_iff.mp stored
    cases same
    exact ⟨rfl, storeAll_nil_iff.mpr ⟨accepted, rfl⟩⟩
  | cons event rest ih =>
    rw [← take_append]
    by_cases full : settings.syncBatchSize ≤ (SyncService.take fetch event).batch.length
    · obtain ⟨accepted, left⟩ := (storeAll_full_iff full).mp stored
      obtain ⟨rfl, left'⟩ := @ih _
        (upserted events' syncedAt (SyncService.take fetch event).batch) _ left
      rw [storeAll_full_iff full, upserted_append events, upserted_append events']
      exact ⟨rfl, accepted, left'⟩
    · rw [storeAll_room rest full] at stored ⊢
      exact ih stored

def Within (feed : Feed) (moves : List (Move SyncProcess CallAction)) : Prop :=
  ∀ m ∈ moves, m.action.starts = false ∧ AnsweredBy feed m

theorem within_append {earlier later : List (Move SyncProcess CallAction)}
    (first : Within feed earlier) (second : Within feed later) :
    Within feed (later ++ earlier) := by
  intro m member
  rcases List.mem_append.mp member with member | member
  · exact second m member
  · exact first m member

theorem within_one {m : Move SyncProcess CallAction} (inside : m.action.starts = false)
    (unfetched : ∀ page, m.action ≠ .page page) : Within feed [m] := by
  intro other member
  rw [List.mem_singleton.mp member]
  exact ⟨inside, fun page action => absurd action (unfetched page)⟩

structure Standing (settings : SyncSettings) (call : SyncCall) (s : SyncProcess)
    (point : SyncPoint) (fetch : Fetch) (rest : List SProviderEvent)
    (returned : Table EventORM.id × Nat × Option Instant) : Prop where
  running : s.call = some { call with point }
  loop : SyncService.storeAll settings call.startedAt s.events fetch rest = some returned

section Progress

variable {call : SyncCall} {fetch : Fetch} {next : Option String}
  {returned : Table EventORM.id × Nat × Option Instant}

theorem take_page {page rest : List SProviderEvent}
    (stands : Standing settings call s (.iterating fetch page next) fetch (page ++ rest) returned) :
    ∃ moves t fetch', Run (syncCalls settings paginator) s moves t ∧ Within feed moves ∧
      Standing settings call t (.iterating fetch' [] next) fetch' rest returned ∧
      fetch'.pagesSeen = fetch.pagesSeen ∧ fetch'.changedAt = fetch.changedAt := by
  induction page generalizing s fetch with
  | nil => exact ⟨[], s, fetch, .refl, by simp [Within], stands, rfl, rfl⟩
  | cons event page ih =>
    have start := @Run.refl _ _ (syncCalls settings paginator) s
    have taken := start.move (.iterate stands.running rfl)
    have loop := stands.loop
    rw [List.cons_append, SyncService.storeAll] at loop
    by_cases full : settings.syncBatchSize ≤ (SyncService.take fetch event).batch.length
    · rw [if_pos full, Option.bind_eq_some_iff] at loop
      obtain ⟨events, saved, loop⟩ := loop
      simp only [SyncService.iterate, if_pos full] at taken
      have stored := taken.move (.store rfl rfl saved)
      obtain ⟨moves, t, fetch', run, within, stands', pages, requested⟩ :=
        @ih { s with
            events
            call := some { call with
              point := .iterating (SyncService.stored (SyncService.take fetch event)) page next } }
          (SyncService.stored (SyncService.take fetch event)) ⟨rfl, loop⟩
      exact ⟨_, t, fetch', stored.trans run,
        within_append (within_append (within_one rfl (by simp)) (within_one rfl (by simp))) within,
        stands', pages, requested⟩
    · rw [if_neg full] at loop
      simp only [SyncService.iterate, if_neg full] at taken
      obtain ⟨moves, t, fetch', run, within, stands', pages, requested⟩ :=
        @ih { s with
            call := some { call with
              point := .iterating (SyncService.take fetch event) page next } }
          (SyncService.take fetch event) ⟨rfl, loop⟩
      exact ⟨_, t, fetch', taken.trans run, within_append (within_one rfl (by simp)) within,
        stands', pages, requested⟩

theorem close_loop (followed : paginator.follow fetch.pagesSeen next = .ok none)
    (stands : Standing settings call s (.iterating fetch [] next) fetch [] returned) :
    ∃ moves t fetch' finishedAt, Run (syncCalls settings paginator) s moves t ∧
      Within feed moves ∧ t.call = some { call with point := .markSuccess fetch' finishedAt } := by
  have start := @Run.refl _ _ (syncCalls settings paginator) s
  have ended := start.move (.iterate stands.running rfl)
  have loop := stands.loop
  rw [SyncService.storeAll] at loop
  by_cases empty : fetch.batch.isEmpty = true
  · simp only [SyncService.iterate, followed, if_pos empty] at ended
    exact ⟨_, _, fetch, s.now, ended, within_one rfl (by simp), rfl⟩
  · rw [if_neg empty, Option.map_eq_some_iff] at loop
    obtain ⟨events, saved, _⟩ := loop
    simp only [SyncService.iterate, followed, if_neg empty] at ended
    have stored := ended.move (.storeLast rfl rfl saved)
    exact ⟨_, _, _, _, stored,
      within_append (within_one rfl (by simp)) (within_one rfl (by simp)), rfl⟩

theorem fetch_page {url : Option String} (requested : fetch.changedAt = changedAt)
    (stands : Standing settings call s (.fetching fetch url) fetch
      ((feed.page changedAt url).results ++ feed.behind paginator
        (EventsPaginator.maxPages - (fetch.pagesSeen + 1)) (feed.page changedAt url).next)
      returned) :
    ∃ moves t fetch', Run (syncCalls settings paginator) s moves t ∧ Within feed moves ∧
      Standing settings call t (.iterating fetch' [] (feed.page changedAt url).next) fetch'
        (feed.behind paginator (EventsPaginator.maxPages - fetch'.pagesSeen)
          (feed.page changedAt url).next) returned ∧
      fetch'.pagesSeen = fetch.pagesSeen + 1 ∧ fetch'.changedAt = changedAt := by
  have start := @Run.refl _ _ (syncCalls settings paginator) s
  have shown := start.move (.page (feed.page changedAt url) stands.running rfl)
  have once : Within feed [⟨s, .page (feed.page changedAt url), { s with
      call := some { call with
        point := .iterating { fetch with pagesSeen := fetch.pagesSeen + 1 }
          (feed.page changedAt url).results (feed.page changedAt url).next } }⟩] := by
    intro m member
    rw [List.mem_singleton.mp member]
    refine ⟨rfl, fun page action other fetch' url' running here => ?_⟩
    cases action
    rw [stands.running] at running
    cases running
    cases here
    rw [requested]
  have loop := stands.loop
  rw [← storeAll_pagesSeen fetch (fetch.pagesSeen + 1)] at loop
  obtain ⟨moves, t, fetch', run, within, stands', pages, requested'⟩ :=
    @take_page settings paginator feed { s with
      call := some { call with
        point := .iterating { fetch with pagesSeen := fetch.pagesSeen + 1 }
          (feed.page changedAt url).results (feed.page changedAt url).next } }
      call { fetch with pagesSeen := fetch.pagesSeen + 1 } _ _ _ _ ⟨rfl, loop⟩
  refine ⟨_, t, fetch', shown.trans run, within_append once within, ?_, pages,
    requested'.trans requested⟩
  rw [pages]
  exact stands'

theorem finish_loop (requested : fetch.changedAt = changedAt)
    (stands : Standing settings call s (.iterating fetch [] next) fetch
      (feed.behind paginator (EventsPaginator.maxPages - fetch.pagesSeen) next) returned)
    (ends : feed.Ends paginator (EventsPaginator.maxPages - fetch.pagesSeen) next) :
    ∃ moves t fetch' finishedAt, Run (syncCalls settings paginator) s moves t ∧
      Within feed moves ∧ t.call = some { call with point := .markSuccess fetch' finishedAt } := by
  induction left : EventsPaginator.maxPages - fetch.pagesSeen using Nat.strong_induction_on
    generalizing s fetch next with
  | _ left' ih =>
    cases followed : paginator.follow fetch.pagesSeen next with
    | error error => exact absurd ends (Feed.ends_error followed)
    | ok target =>
      cases target with
      | none =>
        rw [Feed.behind_none followed] at stands
        exact close_loop followed stands
      | some url =>
        have few := Feed.follow_some followed
        have start := @Run.refl _ _ (syncCalls settings paginator) s
        have turned := start.move (.iterate stands.running rfl)
        simp only [SyncService.iterate, followed] at turned
        have loop := stands.loop
        rw [Feed.behind_some followed] at loop
        obtain ⟨moves, t, fetch', run, within, stands', pages, requested'⟩ :=
          @fetch_page settings paginator feed changedAt { s with
            call := some { call with point := .fetching fetch (some url) } } call fetch returned
            (some url) requested ⟨rfl, loop⟩
        have ends' : feed.Ends paginator (EventsPaginator.maxPages - fetch'.pagesSeen)
            (feed.page changedAt (some url)).next := by
          rw [pages]
          exact (Feed.ends_some followed).mp ends
        obtain ⟨moves', u, fetch'', finishedAt, run', within', running⟩ :=
          ih (EventsPaginator.maxPages - fetch'.pagesSeen) (by omega) requested' stands' ends' rfl
        exact ⟨_, u, fetch'', finishedAt, (turned.trans run).trans run',
          within_append (within_append (within_one rfl (by simp)) within) within', running⟩

theorem open_call (full : Bool) (s : SyncProcess) :
    ∃ moves t, Run (syncCalls settings paginator)
        { s with call := some ⟨full, s.now, .getMeta⟩ } moves t ∧
      Within feed moves ∧ t.events = s.events ∧
      t.call = some ⟨full, s.now,
        .fetching ⟨requestedFrom settings full s.lastChangedAt, 0, none, [], 0⟩ none⟩ := by
  have start := @Run.refl _ _ (syncCalls settings paginator)
    { s with call := some ⟨full, s.now, .getMeta⟩ }
  have read := start.move (.getMeta rfl rfl)
  have marked := read.move (.markRunning rfl rfl)
  refine ⟨_, _, marked,
    within_append (within_one rfl (by simp)) (within_one rfl (by simp)), rfl, ?_⟩
  rw [← startFrom_get]

theorem call_exists (full : Bool) (s : SyncProcess) (idle : s.call = none)
    (ends : feed.StreamEnds paginator (requestedFrom settings full s.lastChangedAt))
    (stored : SyncService.fetchAndStore settings (requestedFrom settings full s.lastChangedAt)
      s.now s.events (feed.stream paginator (requestedFrom settings full s.lastChangedAt)) =
        some returned) :
    ∃ moves t result, Run (syncCalls settings paginator) s moves t ∧
      Successful full s.now result moves ∧ ∀ m ∈ moves, AnsweredBy feed m := by
  obtain ⟨opening, w, opened, within, events, running⟩ :=
    @open_call settings paginator feed full s
  have loop := stored
  rw [SyncService.fetchAndStore, ← events] at loop
  obtain ⟨fetching, x, fetch, fetched, within', stands, pages, requested⟩ :=
    @fetch_page settings paginator feed (requestedFrom settings full s.lastChangedAt) w
      ⟨full, s.now, .getMeta⟩ ⟨requestedFrom settings full s.lastChangedAt, 0, none, [], 0⟩
      returned none rfl ⟨running, loop⟩
  have ends' : feed.Ends paginator (EventsPaginator.maxPages - fetch.pagesSeen)
      (feed.page (requestedFrom settings full s.lastChangedAt) none).next := by
    rw [pages]
    exact ends
  obtain ⟨looping, y, fetch', finishedAt, looped, within'', success⟩ :=
    finish_loop requested stands ends'
  have begun := (@Run.refl _ _ (syncCalls settings paginator) s).move (.start full idle)
  have middle := (opened.trans fetched).trans looped
  have succeeded := (begun.trans middle).move (.succeed success rfl)
  have inside := within_append (within_append within within') within''
  refine ⟨_, _, _, succeeded, ⟨_, _, _, rfl, rfl, rfl, rfl, fun m member => (inside m member).1⟩,
    ?_⟩
  intro m member
  rcases List.mem_cons.mp member with rfl | member
  · exact fun _ action => nomatch action
  · rcases List.mem_append.mp member with member | member
    · exact (inside m member).2
    · rw [List.mem_singleton.mp member]
      exact fun _ action => nomatch action

end Progress

/-- What a sync that started at `startedAt` left and returned is what it would have as the only
    one: alone it can succeed, and whenever it does, the outcome is this. -/
def SameAsAlone (settings : SyncSettings) (paginator : EventsPaginator) (feed : Feed)
    (full : Bool) (startedAt : Instant) (s v : SyncProcess) (result : SyncResult) : Prop :=
  (∃ lone v' result', Run (syncCalls settings paginator) { s with now := startedAt } lone v' ∧
    Successful full startedAt result' lone ∧ ∀ m ∈ lone, AnsweredBy feed m) ∧
  ∀ lone v' result', Run (syncCalls settings paginator) { s with now := startedAt } lone v' →
    Successful full startedAt result' lone → (∀ m ∈ lone, AnsweredBy feed m) →
      v'.events = v.events ∧ v'.lastChangedAt = v.lastChangedAt ∧
        result'.syncedCount = result.syncedCount ∧ result'.lastChangedAt = result.lastChangedAt

theorem failed_syncs_repeated (settings : SyncSettings) (paginator : EventsPaginator)
    (feed : Feed) (full : Bool) {s u v : SyncProcess}
    {before last : List (Move SyncProcess CallAction)} {startedAt : Instant} {result : SyncResult}
    (idle : s.call = none) (attempts : Run (syncCalls settings paginator) s before u)
    (failed : ∀ m ∈ before, m.action.succeeds = false)
    (mode : ∀ m ∈ before, ∀ other, m.action = .start other → other = full)
    (repeated : Run (syncCalls settings paginator) u last v)
    (succeeded : Successful full startedAt result last)
    (answered : ∀ m ∈ last ++ before, AnsweredBy feed m) :
    SameAsAlone settings paginator feed full startedAt s v result := by
  have absorbed := failed_absorbed attempts idle failed mode
    fun m member => answered m (List.mem_append_right _ member)
  have cursor := (cursor_kept attempts failed).2
  obtain ⟨_, _, ends, maxChangedAt, stored, changed, saved⟩ := successful_call repeated succeeded
    fun m member => answered m (List.mem_append_left _ member)
  rw [cursor] at ends stored changed
  obtain ⟨events, again⟩ := @storeAll_table settings u.events s.events _ _ _ _ _ _ stored
  rw [List.nil_append] at events again
  constructor
  · obtain ⟨lone, v', result', run, success, pages⟩ :=
      call_exists full { s with now := startedAt } idle ends again
    exact ⟨lone, v', result', run, success, pages⟩
  · intro lone v' result' run success pages
    obtain ⟨_, _, _, _, stored', changed', saved'⟩ := successful_call run success pages
    have same := Option.some.inj (stored'.symm.trans again)
    simp only [Prod.mk.injEq] at same
    obtain ⟨events', count, rfl⟩ := same
    have result : result'.lastChangedAt = result.lastChangedAt := changed'.trans changed.symm
    refine ⟨?_, ?_, count, result⟩
    · rw [events', events]
      exact (absorbed startedAt).symm
    · rw [saved', saved, result]

section Sample

def sampleFeed : Feed := ⟨fun _ => ⟨none, [concert, opera]⟩, fun _ => ⟨none, []⟩⟩

theorem failed_syncs_repeated_once : ∃ before u last v result,
    Run (syncCalls sampleSyncSettings samplePaginator) idleProcess before u ∧
      (∃ m ∈ before, m.action = .recordFailure) ∧
      Run (syncCalls sampleSyncSettings samplePaginator) u last v ∧ result.syncedCount = 2 ∧
      SameAsAlone sampleSyncSettings samplePaginator sampleFeed false sampleMidnight idleProcess v
        result := by
  have start := @Run.refl _ _ (syncCalls sampleSyncSettings samplePaginator) idleProcess
  have begun := start.move (.start false rfl)
  have read := begun.move (.getMeta rfl rfl)
  have marked := read.move (.markRunning rfl rfl)
  have shown := marked.move (.page ⟨none, [concert, opera]⟩ rfl rfl)
  have broken := shown.move (.fail (.other "down") rfl rfl)
  have recorded := broken.move (.recordFailure rfl rfl (by decide))
  have begun' := recorded.restart.move (.start false rfl)
  have read' := begun'.move (.getMeta rfl rfl)
  have marked' := read'.move (.markRunning rfl rfl)
  have shown' := marked'.move (.page ⟨none, [concert, opera]⟩ rfl rfl)
  have first := shown'.move (.iterate rfl rfl)
  have second := first.move (.iterate rfl rfl)
  have ended := second.move (.iterate rfl rfl)
  have stored := ended.move (.storeLast rfl rfl rfl)
  have succeeded := stored.move (.succeed rfl rfl)
  refine ⟨_, _, _, _, _, recorded, ⟨_, List.mem_cons_self .., rfl⟩, succeeded, rfl,
    failed_syncs_repeated sampleSyncSettings samplePaginator sampleFeed false rfl recorded ?_ ?_
      succeeded ⟨_, [_, _, _, _, _, _, _], _, rfl, rfl, rfl, rfl, ?_⟩ ?_⟩
  · simp [CallAction.succeeds]
  · simp
  · simp [CallAction.starts]
  · simp [AnsweredBy, sampleFeed, Feed.page]
    constructor <;>
      (rintro _ _ _ rfl here
       cases here
       rfl)

end Sample

end EventsAggregator
