import EventsAggregator.Relational.Upserts
import EventsAggregator.Services.SyncCalls

namespace EventsAggregator

open Relational Transition

def CallAction.starts : CallAction → Bool
  | .start _ => true
  | _ => false

def CallAction.succeeds : CallAction → Bool
  | .succeed _ => true
  | _ => false

def upserted (events : Table EventORM.id) (syncedAt : Instant) (stream : List SProviderEvent) :
    Table EventORM.id :=
  events.upserts (stream.map fun event => (SyncService.toRow event syncedAt).stored)

def yieldedEvent (m : Move SyncProcess CallAction) : Option SProviderEvent :=
  match m.action, m.source.call.map SyncCall.point with
  | .iterate, some (.iterating _ (event :: _) _) => some event
  | _, _ => none

def yielded (moves : List (Move SyncProcess CallAction)) : List SProviderEvent :=
  moves.reverse.filterMap yieldedEvent

def SyncPoint.unsaved? : SyncPoint → Option (List SProviderEvent)
  | .fetching fetch _ | .iterating fetch _ _ | .storing fetch _ _ | .storingLast fetch =>
    some fetch.batch
  | .markFailure _ => none
  | _ => some []

variable {settings : SyncSettings} {paginator : EventsPaginator} {s t u : SyncProcess}
  {a : CallAction} {moves : List (Move SyncProcess CallAction)}

theorem upserted_append (events : Table EventORM.id) (syncedAt : Instant)
    (stream stream' : List SProviderEvent) : upserted events syncedAt (stream ++ stream') =
      upserted (upserted events syncedAt stream) syncedAt stream' := by
  rw [upserted, List.map_append, Table.upserts_append]
  rfl

theorem upsertMany_upserted {events events' : Table EventORM.id} {syncedAt : Instant}
    {fetch : Fetch}
    (stored : EventRepository.upsertMany events (SyncService.rows syncedAt fetch) = some events') :
    events' = upserted events syncedAt fetch.batch := by
  rw [(upsertMany_eq_some stored).2, SyncService.rows, List.map_map]
  rfl

theorem find?_upserted (events : Table EventORM.id) (syncedAt : Instant)
    {stream : List SProviderEvent} {event : SProviderEvent} (inside : event ∈ stream) :
    ∃ last ∈ stream, last.id = event.id ∧
      (upserted events syncedAt stream).find? event.id =
        some (SyncService.toRow last syncedAt).stored := by
  induction stream using List.reverseRecOn with
  | nil => cases inside
  | append_singleton init last ih =>
    have row : (upserted events syncedAt (init ++ [last])).find? event.id =
        if last.id = event.id then some (SyncService.toRow last syncedAt).stored
        else (upserted events syncedAt init).find? event.id := by
      rw [upserted, List.map_append, List.map_singleton, Table.find?_upserts_concat]
      rfl
    rw [row]
    by_cases here : last.id = event.id
    · exact ⟨last, by simp, here, if_pos here⟩
    · have before : event ∈ init := by
        rcases List.mem_append.mp inside with before | same
        · exact before
        · exact absurd (List.mem_singleton.mp same ▸ rfl) here
      obtain ⟨other, member, same, found⟩ := ih before
      exact ⟨other, List.mem_append_left _ member, same, by rw [if_neg here, found]⟩

theorem yielded_cons (m : Move SyncProcess CallAction) :
    yielded (m :: moves) = yielded moves ++ (yieldedEvent m).toList := by
  rw [yielded, List.reverse_cons, List.filterMap_append]
  cases event : yieldedEvent m <;> simp [yielded, event]

theorem yielded_silent {m : Move SyncProcess CallAction} (silent : m.action ≠ .iterate) :
    yielded (m :: moves) = yielded moves := by
  have none : yieldedEvent m = none := by
    unfold yieldedEvent
    split
    · rename_i iterates _
      exact absurd iterates silent
    · rfl
  rw [yielded_cons, none]
  simp

theorem yielded_iterate {call : SyncCall} {fetch : Fetch} {page : List SProviderEvent}
    {next : Option String} (running : s.call = some call)
    (here : call.point = .iterating fetch page next) :
    yielded (⟨s, .iterate, t⟩ :: moves) = yielded moves ++ page.head?.toList := by
  have event : yieldedEvent ⟨s, .iterate, t⟩ = page.head? := by
    simp only [yieldedEvent, running, Option.map_some, here]
    cases page <;> rfl
  rw [yielded_cons, event]

/-- What is left of one call in the events table and in its local variables: `done` are the
    events of the batches it has stored. -/
structure SyncAttempt (full : Bool) (startedAt : Instant) (events : Table EventORM.id)
    (moves : List (Move SyncProcess CallAction)) (s : SyncProcess) (done : List SProviderEvent) :
    Prop where
  stored : s.events = upserted events startedAt done
  yielded : done <+: yielded moves
  call : ∀ call, s.call = some call → call.full = full ∧ call.startedAt = startedAt
  unsaved : ∀ call batch, s.call = some call → call.point.unsaved? = some batch →
    EventsAggregator.yielded moves = done ++ batch

section SyncAttempt

variable {full : Bool} {startedAt : Instant} {events : Table EventORM.id}
  {done : List SProviderEvent} {call : SyncCall}

theorem SyncAttempt.moved (attempt : SyncAttempt full startedAt events moves s done)
    (running : s.call = some call) (silent : a ≠ .iterate) {point : SyncPoint}
    (stored : t.events = s.events) (call' : t.call = some { call with point })
    (unsaved : point.unsaved? = none ∨ point.unsaved? = call.point.unsaved?) :
    SyncAttempt full startedAt events (⟨s, a, t⟩ :: moves) t done where
  stored := by rw [stored, attempt.stored]
  yielded := by
    rw [yielded_silent silent]
    exact attempt.yielded
  call := by
    intro other found
    rw [call'] at found
    cases found
    exact attempt.call call running
  unsaved := by
    intro other batch found waiting
    rw [call'] at found
    cases found
    rw [yielded_silent silent]
    rcases unsaved with none | same
    · rw [none] at waiting
      cases waiting
    · exact attempt.unsaved call batch running (same ▸ waiting)

theorem SyncAttempt.ended (attempt : SyncAttempt full startedAt events moves s done)
    (silent : a ≠ .iterate) (stored : t.events = s.events) (free : t.call = none) :
    SyncAttempt full startedAt events (⟨s, a, t⟩ :: moves) t done where
  stored := by rw [stored, attempt.stored]
  yielded := by
    rw [yielded_silent silent]
    exact attempt.yielded
  call := by
    intro other found
    rw [free] at found
    cases found
  unsaved := by
    intro other _ found
    rw [free] at found
    cases found

theorem SyncAttempt.saved (attempt : SyncAttempt full startedAt events moves s done)
    (running : s.call = some call) (silent : a ≠ .iterate) {fetch : Fetch} {point : SyncPoint}
    (waiting : call.point.unsaved? = some fetch.batch)
    (stored : EventRepository.upsertMany s.events (SyncService.rows call.startedAt fetch) =
      some t.events) (call' : t.call = some { call with point })
    (empty : point.unsaved? = none ∨ point.unsaved? = some []) :
    SyncAttempt full startedAt events (⟨s, a, t⟩ :: moves) t (done ++ fetch.batch) := by
  have all : EventsAggregator.yielded (⟨s, a, t⟩ :: moves) = done ++ fetch.batch :=
    (yielded_silent silent).trans (attempt.unsaved call fetch.batch running waiting)
  obtain ⟨sameFull, sameStart⟩ := attempt.call call running
  refine ⟨?_, ?_, ?_, ?_⟩
  · rw [upsertMany_upserted stored, attempt.stored, sameStart, upserted_append]
  · exact ⟨[], by rw [List.append_nil, all]⟩
  · intro other found
    rw [call'] at found
    cases found
    exact ⟨sameFull, sameStart⟩
  · intro other batch found waiting
    rw [call'] at found
    cases found
    rw [all]
    rcases empty with none | empty
    · rw [none] at waiting
      cases waiting
    · rw [empty] at waiting
      cases waiting
      simp

theorem iterate_unsaved (now : Instant) (fetch : Fetch) (next : Option String)
    (page : List SProviderEvent) :
    (SyncService.iterate settings paginator now fetch next page).unsaved? = none ∨
      (SyncService.iterate settings paginator now fetch next page).unsaved? =
        some (fetch.batch ++ page.head?.toList) := by
  cases page with
  | cons event page =>
    right
    simp only [SyncService.iterate]
    split <;> rfl
  | nil =>
    simp only [SyncService.iterate, List.head?_nil, Option.toList_none, List.append_nil]
    split
    · exact Or.inl rfl
    · exact Or.inr rfl
    · split
      · rename_i empty
        right
        rw [List.isEmpty_iff.mp empty]
        rfl
      · exact Or.inr rfl

theorem SyncAttempt.iterated (attempt : SyncAttempt full startedAt events moves s done)
    (running : s.call = some call) {fetch : Fetch} {page : List SProviderEvent}
    {next : Option String} (here : call.point = .iterating fetch page next) :
    SyncAttempt full startedAt events
      (⟨s, .iterate, { s with
        call := some { call with
          point := SyncService.iterate settings paginator s.now fetch next page } }⟩ :: moves)
      { s with
        call := some { call with
          point := SyncService.iterate settings paginator s.now fetch next page } } done := by
  have waiting := attempt.unsaved call fetch.batch running (by rw [here]; rfl)
  refine ⟨attempt.stored, ?_, ?_, ?_⟩
  · rw [yielded_cons]
    exact attempt.yielded.trans (List.prefix_append _ _)
  · intro other found
    cases found
    exact attempt.call call running
  · intro other batch found taken
    cases found
    rw [yielded_iterate running here, waiting, List.append_assoc]
    rcases @iterate_unsaved settings paginator s.now fetch next page with none | some
    · rw [none] at taken
      cases taken
    · rw [some] at taken
      cases taken
      rfl

theorem sync_attempt_step (attempt : SyncAttempt full startedAt events moves s done)
    (step : CallStep settings paginator s a t) (inside : a.starts = false) :
    ∃ done', SyncAttempt full startedAt events (⟨s, a, t⟩ :: moves) t done' := by
  cases step with
  | tick now =>
    rcases Option.eq_none_or_eq_some s.call with free | ⟨call, running⟩
    · exact ⟨done, attempt.ended (by simp) rfl free⟩
    · exact ⟨done, attempt.moved running (by simp) rfl running (Or.inr rfl)⟩
  | start => cases inside
  | getMeta running here =>
    exact ⟨done, attempt.moved running (by simp) rfl rfl (Or.inr (by rw [here]; rfl))⟩
  | markRunning running here =>
    exact ⟨done, attempt.moved running (by simp) rfl rfl (Or.inr (by rw [here]; rfl))⟩
  | page page running here =>
    exact ⟨done, attempt.moved running (by simp) rfl rfl (Or.inr (by rw [here]; rfl))⟩
  | iterate running here => exact ⟨done, attempt.iterated running here⟩
  | store running here stored =>
    exact ⟨_, attempt.saved running (by simp) (by rw [here]; rfl) stored rfl (Or.inr rfl)⟩
  | storeLast running here stored =>
    exact ⟨_, attempt.saved running (by simp) (by rw [here]; rfl) stored rfl (Or.inr rfl)⟩
  | storeLastLost error running here stored =>
    exact ⟨_, attempt.saved running (by simp) (by rw [here]; rfl) stored rfl (Or.inl rfl)⟩
  | fail error running _ =>
    exact ⟨done, attempt.moved running (by simp) rfl rfl (Or.inl rfl)⟩
  | succeed => exact ⟨done, attempt.ended (by simp) rfl rfl⟩
  | recordFailure => exact ⟨done, attempt.ended (by simp) rfl rfl⟩
  | abandon => exact ⟨done, attempt.ended (by simp) rfl rfl⟩

end SyncAttempt

theorem sync_attempt_started (s : SyncProcess) (full : Bool) :
    SyncAttempt full s.now s.events [] { s with call := some ⟨full, s.now, .getMeta⟩ } [] where
  stored := rfl
  yielded := List.nil_prefix
  call := by
    intro call found
    cases found
    exact ⟨rfl, rfl⟩
  unsaved := by
    intro call batch found waiting
    cases found
    cases waiting
    rfl

theorem sync_attempt_run {full : Bool} {startedAt : Instant} {events : Table EventORM.id}
    (run : Run (syncCalls settings paginator) s moves t)
    (inside : ∀ m ∈ moves, m.action.starts = false)
    (attempt : SyncAttempt full startedAt events [] s []) :
    ∃ done, SyncAttempt full startedAt events moves t done := by
  induction run with
  | refl => exact ⟨[], attempt⟩
  | move run step ih =>
    obtain ⟨last, before⟩ := List.forall_mem_cons.mp inside
    obtain ⟨done, attempt⟩ := ih before
    exact sync_attempt_step attempt step last

theorem call_carried (step : CallStep settings paginator s a t) (inside : a.starts = false)
    {call : SyncCall} (found : t.call = some call) :
    ∃ earlier, s.call = some earlier ∧ earlier.full = call.full := by
  cases step with
  | tick => exact ⟨call, found, rfl⟩
  | start => cases inside
  | getMeta running | markRunning running | page _ running | iterate running | store running
  | storeLast running | storeLastLost _ running | fail _ running =>
    cases found
    exact ⟨_, running, rfl⟩
  | succeed | recordFailure | abandon => cases found

theorem call_started (run : Run (syncCalls settings paginator) s moves t) (idle : s.call = none)
    {call : SyncCall} (running : t.call = some call) :
    ∃ current start past full, moves = current ++ start :: past ∧
      start.action = .start full ∧ ∀ m ∈ current, m.action.starts = false := by
  have started : t.call.isSome → ∃ current start past full, moves = current ++ start :: past ∧
      start.action = .start full ∧ ∀ m ∈ current, m.action.starts = false := by
    refine run.history (I := fun moves t => t.call.isSome → ∃ current start past full,
      moves = current ++ start :: past ∧ start.action = .start full ∧
        ∀ m ∈ current, m.action.starts = false) (fun moves t a u _ before step some => ?_) ?_
    · by_cases starts : a.starts = true
      · cases a with
        | start full => exact ⟨[], _, moves, full, rfl, rfl, by simp⟩
        | _ => cases starts
      · have inside : a.starts = false := by simpa using starts
        obtain ⟨call, found⟩ := Option.isSome_iff_exists.mp some
        obtain ⟨earlier, running, _⟩ := call_carried step inside found
        obtain ⟨current, start, past, full, rfl, action, others⟩ := before (by simp [running])
        refine ⟨⟨t, a, u⟩ :: current, start, past, full, rfl, action, ?_⟩
        exact List.forall_mem_cons.mpr ⟨inside, others⟩
    · simp [idle]
  exact started (by simp [running])

theorem step_start {full : Bool} (step : CallStep settings paginator s (.start full) t) :
    s.call = none ∧ t = { s with call := some ⟨full, s.now, .getMeta⟩ } := by
  cases step with
  | start _ free => exact ⟨free, rfl⟩

theorem start_split {current past : List (Move SyncProcess CallAction)}
    {source target : SyncProcess} {full : Bool} (run : Run (syncCalls settings paginator) s
      (current ++ ⟨source, .start full, target⟩ :: past) t) :
    Run (syncCalls settings paginator) s past source ∧ source.call = none ∧
      target = { source with call := some ⟨full, source.now, .getMeta⟩ } ∧
      Run (syncCalls settings paginator)
        { source with call := some ⟨full, source.now, .getMeta⟩ } current t := by
  obtain ⟨before, started, after⟩ := run.split
  have free : source.call = none := (step_start started).1
  have begun : target = { source with call := some ⟨full, source.now, .getMeta⟩ } :=
    (step_start started).2
  subst begun
  exact ⟨before, free, rfl, after⟩

theorem call_begun (run : Run (syncCalls settings paginator) s moves t) (idle : s.call = none)
    {call : SyncCall} (running : t.call = some call) :
    ∃ current source past full, moves = current ++ ⟨source, .start full,
        { source with call := some ⟨full, source.now, .getMeta⟩ }⟩ :: past ∧
      (∀ m ∈ current, m.action.starts = false) ∧
      Run (syncCalls settings paginator)
        { source with call := some ⟨full, source.now, .getMeta⟩ } current t := by
  obtain ⟨current, ⟨source, _, target⟩, past, full, rfl, rfl, inside⟩ :=
    call_started run idle running
  obtain ⟨_, _, rfl, ran⟩ := start_split run
  exact ⟨current, source, past, full, rfl, inside, ran⟩

/-- The cursor moves in the commit of `mark_success` only. -/
theorem step_cursor (step : CallStep settings paginator s a t) :
    (t.lastSyncTime = s.lastSyncTime ∧ t.lastChangedAt = s.lastChangedAt) ∨
      ∃ result, a = .succeed result ∧ t.lastSyncTime = some result.finishedAt ∧
        t.lastChangedAt = some result.lastChangedAt := by
  cases step with
  | getMeta =>
    left
    unfold SyncProcess.lastSyncTime SyncProcess.lastChangedAt
    cases s.metadata <;> simp [SyncMetadataRepository.get]
  | markRunning =>
    left
    unfold SyncProcess.lastSyncTime SyncProcess.lastChangedAt
    cases s.metadata <;> simp [SyncMetadataRepository.markRunning, SyncMetadataRepository.get]
  | recordFailure =>
    left
    unfold SyncProcess.lastSyncTime SyncProcess.lastChangedAt
    cases s.metadata <;> simp [SyncMetadataRepository.markFailure, SyncMetadataRepository.get]
  | succeed => exact Or.inr ⟨_, rfl, rfl, rfl⟩
  | _ => exact Or.inl ⟨rfl, rfl⟩

/-- What the call that succeeds in a move was given is stored: `current` are its own moves. -/
structure StoredBefore (m : Move SyncProcess CallAction) (result : SyncResult)
    (current : List (Move SyncProcess CallAction)) (start : Move SyncProcess CallAction) :
    Prop where
  started : start.action = .start result.full ∧ start.source.now = result.startedAt
  inside : ∀ n ∈ current, n.action.starts = false
  events : m.source.events = upserted start.source.events result.startedAt (yielded current)
  rows : ∀ event ∈ yielded current, ∃ last ∈ yielded current, last.id = event.id ∧
    m.source.events.find? event.id = some (SyncService.toRow last result.startedAt).stored

structure CursorBehindData (settings : SyncSettings) (paginator : EventsPaginator)
    (s : SyncProcess) (moves : List (Move SyncProcess CallAction)) (t : SyncProcess) : Prop where
  together : ∀ u, Visited moves t u → u.lastSyncTime.isSome = u.lastChangedAt.isSome
  changed : ∀ m ∈ moves, m.target.lastSyncTime ≠ m.source.lastSyncTime ∨
    m.target.lastChangedAt ≠ m.source.lastChangedAt →
      ∃ result, m.action = .succeed result ∧ m.target.lastSyncTime = some result.finishedAt ∧
        m.target.lastChangedAt = some result.lastChangedAt
  stored : ∀ later m earlier result, moves = later ++ m :: earlier → m.action = .succeed result →
    ∃ current start past, earlier = current ++ start :: past ∧
      StoredBefore m result current start
  unchanged : ∀ later part earlier u v, moves = later ++ part ++ earlier →
    Run (syncCalls settings paginator) s earlier u → Run (syncCalls settings paginator) u part v →
    (∀ m ∈ part, m.action.succeeds = false) →
      v.lastSyncTime = u.lastSyncTime ∧ v.lastChangedAt = u.lastChangedAt

theorem cursor_kept (run : Run (syncCalls settings paginator) s moves t)
    (unsuccessful : ∀ m ∈ moves, m.action.succeeds = false) :
    t.lastSyncTime = s.lastSyncTime ∧ t.lastChangedAt = s.lastChangedAt := by
  apply run.guarded (I := fun u => u.lastSyncTime = s.lastSyncTime ∧
    u.lastChangedAt = s.lastChangedAt) (G := fun m => m.action.succeeds = false) _ unsuccessful
    ⟨rfl, rfl⟩
  rintro t a u ⟨synced, changed⟩ unsuccessful step
  rcases step_cursor step with ⟨synced', changed'⟩ | ⟨result, rfl, _⟩
  · exact ⟨synced'.trans synced, changed'.trans changed⟩
  · cases unsuccessful

theorem cursor_together (run : Run (syncCalls settings paginator) s moves t)
    (initial : s.lastSyncTime.isSome = s.lastChangedAt.isSome) :
    t.lastSyncTime.isSome = t.lastChangedAt.isSome := by
  apply run.invariant (I := fun u => u.lastSyncTime.isSome = u.lastChangedAt.isSome) _ initial
  intro t a u both step
  rcases step_cursor step with ⟨synced, changed⟩ | ⟨_, _, synced, changed⟩
  · rw [synced, changed, both]
  · rw [synced, changed]
    rfl

theorem succeed_stored {result : SyncResult} {past : List (Move SyncProcess CallAction)}
    (run : Run (syncCalls settings paginator) s past t) (idle : s.call = none)
    (step : CallStep settings paginator t (.succeed result) u) :
    ∃ current start earlier, past = current ++ start :: earlier ∧
      StoredBefore ⟨t, .succeed result, u⟩ result current start := by
  cases step with
  | @succeed call fetch finishedAt running here =>
    obtain ⟨current, source, earlier, full, rfl, inside, ran⟩ := call_begun run idle running
    obtain ⟨done, attempt⟩ := sync_attempt_run ran inside (sync_attempt_started source full)
    obtain ⟨sameFull, sameStart⟩ := attempt.call call running
    have all := attempt.unsaved call [] running (by rw [here]; rfl)
    rw [List.append_nil] at all
    refine ⟨current, _, earlier, rfl, ⟨?_, ?_⟩, inside, ?_, ?_⟩
    · rw [sameFull]
    · exact sameStart.symm
    · rw [all, sameStart]
      exact attempt.stored
    · intro event member
      rw [all] at member ⊢
      change ∃ last ∈ done, _ ∧ t.events.find? _ = _
      rw [attempt.stored, sameStart]
      exact find?_upserted _ _ member

theorem cursor_never_ahead {settings : SyncSettings} {paginator : EventsPaginator}
    {s t : SyncProcess} {moves : List (Move SyncProcess CallAction)}
    (initial : (syncCalls settings paginator).Initial s)
    (run : Run (syncCalls settings paginator) s moves t) :
    CursorBehindData settings paginator s moves t where
  together := by
    rintro u (rfl | ⟨m, member, rfl⟩)
    · exact cursor_together run initial.2
    · obtain ⟨_, _, _, before, _, _⟩ := run.cut member
      exact cursor_together before initial.2
  changed := by
    intro m member moved
    rcases step_cursor (run.step_of_mem member) with ⟨synced, changed⟩ | succeeded
    · rcases moved with moved | moved
      · exact absurd synced moved
      · exact absurd changed moved
    · exact succeeded
  stored := by
    rintro later ⟨source, _, target⟩ earlier result rfl rfl
    obtain ⟨before, step, _⟩ := run.split
    exact succeed_stored before initial.1 step
  unchanged := fun _ _ _ _ _ _ _ ran unsuccessful => cursor_kept ran unsuccessful

section Sample

def idleProcess : SyncProcess :=
  { now := sampleMidnight, events := .empty, metadata := none, call := none }

theorem cursor_never_ahead_concert : ∃ moves t,
    (syncCalls sampleSyncSettings samplePaginator).Initial idleProcess ∧
      Run (syncCalls sampleSyncSettings samplePaginator) idleProcess moves t ∧
      t.lastChangedAt = some concert.changedAt ∧
      CursorBehindData sampleSyncSettings samplePaginator idleProcess moves t := by
  have start := @Run.refl _ _ (syncCalls sampleSyncSettings samplePaginator) idleProcess
  have begun := start.move (.start false rfl)
  have read := begun.move (.getMeta rfl rfl)
  have marked := read.move (.markRunning rfl rfl)
  have shown := marked.move (.page ⟨none, [concert]⟩ rfl rfl)
  have taken := shown.move (.iterate rfl rfl)
  have ended := taken.move (.iterate rfl rfl)
  have stored := ended.move (.storeLast rfl rfl rfl)
  have succeeded := stored.move (.succeed rfl rfl)
  exact ⟨_, _, ⟨rfl, rfl⟩, succeeded, rfl, cursor_never_ahead ⟨rfl, rfl⟩ succeeded⟩

end Sample

end EventsAggregator
