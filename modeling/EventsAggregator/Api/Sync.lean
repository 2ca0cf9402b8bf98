import EventsAggregator.Api.ExceptionHandlers
import EventsAggregator.Services.SyncCallers

namespace EventsAggregator

open Relational Transition

structure SSyncResultRead where
  syncedCount : Nat
  startedAt : Instant
  finishedAt : Instant
  lastChangedAt : Instant
  full : Bool

def SSyncResultRead.json (serialize : Instant → String) (read : SSyncResultRead) : Json :=
  .obj [("synced_count", .number (toString read.syncedCount)),
    ("started_at", .str (serialize read.startedAt)),
    ("finished_at", .str (serialize read.finishedAt)),
    ("last_changed_at", .str (serialize read.lastChangedAt)), ("full", .bool read.full)]

def SyncResult.toRead (result : SyncResult) : SSyncResultRead where
  syncedCount := result.syncedCount
  startedAt := result.startedAt
  finishedAt := result.finishedAt
  lastChangedAt := result.lastChangedAt
  full := result.full

def triggerSync (serialize : Instant → String) : SyncOutcome → Option ApiResponse
  | .returned result => some ⟨200, [], .json (result.toRead.json serialize)⟩
  | .alreadyRunning => some (detailResponse 409 "Sync is already running" [])
  | .raised error => some (handleException error)
  | .cancelled => none

def storedBy (i : Nat) (m : Move SyncCallers CallersAction) : Nat :=
  match m.action with
  | .proceed j .store | .proceed j .storeLast =>
    if j = i then
      match m.source.entries i with
      | some ⟨_, .inside call⟩ =>
        match call.point.fetch? with
        | some fetch => fetch.batch.length
        | none => 0
      | _ => 0
    else 0
  | _ => 0

def storedIn (i : Nat) (moves : List (Move SyncCallers CallersAction)) : Nat :=
  (moves.map (storedBy i)).sum

def Counted (stored : Nat) (point : SyncPoint) : Prop :=
  match point.fetch? with
  | some fetch => fetch.total = stored
  | none => (∃ error, point = .markFailure error) ∨ stored = 0

def SyncCallers.Reports (s : SyncCallers) (result : SyncResult) : Prop :=
  s.metadata = some
    { lastSyncTime := some result.finishedAt, lastChangedAt := some result.lastChangedAt,
      syncStatus := .success, lastError := none, updatedAt := s.now }

def Begun (moves : List (Move SyncCallers CallersAction)) (i : Nat) (caller : SyncCaller)
    (startedAt : Instant) : Prop :=
  ∃ m ∈ moves, m.action = .call i caller ∧ m.source.now = startedAt

/-- The move in which the call of a caller ends with this very exception. -/
def Failed (moves : List (Move SyncCallers CallersAction)) (i : Nat) (caller : SyncCaller)
    (error : Raised) : Prop :=
  ∃ m ∈ moves, ∃ call a, m.source.entries i = some ⟨caller, .inside call⟩ ∧
    m.action = .finish i a (.raised error) ∧ a.Ends call (.raised error) ∧
    m.target.entries i = some ⟨caller, .finished (.raised error)⟩ ∧
    Begun moves i caller call.startedAt

/-- What has happened to a caller that stands there. -/
def Traced (moves : List (Move SyncCallers CallersAction)) (i : Nat) (caller : SyncCaller) :
    SyncStage → Prop
  | .waiting => False
  | .inside call => Begun moves i caller call.startedAt ∧ call.full = caller.full ∧
      Counted (storedIn i moves) call.point
  | .finished (.returned result) => Begun moves i caller result.startedAt ∧
      result.full = caller.full ∧ result.syncedCount = storedIn i moves ∧
      ∃ m ∈ moves, m.target.Reports result
  | .finished .alreadyRunning => ∃ m ∈ moves, m.action = .call i caller ∧
      (∃ j, m.source.Inside j) ∧ m.target = m.source.setEntry i caller (.finished .alreadyRunning)
  | .finished (.raised error) => Failed moves i caller error
  | .finished .cancelled => True

variable {settings : SyncSettings} {paginator : EventsPaginator} {s t : SyncCallers}
  {a : CallersAction} {moves : List (Move SyncCallers CallersAction)} {i : Nat}
  {caller : SyncCaller} {stage : SyncStage}

theorem storedIn_cons (i : Nat) (m : Move SyncCallers CallersAction)
    (moves : List (Move SyncCallers CallersAction)) :
    storedIn i (m :: moves) = storedBy i m + storedIn i moves := by
  simp [storedIn]

theorem storedBy_other {m : Move SyncCallers CallersAction}
    (other : ∀ a, m.action ≠ .proceed i a) : storedBy i m = 0 := by
  unfold storedBy
  split
  all_goals try rfl
  all_goals
    rename_i j here
    apply if_neg
    rintro rfl
    exact other _ here

theorem Begun.later {startedAt : Instant} (begun : Begun moves i caller startedAt)
    (m : Move SyncCallers CallersAction) : Begun (m :: moves) i caller startedAt := by
  obtain ⟨n, member, called⟩ := begun
  exact ⟨n, List.mem_cons_of_mem _ member, called⟩

theorem Traced.later (traced : Traced moves i caller stage) {m : Move SyncCallers CallersAction}
    (other : ∀ a, m.action ≠ .proceed i a) : Traced (m :: moves) i caller stage := by
  have same : storedIn i (m :: moves) = storedIn i moves := by
    rw [storedIn_cons, storedBy_other other, Nat.zero_add]
  cases stage with
  | waiting => exact traced
  | inside call =>
    obtain ⟨started, full, counted⟩ := traced
    exact ⟨started.later m, full, same ▸ counted⟩
  | finished outcome =>
    cases outcome with
    | returned result =>
      obtain ⟨started, full, counted, n, member, reports⟩ := traced
      exact ⟨started.later m, full, same ▸ counted, n, List.mem_cons_of_mem _ member, reports⟩
    | alreadyRunning =>
      obtain ⟨n, member, refused⟩ := traced
      exact ⟨n, List.mem_cons_of_mem _ member, refused⟩
    | raised error =>
      obtain ⟨n, member, call, a, inside, ended, raises, left, started⟩ := traced
      exact ⟨n, List.mem_cons_of_mem _ member, call, a, inside, ended, raises, left,
        started.later m⟩
    | cancelled => trivial

theorem iterate_counted {stored : Nat} {fetch : Fetch} (now : Instant) (next : Option String)
    (page : List SProviderEvent) (counted : fetch.total = stored) :
    Counted stored (SyncService.iterate settings paginator now fetch next page) := by
  cases page with
  | cons event page =>
    simp only [SyncService.iterate]
    split
    · exact counted
    · exact counted
  | nil =>
    simp only [SyncService.iterate]
    split
    · exact Or.inl ⟨_, rfl⟩
    · exact counted
    · split
      · exact counted
      · exact counted

def CallAction.stores (call : SyncCall) : CallAction → Nat
  | .store | .storeLast =>
    match call.point.fetch? with
    | some fetch => fetch.batch.length
    | none => 0
  | _ => 0

theorem proceed_counted {s p : SyncProcess} {a : CallAction} {call call' : SyncCall} {stored : Nat}
    (step : CallStep settings paginator s a p) (running : s.call = some call)
    (goes : p.call = some call') (counted : Counted stored call.point) :
    call'.startedAt = call.startedAt ∧ call'.full = call.full ∧
      Counted (a.stores call + stored) call'.point := by
  cases step with
  | tick now =>
    cases running.symm.trans goes
    exact ⟨rfl, rfl, (Nat.zero_add stored).symm ▸ counted⟩
  | start full free =>
    rw [running] at free
    cases free
  | getMeta found here | markRunning found here =>
    cases running.symm.trans found
    cases goes
    rw [here] at counted
    obtain ⟨_, same⟩ | none := counted
    · cases same
    · refine ⟨rfl, rfl, ?_⟩
      simp [CallAction.stores, Counted, SyncPoint.fetch?, none]
  | page page found here =>
    cases running.symm.trans found
    cases goes
    rw [here] at counted
    exact ⟨rfl, rfl, (Nat.zero_add stored).symm ▸ counted⟩
  | iterate found here =>
    cases running.symm.trans found
    cases goes
    rw [here] at counted
    exact ⟨rfl, rfl, (Nat.zero_add stored).symm ▸ iterate_counted _ _ _ counted⟩
  | store found here | storeLast found here =>
    cases running.symm.trans found
    cases goes
    refine ⟨rfl, rfl, ?_⟩
    simp only [CallAction.stores, here, Counted, SyncPoint.fetch?, SyncService.stored] at counted ⊢
    rw [counted, Nat.add_comm]
  | storeLastLost error found here | fail error found here =>
    cases running.symm.trans found
    cases goes
    exact ⟨rfl, rfl, Or.inl ⟨error, rfl⟩⟩
  | succeed | recordFailure | abandon => cases goes

theorem succeed_reports {s p : SyncProcess} {call : SyncCall} {result : SyncResult} {stored : Nat}
    (step : CallStep settings paginator s (.succeed result) p) (running : s.call = some call)
    (counted : Counted stored call.point) :
    result.startedAt = call.startedAt ∧ result.full = call.full ∧ result.syncedCount = stored ∧
      p.metadata = some
        { lastSyncTime := some result.finishedAt, lastChangedAt := some result.lastChangedAt,
          syncStatus := .success, lastError := none, updatedAt := s.now } := by
  cases step with
  | succeed found here =>
    cases running.symm.trans found
    rw [here] at counted
    exact ⟨rfl, rfl, counted, rfl⟩

structure AllTraced (moves : List (Move SyncCallers CallersAction)) (s : SyncCallers) : Prop where
  traced : ∀ i caller stage, s.entries i = some ⟨caller, stage⟩ → Traced moves i caller stage
  fresh : ∀ i, s.entries i = none → storedIn i moves = 0

theorem AllTraced.setEntry (all : AllTraced moves s)
    (entries : t.entries = (s.setEntry i caller stage).entries)
    (acting : Traced (⟨s, a, t⟩ :: moves) i caller stage)
    (others : ∀ j, j ≠ i → ∀ b, a ≠ .proceed j b) : AllTraced (⟨s, a, t⟩ :: moves) t where
  traced := by
    intro j caller' stage' found
    rw [entries, setEntry_entries] at found
    split at found
    · rename_i here
      subst here
      cases found
      exact acting
    · rename_i other
      exact (all.traced j caller' stage' found).later (others j other)
  fresh := by
    intro j absent
    rw [entries, setEntry_entries] at absent
    split at absent
    · cases absent
    · rename_i other
      rw [storedIn_cons, storedBy_other (others j other), all.fresh j absent]

theorem AllTraced.idle (all : AllTraced moves s) (idle : ∀ j b, a ≠ .proceed j b)
    (entries : ∀ i caller stage, t.entries i = some ⟨caller, stage⟩ →
      s.entries i = some ⟨caller, stage⟩ ∨ stage = .finished .cancelled)
    (absent : ∀ i, t.entries i = none → s.entries i = none) :
    AllTraced (⟨s, a, t⟩ :: moves) t where
  traced := by
    intro i caller stage found
    rcases entries i caller stage found with same | rfl
    · exact (all.traced i caller stage same).later (idle i)
    · trivial
  fresh := by
    intro i gone
    rw [storedIn_cons, storedBy_other (idle i), all.fresh i (absent i gone)]

theorem proceed_traced {call call' : SyncCall} {b : CallAction} {p : SyncProcess}
    (traced : Traced moves i caller (.inside call))
    (found : s.entries i = some ⟨caller, .inside call⟩)
    (step : CallStep settings paginator (s.process call) b p) (goes : p.call = some call')
    (acting : a = .proceed i b) : Traced (⟨s, a, t⟩ :: moves) i caller (.inside call') := by
  obtain ⟨begun, full, counted⟩ := traced
  obtain ⟨started, kept, counted'⟩ := proceed_counted step rfl goes counted
  have adds : storedBy i ⟨s, a, t⟩ = b.stores call := by
    rw [acting]
    cases b <;> simp [storedBy, CallAction.stores, found]
  refine ⟨started ▸ begun.later _, kept.trans full, ?_⟩
  rw [storedIn_cons, adds]
  exact counted'

theorem finish_traced {call : SyncCall} {b : CallAction} {p : SyncProcess} {outcome : SyncOutcome}
    (traced : Traced moves i caller (.inside call))
    (found : s.entries i = some ⟨caller, .inside call⟩)
    (step : CallStep settings paginator (s.process call) b p) (ends : b.Ends call outcome)
    {lock : Asyncio.Lock Nat}
    (target : t = { (s.written p).setEntry i caller (.finished outcome) with lock }) :
    Traced (⟨s, .finish i b outcome, t⟩ :: moves) i caller (.finished outcome) := by
  obtain ⟨begun, full, counted⟩ := traced
  subst target
  cases outcome with
  | returned result =>
    cases ends_returned ends
    obtain ⟨started, kept, count, metadata⟩ := succeed_reports step rfl counted
    refine ⟨started ▸ begun.later _, kept.trans full, ?_, _, List.mem_cons_self, metadata⟩
    rw [storedIn_cons, storedBy_other (by simp), count, Nat.zero_add]
  | alreadyRunning => exact (not_ends_refused ends).elim
  | raised error =>
    exact ⟨_, List.mem_cons_self, call, b, found, rfl, ends, Function.update_self .., begun.later _⟩
  | cancelled => trivial

theorem all_traced_step (all : AllTraced moves s)
    {holder : Option (Nat × SyncCaller × SyncCall)} (guarded : Guarded s holder)
    (step : CallersStep settings paginator s a t) : AllTraced (⟨s, a, t⟩ :: moves) t := by
  have own : ∀ {b i}, (∀ j c, CallersAction.proceed j c = b → j = i) →
      ∀ j, j ≠ i → ∀ c, b ≠ .proceed j c := fun only j other c same => other (only j c same.symm)
  have none_waits : ∀ {i caller}, s.entries i = some ⟨caller, .waiting⟩ → False :=
    fun found => guarded.served _ _ found
  cases step with
  | tick now => exact all.idle (by simp) (fun _ _ _ found => Or.inl found) (fun _ gone => gone)
  | @refuse i caller fresh locked =>
    have here : Traced
        (⟨s, .call i caller, s.setEntry i caller (.finished .alreadyRunning)⟩ :: moves) i caller
        (.finished .alreadyRunning) :=
      ⟨_, List.mem_cons_self, rfl, guarded.locked_iff.mp locked, rfl⟩
    exact all.setEntry rfl here (by simp)
  | @enter i lock caller fresh unlocked acquired =>
    let began : SyncStage := .inside ⟨caller.full, s.now, .getMeta⟩
    have none : storedIn i (⟨s, .call i caller, { s.setEntry i caller began with lock }⟩ :: moves) =
        0 := by
      rw [storedIn_cons, storedBy_other (by simp), all.fresh i fresh]
    have here : Traced (⟨s, .call i caller, { s.setEntry i caller began with lock }⟩ :: moves)
        i caller began := ⟨⟨_, List.mem_cons_self, rfl, rfl⟩, rfl, Or.inr none⟩
    exact all.setEntry rfl here (by simp)
  | @wait i caller fresh unlocked queued =>
    have nobody := guarded.free unlocked
    subst nobody
    rw [guarded.lock] at queued
    cases queued
  | granted found | cancelWaiting found | giveUp found => exact (none_waits found).elim
  | proceed found step _ goes =>
    exact all.setEntry rfl (proceed_traced (all.traced _ _ _ found) found step goes rfl)
      (own fun j c same => by cases same; rfl)
  | finish found step ends =>
    exact all.setEntry rfl (finish_traced (all.traced _ _ _ found) found step ends rfl) (by simp)
  | restart =>
    apply all.idle (by simp)
    · intro i caller stage found
      obtain ⟨⟨caller', stage'⟩, here, same⟩ := Option.map_eq_some_iff.mp found
      cases stage' with
      | finished outcome =>
        cases same
        exact Or.inl here
      | waiting | inside call =>
        cases same
        exact Or.inr rfl
    · intro i gone
      exact Option.map_eq_none_iff.mp gone

theorem all_traced_run (initial : (syncCallers settings paginator).Initial s)
    (run : Run (syncCallers settings paginator) s moves t) : AllTraced moves t := by
  apply run.history (I := AllTraced)
  · intro moves t a u before all step
    obtain ⟨_, guarded⟩ := guarded_run initial before
    exact all_traced_step all guarded step
  · exact ⟨fun i caller stage found => by simp [initial.2.1] at found, fun i _ => rfl⟩

/-- What `POST /sync/trigger` answers, and what stands behind it. -/
inductive TriggerAnswer (serialize : Instant → String)
    (moves : List (Move SyncCallers CallersAction)) (i : Nat) (full : Bool) : ApiResponse → Prop
  | synced (result : SyncResult) (asked : result.full = full)
      (begun : Begun moves i (.triggerSync full) result.startedAt)
      (counted : result.syncedCount = storedIn i moves)
      (reported : ∃ m ∈ moves, m.target.Reports result) :
      TriggerAnswer serialize moves i full ⟨200, [], .json (result.toRead.json serialize)⟩
  | refused (m : Move SyncCallers CallersAction) (member : m ∈ moves)
      (called : m.action = .call i (.triggerSync full)) (running : ∃ j, m.source.Inside j)
      (untouched : m.target = m.source.setEntry i (.triggerSync full) (.finished .alreadyRunning)) :
      TriggerAnswer serialize moves i full (detailResponse 409 "Sync is already running" [])
  | failed (error : Raised) (raised : Failed moves i (.triggerSync full) error)
      (failure : 400 ≤ (handleException error).statusCode) :
      TriggerAnswer serialize moves i full (handleException error)

theorem trigger_sync_truthful {serialize : Instant → String} {full : Bool} {outcome : SyncOutcome}
    {response : ApiResponse} (initial : (syncCallers settings paginator).Initial s)
    (run : Run (syncCallers settings paginator) s moves t)
    (finished : t.entries i = some ⟨.triggerSync full, .finished outcome⟩)
    (sent : triggerSync serialize outcome = some response) :
    TriggerAnswer serialize moves i full response := by
  have traced := (all_traced_run initial run).traced i _ _ finished
  cases outcome with
  | returned result =>
    cases sent
    obtain ⟨begun, asked, counted, reported⟩ := traced
    exact .synced result asked begun counted reported
  | alreadyRunning =>
    cases sent
    obtain ⟨m, member, called, running, untouched⟩ := traced
    exact .refused m member called running untouched
  | raised error =>
    cases sent
    exact .failed error traced (handled_failure error)
  | cancelled => cases sent

/-- A sync that is triggered while the scheduled one is running. -/
theorem trigger_sync_truthful_refused : ∃ (moves : List (Move SyncCallers CallersAction))
    (t : SyncCallers) (response : ApiResponse),
    Run (syncCallers sampleSyncSettings samplePaginator) freshCallers moves t ∧
      t.entries 1 = some ⟨.triggerSync true, .finished .alreadyRunning⟩ ∧
      triggerSync (fun _ => "") .alreadyRunning = some response ∧ response.statusCode = 409 ∧
      TriggerAnswer (fun _ => "") moves 1 true response := by
  have start := @Run.refl _ _ (syncCallers sampleSyncSettings samplePaginator) freshCallers
  have scheduled := start.move (.enter .periodicSync (rfl : freshCallers.entries 0 = none) rfl rfl)
  have triggered := scheduled.move
    (.refuse (.triggerSync true) (rfl : SyncCallers.entries _ 1 = none) rfl)
  exact ⟨_, _, _, triggered, rfl, rfl, rfl, trigger_sync_truthful fresh_callers triggered rfl rfl⟩

end EventsAggregator
