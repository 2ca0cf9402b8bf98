import EventsAggregator.Caches.TTLCache
import EventsAggregator.Services.Coherence
import EventsAggregator.Transition.Simulation
import Mathlib.Algebra.Order.Ring.Rat

namespace EventsAggregator

open Relational Transition Caches

/-- What is behind `SeatsCache`, with the seconds of `time.monotonic()`. -/
abbrev TTLSeats := TTLCache String (List Text) ℚ 1000

def SeatsCache.ttl : ℚ := 30

def TTLSeats.live (cache : TTLSeats) (time : ℚ) : SeatsCache := ⟨cache.lookup time⟩

/-- The call of `SeatsCache` that a coroutine makes between two of its awaits. -/
inductive CacheCall
  | none
  | get (eventId : String)
  | set (eventId : String) (seats : List Text)
  | invalidate (eventId : String)

namespace CacheCall

def perform (time : ℚ) (cache : TTLSeats) : CacheCall → TTLSeats
  | .none => cache
  | .get eventId => (cache.get time eventId).2
  | .set eventId seats => cache.set SeatsCache.ttl time eventId seats
  | .invalidate eventId => cache.pop time eventId

def change (cache : SeatsCache) : CacheCall → SeatsCache
  | .none | .get _ => cache
  | .set eventId seats => cache.set eventId seats
  | .invalidate eventId => cache.invalidate eventId

end CacheCall

def seatsRead (event : EventORM) : CacheCall :=
  if event.status ≠ .published then .none else .get event.id.str

def Code.cacheCall (db : Database) (now : Instant) : Code → CacheCall
  | .register payload .getEvent =>
    match db.events.find? payload.eventId with
    | none => .none
    | some event => if event.registrationDeadline ≤ now then .none else seatsRead event
  | .seats eventId .getEvent =>
    match db.events.find? eventId with
    | none => .none
    | some event => seatsRead event
  | .register _ (.seatsAnswered event (.ok list)) | .seats _ (.answered event (.ok list)) =>
    .set event.id.str list
  | .register payload (.committed _) => .invalidate payload.eventId.str
  | .unregister _ (.cancelled ticket _) => .invalidate ticket.eventId.str
  | _ => .none

variable {Process : Type} {P : Provider} {runtime : Runtime}

theorem resume_cacheCall {db : Database} {now : Instant} {cache cache' : SeatsCache}
    {code code' : Code} (resumed : code.resume runtime db now cache = some (code', cache')) :
    cache' = (code.cacheCall db now).change cache := by
  have read : ∀ event, (seatsRead event).change cache = cache := by
    intro event
    unfold seatsRead
    split <;> rfl
  unfold Code.resume at resumed
  split at resumed <;> cases resumed
  case h_2 payload =>
    unfold Code.cacheCall
    dsimp only
    split
    · rfl
    · split
      · rfl
      · exact (read _).symm
  case h_3 payload event answer =>
    rcases receiveSeats_cases payload event answer cache with ⟨seats, rfl, same⟩ | ⟨error, same⟩
    · rw [same]
      rfl
    · cases answer with
      | ok seats => rfl
      | error => rw [same]; rfl
  case h_10 eventId =>
    unfold Code.cacheCall
    dsimp only
    split
    · rfl
    · exact (read _).symm
  case h_11 eventId event answer =>
    rcases receiveSeatsList_cases event answer cache with ⟨seats, rfl, same⟩ | ⟨error, same⟩
    · rw [same]
      rfl
    · cases answer with
      | ok seats => rfl
      | error => rw [same]; rfl
  all_goals rfl

/-- The requests over the caches as they are, each process with its own monotonic clock. -/
structure TimedState (Process : Type) (P : Provider) where
  db : Database
  provider : P.State
  caches : Process → TTLSeats
  timers : Process → ℚ
  now : Instant
  tasks : Nat → Option (Task Process)
  abandoned : List ProviderCall

inductive TimedAction (Process : Type)
  | request (action : Action Process)
  | elapse (process : Process) (time : ℚ)

namespace TimedState

def state (s : TimedState Process P) : State Process P :=
  ⟨s.db, s.provider, fun process => (s.caches process).live (s.timers process), s.now, s.tasks,
    s.abandoned⟩

def withState (s : TimedState Process P) (u : State Process P) : TimedState Process P :=
  { s with db := u.db, provider := u.provider, now := u.now, tasks := u.tasks,
           abandoned := u.abandoned }

end TimedState

def Action.caches : Action Process → Bool
  | .resume _ | .evict _ _ => true
  | _ => false

variable [DecidableEq Process]

inductive TimedStep (runtime : Runtime) :
    TimedState Process P → TimedAction Process → TimedState Process P → Prop
  | request {s : TimedState Process P} {a : Action Process} {u : State Process P}
      (apart : a.caches = false) (step : Step runtime s.state a u) :
      TimedStep runtime s (.request a) (s.withState u)
  | resume {s : TimedState Process P} {i : Nat} {task : Task Process} {code : Code}
      {cache : SeatsCache} (found : s.tasks i = some task)
      (connected : task.code.reads = true → task.connected = true)
      (resumed : task.code.resume runtime s.db s.now
        ((s.caches task.process).live (s.timers task.process)) = some (code, cache)) :
      TimedStep runtime s (.request (.resume i))
        { s with
          tasks := Function.update s.tasks i (some { task with code })
          caches := Function.update s.caches task.process
            ((task.code.cacheCall s.db s.now).perform (s.timers task.process)
              (s.caches task.process)) }
  | elapse {s : TimedState Process P} {process : Process} {time : ℚ}
      (later : s.timers process ≤ time) :
      TimedStep runtime s (.elapse process time)
        { s with timers := Function.update s.timers process time }

def timedSystem (Process : Type) [DecidableEq Process] (runtime : Runtime) (P : Provider) :
    System (TimedState Process P) (TimedAction Process) where
  Initial s := (system Process runtime P).Initial s.state ∧ ∀ process, s.caches process = .empty
  Step := TimedStep runtime

def State.setCache (s : State Process P) (process : Process) (cache : SeatsCache) :
    State Process P :=
  { s with cache := Function.update s.cache process cache }

section Evictions

theorem get_evicted (cache : SeatsCache) (gone : List String) (eventId : String) :
    (gone.foldl SeatsCache.invalidate cache).get eventId =
      if eventId ∈ gone then none else cache.get eventId := by
  induction gone generalizing cache with
  | nil => simp
  | cons first rest ih =>
    rw [List.foldl_cons, ih, SeatsCache.get_invalidate]
    by_cases same : eventId = first
    · simp [same]
    · simp [same]

theorem evicted_of_fewer {cache cache' : SeatsCache} (eventIds : List String)
    (support : ∀ eventId seats, cache.get eventId = some seats → eventId ∈ eventIds)
    (fewer : ∀ eventId seats, cache'.get eventId = some seats → cache.get eventId = some seats) :
    ∃ gone : List String, cache' = gone.foldl SeatsCache.invalidate cache := by
  refine ⟨eventIds.filter fun eventId => (cache'.get eventId).isNone, ?_⟩
  have same : ∀ eventId, cache'.get eventId = if eventId ∈ eventIds.filter
      (fun eventId => (cache'.get eventId).isNone) then none else cache.get eventId := by
    intro eventId
    cases there : cache'.get eventId with
    | some seats => simp [there, fewer eventId seats there]
    | none =>
      by_cases listed : eventId ∈ eventIds
      · simp [there, listed]
      · cases before : cache.get eventId with
        | none => simp
        | some seats => exact absurd (support eventId seats before) listed
  have equal : cache'.entries = _ := funext fun eventId =>
    (same eventId).trans (get_evicted cache _ eventId).symm
  cases cache'
  exact congrArg SeatsCache.mk equal

theorem evictions_run (s : State Process P) (process : Process) (cache : SeatsCache)
    (gone : List String) : ∃ moves, Run (system Process runtime P) (s.setCache process cache) moves
      (s.setCache process (gone.foldl SeatsCache.invalidate cache)) := by
  induction gone generalizing cache with
  | nil => exact ⟨[], .refl⟩
  | cons first rest ih =>
    have step : Step runtime (s.setCache process cache) (.evict process first)
        (s.setCache process (cache.invalidate first)) := by
      have taken := @Step.evict _ _ _ runtime (s.setCache process cache) process first
      simpa [State.setCache, Function.update_idem] using taken
    have evicted : Run (system Process runtime P) (s.setCache process cache) _ _ :=
      Run.refl.move step
    obtain ⟨moves, onward⟩ := ih (cache.invalidate first)
    exact ⟨_, evicted.trans onward⟩

end Evictions

theorem perform_fewer (call : CacheCall) (cache : TTLSeats) (time : ℚ) {eventId : String}
    {seats : List Text}
    (found : ((call.perform time cache).live time).get eventId = some seats) :
    (call.change (cache.live time)).get eventId = some seats := by
  cases call with
  | none => exact found
  | get read =>
    exact (TTLCache.lookup_congr (cache.mem_get time read) time eventId).symm.trans found
  | set key list =>
    have positive : time < time + SeatsCache.ttl := lt_add_of_pos_right time (by decide)
    show ((cache.live time).set key list).get eventId = some seats
    rw [SeatsCache.get_set]
    split
    next same =>
      subst same
      exact (cache.lookup_set_self SeatsCache.ttl eventId list positive).symm.trans found
    next unlike => exact TTLCache.lookup_set_of_ne unlike found
  | invalidate key =>
    show ((cache.live time).invalidate key).get eventId = some seats
    rw [SeatsCache.get_invalidate]
    exact (cache.lookup_pop time key eventId).symm.trans found

def CacheCall.keys (cache : TTLSeats) : CacheCall → List String
  | .set eventId _ => eventId :: cache.entries.map Entry.key
  | _ => cache.entries.map Entry.key

theorem live_keys {cache : TTLSeats} {time : ℚ} {eventId : String} {seats : List Text}
    (found : (cache.live time).get eventId = some seats) :
    eventId ∈ cache.entries.map Entry.key := by
  obtain ⟨entry, member, rfl, _⟩ := (cache.lookup_eq_some time eventId seats).mp found
  exact List.mem_map_of_mem member

theorem change_keys (call : CacheCall) (cache : TTLSeats) (time : ℚ) {eventId : String}
    {seats : List Text} (found : (call.change (cache.live time)).get eventId = some seats) :
    eventId ∈ call.keys cache := by
  cases call with
  | none | get read => exact live_keys found
  | set key list =>
    have found : ((cache.live time).set key list).get eventId = some seats := found
    rw [SeatsCache.get_set] at found
    split at found
    next same => exact same ▸ List.mem_cons_self
    next => exact List.mem_cons_of_mem _ (live_keys found)
  | invalidate key =>
    have found : ((cache.live time).invalidate key).get eventId = some seats := found
    rw [SeatsCache.get_invalidate] at found
    split at found
    · cases found
    · exact live_keys found

theorem uncached_cache {s u : State Process P} {a : Action Process} (apart : a.caches = false)
    (step : Step runtime s a u) : u.cache = s.cache := by
  cases step with
  | resume | evict => cases apart
  | start | lockKey | answer | commit | fail | disconnect | late | tick | upsert | publish => rfl

theorem shrinks_run (s : State Process P) (process : Process) {cache cache' : SeatsCache}
    (eventIds : List String)
    (support : ∀ eventId seats, cache.get eventId = some seats → eventId ∈ eventIds)
    (fewer : ∀ eventId seats, cache'.get eventId = some seats → cache.get eventId = some seats) :
    ∃ moves, Run (system Process runtime P) (s.setCache process cache) moves
      (s.setCache process cache') := by
  obtain ⟨gone, rfl⟩ := evicted_of_fewer eventIds support fewer
  exact evictions_run s process cache gone

theorem timed_refines : Refines (timedSystem Process runtime P) (system Process runtime P)
    TimedState.state fun _ => True where
  initial s initial := ⟨initial.1, trivial⟩
  step := by
    intro s a t _ step
    refine ⟨trivial, ?_⟩
    cases step with
    | @request a u apart step =>
      have after : (s.withState u).state = u := by
        have cache : u.cache = s.state.cache := uncached_cache apart step
        cases u
        cases cache
        rfl
      rw [after]
      exact ⟨_, Run.refl.move step⟩
    | @resume i task code cache found connected resumed =>
      have after := resume_cacheCall resumed
      subst after
      have step : Step runtime s.state (.resume i) ((s.state.setTask i { task with code }).setCache
          task.process ((task.code.cacheCall s.db s.now).change
            ((s.caches task.process).live (s.timers task.process)))) :=
        .resume found connected resumed
      have target : TimedState.state { s with
          tasks := Function.update s.tasks i (some { task with code })
          caches := Function.update s.caches task.process
            ((task.code.cacheCall s.db s.now).perform (s.timers task.process)
              (s.caches task.process)) } =
          (s.state.setTask i { task with code }).setCache task.process
            (((task.code.cacheCall s.db s.now).perform (s.timers task.process)
              (s.caches task.process)).live (s.timers task.process)) := by
        simp only [TimedState.state, State.setTask, State.setCache, State.mk.injEq, true_and,
          and_true]
        funext process
        exact Function.apply_update (fun process cache => TTLSeats.live cache (s.timers process))
          s.caches task.process _ process
      obtain ⟨moves, onward⟩ := @shrinks_run _ _ runtime _
        (s.state.setTask i { task with code }) task.process _ _
        ((task.code.cacheCall s.db s.now).keys (s.caches task.process))
        (fun _ _ found => change_keys _ _ _ found) (fun _ _ found => perform_fewer _ _ _ found)
      have first : Run (system Process runtime P) s.state _ _ := Run.refl.move step
      rw [target]
      exact ⟨_, first.trans onward⟩
    | @elapse process time later =>
      have source : s.state = s.state.setCache process
          ((s.caches process).live (s.timers process)) := by
        simp only [TimedState.state, State.setCache]
        rw [Function.update_eq_self process fun process =>
          TTLSeats.live (s.caches process) (s.timers process)]
      have target : TimedState.state { s with timers := Function.update s.timers process time } =
          s.state.setCache process ((s.caches process).live time) := by
        simp only [TimedState.state, State.setCache, State.mk.injEq, true_and, and_true]
        funext other
        exact Function.apply_update (fun other time => TTLSeats.live (s.caches other) time)
          s.timers process time other
      have fewer : ∀ eventId seats, ((s.caches process).live time).get eventId = some seats →
          ((s.caches process).live (s.timers process)).get eventId = some seats :=
        fun _ _ found => TTLCache.lookup_earlier later found
      obtain ⟨moves, onward⟩ := @shrinks_run _ _ runtime _ s.state process _ _
        ((s.caches process).entries.map Entry.key) (fun _ _ found => live_keys found) fewer
      rw [← source] at onward
      rw [target]
      exact ⟨moves, onward⟩

abbrev TimedMove (Process : Type) (P : Provider) :=
  Move (TimedState Process P) (TimedAction Process)

def CallsAs (i : Nat) (m : TimedMove Process P) (process : Process) (call : CacheCall) : Prop :=
  ∃ task, m.action = .request (.resume i) ∧ m.source.tasks i = some task ∧
    task.process = process ∧ task.code.cacheCall m.source.db m.source.now = call

def Calls (m : TimedMove Process P) (process : Process) (call : CacheCall) : Prop :=
  ∃ i, CallsAs i m process call

/-- The entry was set by a move since which no other list was set and, for as long as the entry was
    live, its key was not invalidated. -/
def KeptSince (moves : List (TimedMove Process P)) (process : Process)
    (entry : Entry String (List Text) ℚ) : Prop :=
  ∃ later m earlier, moves = later ++ m :: earlier ∧
    Calls m process (.set entry.key entry.value) ∧
    entry.expires = m.source.timers process + SeatsCache.ttl ∧
    ∀ n ∈ later, (∀ seats, ¬ Calls n process (.set entry.key seats)) ∧
      (n.source.timers process < entry.expires → ¬ Calls n process (.invalidate entry.key))

section Fresh

variable {s t : TimedState Process P} {a : TimedAction Process} {process : Process}
  {moves : List (TimedMove Process P)} {entry : Entry String (List Text) ℚ}

omit [DecidableEq Process] in
theorem calls_resumed {i : Nat} {task : Task Process} {call : CacheCall}
    (found : s.tasks i = some task) (calls : Calls ⟨s, .request (.resume i), t⟩ process call) :
    task.process = process ∧ task.code.cacheCall s.db s.now = call := by
  obtain ⟨j, other, acting, there, mine, called⟩ := calls
  cases acting
  cases found.symm.trans there
  exact ⟨mine, called⟩

omit [DecidableEq Process] in
theorem not_calls {call : CacheCall} (other : ∀ i, a ≠ .request (.resume i)) :
    ¬ Calls ⟨s, a, t⟩ process call := fun ⟨i, _, acting, _⟩ => other i acting

omit [DecidableEq Process] in
theorem KeptSince.move (kept : KeptSince moves process entry) (m : TimedMove Process P)
    (set : ∀ seats, ¬ Calls m process (.set entry.key seats))
    (invalidate : m.source.timers process < entry.expires →
      ¬ Calls m process (.invalidate entry.key)) : KeptSince (m :: moves) process entry := by
  obtain ⟨later, first, earlier, rfl, calls, expires, since⟩ := kept
  exact ⟨m :: later, first, earlier, rfl, calls, expires,
    List.forall_mem_cons.mpr ⟨⟨set, invalidate⟩, since⟩⟩

theorem kept_step (step : TimedStep runtime s a t)
    (kept : ∀ process, ∀ entry ∈ (s.caches process).entries, KeptSince moves process entry)
    (process : Process) (entry : Entry String (List Text) ℚ)
    (member : entry ∈ (t.caches process).entries) :
    KeptSince (⟨s, a, t⟩ :: moves) process entry := by
  cases step with
  | @request b u apart step =>
    have quiet : ∀ i, TimedAction.request b ≠ .request (.resume i) := by
      rintro i ⟨⟩
      cases apart
    exact (kept process entry member).move _ (fun _ => not_calls quiet) fun _ => not_calls quiet
  | @elapse other time later =>
    have quiet : ∀ i, TimedAction.elapse other time ≠ .request (.resume i) := fun _ same =>
      nomatch same
    exact (kept process entry member).move _ (fun _ => not_calls quiet) fun _ => not_calls quiet
  | @resume i task code cache found connected resumed =>
    by_cases mine : task.process = process
    · subst mine
      have member : entry ∈ ((task.code.cacheCall s.db s.now).perform (s.timers task.process)
          (s.caches task.process)).entries := by
        simpa using member
      cases called : task.code.cacheCall s.db s.now with
      | none =>
        rw [called] at member
        refine (kept _ entry member).move _ (fun seats calls => ?_) fun _ calls => ?_
        all_goals cases called.symm.trans (calls_resumed found calls).2
      | get eventId =>
        rw [called] at member
        have inside := ((s.caches task.process).mem_get _ eventId entry).mp member
        refine (kept _ entry inside).move _ (fun seats calls => ?_) fun _ calls => ?_
        all_goals cases called.symm.trans (calls_resumed found calls).2
      | set eventId seats =>
        rw [called] at member
        rcases TTLCache.mem_set member with rfl | ⟨inside, unlike⟩
        · exact ⟨[], _, moves, rfl, ⟨i, task, rfl, found, rfl, called⟩, rfl,
            List.forall_mem_nil _⟩
        · refine (kept _ entry inside).move _ (fun list calls => ?_) fun _ calls => ?_
          · cases called.symm.trans (calls_resumed found calls).2
            exact unlike rfl
          · cases called.symm.trans (calls_resumed found calls).2
      | invalidate eventId =>
        rw [called] at member
        obtain ⟨inside, gone⟩ := TTLCache.mem_pop member
        refine (kept _ entry inside).move _ (fun list calls => ?_) fun live calls => ?_
        · cases called.symm.trans (calls_resumed found calls).2
        · cases called.symm.trans (calls_resumed found calls).2
          exact gone live rfl
    · have other : entry ∈ (s.caches process).entries := by
        simpa [Function.update_of_ne (Ne.symm mine)] using member
      refine (kept process entry other).move _ (fun _ calls => ?_) fun _ calls => ?_
      all_goals exact mine (calls_resumed found calls).1

theorem timers_step (step : TimedStep runtime s a t) (process : Process) :
    s.timers process ≤ t.timers process := by
  cases step with
  | request | resume => exact le_refl _
  | @elapse other time later =>
    show s.timers process ≤ Function.update s.timers other time process
    rw [Function.update_apply]
    split
    next same => exact same ▸ later
    next => exact le_refl _

/-- The provider has answered a coroutine's request for the seats of the event with the list. -/
def SeatsTold (moves : List (TimedMove Process P)) (i : Nat) (eventId : UUID)
    (seats : List Text) : Prop :=
  ∃ n ∈ moves, n.action = .request (.answer i (.seats (.ok seats))) ∧
    P.Handles n.source.provider (.seats eventId) (.seats (.ok seats)) n.target.provider

def AllSeatsTold (moves : List (TimedMove Process P)) (s : TimedState Process P) : Prop :=
  ∀ i task, s.tasks i = some task → ∀ eventId seats,
    task.code.fetched = some (eventId, seats) → SeatsTold moves i eventId seats

omit [DecidableEq Process] in
theorem SeatsTold.move {i : Nat} {eventId : UUID} {seats : List Text}
    (told : SeatsTold moves i eventId seats) (m : TimedMove Process P) :
    SeatsTold (m :: moves) i eventId seats := by
  obtain ⟨n, member, handled⟩ := told
  exact ⟨n, List.mem_cons_of_mem _ member, handled⟩

theorem fetched_step {u v : State Process P} {b : Action Process} {i : Nat} {next : Task Process}
    {eventId : UUID} {seats : List Text} (step : Step runtime u b v)
    (own : b.request = some i) (there : v.tasks i = some next)
    (fetched : next.code.fetched = some (eventId, seats)) :
    (∃ task, u.tasks i = some task ∧ task.code.fetched = some (eventId, seats)) ∨
      b = .answer i (.seats (.ok seats)) ∧
        P.Handles u.provider (.seats eventId) (.seats (.ok seats)) v.provider := by
  cases step with
  | start process job fresh =>
    cases own
    cases (setTask_self ..).symm.trans there
    rw [(begin_clears job).2] at fetched
    cases fetched
  | lockKey found =>
    cases own
    cases (setTask_self ..).symm.trans there
    cases fetched
  | resume found connected resumed =>
    cases own
    cases (setTask_self ..).symm.trans there
    rw [(resume_cache resumed).2] at fetched
    cases fetched
  | answer found asked handled received =>
    cases own
    cases (setTask_self ..).symm.trans there
    obtain ⟨rfl, rfl⟩ := receive_fetched asked received fetched
    exact Or.inr ⟨rfl, handled⟩
  | commit found connected committing accepted =>
    cases own
    cases (setTask_self ..).symm.trans there
    rw [(commit_clears committing).2] at fetched
    cases fetched
  | fail found failed =>
    cases own
    cases (setTask_self ..).symm.trans there
    unfold Code.fail at failed
    split at failed <;> cases failed <;> cases fetched
  | disconnect found =>
    cases own
    cases (setTask_self ..).symm.trans there
    exact Or.inl ⟨_, found, fetched⟩
  | late | tick | evict | upsert | publish => cases own

theorem seats_told_step (step : TimedStep runtime s a t) (told : AllSeatsTold moves s) :
    AllSeatsTold (⟨s, a, t⟩ :: moves) t := by
  intro j next there eventId seats fetched
  cases step with
  | @request b u apart step =>
    have there : u.tasks j = some next := there
    by_cases own : b.request = some j
    · rcases fetched_step step own there fetched with ⟨task, here, before⟩ | ⟨rfl, handled⟩
      · exact (told j task here eventId seats before).move _
      · exact ⟨_, List.mem_cons_self, rfl, handled⟩
    · rw [step_other step own] at there
      exact (told j next there eventId seats fetched).move _
  | @resume i task code cache found connected resumed =>
    have there : Function.update s.tasks i (some { task with code }) j = some next := there
    rw [Function.update_apply] at there
    split at there
    · cases there
      rw [(resume_cache resumed).2] at fetched
      cases fetched
    · exact (told j next there eventId seats fetched).move _
  | elapse later => exact (told j next there eventId seats fetched).move _

omit [DecidableEq Process] in
theorem set_fetched {db : Database} {now : Instant} {code : Code} {eventId : String}
    {seats : List Text} (called : code.cacheCall db now = .set eventId seats) :
    ∃ id : UUID, id.str = eventId ∧ code.fetched = some (id, seats) := by
  have unread : ∀ event, seatsRead event ≠ .set eventId seats := by
    intro event
    unfold seatsRead
    split <;> exact fun same => nomatch same
  have stored : ∀ (event : EventORM) (list : List Text),
      CacheCall.set event.id.str list = .set eventId seats →
        ∃ id : UUID, id.str = eventId ∧ some (event.id, list) = some (id, seats) := by
    intro event list same
    injection same with key same
    exact ⟨event.id, key, same ▸ rfl⟩
  cases code with
  | register payload point =>
    cases point with
    | getEvent =>
      unfold Code.cacheCall at called
      dsimp only at called
      split at called
      · cases called
      · split at called
        · cases called
        · exact absurd called (unread _)
    | seatsAnswered event answer =>
      cases answer with
      | ok list => exact stored event list called
      | error => cases called
    | lockKey | getKey | askSeats | askRegister | registerAnswered | commit | committed | returned
    | raised => cases called
  | unregister ticketId point => cases point <;> cases called
  | seats id point =>
    cases point with
    | getEvent =>
      unfold Code.cacheCall at called
      dsimp only at called
      split at called
      · cases called
      · exact absurd called (unread _)
    | answered event answer =>
      cases answer with
      | ok list => exact stored event list called
      | error => cases called
    | askSeats | returned | raised => cases called

structure CachesKept (moves : List (TimedMove Process P)) (s : TimedState Process P) : Prop where
  entries : ∀ process, ∀ entry ∈ (s.caches process).entries, KeptSince moves process entry
  past : ∀ m ∈ moves, ∀ process, m.source.timers process ≤ s.timers process
  told : AllSeatsTold moves s

theorem caches_kept (initial : (timedSystem Process runtime P).Initial s)
    (run : Run (timedSystem Process runtime P) s moves t) : CachesKept moves t := by
  refine run.history (I := CachesKept) ?_ ?_
  · intro moves t a u _ kept step
    refine ⟨kept_step step kept.entries, ?_, seats_told_step step kept.told⟩
    refine List.forall_mem_cons.mpr ⟨timers_step step, fun m member process => ?_⟩
    exact le_trans (kept.past m member process) (timers_step step process)
  · refine ⟨fun process entry member => ?_, List.forall_mem_nil _, fun i task found => ?_⟩
    · rw [initial.2 process] at member
      cases member
    · rw [show s.tasks i = none from initial.1.2.2.2.2.2.1 i] at found
      cases found

end Fresh

def Code.recorded : Code → Option UUID
  | .register payload (.committed _) => some payload.eventId
  | .unregister _ (.cancelled ticket _) => some ticket.eventId
  | _ => none

def Code.hasReturned : Code → Bool
  | .register _ (.returned _) | .unregister _ (.returned _) => true
  | _ => false

def Commits (i : Nat) (m : TimedMove Process P) (process : Process) (eventId : String) : Prop :=
  (∃ outboxId, m.action = .request (.commit i outboxId)) ∧
    ∃ task id, m.target.tasks i = some task ∧ task.process = process ∧
      task.code.recorded = some id ∧ id.str = eventId

/-- The call of a registration or of a cancellation of the event returns in the process, behind
    its commit. -/
def Completes (m : TimedMove Process P) (process : Process) (eventId : String) : Prop :=
  ∃ i task next id, m.source.tasks i = some task ∧ m.target.tasks i = some next ∧
    task.process = process ∧ task.code.recorded = some id ∧ id.str = eventId ∧
    next.code.hasReturned = true

section Completions

variable {s t : TimedState Process P} {a : TimedAction Process} {process : Process}
  {moves : List (TimedMove Process P)} {i : Nat} {task : Task Process} {id : UUID}

structure Code.Unattended (runtime : Runtime) (code : Code) : Prop where
  call : code.call = none
  commit : ∀ outboxId, code.commit runtime outboxId = none
  lock : ∀ payload key, code ≠ .register payload (.lockKey key)

omit [DecidableEq Process] in
theorem reads_unattended {code : Code} (reading : code.reads = true) :
    code.Unattended runtime := by
  unfold Code.reads at reading
  split at reading
  all_goals first | exact ⟨rfl, fun _ => rfl, by simp⟩ | cases reading

theorem recorded_unattended {code : Code} (recorded : code.recorded = some id) :
    code.Unattended runtime := by
  unfold Code.recorded at recorded
  split at recorded
  all_goals first | exact ⟨rfl, fun _ => rfl, by simp⟩ | cases recorded

theorem ended_unattended {code : Code} (ended : code.stage = 10) : code.Unattended runtime where
  call := by
    unfold Code.call
    split <;> first | rfl | cases ended
  commit := by
    intro outboxId
    unfold Code.commit
    split <;> first | rfl | cases ended
  lock := by
    rintro payload key rfl
    cases ended

theorem unattended_step (step : TimedStep runtime s a t) (here : s.tasks i = some task)
    (unattended : task.code.Unattended runtime) :
    ∃ next, t.tasks i = some next ∧ next.process = task.process ∧
      (next.code = task.code ∨ (∃ error, task.code.fail error = some next.code) ∨
        a = .request (.resume i) ∧ ∃ cache, task.code.resume runtime s.db s.now
          ((s.caches task.process).live (s.timers task.process)) = some (next.code, cache)) := by
  cases step with
  | @request b u apart step =>
    by_cases own : b.request = some i
    case neg => exact ⟨task, (step_other step own).trans here, rfl, Or.inl rfl⟩
    cases step with
    | start process job fresh =>
      cases own
      cases here.symm.trans fresh
    | lockKey found connected waiting =>
      cases own
      cases here.symm.trans found
      exact absurd waiting (unattended.lock _ _)
    | resume | evict => cases apart
    | answer found asked =>
      cases own
      cases here.symm.trans found
      cases unattended.call.symm.trans asked
    | commit found connected committing =>
      cases own
      cases here.symm.trans found
      cases (unattended.commit _).symm.trans committing
    | fail found failed =>
      cases own
      cases here.symm.trans found
      exact ⟨_, setTask_self .., rfl, Or.inr (Or.inl ⟨_, failed⟩)⟩
    | disconnect found =>
      cases own
      cases here.symm.trans found
      exact ⟨_, setTask_self .., rfl, Or.inl rfl⟩
    | late | tick | upsert | publish => cases own
  | @resume j mine code cache found connected resumed =>
    by_cases own : i = j
    · subst own
      cases here.symm.trans found
      exact ⟨_, Function.update_self .., rfl, Or.inr (Or.inr ⟨rfl, _, resumed⟩)⟩
    · exact ⟨task, (Function.update_of_ne own ..).trans here, rfl, Or.inl rfl⟩
  | elapse => exact ⟨task, here, rfl, Or.inl rfl⟩

theorem recorded_unreturned {code : Code} (recorded : code.recorded = some id) :
    code.hasReturned = false := by
  unfold Code.recorded at recorded
  split at recorded <;> first | rfl | cases recorded

theorem fail_unreturned {code code' : Code} {error : Raised}
    (failed : code.fail error = some code') : code'.hasReturned = false := by
  unfold Code.fail at failed
  split at failed <;> cases failed <;> rfl

/-- Behind its commit a call raises, or it returns and calls `cache.invalidate`. -/
theorem recorded_step (step : TimedStep runtime s a t) (here : s.tasks i = some task)
    (recorded : task.code.recorded = some id) :
    ∃ next, t.tasks i = some next ∧ next.process = task.process ∧
      (next.code.recorded = some id ∨ next.code.stage = 10 ∧ (next.code.hasReturned = true →
        Calls ⟨s, a, t⟩ task.process (.invalidate id.str))) := by
  obtain ⟨next, there, same, moved⟩ := unattended_step step here (recorded_unattended recorded)
  refine ⟨next, there, same, ?_⟩
  rcases moved with same | ⟨error, failed⟩ | ⟨acting, cache, resumed⟩
  · exact Or.inl (same ▸ recorded)
  · refine Or.inr ⟨(fail_stage failed).2, fun returned => ?_⟩
    cases (fail_unreturned failed).symm.trans returned
  · have called : task.code.cacheCall s.db s.now = .invalidate id.str ∧ next.code.stage = 10 := by
      generalize task.code = code at recorded resumed
      generalize next.code = code' at resumed
      unfold Code.recorded at recorded
      split at recorded <;> cases recorded <;> cases resumed <;> exact ⟨rfl, rfl⟩
    exact Or.inr ⟨called.2, fun _ => ⟨i, task, acting, here, rfl, called.1⟩⟩

theorem ended_step (step : TimedStep runtime s a t) (here : s.tasks i = some task)
    (ended : task.code.stage = 10) :
    ∃ next, t.tasks i = some next ∧ next.process = task.process ∧ next.code = task.code := by
  obtain ⟨next, there, same, moved⟩ := unattended_step step here (ended_unattended ended)
  refine ⟨next, there, same, ?_⟩
  rcases moved with same | ⟨error, failed⟩ | ⟨_, cache, resumed⟩
  · exact same
  · have running := (fail_stage failed).1
    omega
  · have running := Nat.lt_of_lt_of_le (resume_stage resumed) (stage_le _)
    omega

theorem completes_calls {eventId : String} (step : TimedStep runtime s a t)
    (completes : Completes ⟨s, a, t⟩ process eventId) :
    Calls ⟨s, a, t⟩ process (.invalidate eventId) := by
  obtain ⟨i, task, next, id, here, there, rfl, recorded, rfl, returned⟩ := completes
  obtain ⟨next', found, _, still | ⟨_, calls⟩⟩ := recorded_step step here recorded
  · cases there.symm.trans found
    cases (recorded_unreturned still).symm.trans returned
  · cases there.symm.trans found
    exact calls returned

theorem recorded_run (run : Run (timedSystem Process runtime P) s moves t)
    (here : s.tasks i = some task) (recorded : task.code.recorded = some id)
    (uncompleted : ∀ n ∈ moves, ¬ Completes n task.process id.str) :
    ∃ next, t.tasks i = some next ∧ next.process = task.process ∧
      (next.code.recorded = some id ∨ next.code.stage = 10 ∧ next.code.hasReturned = false) := by
  induction run with
  | refl => exact ⟨task, here, rfl, Or.inl recorded⟩
  | move run step ih =>
    obtain ⟨last, rest⟩ := List.forall_mem_cons.mp uncompleted
    obtain ⟨next, found, same, still | ⟨ended, unreturned⟩⟩ := ih rest
    · obtain ⟨next', there, same', after | ⟨ended, _⟩⟩ := recorded_step step found still
      · exact ⟨next', there, same'.trans same, Or.inl after⟩
      · refine ⟨next', there, same'.trans same, Or.inr ⟨ended, ?_⟩⟩
        rw [← Bool.not_eq_true]
        exact fun returned => last ⟨i, next, next', id, found, there, same, still, rfl, returned⟩
    · obtain ⟨next', there, same', kept⟩ := ended_step step found ended
      exact ⟨next', there, same'.trans same, Or.inr (kept.symm ▸ ⟨ended, unreturned⟩)⟩

end Completions

/-- The list was stored for the event less than 30 seconds ago, by a coroutine of the process that
    the provider had told it for this event. Since then no other list has been stored and no
    registration and no cancellation of the event has been completed in this process: none has
    returned, and the calls whose commit came since have not returned. -/
def RecentlyTold (moves : List (TimedMove Process P)) (s : TimedState Process P)
    (process : Process) (eventId : String) (seats : List Text) : Prop :=
  ∃ later m earlier, moves = later ++ m :: earlier ∧
    (∃ i id, CallsAs i m process (.set eventId seats) ∧ id.str = eventId ∧
      SeatsTold earlier i id seats) ∧
    s.timers process < m.source.timers process + SeatsCache.ttl ∧
    (∀ n ∈ later, (∀ list, ¬ Calls n process (.set eventId list)) ∧
      ¬ Completes n process eventId) ∧
    ∀ n ∈ later, ∀ i, Commits i n process eventId →
      ∀ task, s.tasks i = some task → task.code.hasReturned = false

section Fresh

variable {s t : TimedState Process P} {process : Process} {moves : List (TimedMove Process P)}

theorem live_told (initial : (timedSystem Process runtime P).Initial s)
    (run : Run (timedSystem Process runtime P) s moves t) {eventId : String} {seats : List Text}
    (found : (t.caches process).lookup (t.timers process) eventId = some seats) :
    RecentlyTold moves t process eventId seats := by
  have kept := caches_kept initial run
  obtain ⟨entry, member, rfl, rfl, live⟩ :=
    ((t.caches process).lookup_eq_some (t.timers process) eventId seats).mp found
  obtain ⟨later, m, earlier, rfl, ⟨i, task, acting, there, mine, called⟩, expires, since⟩ :=
    kept.entries process entry member
  obtain ⟨before, _, after⟩ := run.split
  have uncompleted : ∀ n ∈ later, ¬ Completes n process entry.key := by
    intro n inside completes
    have past := kept.past n (List.mem_append_left _ inside) process
    have step := after.step_of_mem inside
    exact (since n inside).2 (lt_of_le_of_lt past live) (completes_calls step completes)
  refine ⟨later, m, earlier, rfl, ?_, expires ▸ live,
    fun n inside => ⟨(since n inside).1, uncompleted n inside⟩, ?_⟩
  · obtain ⟨id, same, fetched⟩ := set_fetched called
    exact ⟨i, id, ⟨task, acting, there, mine, called⟩, same,
      (caches_kept initial before).told i task there id entry.value fetched⟩
  · rintro n inside j ⟨_, writer, id, written, rfl, recorded, same⟩ last here
    obtain ⟨behind, _, rfl, _, _, onward⟩ := after.cut inside
    obtain ⟨next, found, _, still | ⟨_, unreturned⟩⟩ := recorded_run onward written recorded
      fun n inside => same ▸ uncompleted n (List.mem_append_left _ inside)
    · cases here.symm.trans found
      exact recorded_unreturned still
    · cases here.symm.trans found
      exact unreturned

end Fresh

theorem read_step {s t : TimedState Process P} {a : TimedAction Process} {i : Nat}
    {task next : Task Process} (step : TimedStep runtime s a t) (here : s.tasks i = some task)
    (there : t.tasks i = some next) (reading : task.code.reads = true) :
    next.code = task.code ∨ (∃ error, task.code.fail error = some next.code) ∨
      ∃ cache, Resumed runtime s.db s.now ((s.caches task.process).live (s.timers task.process))
        task.code next.code cache := by
  obtain ⟨_, found, _, same | failed | ⟨_, cache, resumed⟩⟩ :=
    unattended_step step here (reads_unattended reading)
  · cases there.symm.trans found
    exact Or.inl same
  · cases there.symm.trans found
    exact Or.inr (Or.inl failed)
  · cases there.symm.trans found
    exact Or.inr (Or.inr ⟨cache, resume_cases resumed⟩)

/-- What the time-limited caches do to the requests is what the requests may anyway see done to
    their caches. -/
theorem timed_requests_are_requests {s t : TimedState Process P}
    {moves : List (TimedMove Process P)}
    (run : Run (timedSystem Process runtime P) s moves t) :
    ∃ moves', Run (system Process runtime P) s.state moves' t.state :=
  (timed_refines.run trivial run).2

/-- A list of seats that is shown from the cache is one that the provider told this process about
    the event not longer than 30 seconds before, and so is one by which a registration is let
    through without asking the provider. -/
theorem cached_seats_are_recent {s t : TimedState Process P}
    {later earlier : List (TimedMove Process P)} {m : TimedMove Process P} {i : Nat}
    {task next : Task Process} (initial : (timedSystem Process runtime P).Initial s)
    (run : Run (timedSystem Process runtime P) s (later ++ m :: earlier) t)
    (here : m.source.tasks i = some task) (there : m.target.tasks i = some next) :
    (∀ eventId seats, task.code = .seats eventId .getEvent →
      next.code = .seats eventId (.returned seats) →
        RecentlyTold earlier m.source task.process eventId.str seats) ∧
      ∀ payload event, task.code = .register payload .getEvent →
        next.code = .register payload (.askRegister event) →
          ∃ seats, (payload.seat : Text) ∈ seats ∧
            RecentlyTold earlier m.source task.process payload.eventId.str seats := by
  obtain ⟨before, step, _⟩ := run.split
  have found : ∀ {eventId : UUID} {event : EventORM},
      m.source.db.events.find? eventId = some event → event.id = eventId := fun found =>
    ((Table.find?_eq_some _ _ _).mp found).2
  constructor
  · intro eventId seats reading returned
    rcases read_step step here there (by rw [reading]; rfl) with
      same | ⟨error, failed⟩ | ⟨_, resumed⟩
    · cases reading.symm.trans (same.symm.trans returned)
    · rw [reading, returned] at failed
      cases failed
    · rw [reading, returned] at resumed
      cases resumed with
      | seatsCached there hit => exact found there ▸ live_told initial before hit
  · intro payload event reading asks
    rcases read_step step here there (by rw [reading]; rfl) with
      same | ⟨error, failed⟩ | ⟨_, resumed⟩
    · cases reading.symm.trans (same.symm.trans asks)
    · rw [reading, asks] at failed
      cases failed
    · rw [reading, asks] at resumed
      cases resumed with
      | cached there hit free => exact ⟨_, free, found there ▸ live_told initial before hit⟩

section Sample

def freshTimed : TimedState Unit anyProvider where
  db := sampleDatabase
  provider := ()
  caches _ := .empty
  timers _ := 0
  now := 0
  tasks _ := none
  abandoned := []

theorem fresh_timed : (timedSystem Unit sampleRuntime anyProvider).Initial freshTimed :=
  ⟨⟨rfl, rfl, rfl, trivial, fun _ => rfl, fun _ => rfl, rfl⟩, fun _ => rfl⟩

def sampleCache : TTLSeats := TTLCache.empty.set SeatsCache.ttl 0 sampleEvent.id.str ["A1"]

theorem sample_hit : Code.resume sampleRuntime sampleDatabase 0 (sampleCache.live 20)
    (.seats ⟨1⟩ .getEvent) = some (.seats ⟨1⟩ (.returned ["A1"]), sampleCache.live 20) := by
  have live : (20 : ℚ) < 0 + SeatsCache.ttl := by decide +kernel
  have hit : (sampleCache.live 20).get sampleEvent.id.str = (some ["A1"] : Option (List Text)) :=
    (TTLCache.lookup_eq_some ..).mpr ⟨_, TTLCache.set_mem .., rfl, rfl, live⟩
  have shown : checkSeatsEvent ⟨1⟩ (some sampleEvent) (sampleCache.live 20) =
      .returned ["A1"] := by
    simp [checkSeatsEvent, resolveAvailableSeats, hit,
      show sampleEvent.status = .published from rfl]
  exact congrArg (fun point => some (Code.seats ⟨1⟩ point, sampleCache.live 20)) shown

/-- Two requests for the seats of an event, 20 seconds apart. -/
theorem seats_twice : ∃ (earlier : List (TimedMove Unit anyProvider))
    (m : TimedMove Unit anyProvider) (task next : Task Unit),
    Run (timedSystem Unit sampleRuntime anyProvider) freshTimed ([] ++ m :: earlier) m.target ∧
      m.source.timers () = 20 ∧ m.target.timers () = 20 ∧
      m.source.tasks 1 = some task ∧ m.target.tasks 1 = some next ∧
      task.code = .seats ⟨1⟩ .getEvent ∧ next.code = .seats ⟨1⟩ (.returned ["A1"]) := by
  have start := @Run.refl _ _ (timedSystem Unit sampleRuntime anyProvider) freshTimed
  have requested := start.move (.request rfl (@Step.start _ _ _ _ _ 0 () (.seats ⟨1⟩) rfl))
  have unknown := requested.move (@TimedStep.resume _ _ _ _ _ 0 _ _ _ rfl (fun _ => rfl) rfl)
  have told := unknown.move (.request rfl
    (@Step.answer _ _ _ _ _ 0 _ _ _ (.seats (.ok ["A1"])) () rfl rfl trivial rfl))
  have stored := told.move (@TimedStep.resume _ _ _ _ _ 0 _ _ _ rfl (fun _ => rfl) rfl)
  have later := stored.move (@TimedStep.elapse _ _ _ _ _ () 20 (by decide))
  have again := later.move (.request rfl (@Step.start _ _ _ _ _ 1 () (.seats ⟨1⟩) rfl))
  have shown := again.move (@TimedStep.resume _ _ _ _ _ 1 _ _ _ rfl (fun _ => rfl) sample_hit)
  exact ⟨_, _, _, _, shown, rfl, rfl, rfl, rfl, rfl, rfl⟩

theorem timed_requests_are_requests_twice : ∃ (moves : List (TimedMove Unit anyProvider))
    (t : TimedState Unit anyProvider) (moves' : List (Move (State Unit anyProvider) (Action Unit))),
    Run (timedSystem Unit sampleRuntime anyProvider) freshTimed moves t ∧ t.timers () = 20 ∧
      Run (system Unit sampleRuntime anyProvider) freshTimed.state moves' t.state := by
  obtain ⟨earlier, m, task, next, run, _, time, _⟩ := seats_twice
  obtain ⟨moves', run'⟩ := timed_requests_are_requests run
  exact ⟨m :: earlier, m.target, moves', run, time, run'⟩

theorem cached_seats_are_recent_twice : ∃ (earlier : List (TimedMove Unit anyProvider))
    (m : TimedMove Unit anyProvider) (task next : Task Unit),
    Run (timedSystem Unit sampleRuntime anyProvider) freshTimed ([] ++ m :: earlier) m.target ∧
      m.source.timers () = 20 ∧ m.source.tasks 1 = some task ∧ m.target.tasks 1 = some next ∧
      task.code = .seats ⟨1⟩ .getEvent ∧ next.code = .seats ⟨1⟩ (.returned ["A1"]) ∧
      RecentlyTold earlier m.source task.process (UUID.str ⟨1⟩) ["A1"] := by
  obtain ⟨earlier, m, task, next, run, time, _, here, there, reading, returned⟩ := seats_twice
  have recent := (cached_seats_are_recent fresh_timed run here there).1 ⟨1⟩ ["A1"] reading returned
  exact ⟨earlier, m, task, next, run, time, here, there, reading, returned, recent⟩

end Sample

end EventsAggregator
