import EventsAggregator.Clients.SeatProvider
import EventsAggregator.Services.Replays

namespace EventsAggregator

open Relational Transition

def ProviderCall.books : ProviderCall → Option UUID
  | .seats _ => none
  | .register eventId _ | .unregister eventId _ => some eventId

/-- A provider that answers with its free seats and changes them only for the event it was asked
    about. -/
structure ShowsSeats (P : Provider) (free : P.State → UUID → List Text) : Prop where
  listed : ∀ {held held' : P.State} {eventId : UUID} {seats : List Text},
    P.Handles held (.seats eventId) (.seats (.ok seats)) held' → seats = free held eventId
  elsewhere : ∀ {held held' : P.State} {call : ProviderCall} {answer : ProviderAnswer}
    {eventId : UUID}, P.Handles held call answer held' → call.books ≠ some eventId →
      free held' eventId = free held eventId

namespace Code

def clears : Code → Option UUID
  | .register payload (.registerAnswered _ _) | .register payload (.commit _ _ _)
  | .register payload (.committed _) => some payload.eventId
  | .unregister _ (.answered ticket _) | .unregister _ (.commitDelete ticket)
  | .unregister _ (.deleted ticket) | .unregister _ (.commitCancel ticket _ _)
  | .unregister _ (.cancelled ticket _) => some ticket.eventId
  | _ => none

def fetched : Code → Option (UUID × List Text)
  | .register _ (.seatsAnswered event (.ok list)) | .seats _ (.answered event (.ok list)) =>
    some (event.id, list)
  | _ => none

def breaksOff : Code → Bool
  | .register _ (.registerAnswered _ (.error _)) | .unregister _ (.deleted _) => true
  | .unregister _ (.answered _ (.error error)) => !error.isInstance .providerNotFound
  | _ => false

end Code

variable {P : Provider} {free : P.State → UUID → List Text} {runtime : Runtime}
  {s t : State Unit P} {a : Action Unit} {m : Move (State Unit P) (Action Unit)}
  {moves : List (Move (State Unit P) (Action Unit))} {i : Nat} {task : Task Unit}
  {code code' : Code} {eventId : UUID}

/-- One call after the other, and none is over while the provider has still to handle its
    request. -/
def InOrder (m : Move (State Unit P) (Action Unit)) : Prop :=
  Sequential m ∧ ∀ call answer, m.action ≠ .late call answer

/-- Every live entry of the cache is the list of the seats that are free at the provider. -/
def Coherent (free : P.State → UUID → List Text) (s : State Unit P) : Prop :=
  ∀ eventId seats, (s.cache ()).get eventId.str = some seats → seats = free s.provider eventId

def Alters (free : P.State → UUID → List Text) (m : Move (State Unit P) (Action Unit)) (i : Nat)
    (eventId : UUID) : Prop :=
  (∃ answer, m.action = .answer i answer) ∧
    free m.target.provider eventId ≠ free m.source.provider eventId

/-- A call that has booked or freed seats of an event gets an exception before it clears the
    event's entry, and the entry is live: the exception is one at its commit or at any other await,
    the provider's answer, or the one that it raises for a ticket the provider did not know. -/
def Strands (free : P.State → UUID → List Text) (m : Move (State Unit P) (Action Unit))
    (earlier : List (Move (State Unit P) (Action Unit))) : Prop :=
  ∃ i task eventId answer, m.source.tasks i = some task ∧
    ((∃ error, m.action = .fail i error) ∨ (m.action = .resume i ∧ task.code.breaksOff = true)) ∧
    answer ∈ earlier ∧ Alters free answer i eventId ∧
    (m.source.cache ()).get eventId.str ≠ none

inductive CacheUse (cache : SeatsCache) (code code' : Code) : SeatsCache → Prop
  | untouched (same : code'.clears = code.clears) : CacheUse cache code code' cache
  | filled {eventId : UUID} {seats : List Text} (fetched : code.fetched = some (eventId, seats))
      (unsent : code.clears = none) : CacheUse cache code code' (cache.set eventId.str seats)
  | cleared {eventId : UUID} (clears : code.clears = some eventId) (ended : code'.stage = 10) :
      CacheUse cache code code' (cache.invalidate eventId.str)
  | brokenOff (breaks : code.breaksOff = true) (ended : code'.stage = 10) :
      CacheUse cache code code' cache

theorem resume_cache {db : Database} {now : Instant} {cache cache' : SeatsCache}
    (resumed : code.resume runtime db now cache = some (code', cache')) :
    CacheUse cache code code' cache' ∧ code'.fetched = none := by
  cases resume_cases resumed with
  | unknownKey | replayed | conflicting | uncached | cached | closed | unlisted | granted | known
  | unknown | released | lost | seatsUncached | seatsCached | seatsClosed | seatsUnlisted =>
    exact ⟨.untouched rfl, rfl⟩
  | free | taken | seatsListed => exact ⟨.filled rfl rfl, rfl⟩
  | booked | cancelled => exact ⟨.cleared rfl rfl, rfl⟩
  | refused | deleted => exact ⟨.brokenOff rfl rfl, rfl⟩
  | @kept ticketId ticket answer error =>
    refine ⟨.brokenOff ?_ rfl, rfl⟩
    cases missing : answer.isInstance .providerNotFound with
    | false => simp [Code.breaksOff, missing]
    | true => simp [Code.resume, receiveCancellation, missing] at resumed

theorem receive_clears {call : ProviderCall} {answer : ProviderAnswer}
    (asked : code.call = some call) (received : code.receive answer = some code') :
    code.clears = none ∧ code'.clears = call.books ∧ code'.stage ≠ 10 := by
  unfold Code.receive at received
  split at received <;> cases received <;> cases asked <;>
    exact ⟨rfl, rfl, by simp [Code.stage, RegisterPoint.stage, UnregisterPoint.stage,
      SeatsPoint.stage]⟩

theorem ended_clears (ended : code.stage = 10) : code.clears = none := by
  unfold Code.clears
  split <;> first | cases ended | rfl

theorem receive_fetched {call : ProviderCall} {answer : ProviderAnswer} {seats : List Text}
    (asked : code.call = some call) (received : code.receive answer = some code')
    (fetched : code'.fetched = some (eventId, seats)) :
    call = .seats eventId ∧ answer = .seats (.ok seats) := by
  unfold Code.receive at received
  split at received <;> cases received
  case h_1 payload event result | h_4 requested event result =>
    cases asked
    cases result with
    | ok list =>
      cases fetched
      exact ⟨rfl, rfl⟩
    | error => cases fetched
  all_goals cases fetched

theorem commit_clears {outboxId : UUID} {session : Session}
    (committing : code.commit runtime outboxId = some (session, code')) :
    code'.clears = code.clears ∧ code'.fetched = none := by
  unfold Code.commit at committing
  split at committing <;> cases committing <;> exact ⟨rfl, rfl⟩

theorem begin_clears (job : Job) : job.begin.clears = none ∧ job.begin.fetched = none := by
  cases job with
  | register payload =>
    unfold Job.begin
    rcases beginRegister_cases payload with ⟨_, same⟩ | ⟨key, _, same⟩
    all_goals simp [same, Code.clears, Code.fetched]
  | unregister | seats => exact ⟨rfl, rfl⟩

/-- The cache while a call stands at `code`: an entry is what the provider's list is or, for the
    event that the call books or frees seats of, what it was before. -/
structure Explained (free : P.State → UUID → List Text)
    (moves : List (Move (State Unit P) (Action Unit))) (s : State Unit P) (i : Nat) (code : Code) :
    Prop where
  altered : ∀ m ∈ moves, ∀ eventId, Alters free m i eventId → code.clears = some eventId ∧
    free s.provider eventId = free m.target.provider eventId ∧
    ∀ seats, (s.cache ()).get eventId.str = some seats → seats = free m.source.provider eventId
  entries : ∀ eventId seats, (s.cache ()).get eventId.str = some seats →
    seats = free s.provider eventId ∨ ∃ m ∈ moves, Alters free m i eventId
  fetched : ∀ eventId seats, code.fetched = some (eventId, seats) →
    seats = free s.provider eventId

namespace Explained

theorem coherent (explained : Explained free moves s i code) (unsent : code.clears = none) :
    Coherent free s := by
  intro eventId seats entry
  rcases explained.entries eventId seats entry with same | ⟨m, member, alters⟩
  · exact same
  · obtain ⟨clears, _⟩ := explained.altered m member eventId alters
    cases unsent.symm.trans clears

theorem cleared (explained : Explained free moves s i code) (clears : code.clears = some eventId)
    (provider : t.provider = s.provider)
    (cache : t.cache () = (s.cache ()).invalidate eventId.str) : Coherent free t := by
  intro other seats entry
  rw [cache, SeatsCache.get_invalidate] at entry
  split at entry
  · cases entry
  · rename_i apart
    rw [provider]
    rcases explained.entries other seats entry with same | ⟨m, member, alters⟩
    · exact same
    · obtain ⟨clears', _⟩ := explained.altered m member other alters
      cases clears.symm.trans clears'
      exact absurd rfl apart

theorem unstranded (explained : Explained free moves s i task.code) (found : s.tasks i = some task)
    (breaks : (∃ error, a = .fail i error) ∨ (a = .resume i ∧ task.code.breaksOff = true))
    (held : ¬ Strands free ⟨s, a, t⟩ moves) : Coherent free s := by
  intro eventId seats entry
  rcases explained.entries eventId seats entry with same | ⟨m, member, alters⟩
  · exact same
  · have live : (s.cache ()).get eventId.str ≠ none := by simp [entry]
    exact absurd ⟨i, task, eventId, m, found, breaks, member, alters, live⟩ held

theorem onward (explained : Explained free moves s i code) (provider : t.provider = s.provider)
    (cache : ∀ (eventId : UUID) seats, (t.cache ()).get eventId.str = some seats →
      (s.cache ()).get eventId.str = some seats)
    (silent : ∀ answer, a ≠ .answer i answer) (clears : code'.clears = code.clears)
    (fetched : ∀ pair, code'.fetched = some pair → code.fetched = some pair) :
    Explained free (⟨s, a, t⟩ :: moves) t i code' where
  altered := by
    intro m member eventId alters
    rcases List.mem_cons.mp member with rfl | member
    · obtain ⟨⟨answer, acting⟩, _⟩ := alters
      exact absurd acting (silent answer)
    · obtain ⟨same, target, source⟩ := explained.altered m member eventId alters
      rw [clears, provider]
      exact ⟨same, target, fun seats entry => source seats (cache eventId seats entry)⟩
  entries := by
    intro eventId seats entry
    rw [provider]
    rcases explained.entries eventId seats (cache eventId seats entry) with
      same | ⟨m, member, alters⟩
    · exact Or.inl same
    · exact Or.inr ⟨m, List.mem_cons_of_mem _ member, alters⟩
  fetched := by
    intro eventId seats here
    rw [provider]
    exact explained.fetched eventId seats (fetched _ here)

end Explained

theorem coherent_kept (coherent : Coherent free s) (provider : t.provider = s.provider)
    (cache : ∀ (eventId : UUID) seats, (t.cache ()).get eventId.str = some seats →
      (s.cache ()).get eventId.str = some seats) : Coherent free t := by
  intro eventId seats entry
  rw [provider]
  exact coherent eventId seats (cache eventId seats entry)

theorem coherent_filled (coherent : Coherent free s) {list : List Text}
    (listed : list = free s.provider eventId) (provider : t.provider = s.provider)
    (cache : t.cache () = (s.cache ()).set eventId.str list) : Coherent free t := by
  intro other seats entry
  rw [cache, SeatsCache.get_set] at entry
  rw [provider]
  split at entry
  · rename_i same
    cases entry
    rw [UUID.str_injective same]
    exact listed
  · exact coherent other seats entry

theorem explained_coherent (coherent : Coherent free s)
    (unaltered : ∀ m ∈ moves, ∀ eventId, ¬ Alters free m i eventId)
    (unfetched : code.fetched = none) : Explained free moves s i code where
  altered := fun m member eventId alters => absurd alters (unaltered m member eventId)
  entries := fun eventId seats entry => Or.inl (coherent eventId seats entry)
  fetched := fun _ _ here => nomatch unfetched.symm.trans here

structure Explains (free : P.State → UUID → List Text)
    (moves : List (Move (State Unit P) (Action Unit))) (s : State Unit P) (i : Nat) (code : Code) :
    Prop where
  ended : code.stage = 10 → Coherent free s
  running : code.stage ≠ 10 → Explained free moves s i code

theorem explains_resumed (explained : Explained free moves s i task.code)
    (found : s.tasks i = some task) {cache : SeatsCache}
    (used : CacheUse (s.cache ()) task.code code' cache) (unfetched : code'.fetched = none)
    (provider : t.provider = s.provider) (stored : t.cache () = cache)
    (held : ¬ Strands free ⟨s, .resume i, t⟩ moves) :
    Explains free (⟨s, .resume i, t⟩ :: moves) t i code' := by
  cases used with
  | untouched same =>
    have kept : ∀ (eventId : UUID) seats, (t.cache ()).get eventId.str = some seats →
        (s.cache ()).get eventId.str = some seats := by
      rw [stored]
      exact fun _ _ => id
    constructor
    · intro ended
      exact coherent_kept (explained.coherent (same.symm.trans (ended_clears ended))) provider kept
    · intro _
      refine explained.onward provider kept ?_ same ?_
      · exact fun _ acting => nomatch acting
      · exact fun _ here => nomatch unfetched.symm.trans here
  | filled fetched unsent =>
    have coherent : Coherent free t :=
      coherent_filled (explained.coherent unsent) (explained.fetched _ _ fetched) provider stored
    refine ⟨fun _ => coherent, fun _ => explained_coherent coherent ?_ unfetched⟩
    intro m member eventId alters
    rcases List.mem_cons.mp member with rfl | member
    · obtain ⟨⟨_, acting⟩, _⟩ := alters
      cases acting
    · obtain ⟨clears, _⟩ := explained.altered m member eventId alters
      cases unsent.symm.trans clears
  | cleared clears ended =>
    exact ⟨fun _ => explained.cleared clears provider stored, fun running => absurd ended running⟩
  | brokenOff breaks ended =>
    have coherent := explained.unstranded found (Or.inr ⟨rfl, breaks⟩) held
    refine ⟨fun _ => coherent_kept coherent provider ?_, fun running => absurd ended running⟩
    rw [stored]
    exact fun _ _ => id

theorem explains_answered (shows : ShowsSeats P free)
    (explained : Explained free moves s i code) {call : ProviderCall} {answer : ProviderAnswer}
    (asked : code.call = some call) (handled : P.Handles s.provider call answer t.provider)
    (received : code.receive answer = some code') (cache : t.cache = s.cache) :
    Explains free (⟨s, .answer i answer, t⟩ :: moves) t i code' := by
  obtain ⟨unsent, clears, running⟩ := receive_clears asked received
  have coherent := explained.coherent unsent
  have unaltered : ∀ m ∈ moves, ∀ eventId, ¬ Alters free m i eventId := by
    intro m member eventId alters
    obtain ⟨clears, _⟩ := explained.altered m member eventId alters
    cases unsent.symm.trans clears
  refine ⟨fun ended => absurd ended running, fun _ => ⟨?_, ?_, ?_⟩⟩
  · intro m member eventId alters
    rcases List.mem_cons.mp member with rfl | member
    · have booked : call.books = some eventId := by
        by_contra elsewhere
        exact alters.2 (shows.elsewhere handled elsewhere)
      refine ⟨clears.trans booked, rfl, ?_⟩
      rw [cache]
      exact coherent eventId
    · exact absurd alters (unaltered m member eventId)
  · intro eventId seats entry
    rw [cache] at entry
    by_cases same : free t.provider eventId = free s.provider eventId
    · rw [same]
      exact Or.inl (coherent eventId seats entry)
    · exact Or.inr ⟨_, List.mem_cons_self .., ⟨answer, rfl⟩, same⟩
  · intro eventId seats fetched
    obtain ⟨rfl, rfl⟩ := receive_fetched asked received fetched
    rw [shows.elsewhere handled (fun calling => nomatch calling)]
    exact shows.listed handled

theorem explains_step (shows : ShowsSeats P free) (explained : Explained free moves s i task.code)
    (step : Step runtime s a t) (found : s.tasks i = some task) (own : a.request = some i)
    (running : task.code.stage ≠ 10) (held : ¬ Strands free ⟨s, a, t⟩ moves) :
    ∃ next, t.tasks i = some next ∧ Explains free (⟨s, a, t⟩ :: moves) t i next.code := by
  cases step with
  | start process job fresh =>
    cases own
    cases fresh.symm.trans found
  | @lockKey _ _ payload key found' connected waiting =>
    cases own
    cases found.symm.trans found'
    rw [waiting] at explained
    refine ⟨_, setTask_self .., (fun ended => nomatch ended), fun _ => ?_⟩
    exact explained.onward rfl (fun _ _ => id) (fun _ acting => nomatch acting) rfl (fun _ => id)
  | resume found' connected resumed =>
    cases own
    cases found.symm.trans found'
    obtain ⟨used, unfetched⟩ := resume_cache resumed
    refine ⟨_, setTask_self .., ?_⟩
    refine explains_resumed explained found used unfetched ?_ ?_ held
    · rfl
    · simp
  | answer found' asked handled received =>
    cases own
    cases found.symm.trans found'
    exact ⟨_, setTask_self .., explains_answered shows explained asked handled received rfl⟩
  | commit found' connected committing accepted =>
    cases own
    cases found.symm.trans found'
    obtain ⟨clears, unfetched⟩ := commit_clears committing
    obtain ⟨_, stage⟩ := commit_stage committing
    refine ⟨_, setTask_self .., ?_, fun _ => ?_⟩
    · intro ended
      cases stage.symm.trans ended
    · exact explained.onward rfl (fun _ _ => id) (fun _ acting => nomatch acting) clears
        (fun _ here => nomatch unfetched.symm.trans here)
  | fail found' failed =>
    cases own
    cases found.symm.trans found'
    have coherent := explained.unstranded found (Or.inl ⟨_, rfl⟩) held
    refine ⟨_, setTask_self .., fun _ => coherent, fun running => ?_⟩
    exact absurd (fail_stage failed).2 running
  | disconnect found' =>
    cases own
    cases found.symm.trans found'
    refine ⟨_, setTask_self .., fun ended => absurd ended running, fun _ => ?_⟩
    exact explained.onward rfl (fun _ _ => id) (fun _ acting => nomatch acting) rfl (fun _ => id)
  | late | tick | evict | upsert | publish => cases own

theorem step_unrequested (step : Step runtime s a t) (unrequested : a.request = none)
    (order : InOrder ⟨s, a, t⟩) : t.tasks = s.tasks ∧ t.provider = s.provider ∧
      (∀ (eventId : UUID) seats, (t.cache ()).get eventId.str = some seats →
        (s.cache ()).get eventId.str = some seats) ∧
      ∀ i answer, a ≠ .answer i answer := by
  cases step with
  | start | lockKey | resume | answer | commit | fail | disconnect => cases unrequested
  | late waiting handled => exact absurd rfl (order.2 _ _)
  | tick | upsert | publish =>
    exact ⟨rfl, rfl, fun _ _ => id, fun _ _ acting => nomatch acting⟩
  | evict process key =>
    refine ⟨rfl, rfl, fun eventId seats entry => ?_, fun _ _ acting => nomatch acting⟩
    simp only [Function.update_self, SeatsCache.get_invalidate] at entry
    split at entry
    · cases entry
    · exact entry

def Quiet (s : State Unit P) : Prop := ∀ j, Finished s j

structure CacheExplained (free : P.State → UUID → List Text)
    (moves : List (Move (State Unit P) (Action Unit))) (s : State Unit P) : Prop where
  quiet : Quiet s → Coherent free s
  busy : ∀ i task, s.tasks i = some task → task.code.stage ≠ 10 →
    (∀ j, j ≠ i → Finished s j) ∧ Explained free moves s i task.code

theorem turn_explained (there : t.tasks i = some task) (others : ∀ j, j ≠ i → Finished t j)
    (explains : Explains free moves t i task.code) : CacheExplained free moves t where
  quiet := fun quiet => explains.ended (quiet i task there)
  busy := by
    intro j other here running
    by_cases same : j = i
    · subst same
      cases here.symm.trans there
      exact ⟨others, explains.running running⟩
    · exact absurd (others j same other here) running

theorem unrequested_explained (invariant : CacheExplained free moves s) (step : Step runtime s a t)
    (order : InOrder ⟨s, a, t⟩) (unrequested : a.request = none) :
    CacheExplained free (⟨s, a, t⟩ :: moves) t := by
  obtain ⟨tasks, provider, cache, silent⟩ := step_unrequested step unrequested order
  have finished : ∀ j, Finished s j ↔ Finished t j := by
    intro j
    unfold Finished
    rw [tasks]
  constructor
  · intro quiet
    apply coherent_kept (invariant.quiet _) provider cache
    exact fun j => (finished j).mpr (quiet j)
  · intro i task there running
    rw [tasks] at there
    obtain ⟨others, explained⟩ := invariant.busy i task there running
    refine ⟨fun j apart => (finished j).mp (others j apart), ?_⟩
    exact explained.onward provider cache (silent i) rfl (fun _ => id)

theorem started_explained (coherent : Coherent free s)
    (unacted : ∀ m ∈ moves, m.action.request ≠ some i) (step : Step runtime s a t)
    (own : a.request = some i) (fresh : s.tasks i = none) :
    ∃ next, t.tasks i = some next ∧ Explains free (⟨s, a, t⟩ :: moves) t i next.code := by
  cases step with
  | start process job _ =>
    cases own
    obtain ⟨unsent, unfetched⟩ := begin_clears job
    refine ⟨_, setTask_self .., fun _ => coherent, fun _ => ?_⟩
    refine explained_coherent coherent ?_ unfetched
    rintro m member eventId ⟨⟨answer, acting⟩, _⟩
    rcases List.mem_cons.mp member with rfl | member
    · cases acting
    · exact unacted m member (by rw [acting]; rfl)
  | lockKey found | resume found | answer found | commit found | fail found | disconnect found =>
    cases own
    cases fresh.symm.trans found
  | late | tick | evict | upsert | publish => cases own

theorem ended_explained (coherent : Coherent free s) (step : Step runtime s a t)
    (own : a.request = some i) (found : s.tasks i = some task) (ended : task.code.stage = 10) :
    ∃ next, t.tasks i = some next ∧ Explains free (⟨s, a, t⟩ :: moves) t i next.code := by
  rcases step_running step found own with rfl | running
  · cases step with
    | disconnect found' =>
      cases found.symm.trans found'
      exact ⟨_, setTask_self .., fun _ => coherent, fun running => absurd ended running⟩
  · omega

theorem cacheExplained_step (shows : ShowsSeats P free)
    (unacted : ∀ i, s.tasks i = none → ∀ m ∈ moves, m.action.request ≠ some i)
    (invariant : CacheExplained free moves s) (step : Step runtime s a t)
    (order : InOrder ⟨s, a, t⟩) (held : ¬ Strands free ⟨s, a, t⟩ moves) :
    CacheExplained free (⟨s, a, t⟩ :: moves) t := by
  cases own : a.request with
  | none => exact unrequested_explained invariant step order own
  | some i =>
    have before : ∀ j, j ≠ i → Finished s j := order.1 i own
    have coherent : Finished s i → Coherent free s := by
      intro finished
      apply invariant.quiet
      intro j
      by_cases same : j = i
      · exact same ▸ finished
      · exact before j same
    have explains : ∃ next, t.tasks i = some next ∧
        Explains free (⟨s, a, t⟩ :: moves) t i next.code := by
      cases here : s.tasks i with
      | none =>
        have finished : Finished s i := fun task found => nomatch here.symm.trans found
        exact started_explained (coherent finished) (unacted i here) step own here
      | some task =>
        by_cases ended : task.code.stage = 10
        · have finished : Finished s i := by
            intro other found
            cases here.symm.trans found
            exact ended
          exact ended_explained (coherent finished) step own here ended
        · obtain ⟨_, explained⟩ := invariant.busy i task here ended
          exact explains_step shows explained step here own ended held
    obtain ⟨next, there, explains⟩ := explains
    apply turn_explained there _ explains
    intro j apart task there
    rw [step_other step (fun acting => apart (Option.some.inj (acting.symm.trans own)))] at there
    exact before j apart task there

def NoneStrands (free : P.State → UUID → List Text)
    (moves : List (Move (State Unit P) (Action Unit))) : Prop :=
  ∀ later m earlier, moves = later ++ m :: earlier → ¬ Strands free m earlier

theorem noneStrands_cons :
    NoneStrands free (m :: moves) ↔ ¬ Strands free m moves ∧ NoneStrands free moves := by
  constructor
  · intro none
    refine ⟨none [] m moves rfl, fun later n earlier split => ?_⟩
    exact none (m :: later) n earlier (by rw [split]; rfl)
  · rintro ⟨last, rest⟩ later n earlier split
    cases later with
    | nil =>
      cases split
      exact last
    | cons first later =>
      cases split
      exact rest later n earlier rfl

theorem cacheExplained_run (shows : ShowsSeats P free)
    (initial : (system Unit runtime P).Initial s) (run : Run (system Unit runtime P) s moves t)
    (order : ∀ m ∈ moves, InOrder m) (held : NoneStrands free moves) :
    CacheExplained free moves t := by
  induction run with
  | refl =>
    obtain ⟨-, -, -, -, empty, idle, -⟩ := initial
    constructor
    · intro _ eventId seats entry
      rw [empty ()] at entry
      cases entry
    · intro i task found
      rw [idle i] at found
      cases found
  | move run step ih =>
    obtain ⟨last, rest⟩ := List.forall_mem_cons.mp order
    obtain ⟨kept, none⟩ := noneStrands_cons.mp held
    exact cacheExplained_step shows (fun i => unrequested run) (ih rest none) step last kept

theorem step_broken (step : Step runtime s a t) (found : s.tasks i = some task)
    (breaks : (∃ error, a = .fail i error) ∨ (a = .resume i ∧ task.code.breaksOff = true)) :
    task.code.stage ≠ 10 ∧ t.provider = s.provider ∧ t.cache () = s.cache () ∧
      ∃ next, t.tasks i = some next ∧ next.code.stage = 10 := by
  rcases breaks with ⟨error, rfl⟩ | ⟨rfl, breaks⟩
  · cases step with
    | fail found' failed =>
      cases found.symm.trans found'
      obtain ⟨running, ended⟩ := fail_stage failed
      exact ⟨Nat.ne_of_lt running, rfl, rfl, _, setTask_self .., ended⟩
  · cases step with
    | @resume _ _ code cache found' connected resumed =>
      cases found.symm.trans found'
      have running := Nat.lt_of_lt_of_le (resume_stage resumed) (stage_le _)
      have ended : code.stage = 10 ∧ cache = s.cache task.process := by
        generalize task.code = before at resumed breaks
        cases resume_cases resumed with
        | refused | deleted | kept => exact ⟨rfl, rfl⟩
        | lost missing => simp [Code.breaksOff, missing] at breaks
        | _ => cases breaks
      refine ⟨Nat.ne_of_lt running, rfl, ?_, _, setTask_self .., ended.1⟩
      simp [ended.2]

theorem strands_incoherent (explained : CacheExplained free moves s) (step : Step runtime s a t)
    (order : InOrder ⟨s, a, t⟩) (strands : Strands free ⟨s, a, t⟩ moves) :
    Quiet t ∧ ¬ Coherent free t := by
  obtain ⟨i, task, eventId, answer, found, breaks, member, alters, live⟩ := strands
  obtain ⟨running, provider, cache, next, there, ended⟩ := step_broken step found breaks
  obtain ⟨others, explained⟩ := explained.busy i task found running
  obtain ⟨_, target, source⟩ := explained.altered answer member eventId alters
  have own : a.request = some i := by
    rcases breaks with ⟨error, rfl⟩ | ⟨rfl, _⟩
    · rfl
    · rfl
  constructor
  · intro j task' there'
    by_cases same : j = i
    · subst same
      cases there.symm.trans there'
      exact ended
    · rw [step_other step (fun acting => same (Option.some.inj (acting.symm.trans own)))] at there'
      exact others j same task' there'
  · intro coherent
    obtain ⟨seats, entry⟩ := Option.ne_none_iff_exists'.mp live
    apply alters.2
    calc free answer.target.provider eventId = free t.provider eventId := by rw [provider, target]
      _ = seats := (coherent eventId seats (by rw [cache]; exact entry)).symm
      _ = free answer.source.provider eventId := source seats entry

theorem noneStrands_run (shows : ShowsSeats P free)
    (initial : (system Unit runtime P).Initial s) (run : Run (system Unit runtime P) s moves t)
    (order : ∀ m ∈ moves, InOrder m)
    (coherent : ∀ u, Visited moves t u → Quiet u → Coherent free u) : NoneStrands free moves := by
  induction run with
  | refl => exact fun later m earlier split => by simp at split
  | @move moves t u a run step ih =>
    obtain ⟨last, rest⟩ := List.forall_mem_cons.mp order
    have none : NoneStrands free moves := by
      apply ih rest
      rintro v (rfl | ⟨m, member, rfl⟩)
      · exact coherent v (Or.inr ⟨_, List.mem_cons_self .., rfl⟩)
      · exact coherent _ (Or.inr ⟨m, List.mem_cons_of_mem _ member, rfl⟩)
    refine noneStrands_cons.mpr ⟨fun strands => ?_, none⟩
    obtain ⟨quiet, stale⟩ :=
      strands_incoherent (cacheExplained_run shows initial run rest none) step last strands
    exact stale (coherent u (Or.inl rfl) quiet)

theorem cache_coherent_iff {P : Provider} {free : P.State → UUID → List Text} {runtime : Runtime}
    {s t : State Unit P} {moves : List (Move (State Unit P) (Action Unit))}
    (shows : ShowsSeats P free) (initial : (system Unit runtime P).Initial s)
    (run : Run (system Unit runtime P) s moves t) (order : ∀ m ∈ moves, InOrder m) :
    (∀ u, Visited moves t u → Quiet u → Coherent free u) ↔
      ∀ later m earlier, moves = later ++ m :: earlier → ¬ Strands free m earlier := by
  constructor
  · exact noneStrands_run shows initial run order
  · rintro held u (rfl | ⟨m, member, rfl⟩) quiet
    · exact (cacheExplained_run shows initial run order held).quiet quiet
    · obtain ⟨later, earlier, rfl, before, _, _⟩ := run.cut member
      refine (cacheExplained_run shows initial before ?_ ?_).quiet quiet
      · exact fun n inside => order n (by simp [inside])
      · rintro since n first rfl
        exact held (later ++ m :: since) n first (by simp)

section Sample

def pathProvider (layout : UUID → List Text) : Provider where
  State := Registrations
  Initial _ := True
  Handles held call answer held' := (seatProvider layout).Handles held call answer held' ∧
    ∀ eventId ticketId, call = .unregister eventId ticketId →
      ∀ r ∈ held.held, r ∉ held'.held → r.eventId = eventId

theorem free_congr {layout : UUID → List Text} {held held' : Registrations} {eventId : UUID}
    (same : ∀ r : Registration, r.eventId = eventId → (r ∈ held'.held ↔ r ∈ held.held)) :
    held'.free layout eventId = held.free layout eventId := by
  have taken : ∀ seat, held'.Taken eventId seat ↔ held.Taken eventId seat := by
    intro seat
    simp only [Registrations.Taken, List.mem_map, Registration.place, Prod.mk.injEq]
    constructor
    · rintro ⟨r, member, here, seated⟩
      exact ⟨r, (same r here).mp member, here, seated⟩
    · rintro ⟨r, member, here, seated⟩
      exact ⟨r, (same r here).mpr member, here, seated⟩
  simp [Registrations.free, taken]

theorem handles_cancels {layout : UUID → List Text} {held held' : Registrations}
    {eventId ticketId : UUID} {answer : ProviderAnswer}
    (handled : (seatProvider layout).Handles held (.unregister eventId ticketId) answer held')
    {r : Registration} (member : r ∈ held'.held) : r ∈ held.held := by
  have answered : ∀ answer, Answered layout held (.unregister eventId ticketId) answer held' →
      r ∈ held.held := by
    intro answer answered
    cases answered with
    | released known => exact (List.mem_filter.mp member).1
    | declined | unknown => exact member
  rcases handled with here | ⟨error, _, rfl | ⟨lost, here⟩⟩
  · exact answered answer here
  · exact member
  · exact answered lost here

theorem path_shows {layout : UUID → List Text} :
    ShowsSeats (pathProvider layout) (Registrations.free layout) where
  listed := fun handled => handles_seats handled.1
  elsewhere := by
    intro held held' call answer eventId handled elsewhere
    obtain ⟨handled, path⟩ := handled
    apply free_congr
    intro r here
    by_cases cancels : ∃ eventId ticketId, call = .unregister eventId ticketId
    · obtain ⟨event, ticketId, rfl⟩ := cancels
      refine ⟨handles_cancels handled, fun member => ?_⟩
      by_contra gone
      have same := path event ticketId rfl r member gone
      exact elsewhere (congrArg some (same.symm.trans here))
    · have keeping : ∀ eventId ticketId, call ≠ .unregister eventId ticketId :=
        fun event ticketId calling => cancels ⟨event, ticketId, calling⟩
      refine ⟨fun member => ?_, handles_keeps handled keeping⟩
      rcases handles_new handled keeping member with member | rfl
      · exact member
      · exact absurd (congrArg some here) elsewhere

theorem path_answered {call : ProviderCall} {answer : ProviderAnswer} {held held' : Registrations}
    (answered : Answered oneSeat held call answer held') (kept : ∀ r ∈ held.held, r ∈ held'.held) :
    (pathProvider oneSeat).Handles held call answer held' :=
  ⟨Or.inl answered, fun _ _ _ r member gone => absurd (kept r member) gone⟩

theorem lone_in_order (run : Run (system Unit runtime P) s moves t) (idle : ∀ j, s.tasks j = none)
    (own : ∀ m ∈ moves, m.action.request = some i) : ∀ m ∈ moves, InOrder m := by
  intro m member
  refine ⟨sequential_run run (fun j _ => Or.inl (idle j)) own m member, ?_⟩
  intro call answer acting
  have mine := own m member
  rw [acting] at mine
  cases mine

/-- The commit of a booking fails, and the list in the cache still offers its seat. -/
theorem failed_commit_strands : ∃ moves t,
    Run (system Unit sampleRuntime (pathProvider oneSeat))
      (sampleState (pathProvider oneSeat) Registrations.empty) moves t ∧
      (∀ m ∈ moves, InOrder m) ∧ Quiet t ∧ ¬ Coherent (Registrations.free oneSeat) t := by
  have start := @Run.refl _ _ (system Unit sampleRuntime (pathProvider oneSeat))
    (sampleState (pathProvider oneSeat) Registrations.empty)
  have requested := start.move
    (Step.start () (.register (samplePayload none unkeyed)) (rfl : State.tasks _ 0 = none))
  have checked := requested.move (Step.resume (rfl : State.tasks _ 0 = some _) (fun _ => rfl) rfl)
  have seats := checked.move (@Step.answer _ _ _ _ _ 0 _ _ _ _ _ rfl rfl
    (path_answered (Answered.seats ⟨1⟩) (fun _ => id)) rfl)
  have free := seats.move (Step.resume (rfl : State.tasks _ 0 = some _) (fun _ => rfl) rfl)
  have granted := free.move (@Step.answer _ _ _ _ _ 0 _ _ _ _ _ rfl rfl
    (path_answered (@single_granted _ ⟨7⟩ _ rfl) (fun _ member => nomatch member)) rfl)
  have staged := granted.move (Step.resume (rfl : State.tasks _ 0 = some _) (fun _ => rfl) rfl)
  have failed := staged.move (@Step.fail _ _ _ _ _ 0 _ _ (.other "commit") rfl rfl)
  refine ⟨_, _, failed, ?_, ?_, ?_⟩
  · apply lone_in_order failed (i := 0) (fun _ => rfl)
    repeat refine List.forall_mem_cons.mpr ⟨rfl, ?_⟩
    exact List.forall_mem_nil _
  · intro j task found
    rcases j with _ | j
    · cases found
      rfl
    · cases found
  · intro coherent
    have entry := coherent ⟨1⟩ ["A1"] rfl
    exact absurd entry (by decide)

theorem cache_incoherent_after_failed_commit :
    ¬ ∀ (s t : State Unit (pathProvider oneSeat))
      (moves : List (Move (State Unit (pathProvider oneSeat)) (Action Unit))),
      (system Unit sampleRuntime (pathProvider oneSeat)).Initial s →
        Run (system Unit sampleRuntime (pathProvider oneSeat)) s moves t →
          (∀ m ∈ moves, InOrder m) →
            ∀ u, Visited moves t u → Quiet u → Coherent (Registrations.free oneSeat) u := by
  intro coherent
  obtain ⟨moves, t, run, order, quiet, stale⟩ := failed_commit_strands
  exact stale (coherent _ t moves (sample_initial trivial) run order t (Or.inl rfl) quiet)

theorem cache_coherent_iff_failed_commit : ∃ moves t,
    Run (system Unit sampleRuntime (pathProvider oneSeat))
      (sampleState (pathProvider oneSeat) Registrations.empty) moves t ∧
      ¬ ∀ later m earlier, moves = later ++ m :: earlier →
        ¬ Strands (Registrations.free oneSeat) m earlier := by
  obtain ⟨moves, t, run, order, quiet, stale⟩ := failed_commit_strands
  refine ⟨moves, t, run, fun held => stale ?_⟩
  exact (cache_coherent_iff path_shows (sample_initial trivial) run order).mpr held t (Or.inl rfl)
    quiet

end Sample

end EventsAggregator
