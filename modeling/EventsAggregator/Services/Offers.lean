import EventsAggregator.Services.Progress
import EventsAggregator.Clients.SeatProvider

namespace EventsAggregator

open Relational Transition

def Code.Offers (eventId : UUID) (seat : Text) : Code → Prop
  | .register _ (.seatsAnswered event (.ok free)) | .seats _ (.answered event (.ok free)) =>
    event.id = eventId ∧ seat ∈ free
  | _ => False

def Code.Lists (eventId : UUID) (seat : Text) : Code → Prop
  | .seats requested (.returned free) => requested = eventId ∧ seat ∈ free
  | _ => False

def Code.OwnEvent : Code → Prop
  | .seats eventId (.askSeats event) | .seats eventId (.answered event _) => event.id = eventId
  | _ => True

variable {runtime : Runtime} {eventId : UUID} {seat : Text} {db : Database} {now : Instant}
  {cache cache' : SeatsCache} {code code' : Code}

theorem found_event {event : EventORM} (found : db.events.find? eventId = some event) :
    event.id = eventId :=
  ((db.events.find?_eq_some eventId event).mp found).2

theorem cached_set {event : EventORM} {seats : List Text}
    (withheld : ¬ (event.id = eventId ∧ seat ∈ seats))
    (cached : ∀ old, cache.get eventId.str = some old → seat ∉ old) {listed : List Text}
    (here : (cache.set event.id.str seats).get eventId.str = some listed) : seat ∉ listed := by
  rw [SeatsCache.get_set] at here
  by_cases same : eventId.str = event.id.str
  · rw [if_pos same] at here
    cases here
    intro offered
    exact withheld ⟨UUID.str_injective same.symm, offered⟩
  · rw [if_neg same] at here
    exact cached listed here

theorem cached_invalidate {key : String}
    (cached : ∀ old, cache.get eventId.str = some old → seat ∉ old) {listed : List Text}
    (here : (cache.invalidate key).get eventId.str = some listed) : seat ∉ listed := by
  rw [SeatsCache.get_invalidate] at here
  split at here
  · cases here
  · exact cached listed here

theorem resume_withheld (own : code.OwnEvent) (withheld : ¬ code.Offers eventId seat)
    (cached : ∀ old, cache.get eventId.str = some old → seat ∉ old)
    (resumed : code.resume runtime db now cache = some (code', cache')) :
    (∀ listed, cache'.get eventId.str = some listed → seat ∉ listed) ∧
      ¬ code'.Offers eventId seat ∧ ¬ code'.Lists eventId seat := by
  cases resume_cases resumed with
  | free | taken =>
    exact ⟨fun listed here => cached_set withheld cached here, by simp [Code.Offers],
      by simp [Code.Lists]⟩
  | booked | cancelled =>
    exact ⟨fun listed here => cached_invalidate cached here, by simp [Code.Offers],
      by simp [Code.Lists]⟩
  | @seatsCached requested event seats found hit =>
    refine ⟨cached, by simp [Code.Offers], ?_⟩
    rintro ⟨rfl, listed⟩
    rw [found_event found] at hit
    exact cached seats hit listed
  | seatsListed =>
    refine ⟨fun listed here => cached_set withheld cached here, by simp [Code.Offers], ?_⟩
    rintro ⟨rfl, listed⟩
    exact withheld ⟨own, listed⟩
  | _ => exact ⟨cached, by simp [Code.Offers], by simp [Code.Lists]⟩

theorem receive_offers {answer : ProviderAnswer} (received : code.receive answer = some code')
    (offers : code'.Offers eventId seat) :
    ∃ seats, code.call = some (.seats eventId) ∧ answer = .seats (.ok seats) ∧ seat ∈ seats := by
  unfold Code.receive at received
  split at received <;> cases received
  case h_1 payload event result =>
    cases result with
    | ok seats =>
      obtain ⟨rfl, listed⟩ := offers
      exact ⟨seats, rfl, rfl, listed⟩
    | error => cases offers
  case h_4 requested event result =>
    cases result with
    | ok seats =>
      obtain ⟨rfl, listed⟩ := offers
      exact ⟨seats, rfl, rfl, listed⟩
    | error => cases offers
  all_goals cases offers

theorem receive_lists {answer : ProviderAnswer} (received : code.receive answer = some code') :
    ¬ code'.Lists eventId seat := by
  unfold Code.receive at received
  split at received <;> cases received <;> simp [Code.Lists]

theorem commit_silent {outboxId : UUID} {session : Session}
    (committing : code.commit runtime outboxId = some (session, code')) :
    ¬ code'.Offers eventId seat ∧ ¬ code'.Lists eventId seat := by
  unfold Code.commit at committing
  split at committing <;> cases committing <;> simp [Code.Offers, Code.Lists]

theorem fail_silent {error : Raised} (failed : code.fail error = some code') :
    ¬ code'.Offers eventId seat ∧ ¬ code'.Lists eventId seat := by
  unfold Code.fail at failed
  split at failed <;> cases failed <;> simp [Code.Offers, Code.Lists]

theorem begin_silent (job : Job) :
    ¬ job.begin.Offers eventId seat ∧ ¬ job.begin.Lists eventId seat := by
  cases job with
  | register payload =>
    unfold Job.begin
    rcases beginRegister_cases payload with ⟨_, same⟩ | ⟨key, _, same⟩
    all_goals simp [same, Code.Offers, Code.Lists]
  | unregister | seats => simp [Job.begin, Code.Offers, Code.Lists]

theorem resume_own_event (own : code.OwnEvent)
    (resumed : code.resume runtime db now cache = some (code', cache')) : code'.OwnEvent := by
  cases resume_cases resumed with
  | seatsUncached found => exact found_event found
  | _ => trivial

variable {layout : UUID → List Text} {s t : State Unit (seatProvider layout)}
  {a : Action Unit} {moves : List (Move (State Unit (seatProvider layout)) (Action Unit))}

theorem every_own_event (step : Step runtime s a t) (every : EveryCode Code.OwnEvent s) :
    EveryCode Code.OwnEvent t := by
  apply every_code step every
  · intro job
    cases job <;> trivial
  · intro code code' own moved
    cases moved with
    | same => exact own
    | locked payload key => trivial
    | resumed unchanged resumed => exact resume_own_event own resumed
    | received asked handled received =>
      unfold Code.receive at received
      split at received <;> cases received
      case h_4 => exact own
      all_goals trivial
    | committed committing accepted =>
      unfold Code.commit at committing
      split at committing <;> cases committing <;> trivial
    | failed acting failed =>
      unfold Code.fail at failed
      split at failed <;> cases failed <;> trivial

def Taken (s : State Unit (seatProvider layout)) (eventId : UUID) (seat : Text) : Prop :=
  Registrations.Taken s.provider eventId seat

instance (s : State Unit (seatProvider layout)) (eventId : UUID) (seat : Text) :
    Decidable (Taken s eventId seat) :=
  Registrations.decidableTaken s.provider eventId seat

def Frees (m : Move (State Unit (seatProvider layout)) (Action Unit)) (eventId : UUID)
    (seat : Text) : Prop :=
  Taken m.source eventId seat ∧ ¬ Taken m.target eventId seat

/-- A taken seat that no list shows: not the cache's, not one on its way there, and not one
    that a call returned which was not `known` before. -/
structure Withheld (eventId : UUID) (seat : Text) (known : Nat → Prop)
    (s : State Unit (seatProvider layout)) : Prop where
  taken : Taken s eventId seat
  cached : ∀ listed, (s.cache ()).get eventId.str = some listed → seat ∉ listed
  answered : ∀ j task, s.tasks j = some task → ¬ task.code.Offers eventId seat
  listed : ∀ j task, ¬ known j → s.tasks j = some task → ¬ task.code.Lists eventId seat

variable {known : Nat → Prop}

theorem Withheld.moved (withheld : Withheld eventId seat known s) {i : Nat} {task : Task Unit}
    (moved : t.tasks = (s.setTask i task).tasks) (taken : Taken t eventId seat)
    (cached : ∀ listed, (t.cache ()).get eventId.str = some listed → seat ∉ listed)
    (silent : ¬ task.code.Offers eventId seat)
    (unlisted : ¬ known i → ¬ task.code.Lists eventId seat) :
    Withheld eventId seat known t := by
  refine ⟨taken, cached, ?_, ?_⟩
  · intro j task' found
    rw [moved, setTask_tasks] at found
    split at found
    · cases found
      exact silent
    · exact withheld.answered j task' found
  · intro j task' unknown found
    rw [moved, setTask_tasks] at found
    split at found
    · rename_i here
      cases found
      exact unlisted (here ▸ unknown)
    · exact withheld.listed j task' unknown found

theorem step_withheld (step : Step runtime s a t) (own : EveryCode Code.OwnEvent s)
    (held : ¬ Frees ⟨s, a, t⟩ eventId seat) (withheld : Withheld eventId seat known s) :
    Withheld eventId seat known t := by
  have taken : Taken t eventId seat := by
    by_contra freed
    exact held ⟨withheld.taken, freed⟩
  have cached := withheld.cached
  cases step with
  | start process job fresh =>
    obtain ⟨silent, unlisted⟩ := @begin_silent eventId seat job
    exact withheld.moved rfl taken cached silent fun _ => unlisted
  | lockKey found connected waiting free =>
    exact withheld.moved rfl taken cached (by simp [Code.Offers]) fun _ => by simp [Code.Lists]
  | resume found connected resumed =>
    obtain ⟨stored, silent, unlisted⟩ := resume_withheld (own _ _ found)
      (withheld.answered _ _ found) cached resumed
    refine withheld.moved rfl taken ?_ silent fun _ => unlisted
    simpa using stored
  | answer found asked handled received =>
    refine withheld.moved rfl taken cached ?_ fun _ => receive_lists received
    intro offers
    obtain ⟨seats, called, rfl, listed⟩ := receive_offers received offers
    cases asked.symm.trans called
    rw [handles_seats handled] at listed
    exact Registrations.taken_not_free withheld.taken listed
  | commit found connected committing accepted =>
    obtain ⟨silent, unlisted⟩ := commit_silent committing
    exact withheld.moved rfl taken cached silent fun _ => unlisted
  | fail found failed =>
    obtain ⟨silent, unlisted⟩ := fail_silent failed
    exact withheld.moved rfl taken cached silent fun _ => unlisted
  | disconnect found =>
    have silent := withheld.answered _ _ found
    have unlisted := fun unknown => withheld.listed _ _ unknown found
    exact withheld.moved rfl taken cached silent unlisted
  | evict process key =>
    refine ⟨taken, ?_, withheld.answered, withheld.listed⟩
    intro listed here
    simp only [Function.update_self] at here
    exact cached_invalidate cached here
  | late | tick | upsert | publish => exact ⟨taken, cached, withheld.answered, withheld.listed⟩

/-- The list of free seats that a call holds when a booking of one of them returns. -/
def NoStaleFill (m : Move (State Unit (seatProvider layout)) (Action Unit)) : Prop :=
  ∀ i task payload ticketId, m.action = .resume i → m.source.tasks i = some task →
    task.code = .register payload (.committed ticketId) →
    Taken m.source payload.eventId payload.seat →
    ∀ j other, m.source.tasks j = some other → ¬ other.code.Offers payload.eventId payload.seat

/-- Once `register` has returned the ticket the provider granted it, no `get_available_seats`
    call that starts later returns its seat, for as long as the provider has not freed it. -/
def NotOfferedAgain (moves : List (Move (State Unit (seatProvider layout)) (Action Unit)))
    (t : State Unit (seatProvider layout)) : Prop :=
  ∀ later booking between grant earlier i payload event ticketId,
    moves = later ++ booking :: (between ++ grant :: earlier) →
    grant.action = .answer i (.registration (.ok ticketId)) →
    (∃ task, grant.source.tasks i = some task ∧
      task.code = .register payload (.askRegister event)) →
    booking.action = .resume i →
    (∃ task, booking.source.tasks i = some task ∧
      task.code = .register payload (.committed ticketId)) →
    (∀ m ∈ later ++ booking :: between, ¬ Frees m payload.eventId payload.seat) →
    ∀ m ∈ later, ∀ j process, m.action = .start j process (.seats payload.eventId) →
    ∀ task seats, t.tasks j = some task → task.code = .seats payload.eventId (.returned seats) →
      (payload.seat : Text) ∉ seats

theorem grant_taken {grant : Move (State Unit (seatProvider layout)) (Action Unit)} {i : Nat}
    {payload : SEventRegistrationCreate} {event : EventORM} {ticketId : UUID} {task : Task Unit}
    (step : Step runtime grant.source grant.action grant.target)
    (granted : grant.action = .answer i (.registration (.ok ticketId)))
    (found : grant.source.tasks i = some task)
    (code : task.code = .register payload (.askRegister event)) :
    Taken grant.target payload.eventId payload.seat := by
  obtain ⟨s, a, t⟩ := grant
  simp only at *
  subst granted
  cases step with
  | answer here asked handled received =>
    cases found.symm.trans here
    rw [code] at asked
    cases asked
    obtain ⟨member, _⟩ := handles_granted handled
    exact List.mem_map_of_mem (f := Registration.place) member

theorem booking_withheld {booking : Move (State Unit (seatProvider layout)) (Action Unit)} {i : Nat}
    {payload : SEventRegistrationCreate} {ticketId : UUID} {task : Task Unit}
    (step : Step runtime booking.source booking.action booking.target)
    (acting : booking.action = .resume i) (found : booking.source.tasks i = some task)
    (code : task.code = .register payload (.committed ticketId))
    (taken : Taken booking.source payload.eventId payload.seat) (guard : NoStaleFill booking) :
    Withheld payload.eventId payload.seat (fun j => (booking.target.tasks j).isSome)
      booking.target := by
  have silent := guard i task payload ticketId acting found code taken
  obtain ⟨s, a, t⟩ := booking
  simp only at *
  subst acting
  cases step with
  | resume here connected resumed =>
    cases found.symm.trans here
    rw [code] at resumed
    simp only [Code.resume, Option.some.injEq, Prod.mk.injEq] at resumed
    obtain ⟨rfl, rfl⟩ := resumed
    have still : Registrations.Taken s.provider payload.eventId payload.seat := taken
    refine ⟨still, ?_, ?_, ?_⟩
    · intro listed cached
      simp only [Function.update_self] at cached
      rw [SeatsCache.get_invalidate, if_pos rfl] at cached
      cases cached
    · intro j other there
      simp only at there
      rw [setTask_tasks] at there
      split at there
      · cases there
        simp [Code.Offers]
      · exact silent j other there
    · intro j other unknown there
      rw [there] at unknown
      exact absurd rfl unknown

theorem finished_booking_not_offered
    (initial : (system Unit runtime (seatProvider layout)).Initial s)
    (run : Run (system Unit runtime (seatProvider layout)) s moves t)
    (guard : ∀ m ∈ moves, NoStaleFill m) : NotOfferedAgain moves t := by
  intro later booking between grant earlier i payload event ticketId split granted asking acting
    committed held m inside j process started task seats found code listed
  subst split
  obtain ⟨before, step, after⟩ := run.split
  obtain ⟨first, granting, middle⟩ := before.split
  have own : ∀ u moves, Run (system Unit runtime (seatProvider layout)) s moves u →
      EveryCode Code.OwnEvent u := by
    intro u moves path
    apply path.invariant (I := fun u => EveryCode Code.OwnEvent u)
      (fun _ _ _ every step => every_own_event step every)
    obtain ⟨-, -, -, -, -, idle, -⟩ := initial
    exact every_initial idle
  obtain ⟨asker, present, asks⟩ := asking
  obtain ⟨returner, waiting, returns⟩ := committed
  have taken : Taken booking.source payload.eventId payload.seat := by
    apply middle.guarded (I := fun u => Taken u payload.eventId payload.seat)
      (G := fun m => ¬ Frees m payload.eventId payload.seat)
    · intro u a v taken held _
      by_contra freed
      exact held ⟨taken, freed⟩
    · intro n member
      exact held n (by simp [member])
    · exact grant_taken granting granted present asks
  have start := booking_withheld step acting waiting returns taken
    (guard booking (by simp))
  have still : EveryCode Code.OwnEvent t ∧ Withheld payload.eventId payload.seat
      (fun j => (booking.target.tasks j).isSome) t := by
    apply after.guarded (I := fun u => EveryCode Code.OwnEvent u ∧ Withheld payload.eventId
        payload.seat (fun j => (booking.target.tasks j).isSome) u)
      (G := fun m => ¬ Frees m payload.eventId payload.seat)
    · intro u a v valid held step
      exact ⟨every_own_event step valid.1, step_withheld step valid.1 held valid.2⟩
    · intro n member
      exact held n (by simp [member])
    · exact ⟨own _ _ (before.move step), start⟩
  have unknown : booking.target.tasks j = none := by
    obtain ⟨_, _, rfl, path, starting, _⟩ := after.cut inside
    obtain ⟨u, a, v⟩ := m
    simp only at started path starting
    subst started
    apply unstarted path
    cases starting with
    | start process job fresh => exact fresh
  exact still.2.listed j task (by simp [unknown]) found (by
    rw [code]
    exact ⟨rfl, listed⟩)

/-- A call asks for the free seats, the only one is booked while it holds the answer, and it
    fills the cache with that answer after the booking has cleared it. -/
theorem stale_fill : ¬ ∀ (s t : State Unit (seatProvider oneSeat))
    (moves : List (Move (State Unit (seatProvider oneSeat)) (Action Unit))),
    (system Unit sampleRuntime (seatProvider oneSeat)).Initial s →
      Run (system Unit sampleRuntime (seatProvider oneSeat)) s moves t →
        NotOfferedAgain moves t := by
  intro never
  have start := @Run.refl _ _ (system Unit sampleRuntime (seatProvider oneSeat))
    (sampleState (seatProvider oneSeat) .empty)
  have looking := start.move (Step.start () (.seats ⟨1⟩) (rfl : State.tasks _ 0 = none))
  have asking := looking.move (Step.resume (rfl : State.tasks _ 0 = some _) (fun _ => rfl) rfl)
  have listed := asking.move
    (@Step.answer _ _ _ _ _ 0 _ _ _ _ _ rfl rfl (Or.inl (Answered.seats ⟨1⟩)) rfl)
  have requested := listed.move
    (Step.start () (.register (samplePayload none unkeyed)) (rfl : State.tasks _ 1 = none))
  have checked := requested.move (Step.resume (rfl : State.tasks _ 1 = some _) (fun _ => rfl) rfl)
  have seats := checked.move
    (@Step.answer _ _ _ _ _ 1 _ _ _ _ _ rfl rfl (Or.inl (Answered.seats ⟨1⟩)) rfl)
  have free := seats.move (Step.resume (rfl : State.tasks _ 1 = some _) (fun _ => rfl) rfl)
  have granted := free.move
    (@Step.answer _ _ _ _ _ 1 _ _ _ _ _ rfl rfl (Or.inl (@single_granted _ ⟨7⟩ _ rfl)) rfl)
  have staged := granted.move (Step.resume (rfl : State.tasks _ 1 = some _) (fun _ => rfl) rfl)
  have bought := staged.move (@Step.commit _ _ _ _ _ 1 _ _ ⟨100⟩ _ _ rfl rfl rfl rfl)
  have returned := bought.move (Step.resume (rfl : State.tasks _ 1 = some _) (fun _ => rfl) rfl)
  have filled := returned.move (Step.resume (rfl : State.tasks _ 0 = some _) (fun _ => rfl) rfl)
  have again := filled.move (Step.start () (.seats ⟨1⟩) (rfl : State.tasks _ 2 = none))
  have shown := again.move (Step.resume (rfl : State.tasks _ 2 = some _) (fun _ => rfl) rfl)
  refine never _ _ _ (sample_initial trivial) shown [_, _, _] _ [_, _] _ _ 1
    (samplePayload none unkeyed) sampleEvent ⟨7⟩ rfl rfl ⟨_, rfl, rfl⟩ rfl ⟨_, rfl, rfl⟩ ?_ _
    (List.mem_cons_of_mem _ (List.mem_cons_self ..)) 2 () rfl _ ["A1"] rfl rfl (by decide)
  intro m member freed
  simp only [List.cons_append, List.nil_append, List.mem_cons, List.not_mem_nil, or_false]
    at member
  rcases member with rfl | rfl | rfl | rfl | rfl | rfl
  all_goals exact freed.2 (by decide)

theorem alone_no_stale_fill {m : Move (State Unit (seatProvider layout)) (Action Unit)} {i : Nat}
    (alone : ∀ j, j ≠ i → m.source.tasks j = none) : NoStaleFill m := by
  intro k task payload ticketId _ found code _ j other here offers
  have one : ∀ j other, m.source.tasks j = some other → j = i := by
    intro j other there
    by_contra apart
    rw [alone j apart] at there
    cases there
  obtain rfl := one j other here
  obtain rfl := one k task found
  cases here.symm.trans found
  rw [code] at offers
  cases offers

theorem finished_booking_not_offered_alone : ∃ moves t,
    Run (system Unit sampleRuntime (seatProvider oneSeat))
      (sampleState (seatProvider oneSeat) .empty) moves t ∧
      (t.tasks 0).map Task.code =
        some (.register (samplePayload none unkeyed) (.returned ⟨7⟩)) ∧
      NotOfferedAgain moves t := by
  have start := @Run.refl _ _ (system Unit sampleRuntime (seatProvider oneSeat))
    (sampleState (seatProvider oneSeat) .empty)
  have requested := start.move
    (Step.start () (.register (samplePayload none unkeyed)) (rfl : State.tasks _ 0 = none))
  have checked := requested.move (Step.resume (rfl : State.tasks _ 0 = some _) (fun _ => rfl) rfl)
  have seats := checked.move
    (@Step.answer _ _ _ _ _ 0 _ _ _ _ _ rfl rfl (Or.inl (Answered.seats ⟨1⟩)) rfl)
  have free := seats.move (Step.resume (rfl : State.tasks _ 0 = some _) (fun _ => rfl) rfl)
  have granted := free.move
    (@Step.answer _ _ _ _ _ 0 _ _ _ _ _ rfl rfl (Or.inl (@single_granted _ ⟨7⟩ _ rfl)) rfl)
  have staged := granted.move (Step.resume (rfl : State.tasks _ 0 = some _) (fun _ => rfl) rfl)
  have bought := staged.move (@Step.commit _ _ _ _ _ 0 _ _ ⟨100⟩ _ _ rfl rfl rfl rfl)
  have returned := bought.move (Step.resume (rfl : State.tasks _ 0 = some _) (fun _ => rfl) rfl)
  refine ⟨_, _, returned, rfl, finished_booking_not_offered (sample_initial trivial) returned ?_⟩
  intro m member
  apply alone_no_stale_fill (i := 0)
  intro j other
  obtain ⟨later, earlier, same, before, _, _⟩ := returned.cut member
  rw [others_kept before ?_ other]
  · rfl
  · intro n inside k acting
    have member : n ∈ later ++ m :: earlier := by simp [inside]
    rw [← same] at member
    simp only [List.mem_cons, List.not_mem_nil, or_false] at member
    rcases member with rfl | rfl | rfl | rfl | rfl | rfl | rfl | rfl | rfl
    all_goals exact (Option.some.inj acting).symm

end EventsAggregator
