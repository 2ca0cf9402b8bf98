import EventsAggregator.Services.Progress

namespace EventsAggregator

open Relational Transition

/-- What the checks of `register` are made on: the event that was found, the clock, the unexpired
    cache entry for that event and, without one, how the request for its seats ended. -/
structure GateView where
  found : Option EventORM
  now : Instant
  cached : Option (List Text)
  answer : Option (Except Raised (List Text))

namespace GateView

def listed (view : GateView) : Option (Except Raised (List Text)) :=
  match view.cached with
  | some seats => some (.ok seats)
  | none => view.answer

structure Admits (view : GateView) (event : EventORM) : Prop where
  found : view.found = some event
  early : view.now < event.registrationDeadline
  published : event.status = .published

def Opens (view : GateView) (payload : SEventRegistrationCreate) : Prop :=
  ∃ event seats, view.Admits event ∧ view.listed = some (.ok seats) ∧ (payload.seat : Text) ∈ seats

inductive Refuses (view : GateView) (payload : SEventRegistrationCreate) : Raised → Prop
  | unknown (missing : view.found = none) :
      Refuses view payload (.domain ⟨.eventNotFound, s!"Event {payload.eventId} not found"⟩)
  | late {event : EventORM} (found : view.found = some event)
      (late : event.registrationDeadline ≤ view.now) :
      Refuses view payload (.domain ⟨.registrationDeadlinePassed,
        s!"Registration deadline passed for event {payload.eventId}"⟩)
  | unpublished {event : EventORM} (found : view.found = some event)
      (early : view.now < event.registrationDeadline) (unpublished : event.status ≠ .published) :
      Refuses view payload (.domain ⟨.eventNotPublished,
        s!"Event {event.id} is not available for registration (status: {event.status.value})"⟩)
  | unlisted {event : EventORM} {error : APIClientError} (admits : view.Admits event)
      (listed : view.listed = some (.error (.client error)))
      (missing : error.isInstance .providerNotFound = true) :
      Refuses view payload (.domain ⟨.noAvailableSeats, s!"Event {event.id} not found"⟩)
  | failed {event : EventORM} {raised : Raised} (admits : view.Admits event)
      (listed : view.listed = some (.error raised))
      (other : ∀ error, raised = .client error → error.isInstance .providerNotFound = false) :
      Refuses view payload raised
  | full {event : EventORM} (admits : view.Admits event) (listed : view.listed = some (.ok [])) :
      Refuses view payload
        (.domain ⟨.noAvailableSeats, s!"No seats available for event {payload.eventId}"⟩)
  | taken {event : EventORM} {seats : List Text} (admits : view.Admits event)
      (listed : view.listed = some (.ok seats)) (some : seats ≠ [])
      (taken : (payload.seat : Text) ∉ seats) :
      Refuses view payload (.domain ⟨.seatAlreadyTaken, s!"Seat {payload.seat} is not available"⟩)

variable {view : GateView} {payload : SEventRegistrationCreate} {event : EventORM}

theorem refuses_not_opens {error : Raised} (refuses : view.Refuses payload error) :
    ¬ view.Opens payload := by
  rintro ⟨event, seats, admits, listed, free⟩
  cases refuses with
  | unknown missing => cases missing.symm.trans admits.found
  | late found late =>
    cases found.symm.trans admits.found
    exact absurd admits.early (not_lt.mpr late)
  | unpublished found _ unpublished =>
    cases found.symm.trans admits.found
    exact unpublished admits.published
  | unlisted _ here => cases here.symm.trans listed
  | failed _ here => cases here.symm.trans listed
  | full _ here =>
    cases here.symm.trans listed
    cases free
  | taken _ here _ taken =>
    cases here.symm.trans listed
    exact taken free

theorem checkSeat_gate {seats : List Text} (admits : view.Admits event)
    (listed : view.listed = some (.ok seats)) :
    (∃ error, checkSeat payload event seats = .raised error ∧ view.Refuses payload error) ∨
      checkSeat payload event seats = .askRegister event ∧ view.Opens payload := by
  unfold checkSeat
  by_cases empty : seats = []
  · subst empty
    exact Or.inl ⟨_, if_pos rfl, .full admits listed⟩
  · rw [if_neg empty]
    by_cases free : (payload.seat : Text) ∈ seats
    · exact Or.inr ⟨if_neg (not_not.mpr free), event, seats, admits, listed, free⟩
    · exact Or.inl ⟨_, if_pos free, .taken admits listed empty free⟩

theorem receiveSeats_gate {result : Except APIClientError (List Text)} {cache : SeatsCache}
    (admits : view.Admits event) (listed : view.listed = some (result.mapError .client)) :
    (∃ error, (receiveSeats payload event result cache).1 = .raised error ∧
        view.Refuses payload error) ∨
      (receiveSeats payload event result cache).1 = .askRegister event ∧ view.Opens payload := by
  cases result with
  | ok seats => exact checkSeat_gate admits listed
  | error error =>
    left
    unfold receiveSeats receiveAvailableSeats
    by_cases missing : error.isInstance .providerNotFound = true
    · simp only [missing, if_true]
      exact ⟨_, rfl, .unlisted admits listed missing⟩
    · simp only [missing]
      refine ⟨_, rfl, .failed admits listed ?_⟩
      rintro _ ⟨⟩
      simpa using missing

theorem checkEvent_gate {cache : SeatsCache}
    (cached : view.cached = view.found.bind fun event => cache.get event.id.str) :
    (∃ error, checkEvent payload view.found view.now cache = .raised error ∧
        view.Refuses payload error) ∨
      (∃ event, checkEvent payload view.found view.now cache = .askSeats event ∧
        view.Admits event ∧ view.cached = none) ∨
      ∃ event, checkEvent payload view.found view.now cache = .askRegister event ∧
        view.Opens payload := by
  unfold checkEvent resolveAvailableSeats
  cases found : view.found with
  | none => exact Or.inl ⟨_, rfl, .unknown found⟩
  | some event =>
    rw [found] at cached
    by_cases late : event.registrationDeadline ≤ view.now
    · exact Or.inl ⟨_, if_pos late, .late found late⟩
    have early : view.now < event.registrationDeadline := lt_of_not_ge late
    by_cases published : event.status = .published
    · simp only [late, published, ne_eq, not_true_eq_false, if_false]
      have admits : view.Admits event := ⟨found, early, published⟩
      cases hit : cache.get event.id.str with
      | none => exact Or.inr (Or.inl ⟨event, rfl, admits, cached.trans hit⟩)
      | some seats =>
        have listed : view.listed = some (.ok seats) := by
          rw [listed, cached.trans hit]
        rcases @checkSeat_gate view payload event seats admits listed with refused | ⟨asks, opens⟩
        · exact Or.inl refused
        · exact Or.inr (Or.inr ⟨event, asks, opens⟩)
    · simp only [late, published, ne_eq, not_false_eq_true, if_true, if_false]
      exact Or.inl ⟨_, rfl, .unpublished found early published⟩

end GateView

def RegisterPoint.behindGate : RegisterPoint → Bool
  | .askRegister _ | .registerAnswered _ _ | .commit .. | .committed _ | .returned _
  | .raised _ => true
  | _ => false

def Code.asksSeats : Code → Bool
  | .register _ (.askSeats _) => true
  | _ => false

variable {Process : Type} {P : Provider}

def seatsAnswer (i : Nat) (m : Move (State Process P) (Action Process)) :
    Option (Except Raised (List Text)) :=
  match m.action with
  | .answer j (.seats result) => if j = i then some (result.mapError .client) else none
  | .fail j error =>
    if j = i ∧ (m.source.tasks i).any (fun task => task.code.asksSeats) = true then
      some (.error error)
    else none
  | _ => none

def gateView (i : Nat) (payload : SEventRegistrationCreate) (u : State Process P)
    (process : Process) (later : List (Move (State Process P) (Action Process))) : GateView where
  found := u.db.events.find? payload.eventId
  now := u.now
  cached := (u.db.events.find? payload.eventId).bind fun event =>
    (u.cache process).get event.id.str
  answer := later.findSome? (seatsAnswer i)

def AsksRegister (i : Nat) (m : Move (State Process P) (Action Process)) : Prop :=
  m.action = .resume i ∧ ∃ task payload event, m.target.tasks i = some task ∧
    task.code = .register payload (.askRegister event)

/-- An await of the call raises only what a request to the provider lets out beside the errors of
    the client, or where PostgreSQL refuses the statement for the lock. -/
def FailsWithCause (i : Nat) (m : Move (State Process P) (Action Process)) : Prop :=
  ∀ error, m.action = .fail i error → (∀ answer, error ≠ .client answer) ∧
    ∃ task, m.source.tasks i = some task ∧
      (task.code.call.isSome = true ∨ LockRefused task.code)

def FindsRecord (i : Nat) (m : Move (State Process P) (Action Process)) : Prop :=
  m.action = .resume i ∧ ∃ task payload key, m.source.tasks i = some task ∧
    task.code = .register payload (.getKey key) ∧
      m.source.db.idempotencyKeys.find? key ≠ none

/-- Where a call stands, told by what it has been shown. -/
inductive GateStage (view : GateView) (payload : SEventRegistrationCreate) (asked : Prop) :
    RegisterPoint → Prop
  | waiting {event : EventORM} (admits : view.Admits event) (uncached : view.cached = none)
      (pending : view.answer = none) (unasked : ¬ asked) :
      GateStage view payload asked (.askSeats event)
  | told {event : EventORM} {result : Except APIClientError (List Text)}
      (admits : view.Admits event) (uncached : view.cached = none)
      (answered : view.answer = some (result.mapError .client)) (unasked : ¬ asked) :
      GateStage view payload asked (.seatsAnswered event result)
  | refused {error : Raised} (refuses : view.Refuses payload error) (unasked : ¬ asked) :
      GateStage view payload asked (.raised error)
  | passed {point : RegisterPoint} (opens : view.Opens payload) (reached : asked)
      (behind : point.behindGate = true) : GateStage view payload asked point

section Run

variable [DecidableEq Process] {runtime : Runtime} {view : GateView}
  {payload : SEventRegistrationCreate} {asked : Prop} {point : RegisterPoint} {i : Nat}
  {s t u : State Process P} {a : Action Process} {task : Task Process}
  {moves later : List (Move (State Process P) (Action Process))}

omit [DecidableEq Process] in
theorem gateView_silent (process : Process) {m : Move (State Process P) (Action Process)}
    (silent : seatsAnswer i m = none) :
    gateView i payload u process (m :: later) = gateView i payload u process later := by
  unfold gateView
  rw [List.findSome?_cons, silent]

omit [DecidableEq Process] in
theorem gateView_answer (process : Process) {m : Move (State Process P) (Action Process)}
    {answer : Except Raised (List Text)} (told : seatsAnswer i m = some answer) :
    (gateView i payload u process (m :: later)).answer = some answer := by
  unfold gateView
  rw [List.findSome?_cons, told]

omit [DecidableEq Process] in
theorem gateView_admits {process : Process} {m : Move (State Process P) (Action Process)}
    {event : EventORM} (admits : (gateView i payload u process later).Admits event) :
    (gateView i payload u process (m :: later)).Admits event :=
  ⟨admits.found, admits.early, admits.published⟩

def AskedIn (i : Nat) (moves : List (Move (State Process P) (Action Process))) : Prop :=
  ∃ m ∈ moves, AsksRegister i m

omit [DecidableEq Process] in
theorem askedIn_silent {m : Move (State Process P) (Action Process)}
    (silent : ¬ AsksRegister i m) : AskedIn i (m :: moves) ↔ AskedIn i moves := by
  unfold AskedIn
  rw [List.exists_mem_cons_iff]
  exact or_iff_right silent

omit [DecidableEq Process] in
theorem GateStage.same {asked' : Prop} (stage : GateStage view payload asked point)
    (same : asked' ↔ asked) : GateStage view payload asked' point := by
  rw [propext same]
  exact stage

omit [DecidableEq Process] in
theorem seatsAnswer_other {m : Move (State Process P) (Action Process)}
    (other : m.action.request ≠ some i) : seatsAnswer i m = none := by
  obtain ⟨s, a, t⟩ := m
  unfold seatsAnswer
  split
  · rename_i j result acting
    have apart : j ≠ i := fun same => other (by rw [show a = _ from acting, same]; rfl)
    exact if_neg apart
  · rename_i j error acting
    have apart : j ≠ i := fun same => other (by rw [show a = _ from acting, same]; rfl)
    exact if_neg fun both => apart both.1
  · rfl

omit [DecidableEq Process] in
theorem seatsAnswer_fail {error : Raised} (found : s.tasks i = some task) :
    seatsAnswer i ⟨s, .fail i error, t⟩ =
      if task.code.asksSeats = true then some (.error error) else none := by
  simp [seatsAnswer, found]

omit [DecidableEq Process] in
theorem stage_silent {process : Process} {check m : Move (State Process P) (Action Process)}
    (stage : GateStage (gateView i payload u process later) payload (AskedIn i (later ++ [check]))
      point) (silent : seatsAnswer i m = none) (unasking : ¬ AsksRegister i m) :
    GateStage (gateView i payload u process (m :: later)) payload
      (AskedIn i (m :: later ++ [check])) point := by
  rw [gateView_silent process silent]
  exact stage.same (askedIn_silent unasking)

omit [DecidableEq Process] in
theorem stage_passed {process : Process} {check m : Move (State Process P) (Action Process)}
    (opens : (gateView i payload u process later).Opens payload)
    (reached : AskedIn i (later ++ [check])) (silent : seatsAnswer i m = none)
    (behind : point.behindGate = true) :
    GateStage (gateView i payload u process (m :: later)) payload
      (AskedIn i (m :: later ++ [check])) point := by
  rw [gateView_silent process silent]
  obtain ⟨asking, member, asks⟩ := reached
  exact .passed opens ⟨asking, List.mem_cons_of_mem _ member, asks⟩ behind

omit [DecidableEq Process] in
theorem stage_failed {process : Process} {check m : Move (State Process P) (Action Process)}
    {event : EventORM} {error : Raised}
    (admits : (gateView i payload u process later).Admits event)
    (uncached : (gateView i payload u process later).cached = none)
    (unasked : ¬ AskedIn i (later ++ [check])) (failed : seatsAnswer i m = some (.error error))
    (foreign : ∀ answer, error ≠ .client answer) (unasking : ¬ AsksRegister i m) :
    GateStage (gateView i payload u process (m :: later)) payload
      (AskedIn i (m :: later ++ [check])) (.raised error) := by
  have here : (gateView i payload u process (m :: later)).cached = none := uncached
  have listed : (gateView i payload u process (m :: later)).listed = some (.error error) := by
    rw [GateView.listed, here]
    exact gateView_answer process failed
  have other (answer : APIClientError) (client : error = .client answer) :
      answer.isInstance .providerNotFound = false := absurd client (foreign answer)
  apply GateStage.refused (.failed (gateView_admits admits) listed other)
  intro asked
  exact unasked ((askedIn_silent unasking).mp asked)

omit [DecidableEq Process] in
theorem unasking_raised {m : Move (State Process P) (Action Process)} {error : Raised}
    (there : m.target.tasks i = some task) (code : task.code = .register payload (.raised error)) :
    ¬ AsksRegister i m := by
  rintro ⟨_, task', payload', event, there', code'⟩
  cases there.symm.trans there'
  cases code.symm.trans code'

theorem resume_behind {db : Database} {now : Instant} {cache cache' : SeatsCache} {code : Code}
    (behind : point.behindGate = true)
    (resumed : (Code.register payload point).resume runtime db now cache = some (code, cache')) :
    ∃ point', code = .register payload point' ∧ point'.behindGate = true := by
  cases resume_cases resumed with
  | granted | refused | booked => exact ⟨_, rfl, rfl⟩
  | _ => cases behind

theorem receive_seats {event : EventORM} {answer : ProviderAnswer} {code : Code}
    (received : (Code.register payload (.askSeats event)).receive answer = some code) :
    ∃ result, answer = .seats result ∧ code = .register payload (.seatsAnswered event result) := by
  cases answer with
  | seats result => exact ⟨result, rfl, (Option.some.inj received).symm⟩
  | registration | cancellation => cases received

theorem receive_behind {answer : ProviderAnswer} {code : Code} (behind : point.behindGate = true)
    (received : (Code.register payload point).receive answer = some code) :
    ∃ event result, point = .askRegister event ∧ answer = .registration result ∧
      code = .register payload (.registerAnswered event result) := by
  unfold Code.receive at received
  split at received
  · rename_i same
    cases same
    cases behind
  · rename_i same
    cases same
    exact ⟨_, _, rfl, rfl, (Option.some.inj received).symm⟩
  · rename_i same
    cases same
  · rename_i same
    cases same
  · cases received

theorem commit_committed {outboxId : UUID} {session : Session} {code : Code}
    (committing : (Code.register payload point).commit runtime outboxId = some (session, code)) :
    ∃ ticketId, code = .register payload (.committed ticketId) := by
  unfold Code.commit at committing
  split at committing
  · rename_i same
    cases same
    exact ⟨_, (congrArg Prod.snd (Option.some.inj committing)).symm⟩
  · rename_i same
    cases same
  · rename_i same
    cases same
  · cases committing

theorem fail_raised {error : Raised} {code : Code}
    (failed : (Code.register payload point).fail error = some code) :
    code = .register payload (.raised error) := by
  cases point with
  | returned | raised => cases failed
  | _ => exact (Option.some.inj failed).symm

omit [DecidableEq Process] in
theorem stage_received {process : Process} {check : Move (State Process P) (Action Process)}
    {event : EventORM} {result : Except APIClientError (List Text)} {cache : SeatsCache}
    {view : GateView} (same : gateView i payload u process later = view)
    (admits : view.Admits event) (uncached : view.cached = none)
    (answered : view.answer = some (result.mapError .client))
    (unasked : ¬ AskedIn i (later ++ [check])) (there : t.tasks i = some task)
    (code : task.code = .register payload (receiveSeats payload event result cache).1) :
    GateStage (gateView i payload u process (⟨s, .resume i, t⟩ :: later)) payload
      (AskedIn i (⟨s, .resume i, t⟩ :: later ++ [check]))
      (receiveSeats payload event result cache).1 := by
  have listed : view.listed = some (result.mapError .client) := by
    rw [GateView.listed, uncached]
    exact answered
  rw [gateView_silent process rfl, same]
  rcases @GateView.receiveSeats_gate view payload event result cache admits listed with
    ⟨error, raised, refuses⟩ | ⟨asks, opens⟩
  · rw [raised] at code ⊢
    apply GateStage.refused refuses
    intro asked
    exact unasked ((askedIn_silent (unasking_raised there code)).mp asked)
  · rw [asks] at code ⊢
    exact .passed opens ⟨_, List.mem_cons_self .., rfl, task, payload, event, there, code⟩ rfl

theorem step_checked (step : Step runtime s (.resume i) t) (found : s.tasks i = some task)
    (code : task.code = .register payload .getEvent) :
    ∃ task', t.tasks i = some task' ∧
      task'.code = .register payload (checkEvent payload (s.db.events.find? payload.eventId) s.now
        (s.cache task.process)) := by
  cases step with
  | resume found' connected resumed =>
    cases found.symm.trans found'
    rw [code] at resumed
    simp only [Code.resume, Option.some.injEq, Prod.mk.injEq] at resumed
    obtain ⟨rfl, rfl⟩ := resumed
    exact ⟨_, setTask_self .., rfl⟩

theorem stage_checked (step : Step runtime s (.resume i) t) (found : s.tasks i = some task)
    (code : task.code = .register payload .getEvent) :
    ∃ task' point', t.tasks i = some task' ∧ task'.code = .register payload point' ∧
      GateStage (gateView i payload s task.process []) payload (AskedIn i [⟨s, .resume i, t⟩])
        point' := by
  obtain ⟨task', there, code'⟩ := step_checked step found code
  have gate := @GateView.checkEvent_gate (gateView i payload s task.process []) payload
    (s.cache task.process) rfl
  generalize checked : checkEvent payload (s.db.events.find? payload.eventId) s.now
    (s.cache task.process) = point at code'
  have unasking : AskedIn i [⟨s, .resume i, t⟩] → ∃ event, point = .askRegister event := by
    rintro ⟨m, member, _, other, payload', event, there', asks⟩
    cases List.mem_singleton.mp member
    cases there.symm.trans there'
    cases code'.symm.trans asks
    exact ⟨event, rfl⟩
  refine ⟨task', point, there, code', ?_⟩
  rcases gate with
    ⟨error, raised, refuses⟩ | ⟨event, asks, admits, uncached⟩ | ⟨event, asks, opens⟩
  · cases checked.symm.trans raised
    exact .refused refuses (fun asked => nomatch unasking asked)
  · cases checked.symm.trans asks
    exact .waiting admits uncached rfl (fun asked => nomatch unasking asked)
  · cases checked.symm.trans asks
    exact .passed opens ⟨_, List.mem_singleton.mpr rfl, rfl, task', payload, event, there, code'⟩
      rfl

omit [DecidableEq Process] in
theorem stage_answered {process : Process} {check : Move (State Process P) (Action Process)}
    {answer : ProviderAnswer} {code' : Code} (code : task.code = .register payload point)
    (received : task.code.receive answer = some code')
    (there : t.tasks i = some { task with code := code' })
    (stage : GateStage (gateView i payload u process later) payload (AskedIn i (later ++ [check]))
      point) :
    ∃ task' point', t.tasks i = some task' ∧ task'.code = .register payload point' ∧
      GateStage (gateView i payload u process (⟨s, .answer i answer, t⟩ :: later)) payload
        (AskedIn i (⟨s, .answer i answer, t⟩ :: later ++ [check])) point' := by
  rw [code] at received
  cases stage with
  | @waiting event admits uncached pending unasked =>
    obtain ⟨result, rfl, rfl⟩ := receive_seats received
    refine ⟨_, _, there, rfl, .told (gateView_admits admits)
      uncached (gateView_answer process (if_pos rfl)) ?_⟩
    intro asked
    exact unasked ((askedIn_silent (by rintro ⟨⟨⟩, _⟩)).mp asked)
  | told | refused => cases received
  | passed opens reached behind =>
    obtain ⟨event, result, rfl, rfl, rfl⟩ := receive_behind behind received
    exact ⟨_, _, there, rfl, stage_passed opens reached rfl rfl⟩

omit [DecidableEq Process] in
theorem stage_fails {process : Process} {check : Move (State Process P) (Action Process)}
    {error : Raised} {code' : Code} (found : s.tasks i = some task)
    (code : task.code = .register payload point) (failed : task.code.fail error = some code')
    (there : t.tasks i = some { task with code := code' })
    (fails : FailsWithCause i ⟨s, .fail i error, t⟩)
    (stage : GateStage (gateView i payload u process later) payload (AskedIn i (later ++ [check]))
      point) :
    ∃ task' point', t.tasks i = some task' ∧ task'.code = .register payload point' ∧
      GateStage (gateView i payload u process (⟨s, .fail i error, t⟩ :: later)) payload
        (AskedIn i (⟨s, .fail i error, t⟩ :: later ++ [check])) point' := by
  obtain ⟨foreign, calling, found', asks⟩ := fails error rfl
  cases found.symm.trans found'
  rw [code] at failed asks
  cases stage with
  | @waiting event admits uncached pending unasked =>
    cases failed
    have unlisted : seatsAnswer i ⟨s, .fail i error, t⟩ = some (.error error) := by
      rw [seatsAnswer_fail found, code]
      rfl
    exact ⟨_, _, there, rfl,
      stage_failed admits uncached unasked unlisted foreign (by rintro ⟨⟨⟩, _⟩)⟩
  | told | refused =>
    rcases asks with asks | ⟨_, _, same, _⟩
    · cases asks
    · cases same
  | passed opens reached behind =>
    have unlisted : seatsAnswer i ⟨s, .fail i error, t⟩ = none := by
      rw [seatsAnswer_fail found, code, if_neg]
      intro asking
      cases point with
      | askSeats => cases behind
      | _ => cases asking
    cases fail_raised failed
    exact ⟨_, _, there, rfl, stage_passed opens reached unlisted rfl⟩

theorem stage_own {process : Process} {check : Move (State Process P) (Action Process)}
    (step : Step runtime s a t) (own : a.request = some i) (found : s.tasks i = some task)
    (code : task.code = .register payload point) (fails : FailsWithCause i ⟨s, a, t⟩)
    (stage : GateStage (gateView i payload u process later) payload (AskedIn i (later ++ [check]))
      point) :
    ∃ task' point', t.tasks i = some task' ∧ task'.code = .register payload point' ∧
      GateStage (gateView i payload u process (⟨s, a, t⟩ :: later)) payload
        (AskedIn i (⟨s, a, t⟩ :: later ++ [check])) point' := by
  cases step with
  | start process job fresh =>
    cases own
    cases fresh.symm.trans found
  | lockKey found' connected waiting =>
    cases own
    cases found.symm.trans found'
    cases code.symm.trans waiting
    cases stage with
    | passed _ _ behind => cases behind
  | resume found' connected resumed =>
    cases own
    cases found.symm.trans found'
    rw [code] at resumed
    cases stage with
    | waiting | refused => cases resumed
    | @told event result admits uncached answered unasked =>
      simp only [Code.resume, Option.some.injEq, Prod.mk.injEq] at resumed
      obtain ⟨rfl, rfl⟩ := resumed
      have there := setTask_self s i { task with
        code := .register payload (receiveSeats payload event result (s.cache task.process)).1 }
      exact ⟨_, _, there, rfl, stage_received rfl admits uncached answered unasked there rfl⟩
    | passed opens reached behind =>
      obtain ⟨point', same, behind'⟩ := resume_behind behind resumed
      exact ⟨_, point', setTask_self .., same, stage_passed opens reached rfl behind'⟩
  | answer found' asked handled received =>
    cases own
    cases found.symm.trans found'
    exact stage_answered code received (setTask_self ..) stage
  | commit found' connected committing accepted =>
    cases own
    cases found.symm.trans found'
    rw [code] at committing
    cases stage with
    | waiting | told | refused => cases committing
    | passed opens reached behind =>
      obtain ⟨ticketId, rfl⟩ := commit_committed committing
      exact ⟨_, _, setTask_self .., rfl, stage_passed opens reached rfl rfl⟩
  | fail found' failed =>
    cases own
    cases found.symm.trans found'
    exact stage_fails found code failed (setTask_self ..) fails stage
  | disconnect found' =>
    cases own
    cases found.symm.trans found'
    refine ⟨_, point, setTask_self .., code, stage_silent stage rfl ?_⟩
    rintro ⟨⟨⟩, _⟩
  | late | tick | evict | upsert | publish => cases own

theorem stage_step {process : Process} {check : Move (State Process P) (Action Process)}
    (step : Step runtime s a t) (found : s.tasks i = some task)
    (code : task.code = .register payload point) (fails : FailsWithCause i ⟨s, a, t⟩)
    (stage : GateStage (gateView i payload u process later) payload (AskedIn i (later ++ [check]))
      point) :
    ∃ task' point', t.tasks i = some task' ∧ task'.code = .register payload point' ∧
      GateStage (gateView i payload u process (⟨s, a, t⟩ :: later)) payload
        (AskedIn i (⟨s, a, t⟩ :: later ++ [check])) point' := by
  by_cases own : a.request = some i
  · exact stage_own step own found code fails stage
  · refine ⟨task, point, (step_other step own).trans found, code,
      stage_silent stage (seatsAnswer_other own) ?_⟩
    rintro ⟨acting, _⟩
    exact own (by rw [show a = .resume i from acting]; rfl)

theorem stage_run {process : Process} {check : Move (State Process P) (Action Process)}
    (run : Run (system Process runtime P) s later t) (fails : ∀ m ∈ later, FailsWithCause i m)
    (begun : ∃ task point, s.tasks i = some task ∧ task.code = .register payload point ∧
      GateStage (gateView i payload u process []) payload (AskedIn i [check]) point) :
    ∃ task point, t.tasks i = some task ∧ task.code = .register payload point ∧
      GateStage (gateView i payload u process later) payload (AskedIn i (later ++ [check]))
        point := by
  induction run with
  | refl => exact begun
  | move run step ih =>
    obtain ⟨last, before⟩ := List.forall_mem_cons.mp fails
    obtain ⟨task, point, found, code, stage⟩ := ih before
    exact stage_step step found code last stage

theorem decided_asked (stage : GateStage view payload asked point)
    (decided : point.behindGate = true) :
    (asked ↔ view.Opens payload) ∧
      (¬ asked → ∃ error, point = .raised error ∧ view.Refuses payload error) := by
  cases stage with
  | waiting | told => cases decided
  | refused refuses unasked =>
    have closed := GateView.refuses_not_opens refuses
    exact ⟨⟨fun asked => absurd asked unasked, fun opens => absurd opens closed⟩,
      fun _ => ⟨_, rfl, refuses⟩⟩
  | passed opens reached =>
    exact ⟨⟨fun _ => opens, fun _ => reached⟩, fun unasked => absurd reached unasked⟩

def Code.unwritten : Code → Bool
  | .register _ (.committed _) | .register _ (.returned _) => false
  | .register _ _ => true
  | _ => false

omit [DecidableEq Process] in
theorem unwritten_before {code code' : Code} (moved : CodeStep runtime s a t code code')
    (clean : code'.unwritten = true)
    (fails : ∀ j error, a = .fail j error → code.call.isSome = true ∨ LockRefused code) :
    code.unwritten = true := by
  cases moved with
  | same => exact clean
  | locked => rfl
  | resumed unchanged resumed =>
    cases resume_cases resumed with
    | booked | known | unknown | released | lost | kept | deleted | cancelled | seatsUncached
    | seatsCached | seatsClosed | seatsListed | seatsUnlisted => cases clean
    | _ => rfl
  | received asked handled received =>
    unfold Code.receive at received
    split at received <;> cases received
    · rfl
    · rfl
    · cases clean
    · cases clean
  | committed committing accepted =>
    unfold Code.commit at committing
    split at committing <;> cases committing <;> cases clean
  | failed acting failed =>
    have calling := fails _ _ acting
    unfold Code.fail at failed
    split at failed <;> cases failed
    · rename_i payload point _ _
      cases point with
      | committed | returned =>
        rcases calling with calling | ⟨_, _, same, _⟩
        · cases calling
        · cases same
      | _ => rfl
    · cases clean
    · cases clean

theorem unwritten_uncommitted {outboxId : UUID} (step : Step runtime s (.commit i outboxId) t)
    (clean : ∀ task', t.tasks i = some task' → task'.code.unwritten = true) : False := by
  cases step with
  | commit found connected committing accepted =>
    have unwritten := clean _ (setTask_self ..)
    unfold Code.commit at committing
    split at committing <;> cases committing <;> cases unwritten

theorem unwritten_run (run : Run (system Process runtime P) s moves t)
    (fails : ∀ m ∈ moves, FailsWithCause i m)
    (clean : ∀ task, t.tasks i = some task → task.code.unwritten = true) :
    ∀ m ∈ moves, ∀ outboxId, m.action ≠ .commit i outboxId := by
  induction run with
  | refl => simp
  | @move past u v a run step ih =>
    obtain ⟨last, before⟩ := List.forall_mem_cons.mp fails
    refine List.forall_mem_cons.mpr ⟨?_, ih before ?_⟩
    · rintro outboxId rfl
      exact unwritten_uncommitted step clean
    · intro task found
      by_cases own : a.request = some i
      · obtain ⟨next, there, moved⟩ := step_code step found
        apply unwritten_before moved (clean next there)
        rintro j error rfl
        cases own
        obtain ⟨_, other, found', calling⟩ := last error rfl
        cases found.symm.trans found'
        exact calling
      · exact clean task ((step_other step own).trans found)

theorem unwritten_unchanged (run : Run (system Process runtime P) s moves t)
    (fails : ∀ m ∈ moves, FailsWithCause i m)
    (clean : ∀ task, t.tasks i = some task → task.code.unwritten = true) :
    ∀ m ∈ moves, m.action.request = some i → m.target.db = m.source.db := by
  intro m member own
  have idle := unwritten_run run fails clean m member
  exact change_idle (step_db (run.step_of_mem member)) own idle

theorem checked_gate (run : Run (system Process runtime P) s later t)
    (fails : ∀ m ∈ later, FailsWithCause i m) {check : Move (State Process P) (Action Process)}
    (step : Step runtime check.source check.action s) (same : check.target = s)
    (checking : check.action = .resume i) (found : check.source.tasks i = some task)
    (code : task.code = .register payload .getEvent) {task' : Task Process}
    (there : t.tasks i = some task') (code' : task'.code = .register payload point)
    (decided : point.behindGate = true) :
    let view := gateView i payload check.source task.process later
    (AskedIn i (later ++ [check]) ↔ view.Opens payload) ∧
      (¬ AskedIn i (later ++ [check]) →
        ∃ error, point = .raised error ∧ view.Refuses payload error) := by
  obtain ⟨source, action, target⟩ := check
  cases same
  cases checking
  obtain ⟨last, point', last', lastCode, stage⟩ :=
    stage_run run fails (stage_checked step found code)
  cases there.symm.trans last'
  cases code'.symm.trans lastCode
  exact decided_asked stage decided

theorem asked_behind {check : Move (State Process P) (Action Process)}
    {earlier : List (Move (State Process P) (Action Process))}
    (run : Run (system Process runtime P) s earlier check.source)
    (found : check.source.tasks i = some task) (code : task.code = .register payload .getEvent) :
    AskedIn i (later ++ check :: earlier) ↔ AskedIn i (later ++ [check]) := by
  constructor
  · rintro ⟨m, member, asks⟩
    rw [← List.singleton_append, ← List.append_assoc] at member
    rcases List.mem_append.mp member with member | member
    · exact ⟨m, member, asks⟩
    · obtain ⟨_, other, payload', event, there, code'⟩ := asks
      obtain ⟨_, _, _, _, _, rest⟩ := run.cut member
      have later := rest.monotone fun _ _ _ step => step_stage step i
      simp only [State.stage, there, found, code, code', Option.elim_some, Code.stage,
        RegisterPoint.stage] at later
      omega
  · rintro ⟨m, member, asks⟩
    refine ⟨m, ?_, asks⟩
    rcases List.mem_append.mp member with member | member
    · exact List.mem_append_left _ member
    · rw [List.mem_singleton.mp member]
      simp

def RegisterPoint.BeforeGate (payload : SEventRegistrationCreate) : RegisterPoint → Prop
  | .lockKey key => payload.idempotencyKey = some key
  | .getKey _ | .getEvent => True
  | _ => False

def Checks (i : Nat) (payload : SEventRegistrationCreate)
    (m : Move (State Process P) (Action Process)) : Prop :=
  m.action = .resume i ∧ ∃ task, m.source.tasks i = some task ∧
    task.code = .register payload .getEvent

theorem before_gate_step (clean : ∀ key, payload.idempotencyKey = some key → storable key = true)
    (step : Step runtime s a t) (own : a.request = some i) (fails : FailsWithCause i ⟨s, a, t⟩)
    (unanswered : ¬ FindsRecord i ⟨s, a, t⟩) (found : s.tasks i = some task)
    (code : task.code = .register payload point) (before : point.BeforeGate payload)
    {next : Task Process} (there : t.tasks i = some next) {point' : RegisterPoint}
    (code' : next.code = .register payload point') :
    point'.BeforeGate payload ∨ Checks i payload ⟨s, a, t⟩ := by
  cases step with
  | start process job fresh =>
    cases own
    cases fresh.symm.trans found
  | lockKey found' connected waiting =>
    cases own
    cases (setTask_self ..).symm.trans there
    cases code'
    exact Or.inl trivial
  | resume found' connected resumed =>
    cases own
    cases found.symm.trans found'
    cases (setTask_self ..).symm.trans there
    cases code'
    rw [code] at resumed
    cases point with
    | getKey key =>
      cases stored : s.db.idempotencyKeys.find? key with
      | none =>
        simp only [Code.resume, stored, checkExisting, Option.some.injEq, Prod.mk.injEq,
          Code.register.injEq, true_and] at resumed
        rw [← resumed.1]
        exact Or.inl trivial
      | some record =>
        refine absurd ⟨rfl, task, payload, key, found, code, ?_⟩ unanswered
        show s.db.idempotencyKeys.find? key ≠ none
        rw [stored]
        exact Option.some_ne_none record
    | getEvent => exact Or.inr ⟨rfl, task, found, code⟩
    | lockKey => cases resumed
    | _ => exact before.elim
  | answer found' asked handled received =>
    cases own
    cases found.symm.trans found'
    rw [code] at asked
    cases point with
    | lockKey | getKey | getEvent => cases asked
    | _ => exact before.elim
  | commit found' connected committing accepted =>
    cases own
    cases found.symm.trans found'
    rw [code] at committing
    cases point with
    | lockKey | getKey | getEvent => cases committing
    | _ => exact before.elim
  | fail found' failed =>
    cases own
    obtain ⟨_, other, here, cause⟩ := fails _ rfl
    cases found.symm.trans here
    rw [code] at cause
    rcases cause with calling | ⟨payload', key, same, refused⟩
    · cases point with
      | lockKey | getKey | getEvent => cases calling
      | _ => exact before.elim
    · cases same
      cases (clean key before).symm.trans refused
  | disconnect found' =>
    cases own
    cases found.symm.trans found'
    cases (setTask_self ..).symm.trans there
    cases code.symm.trans code'
    exact Or.inl before
  | late | tick | evict | upsert | publish => cases own

theorem before_gate_run
    (clean : ∀ key, payload.idempotencyKey = some key → storable key = true)
    (run : Run (system Process runtime P) s moves t) (fresh : s.tasks i = none)
    (fails : ∀ m ∈ moves, FailsWithCause i m) (unanswered : ∀ m ∈ moves, ¬ FindsRecord i m)
    (there : t.tasks i = some task) (code : task.code = .register payload point) :
    point.BeforeGate payload ∨ ∃ check ∈ moves, Checks i payload check := by
  induction run generalizing task point with
  | refl => cases fresh.symm.trans there
  | @move past u v a run step ih =>
    obtain ⟨last, earlier⟩ := List.forall_mem_cons.mp fails
    obtain ⟨unfound, unfoundEarlier⟩ := List.forall_mem_cons.mp unanswered
    cases here : u.tasks i with
    | none =>
      obtain ⟨process, job, _, begun⟩ := step_begins step here there
      cases (begin_job job).symm.trans ((congrArg Code.job begun).symm.trans
        (congrArg Code.job code))
      cases begun.symm.trans code
      rcases beginRegister_cases payload with ⟨_, same⟩ | ⟨key, keyed, same⟩
      · exact Or.inl (same ▸ trivial)
      · exact Or.inl (same ▸ keyed)
    | some before =>
      obtain ⟨next, next', job⟩ := step_job step here
      cases there.symm.trans next'
      obtain ⟨point', code'⟩ := register_job (job.symm.trans (congrArg Code.job code))
      rcases ih earlier unfoundEarlier here code' with early | ⟨check, member, checks⟩
      · by_cases own : a.request = some i
        · apply (before_gate_step clean step own last unfound here code' early there code).imp_right
          exact fun checks => ⟨_, List.mem_cons_self .., checks⟩
        · cases here.symm.trans ((step_other step own).symm.trans there)
          cases code'.symm.trans code
          exact Or.inl early
      · exact Or.inr ⟨check, List.mem_cons_of_mem _ member, checks⟩

def Code.Stuck (payload : SEventRegistrationCreate) (key : String) (code : Code) : Prop :=
  code = .register payload (.lockKey key) ∨ ∃ error, code = .register payload (.raised error)

omit [DecidableEq Process] in
theorem stuck_moves {key : String} {code code' : Code} (refused : storable key = false)
    (moved : CodeStep runtime s a t code code') (stuck : code.Stuck payload key) :
    code'.Stuck payload key := by
  cases moved with
  | same => exact stuck
  | locked _ _ clean =>
    rcases stuck with same | ⟨error, same⟩
    · cases same
      cases clean.symm.trans refused
    · cases same
  | resumed _ resumed =>
    rcases stuck with same | ⟨error, same⟩ <;> rw [same] at resumed <;> cases resumed
  | received asked =>
    rcases stuck with same | ⟨error, same⟩ <;> rw [same] at asked <;> cases asked
  | committed committing =>
    rcases stuck with same | ⟨error, same⟩ <;> rw [same] at committing <;> cases committing
  | @failed _ error _ _ _ failed =>
    rcases stuck with same | ⟨_, same⟩ <;> rw [same] at failed
    · exact Or.inr ⟨error, fail_raised failed⟩
    · cases failed

theorem stuck_run {key : String} (keyed : payload.idempotencyKey = some key)
    (refused : storable key = false) (run : Run (system Process runtime P) s moves t)
    (fresh : s.tasks i = none) (there : t.tasks i = some task)
    (job : task.code.job = .register payload) : task.code.Stuck payload key := by
  induction run generalizing task with
  | refl => cases fresh.symm.trans there
  | @move past u v a run step ih =>
    cases here : u.tasks i with
    | none =>
      obtain ⟨process, begun, _, same⟩ := step_begins step here there
      rw [same, begin_job] at job
      rw [same, job]
      exact Or.inl (by simp [Job.begin, beginRegister, keyed])
    | some before =>
      obtain ⟨next, next', same⟩ := step_job step here
      cases there.symm.trans next'
      obtain ⟨_, next', moved⟩ := step_code step here
      cases there.symm.trans next'
      exact stuck_moves refused moved (ih here (same.symm.trans job))

end Run

/-- A call that no stored record answers has asked the provider exactly if all checks pass on what
    it saw when it checked its event, and raised for the first that fails if not. It has written
    nothing if it has raised. -/
def Gated {Process : Type} {P : Provider} (i : Nat) (payload : SEventRegistrationCreate)
    (moves : List (Move (State Process P) (Action Process))) (point : RegisterPoint) : Prop :=
  (∃ later check earlier task, moves = later ++ check :: earlier ∧ check.action = .resume i ∧
    check.source.tasks i = some task ∧ task.code = .register payload .getEvent ∧
    (AskedIn i moves ↔ (gateView i payload check.source task.process later).Opens payload) ∧
    (¬ AskedIn i moves → ∃ error, point = .raised error ∧
      (gateView i payload check.source task.process later).Refuses payload error)) ∧
  ((∃ error, point = .raised error) →
    ∀ m ∈ moves, m.action.request = some i → m.target.db = m.source.db)

section Gated

variable {Process : Type} [DecidableEq Process] {P : Provider} {runtime : Runtime}
  {s t : State Process P} {moves : List (Move (State Process P) (Action Process))} {i : Nat}
  {payload : SEventRegistrationCreate} {task : Task Process} {point : RegisterPoint}

theorem gated_of_storable
    (clean : ∀ key, payload.idempotencyKey = some key → storable key = true)
    (run : Run (system Process runtime P) s moves t) (fresh : s.tasks i = none)
    (fails : ∀ m ∈ moves, FailsWithCause i m) (unanswered : ∀ m ∈ moves, ¬ FindsRecord i m)
    (there : t.tasks i = some task) (code : task.code = .register payload point)
    (behind : point.behindGate = true) : Gated i payload moves point := by
  refine ⟨?_, ?_⟩
  · rcases before_gate_run clean run fresh fails unanswered there code with
      early | ⟨check, member, checking, checked, found, code'⟩
    · cases point with
      | lockKey | getKey | getEvent => cases behind
      | _ => exact early.elim
    · obtain ⟨later, earlier, rfl, before, step, after⟩ := run.cut member
      have gate := checked_gate after (fun m inside => fails m (List.mem_append_left _ inside)) step
        rfl checking found code' there code behind
      rw [← asked_behind before found code'] at gate
      exact ⟨later, check, earlier, checked, rfl, checking, found, code', gate⟩
  · rintro ⟨error, rfl⟩
    apply unwritten_unchanged run fails
    intro other found'
    cases there.symm.trans found'
    rw [code]
    rfl

theorem not_gated_of_refused {key : String} (keyed : payload.idempotencyKey = some key)
    (refused : storable key = false) (run : Run (system Process runtime P) s moves t)
    (fresh : s.tasks i = none) : ¬ Gated i payload moves point := by
  rintro ⟨⟨later, check, earlier, checked, rfl, _, found, code, _⟩, _⟩
  obtain ⟨before, _, _⟩ := run.split
  rcases stuck_run keyed refused before fresh found (by rw [code]; rfl) with same | ⟨error, same⟩
  · cases same.symm.trans code
  · cases same.symm.trans code

omit [DecidableEq Process] in
theorem finds_stage {m : Move (State Process P) (Action Process)} (finds : FindsRecord i m) :
    m.source.stage i = 2 := by
  obtain ⟨_, task, payload, key, found, code, _⟩ := finds
  simp [State.stage, found, code, Code.stage, RegisterPoint.stage]

end Gated

/-- A call of `register` that comes to its end, or to the provider, keeps to its gate exactly if
    PostgreSQL takes its idempotency key. -/
theorem registration_gate_iff {Process : Type} [DecidableEq Process] {P : Provider}
    {runtime : Runtime} {s t : State Process P}
    {moves : List (Move (State Process P) (Action Process))} {i : Nat}
    {payload : SEventRegistrationCreate} {task : Task Process} {point : RegisterPoint}
    (run : Run (system Process runtime P) s moves t) (fresh : s.tasks i = none)
    (fails : ∀ m ∈ moves, FailsWithCause i m) (unanswered : ∀ m ∈ moves, ¬ FindsRecord i m)
    (there : t.tasks i = some task) (code : task.code = .register payload point)
    (behind : point.behindGate = true) :
    Gated i payload moves point ↔
      ∀ key, payload.idempotencyKey = some key → storable key = true := by
  constructor
  · intro gated key keyed
    by_contra refused
    exact not_gated_of_refused keyed (Bool.eq_false_of_not_eq_true refused) run fresh gated
  · intro clean
    exact gated_of_storable clean run fresh fails unanswered there code behind

section Sample

/-- The seat is free and the call has asked for it. -/
theorem registration_gate_iff_free : ∃ moves t task event,
    Run (system Unit sampleRuntime anyProvider) (sampleState anyProvider ()) moves t ∧
      t.tasks 0 = some task ∧
      task.code = .register (samplePayload none unkeyed) (.askRegister event) ∧
      AskedIn 0 moves ∧ Gated 0 (samplePayload none unkeyed) moves (.askRegister event) := by
  have start := @Run.refl _ _ (system Unit sampleRuntime anyProvider) (sampleState anyProvider ())
  have requested := start.move (Step.start ()
    (.register (samplePayload none unkeyed)) (rfl : State.tasks _ 0 = none))
  have checked := requested.move (Step.resume (rfl : State.tasks _ 0 = some _) (fun _ => rfl) rfl)
  have seats := checked.move
    (@Step.answer _ _ _ _ _ 0 _ _ _ (.seats (.ok ["A1"])) () rfl rfl trivial rfl)
  have free := seats.move (Step.resume (rfl : State.tasks _ 0 = some _) (fun _ => rfl) rfl)
  refine ⟨_, _, _, _, free, rfl, rfl, ⟨_, List.mem_cons_self .., rfl, _, _, _, rfl, rfl⟩,
    (registration_gate_iff free rfl ?_ ?_ rfl rfl rfl).mpr ?_⟩
  · intro m member error failing
    simp only [List.mem_cons, List.not_mem_nil, or_false] at member
    rcases member with rfl | rfl | rfl | rfl
    all_goals cases failing
  · intro m member finds
    have stage := finds_stage finds
    simp only [List.mem_cons, List.not_mem_nil, or_false] at member
    rcases member with rfl | rfl | rfl | rfl
    all_goals exact absurd stage (by decide)
  · intro key keyed
    cases keyed

/-- A key of one U+0000. -/
theorem refused_key_not_gated : ¬ ∀ (payload : SEventRegistrationCreate)
    (s t : State Unit anyProvider)
    (moves : List (Move (State Unit anyProvider) (Action Unit))) (task : Task Unit)
    (point : RegisterPoint), Run (system Unit sampleRuntime anyProvider) s moves t →
      s.tasks 0 = none → (∀ m ∈ moves, FailsWithCause 0 m) → (∀ m ∈ moves, ¬ FindsRecord 0 m) →
      t.tasks 0 = some task → task.code = .register payload point → point.behindGate = true →
        Gated 0 payload moves point := by
  intro always
  have start := @Run.refl _ _ (system Unit sampleRuntime anyProvider) (sampleState anyProvider ())
  have requested := start.move (Step.start ()
    (.register (samplePayload (some "\x00") (by decide))) (rfl : State.tasks _ 0 = none))
  have refused := requested.move (@Step.fail _ _ _ _ _ 0 _ _ (.other "refused") rfl rfl)
  have gated := always _ _ _ _ _ _ refused rfl
    (by
      intro m member error failing
      simp only [List.mem_cons, List.not_mem_nil, or_false] at member
      rcases member with rfl | rfl
      · cases failing
        refine ⟨fun answer same => ?_, _, rfl, Or.inr ⟨_, _, rfl, by decide⟩⟩
        cases same
      · cases failing)
    (by
      rintro m member ⟨resuming, _⟩
      simp only [List.mem_cons, List.not_mem_nil, or_false] at member
      rcases member with rfl | rfl
      all_goals cases resuming) rfl rfl rfl
  exact not_gated_of_refused rfl (by decide) refused rfl gated

end Sample

end EventsAggregator
