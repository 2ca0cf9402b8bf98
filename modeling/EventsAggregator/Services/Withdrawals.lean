import EventsAggregator.Clients.SeatProvider
import EventsAggregator.Services.Progress

namespace EventsAggregator

open Relational Transition

/-- What the provider's answers to a cancellation say of the registration: it is gone after a
    success and after a 404, and `success=false` keeps it. -/
structure Cancels (P : Provider) (Holds : P.State → UUID → Prop) : Prop where
  released : ∀ {held held' : P.State} {eventId ticketId : UUID},
    P.Handles held (.unregister eventId ticketId) (.cancellation (.ok true)) held' →
      ¬ Holds held' ticketId
  unknown : ∀ {held held' : P.State} {eventId ticketId : UUID} {error : APIClientError},
    P.Handles held (.unregister eventId ticketId) (.cancellation (.error error)) held' →
      error.isInstance .providerNotFound = true → ¬ Holds held' ticketId
  kept : ∀ {held held' : P.State} {eventId ticketId : UUID},
    P.Handles held (.unregister eventId ticketId) (.cancellation (.ok false)) held' →
      Holds held' ticketId

namespace UnregisterPoint

def Agrees : UnregisterPoint → Except APIClientError Bool → Prop
  | .getTicket, _ | .askUnregister _, _ => False
  | .answered _ answer, result => result = answer
  | .commitDelete _, result | .deleted _, result =>
    ∃ error, result = .error error ∧ error.isInstance .providerNotFound = true
  | .commitCancel _ success _, result | .cancelled _ success, result => result = .ok success
  | .returned _, _ | .raised _, _ => True

def told : UnregisterPoint → Bool
  | .answered .. | .commitDelete _ | .commitCancel .. => true
  | _ => false

end UnregisterPoint

variable {Process : Type} {P : Provider}

/-- The answer of the provider that a call of `unregister` goes on with, and no other. -/
structure Told (i : Nat) (ticketId : UUID)
    (moves : List (Move (State Process P) (Action Process))) (point : UnregisterPoint) : Prop where
  agree : ∀ m ∈ moves, ∀ result, m.action = .answer i (.cancellation result) →
    point.Agrees result ∧ ∃ eventId,
      P.Handles m.source.provider (.unregister eventId ticketId) (.cancellation result)
        m.target.provider
  answered : point.told = true →
    ∃ m ∈ moves, ∃ result, m.action = .answer i (.cancellation result)

/-- A call of `unregister` changes the tables only when the provider, after its answer to that
    call, does not hold the registration any more. -/
def FollowsProvider (Holds : P.State → UUID → Prop)
    (m : Move (State Process P) (Action Process))
    (earlier : List (Move (State Process P) (Action Process))) : Prop :=
  ∀ i task ticketId point, m.action.request = some i → m.source.tasks i = some task →
    task.code = .unregister ticketId point → m.target.db ≠ m.source.db →
      ∃ answer ∈ earlier, ∃ result, answer.action = .answer i (.cancellation result) ∧
        ¬ Holds answer.target.provider ticketId

def CommitsDeclined (m : Move (State Process P) (Action Process)) : Prop :=
  ∃ i outboxId task ticketId ticket now, m.action = .commit i outboxId ∧
    m.source.tasks i = some task ∧
    task.code = .unregister ticketId (.commitCancel ticket false now)

variable [DecidableEq Process] {runtime : Runtime} {Holds : P.State → UUID → Prop}
  {i : Nat} {ticketId : UUID} {point point' : UnregisterPoint} {s t : State Process P}
  {a : Action Process} {task : Task Process}
  {m : Move (State Process P) (Action Process)}
  {moves : List (Move (State Process P) (Action Process))}

omit [DecidableEq Process] in
theorem Told.onward (told : Told i ticketId moves point)
    (silent : ∀ result, m.action ≠ .answer i (.cancellation result))
    (agree : ∀ result, point.Agrees result → point'.Agrees result)
    (still : point'.told = true → point.told = true) :
    Told i ticketId (m :: moves) point' where
  agree := by
    intro n member result acting
    rcases List.mem_cons.mp member with rfl | member
    · exact absurd acting (silent result)
    · obtain ⟨agrees, handled⟩ := told.agree n member result acting
      exact ⟨agree result agrees, handled⟩
  answered := by
    intro here
    obtain ⟨n, member, answered⟩ := told.answered (still here)
    exact ⟨n, List.mem_cons_of_mem _ member, answered⟩

omit [DecidableEq Process] in
theorem told_answered {ticket : TicketORM} {result : Except APIClientError Bool}
    (told : Told i ticketId moves (.askUnregister ticket))
    (acting : m.action = .answer i (.cancellation result))
    (handled : P.Handles m.source.provider (.unregister ticket.eventId ticketId)
      (.cancellation result) m.target.provider) :
    Told i ticketId (m :: moves) (.answered ticket result) where
  agree := by
    intro n member result' acting'
    rcases List.mem_cons.mp member with rfl | member
    · cases acting.symm.trans acting'
      exact ⟨rfl, _, handled⟩
    · exact (told.agree n member result' acting').1.elim
  answered := fun _ => ⟨m, List.mem_cons_self .., result, acting⟩

theorem told_resumed {db : Database} {now : Instant} {cache cache' : SeatsCache} {code : Code}
    (resumed : (Code.unregister ticketId point).resume runtime db now cache = some (code, cache')) :
    ∃ point', code = .unregister ticketId point' ∧
      (∀ result, point.Agrees result → point'.Agrees result) ∧
      (point'.told = true → point.told = true) := by
  cases resume_cases resumed with
  | known => exact ⟨_, rfl, fun _ => id, fun told => nomatch told⟩
  | released => exact ⟨_, rfl, fun _ => id, fun _ => rfl⟩
  | lost missing =>
    refine ⟨_, rfl, ?_, fun _ => rfl⟩
    rintro _ rfl
    exact ⟨_, rfl, missing⟩
  | unknown | kept | deleted | cancelled =>
    exact ⟨_, rfl, fun _ _ => trivial, fun told => nomatch told⟩

theorem receive_cancellation {answer : ProviderAnswer} {code : Code}
    (received : (Code.unregister ticketId point).receive answer = some code) :
    ∃ ticket result, point = .askUnregister ticket ∧ answer = .cancellation result ∧
      code = .unregister ticketId (.answered ticket result) := by
  cases point with
  | askUnregister ticket =>
    cases answer with
    | cancellation result => exact ⟨ticket, result, rfl, rfl, (Option.some.inj received).symm⟩
    | seats | registration => cases received
  | _ => cases received

theorem told_committed {outboxId : UUID} {session : Session} {code : Code}
    (committing : (Code.unregister ticketId point).commit runtime outboxId =
      some (session, code)) :
    ∃ point', code = .unregister ticketId point' ∧
      (∀ result, point.Agrees result → point'.Agrees result) ∧
      (point'.told = true → point.told = true) := by
  cases point with
  | commitDelete | commitCancel =>
    cases committing
    exact ⟨_, rfl, fun _ => id, fun told => nomatch told⟩
  | _ => cases committing

omit [DecidableEq Process] in
theorem told_other (told : Told i ticketId moves point) (other : m.action.request ≠ some i) :
    Told i ticketId (m :: moves) point := by
  apply told.onward _ (fun _ => id) id
  intro result acting
  exact other (by rw [acting]; rfl)

theorem told_step (step : Step runtime s a t) (found : s.tasks i = some task)
    (code : task.code = .unregister ticketId point) (told : Told i ticketId moves point) :
    ∃ task' point', t.tasks i = some task' ∧ task'.code = .unregister ticketId point' ∧
      Told i ticketId (⟨s, a, t⟩ :: moves) point' := by
  by_cases own : a.request = some i
  case neg => exact ⟨task, point, (step_other step own).trans found, code, told_other told own⟩
  cases step with
  | start process job fresh =>
    cases own
    cases fresh.symm.trans found
  | lockKey found' connected waiting =>
    cases own
    cases found.symm.trans found'
    cases code.symm.trans waiting
  | resume found' connected resumed =>
    cases own
    cases found.symm.trans found'
    rw [code] at resumed
    obtain ⟨point', rfl, agree, still⟩ := told_resumed resumed
    exact ⟨_, _, setTask_self .., rfl, told.onward (fun _ acting => nomatch acting) agree still⟩
  | answer found' asked handled received =>
    cases own
    cases found.symm.trans found'
    rw [code] at asked received
    obtain ⟨ticket, result, rfl, rfl, rfl⟩ := receive_cancellation received
    cases asked
    exact ⟨_, _, setTask_self .., rfl, told_answered told rfl handled⟩
  | commit found' connected committing accepted =>
    cases own
    cases found.symm.trans found'
    rw [code] at committing
    obtain ⟨point', rfl, agree, still⟩ := told_committed committing
    exact ⟨_, _, setTask_self .., rfl, told.onward (fun _ acting => nomatch acting) agree still⟩
  | @fail _ _ code' error found' failed =>
    cases own
    cases found.symm.trans found'
    rw [code] at failed
    have raised : code' = .unregister ticketId (.raised error) := by
      cases point with
      | returned | raised => cases failed
      | _ => exact (Option.some.inj failed).symm
    exact ⟨_, .raised error, setTask_self .., raised,
      told.onward (fun _ acting => nomatch acting) (fun _ _ => trivial) (fun told => nomatch told)⟩
  | disconnect found' =>
    cases own
    cases found.symm.trans found'
    exact ⟨_, point, setTask_self .., code,
      told.onward (fun _ acting => nomatch acting) (fun _ => id) id⟩
  | late | tick | evict | upsert | publish => cases own

def AllTold (moves : List (Move (State Process P) (Action Process))) (s : State Process P) : Prop :=
  ∀ i task ticketId point, s.tasks i = some task → task.code = .unregister ticketId point →
    Told i ticketId moves point

omit [DecidableEq Process] in
theorem told_started {job : Job} (begun : job.begin = .unregister ticketId point)
    (unacted : ∀ m ∈ moves, m.action.request ≠ some i)
    (silent : ∀ result, m.action ≠ .answer i (.cancellation result)) :
    Told i ticketId (m :: moves) point where
  agree := by
    intro n member result acting
    rcases List.mem_cons.mp member with rfl | member
    · exact absurd acting (silent result)
    · exact absurd (by rw [acting]; rfl) (unacted n member)
  answered := by
    cases job with
    | unregister =>
      cases begun
      exact fun told => nomatch told
    | register | seats => cases begun

theorem job_unregister {code : Code} (job : code.job = .unregister ticketId) :
    ∃ point, code = .unregister ticketId point := by
  cases code with
  | unregister other point =>
    cases job
    exact ⟨point, rfl⟩
  | register | seats => cases job

theorem allTold_step (unacted : ∀ i, s.tasks i = none → ∀ m ∈ moves, m.action.request ≠ some i)
    (all : AllTold moves s) (step : Step runtime s a t) : AllTold (⟨s, a, t⟩ :: moves) t := by
  intro i next ticketId point there code
  cases here : s.tasks i with
  | none =>
    obtain ⟨_, job, rfl, same⟩ := step_begins step here there
    exact told_started (same.symm.trans code) (unacted i here) (fun _ acting => nomatch acting)
  | some task =>
    obtain ⟨next', there', job⟩ := step_job step here
    cases there.symm.trans there'
    rw [code] at job
    obtain ⟨before, code'⟩ := job_unregister job.symm
    obtain ⟨_, after, there', codeAfter, told⟩ :=
      told_step step here code' (all i task ticketId before here code')
    cases there.symm.trans there'
    cases code.symm.trans codeAfter
    exact told

theorem allTold_run (initial : (system Process runtime P).Initial s)
    (run : Run (system Process runtime P) s moves t) : AllTold moves t := by
  apply run.history
  · intro moves u a v before all step
    exact allTold_step (fun i => unrequested before) all step
  · obtain ⟨-, -, -, -, -, idle, -⟩ := initial
    intro i task _ _ found
    rw [idle i] at found
    cases found

omit [DecidableEq Process] in
theorem told_released (documented : Cancels P Holds) (told : Told i ticketId moves point)
    (here : point.told = true)
    (gone : ∀ result, point.Agrees result → result = .ok true ∨
      ∃ error, result = .error error ∧ error.isInstance .providerNotFound = true) :
    ∃ answer ∈ moves, ∃ result, answer.action = .answer i (.cancellation result) ∧
      ¬ Holds answer.target.provider ticketId := by
  obtain ⟨answer, member, result, acting⟩ := told.answered here
  obtain ⟨agrees, eventId, handled⟩ := told.agree answer member result acting
  refine ⟨answer, member, result, acting, ?_⟩
  rcases gone result agrees with rfl | ⟨error, rfl, missing⟩
  · exact documented.released handled
  · exact documented.unknown handled missing

theorem follows_step (documented : Cancels P Holds) (all : AllTold moves s)
    (step : Step runtime s a t) (accepted : ¬ CommitsDeclined ⟨s, a, t⟩) :
    FollowsProvider Holds ⟨s, a, t⟩ moves := by
  intro i task ticketId point own found code changed
  have change := step_db step
  change t.db ≠ s.db at changed
  generalize t.db = db at change changed
  cases change with
  | unchanged => exact absurd rfl changed
  | upserted | published => cases own
  | registered found' connected committing =>
    cases own
    cases found.symm.trans found'
    cases code.symm.trans committing
  | deleted found' committing =>
    cases own
    cases found.symm.trans found'
    cases code.symm.trans committing
    have told := all i task ticketId _ found code
    exact told_released documented told rfl (fun result => Or.inr)
  | @cancelled _ _ _ outboxId ticket success now outbox found' committing inserted =>
    cases own
    cases found.symm.trans found'
    cases code.symm.trans committing
    have told := all i task ticketId _ found code
    cases success with
    | true => exact told_released documented told rfl (fun result => Or.inl)
    | false => exact absurd ⟨i, outboxId, task, ticketId, ticket, now, rfl, found, code⟩ accepted

theorem inserted_changed {outbox outbox' : Table OutboxEventORM.id} {row : OutboxEventORM}
    (inserted : outbox.insert? row = some outbox') : outbox' ≠ outbox := by
  obtain ⟨fresh, rows⟩ := (outbox.insert?_eq_some outbox' row).mp inserted
  rintro rfl
  exact absurd (congrArg List.length rows) (by simp)

theorem declined_not_followed (documented : Cancels P Holds) (all : AllTold moves s)
    (step : Step runtime s a t) (declined : CommitsDeclined ⟨s, a, t⟩) :
    ¬ FollowsProvider Holds ⟨s, a, t⟩ moves := by
  intro follows
  obtain ⟨i, outboxId, task, ticketId, ticket, now, acting, found, code⟩ := declined
  cases acting
  have changed : t.db ≠ s.db := by
    have change := step_db step
    generalize t.db = db at change
    cases change with
    | unchanged idle => exact absurd rfl (idle i outboxId)
    | registered found' connected committing =>
      cases found.symm.trans found'
      cases code.symm.trans committing
    | deleted found' committing =>
      cases found.symm.trans found'
      cases code.symm.trans committing
    | cancelled found' committing inserted =>
      intro same
      exact inserted_changed inserted (congrArg Database.outbox same)
  obtain ⟨answer, member, result, acting, gone⟩ :=
    follows i task ticketId _ rfl found code changed
  obtain ⟨agrees, eventId, handled⟩ :=
    (all i task ticketId _ found code).agree answer member result acting
  cases agrees
  exact gone (documented.kept handled)

theorem cancellations_follow_iff {Process : Type} [DecidableEq Process] {P : Provider}
    {Holds : P.State → UUID → Prop} {runtime : Runtime} {s t : State Process P}
    {moves : List (Move (State Process P) (Action Process))} (documented : Cancels P Holds)
    (initial : (system Process runtime P).Initial s)
    (run : Run (system Process runtime P) s moves t) :
    (∀ later m earlier, moves = later ++ m :: earlier → FollowsProvider Holds m earlier) ↔
      ∀ m ∈ moves, ¬ CommitsDeclined m := by
  constructor
  · intro follows m member declined
    obtain ⟨later, earlier, split, before, step, _⟩ := run.cut member
    exact declined_not_followed documented (allTold_run initial before) step declined
      (follows later m earlier split)
  · rintro accepted later m earlier rfl
    obtain ⟨before, step, _⟩ := run.split
    exact follows_step documented (allTold_run initial before) step (accepted m (by simp))

section Sample

def frankProvider (layout : UUID → List Text) : Provider where
  State := Registrations
  Initial _ := True
  Handles held call answer held' := Answered layout held call answer held' ∧
    ∀ eventId ticketId, call = .unregister eventId ticketId →
      answer = .cancellation (.ok false) → held.Holds ticketId

theorem frank_cancels {layout : UUID → List Text} :
    Cancels (frankProvider layout) Registrations.Holds where
  released := by
    rintro held held' eventId ticketId ⟨answered, _⟩
    cases answered
    simp [Registrations.Holds, Registrations.release]
  unknown := by
    rintro held held' eventId ticketId error ⟨answered, _⟩ _
    cases answered with
    | unknown missing => exact missing
  kept := by
    rintro held held' eventId ticketId ⟨answered, holds⟩
    cases answered
    exact holds eventId ticketId rfl rfl

/-- A booking that the provider declines to cancel is deleted here. -/
theorem declined_cancellation : ∃ moves t,
    Run (system Unit sampleRuntime (frankProvider oneSeat))
      (sampleState (frankProvider oneSeat) Registrations.empty) moves t ∧
      t.provider.Holds ⟨7⟩ ∧ t.db.tickets.rows = [] ∧ ∃ m ∈ moves, CommitsDeclined m := by
  have start := @Run.refl _ _ (system Unit sampleRuntime (frankProvider oneSeat))
    (sampleState (frankProvider oneSeat) Registrations.empty)
  have requested := start.move
    (Step.start () (.register (samplePayload none unkeyed)) (rfl : State.tasks _ 0 = none))
  have checked := requested.move (Step.resume (rfl : State.tasks _ 0 = some _) (fun _ => rfl) rfl)
  have seats := checked.move (@Step.answer _ _ _ _ _ 0 _ _ _ _ _ rfl rfl
    ⟨Answered.seats ⟨1⟩, (fun _ _ calling => nomatch calling)⟩ rfl)
  have free := seats.move (Step.resume (rfl : State.tasks _ 0 = some _) (fun _ => rfl) rfl)
  have granted := free.move (@Step.answer _ _ _ _ _ 0 _ _ _ _ _ rfl rfl
    ⟨@single_granted _ ⟨7⟩ _ rfl, (fun _ _ calling => nomatch calling)⟩ rfl)
  have staged := granted.move (Step.resume (rfl : State.tasks _ 0 = some _) (fun _ => rfl) rfl)
  have bought := staged.move (@Step.commit _ _ _ _ _ 0 _ _ ⟨100⟩ _ _ rfl rfl rfl rfl)
  have returned := bought.move (Step.resume (rfl : State.tasks _ 0 = some _) (fun _ => rfl) rfl)
  have cancelling := returned.move
    (Step.start () (.unregister ⟨7⟩) (rfl : State.tasks _ 1 = none))
  have asking := cancelling.move
    (Step.resume (rfl : State.tasks _ 1 = some _) (fun _ => rfl) rfl)
  have declined := asking.move (@Step.answer _ _ _ _ _ 1 _ _ _ _ _ rfl rfl
    ⟨Answered.declined, fun _ _ calling _ => by cases calling; exact single_holds _⟩ rfl)
  have decided := declined.move (Step.resume (rfl : State.tasks _ 1 = some _) (fun _ => rfl) rfl)
  have deleted := decided.move (@Step.commit _ _ _ _ _ 1 _ _ ⟨101⟩ _ _ rfl rfl rfl rfl)
  exact ⟨_, _, deleted, single_holds _, rfl, _, List.mem_cons_self .., 1, ⟨101⟩, _, ⟨7⟩, _, 0, rfl,
    rfl, rfl⟩

theorem declined_cancellation_deletes : ¬ ∀ (s t : State Unit (frankProvider oneSeat))
    (moves : List (Move (State Unit (frankProvider oneSeat)) (Action Unit))),
    (system Unit sampleRuntime (frankProvider oneSeat)).Initial s →
      Run (system Unit sampleRuntime (frankProvider oneSeat)) s moves t →
        ∀ later m earlier, moves = later ++ m :: earlier →
          FollowsProvider Registrations.Holds m earlier := by
  intro follows
  obtain ⟨moves, t, run, _, _, m, member, declined⟩ := declined_cancellation
  obtain ⟨later, earlier, split, before, step, _⟩ := run.cut member
  have initial : (system Unit sampleRuntime (frankProvider oneSeat)).Initial
      (sampleState (frankProvider oneSeat) Registrations.empty) := sample_initial trivial
  exact declined_not_followed frank_cancels (allTold_run initial before) step declined
    (follows _ t moves initial run later m earlier split)

theorem cancellations_follow_iff_declined : ∃ t
    moves, Run (system Unit sampleRuntime (frankProvider oneSeat))
      (sampleState (frankProvider oneSeat) Registrations.empty) moves t ∧
      ¬ ∀ later m earlier, moves = later ++ m :: earlier →
        FollowsProvider Registrations.Holds m earlier := by
  obtain ⟨moves, t, run, _, _, m, member, declined⟩ := declined_cancellation
  refine ⟨t, moves, run, fun follows => ?_⟩
  exact (cancellations_follow_iff frank_cancels (sample_initial trivial) run).mp follows m member
    declined

end Sample

end EventsAggregator
