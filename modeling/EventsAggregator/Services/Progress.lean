import EventsAggregator.Services.Effects

namespace EventsAggregator

open Relational Transition

/-- How far a call has come. It never goes back, so it passes every point at most once. -/
def RegisterPoint.stage : RegisterPoint → Nat
  | .lockKey _ => 1
  | .getKey _ => 2
  | .getEvent => 3
  | .askSeats _ => 4
  | .seatsAnswered _ _ => 5
  | .askRegister _ => 6
  | .registerAnswered _ _ => 7
  | .commit _ _ _ => 8
  | .committed _ => 9
  | .returned _ | .raised _ => 10

def UnregisterPoint.stage : UnregisterPoint → Nat
  | .getTicket => 3
  | .askUnregister _ => 6
  | .answered _ _ => 7
  | .commitDelete _ | .commitCancel _ _ _ => 8
  | .deleted _ | .cancelled _ _ => 9
  | .returned _ | .raised _ => 10

def SeatsPoint.stage : SeatsPoint → Nat
  | .getEvent => 3
  | .askSeats _ => 4
  | .answered _ _ => 5
  | .returned _ | .raised _ => 10

def Code.stage : Code → Nat
  | .register _ point => point.stage
  | .unregister _ point => point.stage
  | .seats _ point => point.stage

def State.stage {Process : Type} {P : Provider} (s : State Process P) (i : Nat) : Nat :=
  (s.tasks i).elim 0 fun task => task.code.stage

variable {Process : Type} {P : Provider} [DecidableEq Process] {runtime : Runtime}
  {s t : State Process P} {a : Action Process}

theorem resume_stage {db : Database} {now : Instant} {cache cache' : SeatsCache} {code code' : Code}
    (resumed : code.resume runtime db now cache = some (code', cache')) :
    code.stage < code'.stage := by
  cases resume_cases resumed with
  | unknownKey | replayed | conflicting | uncached | cached | closed | free | taken | unlisted
  | granted | refused | booked => simp [Code.stage, RegisterPoint.stage]
  | known | unknown | released | lost | kept | deleted | cancelled =>
    simp [Code.stage, UnregisterPoint.stage]
  | seatsUncached | seatsCached | seatsClosed | seatsListed | seatsUnlisted =>
    simp [Code.stage, SeatsPoint.stage]

theorem receive_stage {code code' : Code} {answer : ProviderAnswer}
    (received : code.receive answer = some code') : code'.stage = code.stage + 1 := by
  unfold Code.receive at received
  split at received <;> cases received <;> rfl

theorem commit_stage {code code' : Code} {outboxId : UUID} {session : Session}
    (committing : code.commit runtime outboxId = some (session, code')) :
    code.stage = 8 ∧ code'.stage = 9 := by
  unfold Code.commit at committing
  split at committing <;> cases committing <;> exact ⟨rfl, rfl⟩

theorem fail_stage {code code' : Code} {error : Raised} (failed : code.fail error = some code') :
    code.stage < 10 ∧ code'.stage = 10 := by
  unfold Code.fail at failed
  split at failed <;> cases failed
  case h_7 payload point _ _ =>
    refine ⟨?_, rfl⟩
    cases point <;> simp_all [Code.stage, RegisterPoint.stage]
  case h_8 ticketId point _ _ =>
    refine ⟨?_, rfl⟩
    cases point <;> simp_all [Code.stage, UnregisterPoint.stage]
  case h_9 eventId point _ _ =>
    refine ⟨?_, rfl⟩
    cases point <;> simp_all [Code.stage, SeatsPoint.stage]

omit [DecidableEq Process] in
theorem moved_stage {code code' : Code} (moved : CodeStep runtime s a t code code') :
    code.stage ≤ code'.stage := by
  cases moved with
  | same => exact Nat.le_refl _
  | locked payload key => simp [Code.stage, RegisterPoint.stage]
  | resumed unchanged resumed => exact Nat.le_of_lt (resume_stage resumed)
  | received asked handled received => simp [receive_stage received]
  | committed committing accepted => simp [commit_stage committing]
  | failed acting failed =>
    have stages := fail_stage failed
    omega

theorem step_stage (step : Step runtime s a t) (j : Nat) : s.stage j ≤ t.stage j := by
  cases here : s.tasks j with
  | none => simp [State.stage, here]
  | some task =>
    obtain ⟨next, there, moved⟩ := step_code step here
    simpa [State.stage, here, there] using moved_stage moved

theorem begin_job (job : Job) : job.begin.job = job := by
  cases job <;> rfl

theorem register_job {code : Code} {payload : SEventRegistrationCreate}
    (job : code.job = .register payload) : ∃ point, code = .register payload point := by
  cases code with
  | register own point =>
    cases job
    exact ⟨point, rfl⟩
  | unregister | seats => cases job

theorem resume_job {db : Database} {now : Instant} {cache cache' : SeatsCache} {code code' : Code}
    (resumed : code.resume runtime db now cache = some (code', cache')) : code'.job = code.job := by
  unfold Code.resume at resumed
  split at resumed <;> cases resumed <;> rfl

theorem receive_job {code code' : Code} {answer : ProviderAnswer}
    (received : code.receive answer = some code') : code'.job = code.job := by
  unfold Code.receive at received
  split at received <;> cases received <;> rfl

theorem commit_job {code code' : Code} {outboxId : UUID} {session : Session}
    (committing : code.commit runtime outboxId = some (session, code')) : code'.job = code.job := by
  unfold Code.commit at committing
  split at committing <;> cases committing <;> rfl

theorem fail_job {code code' : Code} {error : Raised} (failed : code.fail error = some code') :
    code'.job = code.job := by
  unfold Code.fail at failed
  split at failed <;> cases failed <;> rfl

theorem step_job (step : Step runtime s a t) {j : Nat} {task : Task Process}
    (here : s.tasks j = some task) :
    ∃ next, t.tasks j = some next ∧ next.code.job = task.code.job := by
  obtain ⟨next, there, moved⟩ := step_code step here
  refine ⟨next, there, ?_⟩
  generalize task.code = code, next.code = code' at moved
  cases moved with
  | same | locked => rfl
  | resumed unchanged resumed => exact resume_job resumed
  | received asked handled received => exact receive_job received
  | committed committing accepted => exact commit_job committing
  | failed acting failed => exact fail_job failed

theorem unstarted {moves : List (Move (State Process P) (Action Process))}
    (run : Run (system Process runtime P) s moves t) {j : Nat} (fresh : t.tasks j = none) :
    s.tasks j = none := by
  cases here : s.tasks j with
  | none => rfl
  | some task =>
    have still : (t.tasks j).isSome = true := by
      apply run.invariant (I := fun u => (u.tasks j).isSome = true)
      · intro u a v started step
        obtain ⟨task, found⟩ := Option.isSome_iff_exists.mp started
        obtain ⟨next, there, _⟩ := step_job step found
        simp [there]
      · simp [here]
    rw [fresh] at still
    cases still

theorem stage_le (code : Code) : code.stage ≤ 10 := by
  cases code with
  | register payload point => cases point <;> simp [Code.stage, RegisterPoint.stage]
  | unregister ticketId point => cases point <;> simp [Code.stage, UnregisterPoint.stage]
  | seats eventId point => cases point <;> simp [Code.stage, SeatsPoint.stage]

theorem step_running {i : Nat} {task : Task Process} (step : Step runtime s a t)
    (found : s.tasks i = some task) (own : a.request = some i) :
    a = .disconnect i ∨ task.code.stage < 10 := by
  cases step with
  | start process job fresh =>
    cases own
    cases fresh.symm.trans found
  | lockKey found' connected waiting =>
    cases own
    cases found.symm.trans found'
    exact Or.inr (by simp [waiting, Code.stage, RegisterPoint.stage])
  | resume found' connected resumed =>
    cases own
    cases found.symm.trans found'
    exact Or.inr (Nat.lt_of_lt_of_le (resume_stage resumed) (stage_le _))
  | answer found' asked handled received =>
    cases own
    cases found.symm.trans found'
    have later := receive_stage received
    have bound := stage_le ‹Code›
    exact Or.inr (by omega)
  | commit found' connected committing accepted =>
    cases own
    cases found.symm.trans found'
    have stage := (commit_stage committing).1
    exact Or.inr (by omega)
  | fail found' failed =>
    cases own
    cases found.symm.trans found'
    exact Or.inr (fail_stage failed).1
  | disconnect found' =>
    cases own
    exact Or.inl rfl
  | late | tick | evict | upsert | publish => cases own

theorem request_started {i : Nat} (step : Step runtime s a t) (own : a.request = some i) :
    t.tasks i ≠ none := by
  cases step with
  | start | lockKey | resume | answer | commit | fail | disconnect =>
    cases own
    exact fun absent => nomatch (setTask_self ..).symm.trans absent
  | late | tick | evict | upsert | publish => cases own

theorem unrequested {moves : List (Move (State Process P) (Action Process))}
    (run : Run (system Process runtime P) s moves t) {i : Nat} (fresh : t.tasks i = none) :
    ∀ m ∈ moves, m.action.request ≠ some i := by
  intro m member own
  obtain ⟨later, earlier, rfl, _, step, after⟩ := run.cut member
  exact request_started step own (unstarted after fresh)

def Action.committing : Action Process → Option Nat
  | .commit i _ => some i
  | _ => none

theorem commit_stages {i : Nat} {outboxId : UUID} (step : Step runtime s (.commit i outboxId) t) :
    s.stage i = 8 ∧ t.stage i = 9 := by
  cases step with
  | commit found connected committing accepted =>
    obtain ⟨before, after⟩ := commit_stage committing
    exact ⟨by simp [State.stage, found, before], by simp [State.stage, setTask_tasks, after]⟩

end EventsAggregator
