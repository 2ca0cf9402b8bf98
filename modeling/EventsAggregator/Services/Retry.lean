import EventsAggregator.Services.Idempotency
import EventsAggregator.Services.Orphans

namespace EventsAggregator

open Relational Transition

variable {Process : Type} [DecidableEq Process] {layout : UUID → List Text} {runtime : Runtime}
  {s t : State Process (seatProvider layout)} {a : Action Process} {i : Nat}
  {payload : SEventRegistrationCreate} {key : String} {ticketId : UUID}
  {moves : List (Move (State Process (seatProvider layout)) (Action Process))}

def OnlyAttempts (payload : SEventRegistrationCreate)
    (m : Move (State Process (seatProvider layout)) (Action Process)) : Prop :=
  ∀ i process job, m.action = .start i process job → job = .register payload

def Grants (payload : SEventRegistrationCreate) (s : State Process (seatProvider layout))
    (ticketId : UUID) : Prop :=
  (⟨ticketId, payload.eventId, payload.toProvider⟩ : Registration) ∈
    Registrations.held s.provider

def Code.granted? : Code → Option UUID
  | .register _ (.registerAnswered _ (.ok ticketId)) | .register _ (.commit _ ticketId _) =>
    some ticketId
  | _ => none

def ProviderCall.OfAttempt (payload : SEventRegistrationCreate) (call : ProviderCall) : Prop :=
  (∃ eventId, call = .seats eventId) ∨ call = .register payload.eventId payload.toProvider

structure Attempting (runtime : Runtime) (payload : SEventRegistrationCreate) (key : String)
    (s : State Process (seatProvider layout)) : Prop where
  own : ∀ i, Registers payload i s
  calls : ∀ call ∈ s.abandoned, call.OfAttempt payload
  carried : ∀ i task ticketId, s.tasks i = some task → task.code.granted? = some ticketId →
    Grants payload s ticketId
  stored : ∀ record, s.db.idempotencyKeys.find? key = some record →
    storable key = true ∧ record.requestHash = computeRequestHash runtime payload ∧
      ∃ ticketId, record.names.bind UUID.parse = some ticketId ∧ Grants payload s ticketId

theorem ofAttempt_keeping {call : ProviderCall} (attempt : call.OfAttempt payload) :
    ∀ eventId ticketId, call ≠ .unregister eventId ticketId := by
  rintro eventId ticketId rfl
  rcases attempt with ⟨_, same⟩ | same
  · cases same
  · cases same

theorem register_call {code : Code} (job : code.job = .register payload) {call : ProviderCall}
    (asked : code.call = some call) : call.OfAttempt payload := by
  obtain ⟨point, rfl⟩ := register_job job
  cases point with
  | askSeats event =>
    cases asked
    exact Or.inl ⟨event.id, rfl⟩
  | askRegister event =>
    cases asked
    exact Or.inr rfl
  | _ => cases asked

theorem attempting_provider (step : Step runtime s a t)
    (attempting : Attempting runtime payload key s) :
    t.provider = s.provider ∨ ∃ call answer, call.OfAttempt payload ∧
      (seatProvider layout).Handles s.provider call answer t.provider := by
  cases step with
  | answer found asked handled received =>
    exact Or.inr ⟨_, _, register_call (attempting.own _ _ found) asked, handled⟩
  | late waiting handled => exact Or.inr ⟨_, _, attempting.calls _ waiting, handled⟩
  | start | lockKey | resume | commit | fail | disconnect | tick | evict | upsert | publish =>
    exact Or.inl rfl

theorem attempting_grants (step : Step runtime s a t)
    (attempting : Attempting runtime payload key s)
    (grants : Grants payload s ticketId) : Grants payload t ticketId := by
  unfold Grants at grants ⊢
  rcases attempting_provider step attempting with same | ⟨call, answer, attempt, handled⟩
  · rw [same]
    exact grants
  · exact handles_keeps handled (ofAttempt_keeping attempt) grants

theorem attempting_made (step : Step runtime s a t) (attempting : Attempting runtime payload key s)
    (before : ¬ Held s ticketId) (after : Held t ticketId) : Grants payload t ticketId := by
  obtain ⟨r, member, rfl⟩ := List.mem_map.mp after
  have absent : r ∉ Registrations.held s.provider := fun old => before (List.mem_map_of_mem old)
  rcases attempting_provider step attempting with same | ⟨call, answer, attempt, handled⟩
  · rw [same] at member
    exact absurd member absent
  · rcases handles_new handled (ofAttempt_keeping attempt) member with old | rfl
    · exact absurd old absent
    · rcases attempt with ⟨_, other⟩ | same
      · cases other
      · obtain ⟨ticketId, eventId, payload'⟩ := r
        cases same
        exact member

theorem begin_granted (job : Job) : job.begin.granted? = none := by
  cases job with
  | register own =>
    unfold Job.begin
    rcases beginRegister_cases own with ⟨_, same⟩ | ⟨key, _, same⟩
    all_goals simp only [same]; rfl
  | unregister | seats => rfl

theorem resume_granted {db : Database} {now : Instant} {cache cache' : SeatsCache}
    {code code' : Code} (resumed : code.resume runtime db now cache = some (code', cache'))
    (granted : code'.granted? = some ticketId) : code.granted? = some ticketId := by
  cases resume_cases resumed with
  | granted => exact granted
  | _ => cases granted

omit [DecidableEq Process] in
theorem moved_granted {code code' : Code} (moved : CodeStep runtime s a t code code')
    (job : code.job = .register payload) (granted : code'.granted? = some ticketId) :
    code.granted? = some ticketId ∨ Grants payload t ticketId := by
  cases moved with
  | same => exact Or.inl granted
  | locked own key => cases granted
  | resumed unchanged resumed => exact Or.inl (resume_granted resumed granted)
  | @received call answer code code' asked handled received =>
    obtain ⟨point, rfl⟩ := register_job job
    cases point with
    | askRegister event =>
      cases answer with
      | registration result =>
        cases received
        cases result with
        | ok id =>
          cases granted
          cases asked
          exact Or.inr (handles_granted handled).1
        | error => cases granted
      | seats | cancellation => cases received
    | askSeats event =>
      cases answer with
      | seats result =>
        cases received
        cases granted
      | registration | cancellation => cases received
    | _ => cases asked
  | committed committing accepted =>
    unfold Code.commit at committing
    split at committing <;> cases committing
    all_goals cases granted
  | failed acting failed =>
    unfold Code.fail at failed
    split at failed <;> cases failed
    all_goals cases granted

theorem attempting_stored (step : Step runtime s a t)
    (attempting : Attempting runtime payload key s)
    {record : IdempotencyRecordORM} (found : t.db.idempotencyKeys.find? key = some record) :
    storable key = true ∧ record.requestHash = computeRequestHash runtime payload ∧
      ∃ ticketId, record.names.bind UUID.parse = some ticketId ∧ Grants payload t ticketId := by
  have change := step_db step
  by_cases committed : committedKey ⟨s, a, t⟩ = some key
  · obtain ⟨i, outboxId, task, own, event, ticketId, now, acting, here, code, keyed⟩ :=
      committedKey_eq_some.mp committed
    simp only at acting here
    subst acting
    obtain ⟨writes, _⟩ := change_writes_all change i task own _ rfl here code
    obtain ⟨_, _, _, same, written⟩ := writes outboxId rfl
    cases same
    have job := attempting.own i task here
    rw [code] at job
    cases job
    rw [(registered_record written keyed).2] at found
    cases found
    have grants := attempting.carried i task ticketId here (by rw [code]; rfl)
    refine ⟨written.keyStorable key keyed, rfl, ticketId, ?_,
      attempting_grants step attempting grants⟩
    simp [IdempotencyRecordORM.names, registrationRecord, UUID.parse_str]
  · rw [change_other_key change committed] at found
    obtain ⟨clean, hash, ticketId, names, grants⟩ := attempting.stored record found
    exact ⟨clean, hash, ticketId, names, attempting_grants step attempting grants⟩

theorem attempting_step (step : Step runtime s a t) (attempts : OnlyAttempts payload ⟨s, a, t⟩)
    (attempting : Attempting runtime payload key s) : Attempting runtime payload key t := by
  refine ⟨?_, ?_, ?_, fun record found => attempting_stored step attempting found⟩
  · intro i next there
    cases here : s.tasks i with
    | none =>
      obtain ⟨process, job, started, same⟩ := step_begins step here there
      rw [same, attempts i process job started]
      exact begin_job _
    | some task =>
      obtain ⟨next', there', same⟩ := step_job step here
      cases there.symm.trans there'
      rw [same]
      exact attempting.own i task here
  · cases step with
    | @fail i task code error found failed =>
      intro call member
      rcases List.mem_append.mp member with called | old
      · have asked : task.code.call = some call := by simpa using called
        exact register_call (attempting.own i task found) asked
      · exact attempting.calls call old
    | late waiting handled =>
      intro call member
      exact attempting.calls call (List.mem_of_mem_erase member)
    | start | lockKey | resume | answer | commit | disconnect | tick | evict | upsert | publish =>
      exact attempting.calls
  · intro i next ticketId there granted
    cases here : s.tasks i with
    | none =>
      obtain ⟨_, job, _, same⟩ := step_begins step here there
      rw [same, begin_granted] at granted
      cases granted
    | some task =>
      obtain ⟨next', there', moved⟩ := step_code step here
      cases there.symm.trans there'
      rcases moved_granted moved (attempting.own i task here) granted with before | grants
      · exact attempting_grants step attempting (attempting.carried i task ticketId here before)
      · exact grants

theorem run_attempting (run : Run (system Process runtime (seatProvider layout)) s moves t)
    (attempts : ∀ m ∈ moves, OnlyAttempts payload m)
    (attempting : Attempting runtime payload key s) : Attempting runtime payload key t :=
  run.guarded (I := fun u => Attempting runtime payload key u) (G := OnlyAttempts payload)
    (fun _ _ _ valid only step => attempting_step step only valid) attempts attempting

omit [DecidableEq Process] in
theorem attempting_initial (idle : ∀ j, s.tasks j = none) (settled : s.abandoned = [])
    (unused : s.db.idempotencyKeys.find? key = none) : Attempting runtime payload key s := by
  refine ⟨?_, ?_, ?_, ?_⟩
  · intro j task here
    rw [idle j] at here
    cases here
  · intro call member
    rw [settled] at member
    cases member
  · intro j task ticketId here
    rw [idle j] at here
    cases here
  · intro record here
    rw [unused] at here
    cases here

theorem run_grants (run : Run (system Process runtime (seatProvider layout)) s moves t)
    (attempts : ∀ m ∈ moves, OnlyAttempts payload m)
    (attempting : Attempting runtime payload key s)
    (made : ∃ m ∈ moves, ¬ Held m.source ticketId ∧ Held m.target ticketId) :
    Grants payload t ticketId := by
  obtain ⟨m, member, before, after⟩ := made
  obtain ⟨later, earlier, rfl, first, step, rest⟩ := run.cut member
  have there := run_attempting first (fun n inside => attempts n (by simp [inside])) attempting
  have only := attempts m (by simp)
  have appeared := attempting_made step there before after
  have both : Attempting runtime payload key t ∧ Grants payload t ticketId := by
    apply rest.guarded (I := fun u => Attempting runtime payload key u ∧
      Grants payload u ticketId) (G := OnlyAttempts payload) _
      (fun n inside => attempts n (by simp [inside]))
    · exact ⟨attempting_step step only there, appeared⟩
    · intro u b v valid only step
      exact ⟨attempting_step step only valid.1, attempting_grants step valid.1 valid.2⟩
  exact both.2

/-- A move while the attempt `i` is served: its calls are answered, its statements succeed and
    nobody else asks for anything. -/
def Undisturbed (payload : SEventRegistrationCreate) (i : Nat)
    (m : Move (State Process (seatProvider layout)) (Action Process)) : Prop :=
  match m.action with
  | .start j _ job => j = i ∧ job = .register payload
  | .answer j answer => j = i ∧ ∃ task call, m.source.tasks i = some task ∧
      task.code.call = some call ∧ Answered layout m.source.provider call answer m.target.provider
  | .lockKey j | .resume j | .commit j _ => j = i
  | .fail _ _ | .disconnect _ => False
  | .late _ _ | .tick _ | .evict _ _ | .upsert _ | .publish _ _ => True

structure Attempt (runtime : Runtime) (payload : SEventRegistrationCreate) (i : Nat)
    (process : Process) (s : State Process (seatProvider layout))
    (moves : List (Move (State Process (seatProvider layout)) (Action Process)))
    (t : State Process (seatProvider layout)) : Prop where
  run : Run (system Process runtime (seatProvider layout)) s moves t
  undisturbed : ∀ m ∈ moves, Undisturbed payload i m
  started : ∃ m ∈ moves, m.action = .start i process (.register payload)
  ended : t.stage i = 10

/-- The next attempt gets through, and it can only return the ticket. -/
def Recovers (runtime : Runtime) (payload : SEventRegistrationCreate) (ticketId : UUID) (i : Nat)
    (process : Process) (s : State Process (seatProvider layout)) : Prop :=
  (∃ moves t, Attempt runtime payload i process s moves t) ∧
    ∀ moves t, Attempt runtime payload i process s moves t →
      (t.tasks i).map Task.code = some (.register payload (.returned ticketId))

omit [DecidableEq Process] in
theorem undisturbed_attempts {m : Move (State Process (seatProvider layout)) (Action Process)}
    (undisturbed : Undisturbed payload i m) : OnlyAttempts payload m := by
  intro j process job started
  unfold Undisturbed at undisturbed
  rw [started] at undisturbed
  exact undisturbed.2

theorem checkExisting_returns {record : IdempotencyRecordORM}
    (hash : record.requestHash = computeRequestHash runtime payload)
    (names : record.names.bind UUID.parse = some ticketId) :
    checkExisting runtime payload key (some record) = .returned ticketId := by
  unfold IdempotencyRecordORM.names at names
  simp [checkExisting, hash, names]

theorem begin_keyed (keyed : payload.idempotencyKey = some key) :
    (Job.register payload).begin = .register payload (.lockKey key) := by
  unfold Job.begin beginRegister
  simp only [keyed]

def Answers (payload : SEventRegistrationCreate) (key : String) (ticketId : UUID)
    (code : Code) : Prop :=
  code = .register payload (.lockKey key) ∨ code = .register payload (.getKey key) ∨
    code = .register payload (.returned ticketId)

omit [DecidableEq Process] in
theorem moved_answers {record : IdempotencyRecordORM} {code code' : Code}
    (answers : Answers payload key ticketId code) (moved : CodeStep runtime s a t code code')
    (unfailed : ∀ j error, a ≠ .fail j error)
    (stored : s.db.idempotencyKeys.find? key = some record)
    (hash : record.requestHash = computeRequestHash runtime payload)
    (names : record.names.bind UUID.parse = some ticketId) :
    Answers payload key ticketId code' := by
  cases moved with
  | same => exact answers
  | locked own key' =>
    rcases answers with same | same | same
    · cases same
      exact Or.inr (Or.inl rfl)
    · cases same
    · cases same
  | resumed unchanged resumed =>
    rcases answers with rfl | rfl | rfl
    · cases resumed
    · cases resumed
      rw [stored, checkExisting_returns hash names]
      exact Or.inr (Or.inr rfl)
    · cases resumed
  | received asked handled received =>
    rcases answers with rfl | rfl | rfl
    all_goals cases asked
  | committed committing accepted =>
    rcases answers with rfl | rfl | rfl
    all_goals cases committing
  | failed acting failed => exact absurd acting (unfailed _ _)

theorem attempt_answers {process : Process} {record : IdempotencyRecordORM}
    (keyed : payload.idempotencyKey = some key) (fresh : s.tasks i = none)
    (stored : s.db.idempotencyKeys.find? key = some record)
    (hash : record.requestHash = computeRequestHash runtime payload)
    (names : record.names.bind UUID.parse = some ticketId)
    (attempt : Attempt runtime payload i process s moves t) :
    (t.tasks i).map Task.code = some (.register payload (.returned ticketId)) := by
  have both : t.db.idempotencyKeys.find? key = some record ∧
      ∀ task, t.tasks i = some task → Answers payload key ticketId task.code := by
    apply attempt.run.guarded (I := fun u => u.db.idempotencyKeys.find? key = some record ∧
        ∀ task, u.tasks i = some task → Answers payload key ticketId task.code)
      (G := Undisturbed payload i) _ attempt.undisturbed
    · refine ⟨stored, fun task here => ?_⟩
      rw [fresh] at here
      cases here
    · intro u a v valid undisturbed step
      obtain ⟨stored, answers⟩ := valid
      refine ⟨change_keeps_record (step_db step) stored, ?_⟩
      intro next there
      cases here : u.tasks i with
      | none =>
        obtain ⟨_, job, started, same⟩ := step_begins step here there
        rw [same, undisturbed_attempts undisturbed i _ job started, begin_keyed keyed]
        exact Or.inl rfl
      | some task =>
        obtain ⟨next', there', moved⟩ := step_code step here
        cases there.symm.trans there'
        refine moved_answers (answers task here) moved ?_ stored hash names
        rintro j error rfl
        exact undisturbed
  have ended := attempt.ended
  unfold State.stage at ended
  cases here : t.tasks i with
  | none =>
    rw [here] at ended
    cases ended
  | some task =>
    rw [here] at ended
    rcases both.2 task here with same | same | same
    · rw [Option.elim_some, same] at ended
      cases ended
    · rw [Option.elim_some, same] at ended
      cases ended
    · simp [same]

def Unserved (payload : SEventRegistrationCreate) (key : String) : Code → Prop
  | .register own (.lockKey key') | .register own (.getKey key') => own = payload ∧ key' = key
  | .register own .getEvent | .register own (.askSeats _) | .register own (.seatsAnswered _ _)
  | .register own (.askRegister _) | .register own (.registerAnswered _ (.error _))
  | .register own (.raised _) => own = payload
  | _ => False

theorem unserved_own {own : SEventRegistrationCreate} {point : RegisterPoint}
    (unserved : Unserved payload key (.register own point)) : own = payload := by
  cases point with
  | lockKey | getKey => exact unserved.1
  | getEvent | askSeats | seatsAnswered | askRegister | raised => exact unserved
  | registerAnswered event answer =>
    cases answer with
    | ok => exact unserved.elim
    | error => exact unserved
  | commit | committed | returned => exact unserved.elim

theorem resume_unserved {db : Database} {now : Instant} {cache cache' : SeatsCache}
    {code code' : Code} (unserved : Unserved payload key code)
    (missing : db.idempotencyKeys.find? key = none)
    (resumed : code.resume runtime db now cache = some (code', cache')) :
    Unserved payload key code' := by
  cases resume_cases resumed with
  | unknownKey => exact unserved.1
  | replayed found | conflicting _ found =>
    obtain ⟨rfl, rfl⟩ := unserved
    cases missing.symm.trans found
  | uncached | cached | closed | free | taken | unlisted | refused => exact unserved
  | _ => exact unserved.elim

omit [DecidableEq Process] in
theorem moved_unserved {code code' : Code} (unserved : Unserved payload key code)
    (moved : CodeStep runtime s a t code code')
    (missing : s.db.idempotencyKeys.find? key = none) (grants : Grants payload s ticketId) :
    Unserved payload key code' := by
  cases moved with
  | same => exact unserved
  | locked own key' => exact unserved
  | resumed unchanged resumed => exact resume_unserved unserved missing resumed
  | received asked handled received =>
    unfold Code.receive at received
    split at received <;> cases received
    case h_1 => exact unserved
    case h_2 own event result =>
      cases result with
      | ok id =>
        obtain rfl : own = payload := unserved
        cases asked
        have taken : Registrations.Taken s.provider own.eventId own.toProvider.seat :=
          List.mem_map_of_mem (f := Registration.place) grants
        exact absurd taken (handles_granted handled).2
      | error => exact unserved
    all_goals exact unserved.elim
  | committed committing accepted =>
    unfold Code.commit at committing
    split at committing <;> cases committing
    all_goals exact unserved.elim
  | failed acting failed =>
    unfold Code.fail at failed
    split at failed <;> cases failed
    case h_7 => exact unserved_own unserved
    all_goals exact unserved.elim

structure Refused (runtime : Runtime) (payload : SEventRegistrationCreate) (key : String)
    (ticketId : UUID) (i : Nat) (s : State Process (seatProvider layout)) : Prop where
  attempting : Attempting runtime payload key s
  missing : s.db.idempotencyKeys.find? key = none
  grants : Grants payload s ticketId
  others : ∀ j task, j ≠ i → s.tasks j = some task → task.code.stage = 10
  unserved : ∀ task, s.tasks i = some task → Unserved payload key task.code

theorem step_refused (keyed : payload.idempotencyKey = some key) (step : Step runtime s a t)
    (undisturbed : Undisturbed payload i ⟨s, a, t⟩)
    (refused : Refused runtime payload key ticketId i s) :
    Refused runtime payload key ticketId i t := by
  obtain ⟨attempting, missing, grants, others, unserved⟩ := refused
  have only := undisturbed_attempts undisturbed
  have uncommitted : committedKey ⟨s, a, t⟩ ≠ some key := by
    intro committed
    obtain ⟨j, outboxId, task, own, event, id, now, acting, here, code, _⟩ :=
      committedKey_eq_some.mp committed
    simp only at acting here
    by_cases mine : j = i
    · subst mine
      have stuck := unserved task here
      rw [code] at stuck
      exact stuck
    · have ended := others j task mine here
      rw [code] at ended
      cases ended
  refine ⟨attempting_step step only attempting, ?_, attempting_grants step attempting grants,
    ?_, ?_⟩
  · rw [change_other_key (step_db step) uncommitted, missing]
  · intro j next other there
    have kept : t.tasks j = s.tasks j := by
      apply step_other step
      intro acting
      unfold Undisturbed at undisturbed
      cases a with
      | start | answer =>
        cases acting
        exact other undisturbed.1
      | lockKey | resume | commit =>
        cases acting
        exact other undisturbed
      | fail | disconnect => exact undisturbed
      | late | tick | evict | upsert | publish => cases acting
    rw [kept] at there
    exact others j next other there
  · intro next there
    cases here : s.tasks i with
    | none =>
      obtain ⟨_, job, started, same⟩ := step_begins step here there
      rw [same, only i _ job started, begin_keyed keyed]
      exact ⟨rfl, rfl⟩
    | some task =>
      obtain ⟨next', there', moved⟩ := step_code step here
      cases there.symm.trans there'
      exact moved_unserved (unserved task here) moved missing grants

theorem attempt_refused {process : Process} (keyed : payload.idempotencyKey = some key)
    (refused : Refused runtime payload key ticketId i s)
    (attempt : Attempt runtime payload i process s moves t) :
    (t.tasks i).map Task.code ≠ some (.register payload (.returned ticketId)) := by
  have still : Refused runtime payload key ticketId i t :=
    attempt.run.guarded (I := fun u => Refused runtime payload key ticketId i u)
      (G := Undisturbed payload i)
      (fun _ _ _ valid undisturbed step => step_refused keyed step undisturbed valid)
      attempt.undisturbed refused
  intro returned
  obtain ⟨task, here, code⟩ := Option.map_eq_some_iff.mp returned
  have stuck := still.unserved task here
  rw [code] at stuck
  exact stuck

theorem attempt_exists (process : Process) {record : IdempotencyRecordORM}
    (keyed : payload.idempotencyKey = some key) (fresh : s.tasks i = none)
    (unlocked : ∀ j task, s.tasks j = some task → task.lock = none)
    (clean : storable key = true) (stored : s.db.idempotencyKeys.find? key = some record)
    (hash : record.requestHash = computeRequestHash runtime payload)
    (names : record.names.bind UUID.parse = some ticketId) :
    ∃ moves t, Attempt runtime payload i process s moves t := by
  let waiting : Task Process := ⟨process, .register payload (.lockKey key), true, none⟩
  let looking : Task Process := ⟨process, .register payload (.getKey key), true, some key⟩
  have own : ∀ (u : State Process (seatProvider layout)) task,
      (u.setTask i task).tasks i = some task := by
    intro u task
    rw [setTask_tasks, if_pos rfl]
  have begun : Step runtime s (.start i process (.register payload))
      (s.setTask i waiting) := by
    have step := @Step.start _ _ _ runtime s i process (.register payload) fresh
    rw [begin_keyed keyed] at step
    exact step
  have locked : Step runtime (s.setTask i waiting) (.lockKey i)
      ((s.setTask i waiting).setTask i looking) := by
    refine .lockKey (own s _) rfl rfl clean ?_
    intro j other held apart here lock
    rw [setTask_tasks, if_neg apart] at here
    rw [unlocked j other here] at lock
    cases lock
  have resumed : looking.code.resume runtime s.db s.now (s.cache process) =
      some (.register payload (.returned ticketId), s.cache process) := by
    change some (Code.register payload (checkExisting runtime payload key
      (s.db.idempotencyKeys.find? key)), s.cache process) = _
    rw [stored, checkExisting_returns hash names]
  have answered := @Step.resume _ _ _ runtime ((s.setTask i waiting).setTask i looking) i looking
    _ _ (own _ _) (fun _ => rfl) resumed
  refine ⟨_, _, ((Run.refl.move begun).move locked).move answered, ?_, ?_, ?_⟩
  · intro m member
    simp only [List.mem_cons, List.not_mem_nil, or_false] at member
    rcases member with rfl | rfl | rfl
    · exact rfl
    · exact rfl
    · exact ⟨rfl, rfl⟩
  · exact ⟨_, List.mem_cons_of_mem _ (List.mem_cons_of_mem _ (List.mem_cons_self ..)), rfl⟩
  · simp [State.stage, setTask_tasks, Code.stage, RegisterPoint.stage]

theorem retry_recovers_iff {start : State Process (seatProvider layout)} (process : Process)
    (keyed : payload.idempotencyKey = some key)
    (idle : ∀ j, start.tasks j = none) (settled : start.abandoned = [])
    (unused : start.db.idempotencyKeys.find? key = none)
    (run : Run (system Process runtime (seatProvider layout)) start moves s)
    (attempts : ∀ m ∈ moves, OnlyAttempts payload m)
    (ended : ∀ j task, s.tasks j = some task → task.code.stage = 10 ∧ task.lock = none)
    (made : ∃ m ∈ moves, ¬ Held m.source ticketId ∧ Held m.target ticketId)
    (fresh : s.tasks i = none) :
    Recovers runtime payload ticketId i process s ↔
      (s.db.idempotencyKeys.find? key).isSome = true := by
  have opening : Attempting runtime payload key start := attempting_initial idle settled unused
  have attempting := run_attempting run attempts opening
  have grants := run_grants run attempts opening made
  constructor
  · intro recovers
    obtain ⟨⟨moves', t, attempt⟩, returns⟩ := recovers
    by_contra absent
    have missing : s.db.idempotencyKeys.find? key = none := by simpa using absent
    have refused : Refused runtime payload key ticketId i s := by
      refine ⟨attempting, missing, grants, fun j task _ here => (ended j task here).1, ?_⟩
      intro task here
      rw [fresh] at here
      cases here
    exact attempt_refused keyed refused attempt (returns moves' t attempt)
  · intro present
    obtain ⟨record, stored⟩ := Option.isSome_iff_exists.mp present
    obtain ⟨clean, hash, recorded, names, granted⟩ := attempting.stored record stored
    have same : recorded = ticketId := by
      have one := Registrations.held_unique s.provider granted grants rfl
      exact congrArg Registration.ticketId one
    subst same
    exact ⟨attempt_exists process keyed fresh (fun j task here => (ended j task here).2) clean
      stored hash names, fun moves' t attempt => attempt_answers keyed fresh stored hash names attempt⟩

def keyedPayload : SEventRegistrationCreate := samplePayload (some "k") (by decide)

/-- `provider.register` answers, the commit fails, and the seat is gone for the retry. -/
theorem interrupted_attempt : ∃ moves s,
    Run (system Unit sampleRuntime (seatProvider oneSeat))
      (sampleState (seatProvider oneSeat) .empty) moves s ∧
      (∀ m ∈ moves, OnlyAttempts keyedPayload m) ∧
      (∀ j task, s.tasks j = some task → task.code.stage = 10 ∧ task.lock = none) ∧
      (∃ m ∈ moves, ¬ Held m.source ⟨7⟩ ∧ Held m.target ⟨7⟩) ∧ s.tasks 1 = none ∧
      ∃ later t, Attempt sampleRuntime keyedPayload 1 () s later t ∧
        (t.tasks 1).map Task.code ≠ some (.register keyedPayload (.returned ⟨7⟩)) := by
  have start := @Run.refl _ _ (system Unit sampleRuntime (seatProvider oneSeat))
    (sampleState (seatProvider oneSeat) .empty)
  have requested := start.move
    (Step.start () (.register keyedPayload) (rfl : State.tasks _ 0 = none))
  have locked := requested.move (Step.lockKey (rfl : State.tasks _ 0 = some _) rfl rfl rfl
    (fun j _ _ other found => by simp [State.setTask, sampleState, other] at found))
  have unknown := locked.move (Step.resume (rfl : State.tasks _ 0 = some _) (fun _ => rfl) rfl)
  have checked := unknown.move (Step.resume (rfl : State.tasks _ 0 = some _) (fun _ => rfl) rfl)
  have seats := checked.move
    (@Step.answer _ _ _ _ _ 0 _ _ _ _ _ rfl rfl (Or.inl (Answered.seats ⟨1⟩)) rfl)
  have free := seats.move (Step.resume (rfl : State.tasks _ 0 = some _) (fun _ => rfl) rfl)
  have granted := free.move
    (@Step.answer _ _ _ _ _ 0 _ _ _ _ _ rfl rfl (Or.inl (@single_granted _ ⟨7⟩ _ rfl)) rfl)
  have staged := granted.move (Step.resume (rfl : State.tasks _ 0 = some _) (fun _ => rfl) rfl)
  have refused := staged.move
    (@Step.fail _ _ _ _ _ 0 _ _ (.other "connection was closed") rfl rfl)
  have closed := refused.move (Step.disconnect (rfl : State.tasks _ 0 = some _))
  have again := closed.restart.move
    (Step.start () (.register keyedPayload) (rfl : State.tasks _ 1 = none))
  have waited := again.move (Step.lockKey (rfl : State.tasks _ 1 = some _) rfl rfl rfl
    (fun j other held apart found lock => by
      by_cases first : j = 0
      · subst first
        cases found
        cases lock
      · simp [State.setTask, sampleState, apart, first] at found))
  have missing := waited.move (Step.resume (rfl : State.tasks _ 1 = some _) (fun _ => rfl) rfl)
  have cached := missing.move (Step.resume (rfl : State.tasks _ 1 = some _) (fun _ => rfl) rfl)
  have taken := cached.move
    (@Step.answer _ _ _ _ _ 1 _ _ _
      (.registration (.error ⟨.providerBadRequest, "taken", some 400, none⟩))
      _ rfl rfl (Or.inl (Answered.refused (by decide) rfl)) rfl)
  have raised := taken.move (Step.resume (rfl : State.tasks _ 1 = some _) (fun _ => rfl) rfl)
  refine ⟨_, _, closed, ?_, ?_, ⟨_, List.mem_cons_of_mem _ (List.mem_cons_of_mem _
    (List.mem_cons_of_mem _ (List.mem_cons_self ..))), ?_, List.mem_cons_self ..⟩, rfl, _, _,
    ⟨raised, ?_, ⟨_, List.mem_of_getLast? rfl, rfl⟩, rfl⟩, ?_⟩
  · intro m member
    simp only [List.mem_cons, List.not_mem_nil, or_false] at member
    rcases member with rfl | rfl | rfl | rfl | rfl | rfl | rfl | rfl | rfl | rfl | rfl
    all_goals
      intro i process job started
      cases started
    rfl
  · intro j task found
    by_cases first : j = 0
    · subst first
      cases found
      exact ⟨rfl, rfl⟩
    · simp [State.setTask, sampleState, first] at found
  · intro held
    cases held
  · intro m member
    simp only [List.mem_cons, List.not_mem_nil, or_false] at member
    rcases member with rfl | rfl | rfl | rfl | rfl | rfl
    · exact rfl
    · exact ⟨rfl, _, _, rfl, rfl, .refused (by decide) rfl⟩
    · exact rfl
    · exact rfl
    · exact rfl
    · exact ⟨rfl, rfl⟩
  · intro returned
    cases returned

theorem retry_not_recovering : ∃ moves s,
    Run (system Unit sampleRuntime (seatProvider oneSeat))
      (sampleState (seatProvider oneSeat) .empty) moves s ∧
      (∀ m ∈ moves, OnlyAttempts keyedPayload m) ∧
      (∀ j task, s.tasks j = some task → task.code.stage = 10 ∧ task.lock = none) ∧
      (∃ m ∈ moves, ¬ Held m.source ⟨7⟩ ∧ Held m.target ⟨7⟩) ∧ s.tasks 1 = none ∧
      ¬ Recovers sampleRuntime keyedPayload ⟨7⟩ 1 () s := by
  obtain ⟨moves, s, run, attempts, ended, made, fresh, later, t, attempt, other⟩ :=
    interrupted_attempt
  exact ⟨moves, s, run, attempts, ended, made, fresh,
    fun recovers => other (recovers.2 later t attempt)⟩

theorem retry_recovers_iff_interrupted : ∃ moves s,
    Run (system Unit sampleRuntime (seatProvider oneSeat))
      (sampleState (seatProvider oneSeat) .empty) moves s ∧
      (Recovers sampleRuntime keyedPayload ⟨7⟩ 1 () s ↔
        (s.db.idempotencyKeys.find? "k").isSome = true) := by
  obtain ⟨moves, s, run, attempts, ended, made, fresh, _⟩ := interrupted_attempt
  exact ⟨moves, s, run,
    retry_recovers_iff () rfl (fun _ => rfl) rfl rfl run attempts ended made fresh⟩

end EventsAggregator
