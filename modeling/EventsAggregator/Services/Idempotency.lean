import EventsAggregator.Services.Atomicity

namespace EventsAggregator

open Relational Transition

variable {Process : Type} {P : Provider} [DecidableEq Process] {runtime : Runtime}
  {s t : State Process P} {a : Action Process} {db db' : Database}
  {moves : List (Move (State Process P) (Action Process))}

def committedKey (m : Move (State Process P) (Action Process)) : Option String :=
  match m.action with
  | .commit i _ =>
    match (m.source.tasks i).map Task.code with
    | some (.register payload (.commit _ _ _)) => payload.idempotencyKey
    | _ => none
  | _ => none

omit [DecidableEq Process] in
theorem committedKey_eq_some {m : Move (State Process P) (Action Process)} {key : String} :
    committedKey m = some key ↔ ∃ i outboxId task payload event ticketId now,
      m.action = .commit i outboxId ∧ m.source.tasks i = some task ∧
        task.code = .register payload (.commit event ticketId now) ∧
        payload.idempotencyKey = some key := by
  obtain ⟨s, a, t⟩ := m
  constructor
  · intro committed
    simp only [committedKey] at committed
    split at committed
    · split at committed
      · rename_i i outboxId code payload event ticketId now here
        obtain ⟨task, found, same⟩ := Option.map_eq_some_iff.mp here
        exact ⟨i, outboxId, task, payload, event, ticketId, now, rfl, found, same, committed⟩
      · cases committed
    · cases committed
  · rintro ⟨i, outboxId, task, payload, event, ticketId, now, rfl, found, code, keyed⟩
    simp only at found
    simp [committedKey, found, code, keyed]

omit [DecidableEq Process] in
theorem change_committed_key (change : DbChange runtime s a db) {key : String}
    (committed : committedKey ⟨s, a, t⟩ = some key) :
    ∃ payload event ticketId now outboxId, payload.idempotencyKey = some key ∧
      Registered runtime payload event ticketId now outboxId s.db db := by
  obtain ⟨i, outboxId, task, payload, event, ticketId, now, acting, found, code, keyed⟩ :=
    committedKey_eq_some.mp committed
  simp only at acting found
  subst acting
  obtain ⟨_, _, _, same, written⟩ := change_registered change found code
  cases same
  exact ⟨payload, event, ticketId, now, outboxId, keyed, written⟩

omit [DecidableEq Process] in
theorem change_other_key (change : DbChange runtime s a db) {key : String}
    (other : committedKey ⟨s, a, t⟩ ≠ some key) :
    db.idempotencyKeys.find? key = s.db.idempotencyKeys.find? key := by
  cases change with
  | unchanged | upserted | published | deleted | cancelled => rfl
  | @registered i task payload event ticketId outboxId now db here connected committing written =>
    cases keyed : payload.idempotencyKey with
    | none => rw [written.unkeyed keyed]
    | some key' =>
      have apart : key' ≠ key := by
        rintro rfl
        exact other (committedKey_eq_some.mpr
          ⟨i, outboxId, task, payload, event, ticketId, now, rfl, here, committing, keyed⟩)
      rw [Table.find?_inserted (written.keyed key' keyed)]
      exact if_neg apart

omit [DecidableEq Process] in
theorem registered_record {payload : SEventRegistrationCreate} {event : EventORM}
    {ticketId outboxId : UUID} {now : Instant} {key : String}
    (written : Registered runtime payload event ticketId now outboxId db db')
    (keyed : payload.idempotencyKey = some key) :
    db.idempotencyKeys.find? key = none ∧
      db'.idempotencyKeys.find? key =
        some (registrationRecord runtime payload ticketId now key) := by
  have inserted := written.keyed key keyed
  refine ⟨((Table.insert?_eq_some _ _ _).mp inserted).1, ?_⟩
  rw [Table.find?_inserted inserted]
  exact if_pos rfl

omit [DecidableEq Process] in
theorem change_keeps_record (change : DbChange runtime s a db) {key : String}
    {record : IdempotencyRecordORM} (found : s.db.idempotencyKeys.find? key = some record) :
    db.idempotencyKeys.find? key = some record := by
  by_cases committed : committedKey ⟨s, a, s⟩ = some key
  · obtain ⟨payload, event, ticketId, now, outboxId, keyed, written⟩ :=
      change_committed_key change committed
    rw [(registered_record written keyed).1] at found
    cases found
  · rw [change_other_key change committed, found]

/-- A successful response to a keyed request is the one that is stored under its key. -/
def Code.Stored (db : Database) : Code → Prop
  | .register payload (.lockKey key) | .register payload (.getKey key) =>
    payload.idempotencyKey = some key
  | .register payload (.committed ticketId) | .register payload (.returned ticketId) =>
    ∀ key, payload.idempotencyKey = some key → ∃ record,
      db.idempotencyKeys.find? key = some record ∧ record.names.bind UUID.parse = some ticketId
  | _ => True

theorem resume_stored {now : Instant} {cache cache' : SeatsCache} {code code' : Code}
    (own : code.Stored db) (resumed : code.resume runtime db now cache = some (code', cache')) :
    code'.Stored db := by
  cases resume_cases resumed with
  | @replayed payload key record ticketId found same parsed =>
    intro other keyed
    cases Option.some.inj (Eq.trans (Eq.symm own) keyed)
    exact ⟨record, found, parsed⟩
  | booked => exact own
  | _ => trivial

omit [DecidableEq Process] in
theorem stored_mono {code : Code} (own : code.Stored db)
    (kept : ∀ key record, db.idempotencyKeys.find? key = some record →
      db'.idempotencyKeys.find? key = some record) : code.Stored db' := by
  unfold Code.Stored at own ⊢
  split
  · exact own
  · exact own
  · intro key keyed
    obtain ⟨record, found, same⟩ := own key keyed
    exact ⟨record, kept key record found, same⟩
  · intro key keyed
    obtain ⟨record, found, same⟩ := own key keyed
    exact ⟨record, kept key record found, same⟩
  · trivial

theorem registered_stored {payload : SEventRegistrationCreate} {event : EventORM}
    {ticketId outboxId : UUID} {now : Instant}
    (written : Registered runtime payload event ticketId now outboxId db db') :
    (Code.register payload (.committed ticketId)).Stored db' := by
  intro key keyed
  refine ⟨_, (registered_record written keyed).2, ?_⟩
  simp [IdempotencyRecordORM.names, registrationRecord, UUID.parse_str]

theorem every_stored (step : Step runtime s a t) (every : EveryCode (Code.Stored s.db) s) :
    EveryCode (Code.Stored t.db) t := by
  have still : EveryCode (Code.Stored t.db) s := fun i task found =>
    stored_mono (every i task found) fun _ _ => change_keeps_record (step_db step)
  apply every_code step still
  · intro job
    cases job with
    | register payload =>
      unfold Job.begin
      rcases beginRegister_cases payload with ⟨_, same⟩ | ⟨key, keyed, same⟩
      · simp only [same]
        trivial
      · simp only [same]
        exact keyed
    | unregister | seats => trivial
  · intro code code' own moved
    cases moved with
    | same => exact own
    | locked payload key => exact own
    | resumed unchanged resumed =>
      rw [unchanged] at own ⊢
      exact resume_stored own resumed
    | received asked handled received =>
      unfold Code.receive at received
      split at received <;> cases received <;> trivial
    | committed committing accepted =>
      unfold Code.commit at committing
      split at committing <;> cases committing
      case h_1 => exact registered_stored (commit_registration accepted)
      all_goals trivial
    | failed acting failed =>
      unfold Code.fail at failed
      split at failed <;> cases failed <;> trivial

def Code.AsksRegister (code : Code) : Prop :=
  ∃ payload event, code = .register payload (.askRegister event)

def Harmless (moves : List (Move (State Process P) (Action Process))) (t : State Process P)
    (i : Nat) : Prop :=
  (∀ u task, Visited moves t u → u.tasks i = some task → ¬ task.code.AsksRegister) ∧
    ∀ m ∈ moves, m.action.request = some i → m.target.db = m.source.db

structure AtMostOnce (runtime : Runtime) (moves : List (Move (State Process P) (Action Process)))
    (t : State Process P) : Prop where
  once : (moves.filterMap committedKey).Nodup
  recorded : ∀ key, (t.db.idempotencyKeys.find? key).isSome = true ↔
    key ∈ moves.filterMap committedKey
  together : ∀ m ∈ moves, ∀ key, committedKey m = some key →
    ∃ payload event ticketId now outboxId, payload.idempotencyKey = some key ∧
      Registered runtime payload event ticketId now outboxId m.source.db m.target.db
  kept : ∀ m ∈ moves, ∀ key record, m.source.db.idempotencyKeys.find? key = some record →
    t.db.idempotencyKeys.find? key = some record
  agree : ∀ i j task task' payload payload' ticketId ticketId' key,
    t.tasks i = some task → task.code = .register payload (.returned ticketId) →
    t.tasks j = some task' → task'.code = .register payload' (.returned ticketId') →
    payload.idempotencyKey = some key → payload'.idempotencyKey = some key → ticketId = ticketId'
  found : ∀ m ∈ moves, ∀ i task payload key record, m.action = .resume i →
    m.source.tasks i = some task → task.code = .register payload (.getKey key) →
    m.source.db.idempotencyKeys.find? key = some record → Harmless moves t i

theorem record_kept (run : Run (system Process runtime P) s moves t) {key : String}
    {record : IdempotencyRecordORM} (found : s.db.idempotencyKeys.find? key = some record) :
    t.db.idempotencyKeys.find? key = some record :=
  run.invariant (fun _ _ _ here step => change_keeps_record (step_db step) here) found

theorem recorded_iff (run : Run (system Process runtime P) s moves t)
    (empty : s.db.idempotencyKeys = .empty) (key : String) :
    (t.db.idempotencyKeys.find? key).isSome = true ↔ key ∈ moves.filterMap committedKey := by
  induction run with
  | refl => simp [empty]
  | @move moves t u a run step ih =>
    have change := step_db step
    by_cases committed : committedKey ⟨t, a, u⟩ = some key
    · obtain ⟨payload, event, ticketId, now, outboxId, keyed, written⟩ :=
        change_committed_key change committed
      rw [List.filterMap_cons_some committed, (registered_record written keyed).2]
      simp
    · rw [change_other_key change committed, ih]
      cases other : committedKey ⟨t, a, u⟩ with
      | none => rw [List.filterMap_cons_none other]
      | some key' =>
        rw [List.filterMap_cons_some other, List.mem_cons]
        have apart : key ≠ key' := fun same => committed (same ▸ other)
        simp [apart]

theorem keys_once (run : Run (system Process runtime P) s moves t) :
    (moves.filterMap committedKey).Nodup := by
  have both : (moves.filterMap committedKey).Nodup ∧ ∀ key ∈ moves.filterMap committedKey,
      (t.db.idempotencyKeys.find? key).isSome = true := by
    apply run.once
    · intro m key step committed
      obtain ⟨payload, event, ticketId, now, outboxId, keyed, written⟩ :=
        change_committed_key (t := m.target) (step_db step) committed
      obtain ⟨before, after⟩ := registered_record written keyed
      simp [before, after]
    · intro u a v key step present
      obtain ⟨record, found⟩ := Option.isSome_iff_exists.mp present
      rw [change_keeps_record (step_db step) found]
      rfl
  exact both.1

theorem found_final {m : Move (State Process P) (Action Process)} {i : Nat} {task : Task Process}
    {payload : SEventRegistrationCreate} {key : String} {record : IdempotencyRecordORM}
    (step : Step runtime m.source m.action m.target) (acting : m.action = .resume i)
    (found : m.source.tasks i = some task) (code : task.code = .register payload (.getKey key))
    (stored : m.source.db.idempotencyKeys.find? key = some record) :
    m.source.stage i = 2 ∧ m.target.stage i = 10 := by
  obtain ⟨s, a, t⟩ := m
  simp only at *
  subst acting
  refine ⟨by simp [State.stage, found, code, Code.stage, RegisterPoint.stage], ?_⟩
  cases step with
  | resume here connected resumed =>
    cases here.symm.trans found
    rw [code] at resumed
    cases resume_cases resumed with
    | unknownKey missing => cases missing.symm.trans stored
    | replayed | conflicting =>
      simp [State.stage, State.setTask, Code.stage, RegisterPoint.stage]

theorem found_harmless (run : Run (system Process runtime P) s moves t)
    {m : Move (State Process P) (Action Process)} (member : m ∈ moves) {i : Nat}
    {task : Task Process} {payload : SEventRegistrationCreate} {key : String}
    {record : IdempotencyRecordORM} (acting : m.action = .resume i)
    (found : m.source.tasks i = some task) (code : task.code = .register payload (.getKey key))
    (stored : m.source.db.idempotencyKeys.find? key = some record) : Harmless moves t i := by
  obtain ⟨before, after⟩ := found_final (run.step_of_mem member) acting found code stored
  have outside : ∀ u, Visited moves t u → u.stage i ≤ 2 ∨ 10 ≤ u.stage i := by
    intro u visited
    have around := run.around (fun _ _ _ step => step_stage step i) member visited
    rw [before, after] at around
    exact around
  constructor
  · intro u task visited here asks
    obtain ⟨payload, event, code⟩ := asks
    have between : u.stage i = 6 := by
      simp [State.stage, here, code, Code.stage, RegisterPoint.stage]
    have bound := outside u visited
    omega
  · intro n inside acting
    have change := step_db (run.step_of_mem inside)
    have bound := outside n.source (Or.inr ⟨n, inside, rfl⟩)
    have idle : ∀ outboxId, n.action ≠ .commit i outboxId := by
      intro outboxId same
      have step := run.step_of_mem inside
      rw [same] at step
      have committing := (commit_stages step).1
      omega
    exact change_idle (step_db (run.step_of_mem inside)) acting idle

theorem idempotent_registration (initial : (system Process runtime P).Initial s)
    (run : Run (system Process runtime P) s moves t) : AtMostOnce runtime moves t := by
  obtain ⟨-, -, empty, -, -, idle, -⟩ := initial
  have stored : EveryCode (Code.Stored t.db) t :=
    run.invariant (I := fun u => EveryCode (Code.Stored u.db) u)
      (fun _ _ _ every step => every_stored step every)
      (every_initial idle)
  refine ⟨keys_once run, recorded_iff run empty, ?_, ?_, ?_, ?_⟩
  · intro m member key committed
    exact change_committed_key (t := m.target) (step_db (run.step_of_mem member)) committed
  · intro m member key record found
    obtain ⟨later, earlier, rfl, _, step, after⟩ := run.cut member
    exact record_kept after (change_keeps_record (step_db step) found)
  · intro i j task task' payload payload' ticketId ticketId' key here code here' code' keyed keyed'
    have first := stored i task here
    have second := stored j task' here'
    rw [code] at first
    rw [code'] at second
    obtain ⟨record, found, parsed⟩ := first key keyed
    obtain ⟨record', found', parsed'⟩ := second key keyed'
    cases found.symm.trans found'
    exact Option.some.inj (parsed.symm.trans parsed')
  · intro m member i task payload key record acting found code stored
    exact found_harmless run member acting found code stored

theorem idempotent_registration_booking : ∃ moves t,
    Run (system Unit sampleRuntime anyProvider) (sampleState anyProvider ()) moves t ∧
      (t.db.idempotencyKeys.find? "k").isSome = true ∧ AtMostOnce sampleRuntime moves t := by
  obtain ⟨moves, t, run, -, -, stored⟩ := sample_booking
  exact ⟨moves, t, run, stored, idempotent_registration (sample_initial trivial) run⟩

end EventsAggregator
