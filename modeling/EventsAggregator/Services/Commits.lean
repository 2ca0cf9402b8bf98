import EventsAggregator.Services.Idempotency
import EventsAggregator.Transition.Ownership

namespace EventsAggregator

open Relational Transition

variable {Process : Type} {P : Provider} {runtime : Runtime}
  {s t : State Process P} {a : Action Process} {db db' : Database} {task : Task Process}
  {payload : SEventRegistrationCreate}

def HoldsHash (runtime : Runtime) (s : State Process P) (i : Nat) (hash : BitVec 32) : Prop :=
  ∃ task key, s.tasks i = some task ∧ task.lock = some key ∧ runtime.hashtext key = hash

/-- What a call of `register` relies on while its transaction is open. -/
structure Task.Secured (task : Task Process) (db : Database)
    (payload : SEventRegistrationCreate) : Prop where
  locked : ∀ key, payload.idempotencyKey = some key → 2 ≤ task.code.stage → task.code.stage ≤ 8 →
    task.lock = some key
  unknown : ∀ key, payload.idempotencyKey = some key → 3 ≤ task.code.stage →
    task.code.stage ≤ 8 → db.idempotencyKeys.find? key = none
  listed : 4 ≤ task.code.stage → task.code.stage ≤ 8 →
    (db.events.find? payload.eventId).isSome = true

structure State.Secured (runtime : Runtime) (s : State Process P) : Prop where
  exclusive : Exclusive (HoldsHash runtime s)
  stored : EveryCode (Code.Stored s.db) s
  each : ∀ i task payload, s.tasks i = some task → task.connected = true →
    task.code.job = .register payload → task.Secured s.db payload

namespace Task.Secured

theorem later (past : 8 < task.code.stage) : task.Secured db payload :=
  ⟨fun _ _ _ _ => by omega, fun _ _ _ _ => by omega, fun _ _ => by omega⟩

theorem onward {next : Task Process} (secured : task.Secured db payload)
    (lock : next.lock = task.lock) (stage : 4 ≤ task.code.stage)
    (further : task.code.stage ≤ next.code.stage) : next.Secured db payload := by
  constructor
  · intro key keyed _ early
    rw [lock]
    exact secured.locked key keyed (by omega) (by omega)
  · intro key keyed _ early
    exact secured.unknown key keyed (by omega) (by omega)
  · intro _ early
    exact secured.listed stage (by omega)

theorem kept (secured : task.Secured db payload)
    (records : ∀ key, task.lock = some key → db.idempotencyKeys.find? key = none →
      db'.idempotencyKeys.find? key = none)
    (events : ∀ id, (db.events.find? id).isSome = true → (db'.events.find? id).isSome = true) :
    task.Secured db' payload := by
  constructor
  · exact secured.locked
  · intro key keyed late early
    apply records key
    · exact secured.locked key keyed (by omega) early
    · exact secured.unknown key keyed late early
  · intro late early
    exact events _ (secured.listed late early)

end Task.Secured

theorem events_kept (change : DbChange runtime s a db) (id : UUID)
    (listed : (s.db.events.find? id).isSome = true) : (db.events.find? id).isSome = true := by
  cases change with
  | unchanged | deleted | cancelled | published => exact listed
  | registered found connected committing written =>
    rw [written.events]
    exact listed
  | upserted event =>
    show ((s.db.events.upsert event).find? id).isSome = true
    rw [Table.find?_upsert]
    split
    · rfl
    · exact listed

theorem record_withheld (secured : s.Secured runtime) (change : DbChange runtime s a db) {j : Nat}
    {key : String} (here : s.tasks j = some task) (locked : task.lock = some key)
    (other : ∀ outboxId, a ≠ .commit j outboxId)
    (missing : s.db.idempotencyKeys.find? key = none) :
    db.idempotencyKeys.find? key = none := by
  cases change with
  | unchanged | deleted | cancelled | published | upserted => exact missing
  | @registered i writer written event ticketId outboxId now db found connected committing stored =>
    cases keyed : written.idempotencyKey with
    | none =>
      rw [stored.unkeyed keyed]
      exact missing
    | some taken =>
      have apart : taken ≠ key := by
        rintro rfl
        have owner := secured.each i writer written found connected (by rw [committing]; rfl)
        have held := owner.locked taken keyed
          (by simp [committing, Code.stage, RegisterPoint.stage])
          (by simp [committing, Code.stage, RegisterPoint.stage])
        have same : i = j := secured.exclusive i j _ ⟨writer, taken, found, held, rfl⟩
          ⟨task, taken, here, locked, rfl⟩
        exact other outboxId (same ▸ rfl)
      rw [Table.find?_inserted (stored.keyed taken keyed)]
      exact (if_neg apart).trans missing

theorem holds_setTask {i j : Nat} {next : Task Process} {hash : BitVec 32}
    (target : t.tasks = (s.setTask i next).tasks)
    (fewer : ∀ key, next.lock = some key → ∃ task, s.tasks i = some task ∧ task.lock = some key)
    (holds : HoldsHash runtime t j hash) : HoldsHash runtime s j hash := by
  obtain ⟨task, key, found, locked, hashed⟩ := holds
  rw [target, setTask_tasks] at found
  split at found
  · next same =>
    cases found
    obtain ⟨before, here, held⟩ := fewer key locked
    exact ⟨before, key, same ▸ here, held, hashed⟩
  · exact ⟨task, key, found, locked, hashed⟩

theorem call_stage {code : Code} {call : ProviderCall} (asked : code.call = some call) :
    4 ≤ code.stage := by
  unfold Code.call at asked
  split at asked <;> cases asked
  all_goals simp [Code.stage, RegisterPoint.stage, UnregisterPoint.stage, SeatsPoint.stage]

theorem secured_resumed {now : Instant} {cache cache' : SeatsCache} {code : Code}
    (secured : task.Secured db payload) (stored : task.code.Stored db)
    (resumed : task.code.resume runtime db now cache = some (code, cache'))
    (job : code.job = .register payload) : Task.Secured { task with code } db payload := by
  obtain ⟨process, standing, connected, lock⟩ := task
  cases resume_cases resumed with
  | @unknownKey owner key missing =>
    cases job
    constructor
    · intro own keyed _ _
      exact secured.locked own keyed (by simp [Code.stage, RegisterPoint.stage])
        (by simp [Code.stage, RegisterPoint.stage])
    · intro own keyed _ _
      cases Eq.trans (Eq.symm stored) keyed
      exact missing
    · simp [Code.stage, RegisterPoint.stage]
  | replayed | conflicting | closed | taken | unlisted | refused | booked =>
    exact Task.Secured.later (by simp [Code.stage, RegisterPoint.stage])
  | uncached found _ | cached found _ _ =>
    cases job
    constructor
    · intro own keyed _ _
      exact secured.locked own keyed (by simp [Code.stage, RegisterPoint.stage])
        (by simp [Code.stage, RegisterPoint.stage])
    · intro own keyed _ _
      exact secured.unknown own keyed (by simp [Code.stage, RegisterPoint.stage])
        (by simp [Code.stage, RegisterPoint.stage])
    · simp [found]
  | free | granted =>
    exact secured.onward rfl (by simp [Code.stage, RegisterPoint.stage])
      (by simp [Code.stage, RegisterPoint.stage])
  | known | unknown | released | lost | kept | deleted | cancelled => cases job
  | seatsUncached | seatsCached | seatsClosed | seatsListed | seatsUnlisted => cases job

def SEventRegistrationCreate.storedTexts (payload : SEventRegistrationCreate) : List String :=
  [payload.firstName, payload.lastName, payload.email, payload.seat] ++
    payload.idempotencyKey.toList

theorem stored_texts_storable (payload : SEventRegistrationCreate) (ticketId : UUID)
    (now : Instant) : (∀ text ∈ payload.storedTexts, storable text = true) ↔
      (purchasedTicket payload ticketId now).storable = true ∧
        ∀ key, payload.idempotencyKey = some key → storable key = true := by
  simp [SEventRegistrationCreate.storedTexts, purchasedTicket, TicketORM.storable, or_imp,
    forall_and, and_assoc]

theorem staged_commits {event : EventORM} {ticketId outboxId : UUID} {now : Instant}
    (listed : (db.events.find? payload.eventId).isSome = true)
    (unknown : ∀ key, payload.idempotencyKey = some key → db.idempotencyKeys.find? key = none)
    (fresh : db.outbox.find? outboxId = none) :
    (db.commit (stageRegistration runtime payload event ticketId now outboxId)).isSome = true ↔
      db.tickets.find? ticketId = none ∧ ∀ text ∈ payload.storedTexts, storable text = true := by
  have present : (db.events.find? (purchasedTicket payload ticketId now).eventId).isSome = true :=
    listed
  have place : (db.tickets.insert? (purchasedTicket payload ticketId now)).isSome = true ↔
      db.tickets.find? ticketId = none := Table.insert?_isSome ..
  obtain ⟨outbox, row⟩ := Option.isSome_iff_exists.mp ((Table.insert?_isSome db.outbox
    (purchasedRow payload event ticketId now outboxId)).mpr fresh)
  rw [purchasedRow] at row
  rw [stored_texts_storable payload ticketId now, ← place]
  cases keyed : payload.idempotencyKey with
  | none =>
    simp only [Database.commit, stageRegistration, keyed, TicketRepository.add,
      OutboxRepository.add, Session.new, List.nil_append, List.all_cons, List.all_nil, present,
      Bool.and_true, List.foldlM_cons, List.foldlM_nil, row]
    cases db.tickets.insert? (purchasedTicket payload ticketId now) <;>
      by_cases clean : (purchasedTicket payload ticketId now).storable = true <;>
      simp [guard, clean]
  | some key =>
    obtain ⟨records, record⟩ := Option.isSome_iff_exists.mp
      ((Table.insert?_isSome db.idempotencyKeys
        (registrationRecord runtime payload ticketId now key)).mpr (unknown key keyed))
    rw [registrationRecord] at record
    simp only [Database.commit, stageRegistration, keyed, TicketRepository.add,
      OutboxRepository.add, IdempotencyRepository.add, Session.new, List.nil_append,
      List.all_cons, List.all_nil, present, Bool.and_true, List.foldlM_cons, List.foldlM_nil, row,
      record]
    cases db.tickets.insert? (purchasedTicket payload ticketId now) <;>
      by_cases clean : (purchasedTicket payload ticketId now).storable = true <;>
      by_cases clear : storable key = true <;> simp [guard, clean, clear]

variable [DecidableEq Process] {moves : List (Move (State Process P) (Action Process))}

theorem locks_exclusive_step (step : Step runtime s a t)
    (exclusive : Exclusive (HoldsHash runtime s)) : Exclusive (HoldsHash runtime t) := by
  cases step with
  | @lockKey i task payload key found connected waiting clean free =>
    apply exclusive.acquire (i := i)
    · rintro j hash other ⟨holder, held, there, locked, hashed⟩
      rw [setTask_tasks, if_neg other] at there
      exact ⟨holder, held, there, locked, hashed⟩
    · rintro j hash other ⟨_, _, mine, acquired, rfl⟩ ⟨holder, held, there, locked, hashed⟩
      cases (setTask_self ..).symm.trans mine
      cases acquired
      exact free j holder held other there locked hashed
  | start process job fresh =>
    exact exclusive.release fun j hash => holds_setTask rfl (by simp)
  | resume found | answer found | fail found =>
    exact exclusive.release fun j hash => holds_setTask rfl fun key locked => ⟨_, found, locked⟩
  | commit found | disconnect found =>
    exact exclusive.release fun j hash => holds_setTask rfl (by simp)
  | late | tick | evict | upsert | publish => exact exclusive

theorem secured_acting (secured : s.Secured runtime) (step : Step runtime s a t) {i : Nat}
    (acting : a.request = some i) {next : Task Process} (there : t.tasks i = some next)
    (connected : next.connected = true) (job : next.code.job = .register payload) :
    next.Secured t.db payload := by
  cases step with
  | start process begun fresh =>
    cases acting
    cases (setTask_self ..).symm.trans there
    cases (begin_job begun).symm.trans job
    rcases beginRegister_cases payload with ⟨unkeyed, same⟩ | ⟨key, keyed, same⟩
    · constructor <;> simp [Job.begin, same, unkeyed, Code.stage, RegisterPoint.stage]
    · constructor <;> simp [Job.begin, same, Code.stage, RegisterPoint.stage]
  | @lockKey _ task owner key found connected waiting clean free =>
    cases acting
    cases (setTask_self ..).symm.trans there
    cases job
    have own := secured.stored i task found
    rw [waiting] at own
    constructor
    · intro other keyed _ _
      exact own.symm.trans keyed
    · simp [Code.stage, RegisterPoint.stage]
    · simp [Code.stage, RegisterPoint.stage]
  | @resume _ task code cache found _ resumed =>
    cases acting
    cases (setTask_self ..).symm.trans there
    have before := secured.each i task payload found connected ((resume_job resumed).symm.trans job)
    exact secured_resumed before (secured.stored i task found) resumed job
  | @answer _ task code call answer provider found asked handled received =>
    cases acting
    cases (setTask_self ..).symm.trans there
    have before := secured.each i task payload found connected
      ((receive_job received).symm.trans job)
    exact before.onward rfl (call_stage asked) (by simp [receive_stage received])
  | @commit _ task code outboxId session db found _ committing accepted =>
    cases acting
    cases (setTask_self ..).symm.trans there
    apply Task.Secured.later
    simp [(commit_stage committing).2]
  | fail found failed =>
    cases acting
    cases (setTask_self ..).symm.trans there
    apply Task.Secured.later
    simp [(fail_stage failed).2]
  | disconnect found =>
    cases acting
    cases (setTask_self ..).symm.trans there
    cases connected
  | late | tick | evict | upsert | publish => cases acting

theorem secured_step (secured : s.Secured runtime) (step : Step runtime s a t) :
    t.Secured runtime := by
  constructor
  · exact locks_exclusive_step step secured.exclusive
  · exact every_stored step secured.stored
  · intro i next payload there connected job
    by_cases acting : a.request = some i
    · exact secured_acting secured step acting there connected job
    · rw [step_other step acting] at there
      apply (secured.each i next payload there connected job).kept
      · intro key locked
        apply record_withheld secured (step_db step) there locked
        rintro outboxId rfl
        exact acting rfl
      · exact events_kept (step_db step)

theorem secured_run (initial : (system Process runtime P).Initial s)
    (run : Run (system Process runtime P) s moves t) : t.Secured runtime := by
  obtain ⟨-, -, -, -, -, idle, -⟩ := initial
  apply run.invariant (I := State.Secured runtime)
  · intro u a v secured step
    exact secured_step secured step
  · constructor
    · apply Exclusive.none
      rintro i hash ⟨task, _, found, _⟩
      cases (idle i).symm.trans found
    · exact every_initial idle
    · intro i task payload found
      cases (idle i).symm.trans found

/-- A registration that the provider has granted is refused by the database only where the ticket
    is already there or a text has a U+0000. Nobody has stored its key meanwhile. -/
theorem registrations_commit_iff {i : Nat} {event : EventORM} {ticketId outboxId : UUID}
    {now : Instant} (initial : (system Process runtime P).Initial s)
    (run : Run (system Process runtime P) s moves t) (found : t.tasks i = some task)
    (connected : task.connected = true)
    (code : task.code = .register payload (.commit event ticketId now))
    (fresh : t.db.outbox.find? outboxId = none) :
    (∃ u, Step runtime t (.commit i outboxId) u) ↔
      t.db.tickets.find? ticketId = none ∧ ∀ text ∈ payload.storedTexts, storable text = true := by
  have stage : task.code.stage = 8 := by
    rw [code]
    rfl
  have secured := (secured_run initial run).each i task payload found connected (by rw [code]; rfl)
  have listed := secured.listed (by omega) (by omega)
  have unknown : ∀ key, payload.idempotencyKey = some key →
      t.db.idempotencyKeys.find? key = none :=
    fun key keyed => secured.unknown key keyed (by omega) (by omega)
  have stored := @staged_commits runtime t.db payload event ticketId outboxId now listed unknown
    fresh
  constructor
  · rintro ⟨u, step⟩
    cases step with
    | commit there _ committing accepted =>
      cases found.symm.trans there
      rw [code] at committing
      cases committing
      apply stored.mp
      rw [accepted]
      rfl
  · intro takes
    obtain ⟨db, accepted⟩ := Option.isSome_iff_exists.mp (stored.mpr takes)
    exact ⟨_, Step.commit found connected (by rw [code]; rfl) accepted⟩

/-- Two requests with one key: the second waits while the first is granted its ticket. -/
theorem contended_key : ∃ moves t task, Run (system Unit sampleRuntime anyProvider)
    (sampleState anyProvider ()) moves t ∧ t.tasks 0 = some task ∧ task.connected = true ∧
      task.code = .register (samplePayload (some "k") (by decide)) (.commit sampleEvent ⟨7⟩ 0) ∧
      (t.tasks 1).map Task.code =
        some (.register (samplePayload (some "k") (by decide)) (.lockKey "k")) ∧
      t.db.outbox.find? ⟨100⟩ = none ∧ t.db.tickets.find? ⟨7⟩ = none := by
  have start := @Run.refl _ _ (system Unit sampleRuntime anyProvider) (sampleState anyProvider ())
  have requested := start.move (Step.start ()
    (.register (samplePayload (some "k") (by decide))) (rfl : State.tasks _ 0 = none))
  have contended := requested.move (Step.start ()
    (.register (samplePayload (some "k") (by decide))) (rfl : State.tasks _ 1 = none))
  have locked := contended.move (Step.lockKey (rfl : State.tasks _ 0 = some _) rfl rfl rfl
    (fun j _ _ other found => by
      rcases j with _ | _ | j
      · exact absurd rfl other
      · cases found
        rintro ⟨⟩
      · cases found))
  have unknown := locked.move (Step.resume (rfl : State.tasks _ 0 = some _) (fun _ => rfl) rfl)
  have checked := unknown.move (Step.resume (rfl : State.tasks _ 0 = some _) (fun _ => rfl) rfl)
  have seats := checked.move
    (@Step.answer _ _ _ _ _ 0 _ _ _ (.seats (.ok ["A1"])) () rfl rfl trivial rfl)
  have free := seats.move (Step.resume (rfl : State.tasks _ 0 = some _) (fun _ => rfl) rfl)
  have granted := free.move
    (@Step.answer _ _ _ _ _ 0 _ _ _ (.registration (.ok ⟨7⟩)) () rfl rfl trivial rfl)
  have staged := granted.move (Step.resume (rfl : State.tasks _ 0 = some _) (fun _ => rfl) rfl)
  exact ⟨_, _, _, staged, rfl, rfl, rfl, rfl, rfl, rfl⟩

theorem registrations_commit_iff_contended : ∃ moves t,
    Run (system Unit sampleRuntime anyProvider) (sampleState anyProvider ()) moves t ∧
      (t.tasks 1).map Task.code =
        some (.register (samplePayload (some "k") (by decide)) (.lockKey "k")) ∧
      ∃ u, Step sampleRuntime t (.commit 0 ⟨100⟩) u := by
  obtain ⟨moves, t, task, run, found, connected, code, waiting, fresh, free⟩ := contended_key
  have commits := registrations_commit_iff (sample_initial trivial) run found connected code fresh
  exact ⟨moves, t, run, waiting, commits.mpr ⟨free, by decide⟩⟩

end EventsAggregator
