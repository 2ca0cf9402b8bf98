import EventsAggregator.Services.Progress
import EventsAggregator.Transition.Simulation

namespace EventsAggregator

open Relational Transition

structure EngineSettings where
  dbPoolSize : Nat
  dbMaxOverflow : Nat
  bounded : 0 < dbPoolSize

def EngineSettings.capacity (settings : EngineSettings) : Nat :=
  settings.dbPoolSize + settings.dbMaxOverflow

/-- The requests, with the connections that their sessions have out of the pools of their
    processes. `others` counts those of the coroutines that wait for no request: the publisher, the
    syncs, other endpoints. -/
structure Pooled (Process : Type) (P : Provider) where
  state : State Process P
  connections : Process → List Nat
  others : Process → Nat

inductive PoolAction (Process : Type)
  | checkout (request : Nat)
  | request (action : Action Process)
  | borrow (process : Process)
  | giveBack (process : Process)

def Code.statement : Code → Bool
  | .register _ (.lockKey _) => true
  | code => code.reads

variable {Process : Type} {P : Provider}

def Action.executes (tasks : Nat → Option (Task Process)) : Action Process → Option Nat
  | .lockKey i | .commit i _ => some i
  | .resume i => if (tasks i).any (fun task => task.code.reads) then some i else none
  | _ => none

def Action.releases : Action Process → Option Nat
  | .commit i _ | .disconnect i => some i
  | _ => none

namespace Pooled

def Holds (s : Pooled Process P) (i : Nat) : Prop := ∃ process, i ∈ s.connections process

def inUse (s : Pooled Process P) (process : Process) : Nat :=
  s.others process + (s.connections process).length

def without (s : Pooled Process P) : Option Nat → Process → List Nat
  | none => s.connections
  | some i => fun process => (s.connections process).erase i

theorem holds_fewer {s t : Pooled Process P} {i : Nat}
    (fewer : ∀ process, (t.connections process).Sublist (s.connections process))
    (holds : t.Holds i) : s.Holds i := by
  obtain ⟨process, member⟩ := holds
  exact ⟨process, (fewer process).subset member⟩

theorem holds_without {s : Pooled Process P} {state : State Process P} {others : Process → Nat}
    {i j : Nat} (other : j ≠ i) (holds : s.Holds j) :
    Holds ⟨state, s.without (some i), others⟩ j := by
  obtain ⟨process, member⟩ := holds
  exact ⟨process, (List.mem_erase_of_ne other).mpr member⟩

end Pooled

variable [DecidableEq Process]

inductive PoolStep (settings : EngineSettings) (runtime : Runtime) :
    Pooled Process P → PoolAction Process → Pooled Process P → Prop
  -- A session takes a connection for its first statement.
  | checkout {s : Pooled Process P} {i : Nat} {task : Task Process}
      (found : s.state.tasks i = some task) (connected : task.connected = true)
      (waiting : task.code.statement = true) (first : ¬ s.Holds i)
      (free : s.inUse task.process < settings.capacity) :
      PoolStep settings runtime s (.checkout i)
        { s with
          connections := Function.update s.connections task.process
            (i :: s.connections task.process) }
  | request {s : Pooled Process P} {a : Action Process} {t : State Process P}
      (step : Step runtime s.state a t)
      (holds : ∀ i, a.executes s.state.tasks = some i → s.Holds i) :
      PoolStep settings runtime s (.request a)
        { s with state := t, connections := s.without a.releases }
  | borrow {s : Pooled Process P} (process : Process)
      (free : s.inUse process < settings.capacity) :
      PoolStep settings runtime s (.borrow process)
        { s with others := Function.update s.others process (s.others process + 1) }
  | giveBack {s : Pooled Process P} {n : Nat} (process : Process)
      (borrowed : s.others process = n + 1) :
      PoolStep settings runtime s (.giveBack process)
        { s with others := Function.update s.others process n }

def pooled (Process : Type) [DecidableEq Process] (settings : EngineSettings) (runtime : Runtime)
    (P : Provider) : System (Pooled Process P) (PoolAction Process) where
  Initial s := (system Process runtime P).Initial s.state ∧
    (∀ process, s.connections process = []) ∧ ∀ process, s.others process = 0
  Step := PoolStep settings runtime

variable {settings : EngineSettings} {runtime : Runtime} {s t u : Pooled Process P}
  {a : PoolAction Process} {i j : Nat} {task task' : Task Process}

/-- The pools only put off what the requests do. -/
theorem pooled_refines : Refines (pooled Process settings runtime P) (system Process runtime P)
    Pooled.state (fun _ => True) where
  initial s initial := ⟨initial.1, trivial⟩
  step s a t _ step := by
    refine ⟨trivial, ?_⟩
    cases step with
    | request step => exact ⟨_, Run.refl.move step⟩
    | checkout | borrow | giveBack => exact ⟨[], .refl⟩

/-- A connected session that is not done holds a connection or is about to take one. A session
    that holds a lock holds a connection, and no two of them hold the same lock. -/
structure Pooled.Sound (settings : EngineSettings) (runtime : Runtime) (s : Pooled Process P) :
    Prop where
  distinct : ∀ process, (s.connections process).Nodup
  bounded : ∀ process, s.inUse process ≤ settings.capacity
  owned : ∀ i, s.Holds i → s.state.tasks i ≠ none
  served : ∀ i task, s.state.tasks i = some task → task.connected = true → task.code.stage ≤ 8 →
    s.Holds i ∨ task.code.statement = true
  locked : ∀ i task key, s.state.tasks i = some task → task.lock = some key →
    s.Holds i ∧ 2 ≤ task.code.stage
  exclusive : ∀ i j task other key held, i ≠ j → s.state.tasks i = some task →
    s.state.tasks j = some other → task.lock = some key → other.lock = some held →
      runtime.hashtext held ≠ runtime.hashtext key

namespace Pooled.Sound

omit [DecidableEq Process] in
theorem moved (sound : s.Sound settings runtime)
    (tasks : t.state.tasks = (s.state.setTask i task').tasks)
    (fewer : ∀ process, (t.connections process).Sublist (s.connections process))
    (others : t.others = s.others) (kept : ∀ j, j ≠ i → s.Holds j → t.Holds j)
    (served : task'.connected = true → task'.code.stage ≤ 8 →
      t.Holds i ∨ task'.code.statement = true)
    (locked : ∀ key, task'.lock = some key → t.Holds i ∧ 2 ≤ task'.code.stage)
    (exclusive : ∀ key, task'.lock = some key → ∀ j other held, j ≠ i →
      s.state.tasks j = some other → other.lock = some held →
        runtime.hashtext held ≠ runtime.hashtext key) : t.Sound settings runtime where
  distinct process := (sound.distinct process).sublist (fewer process)
  bounded process := by
    have before := sound.bounded process
    have less := (fewer process).length_le
    unfold Pooled.inUse at before ⊢
    rw [others]
    omega
  owned j holds := by
    rw [tasks, setTask_tasks]
    split
    · exact Option.some_ne_none _
    · exact sound.owned j (Pooled.holds_fewer fewer holds)
  served j mine found := by
    rw [tasks, setTask_tasks] at found
    split at found
    next here =>
      cases here
      cases found
      exact served
    next other =>
      intro connected early
      exact (sound.served j mine found connected early).imp_left (kept j other)
  locked j mine key found := by
    rw [tasks, setTask_tasks] at found
    split at found
    next here =>
      cases here
      cases found
      exact locked key
    next other =>
      intro holding
      obtain ⟨holds, late⟩ := sound.locked j mine key found holding
      exact ⟨kept j other holds, late⟩
  exclusive j k mine other key held different found found' holding holding' := by
    rw [tasks, setTask_tasks] at found found'
    split at found
    next here =>
      cases here
      cases found
      rw [if_neg (Ne.symm different)] at found'
      exact exclusive key holding k other held (Ne.symm different) found' holding'
    next apart =>
      split at found'
      next here =>
        cases here
        cases found'
        exact (exclusive held holding' j mine key apart found holding).symm
      next => exact sound.exclusive j k mine other key held different found found' holding holding'

omit [DecidableEq Process] in
theorem went (sound : s.Sound settings runtime) (found : s.state.tasks i = some task) {code : Code}
    (tasks : t.state.tasks = (s.state.setTask i { task with code }).tasks)
    (connections : t.connections = s.connections) (others : t.others = s.others)
    (later : task.code.stage ≤ code.stage)
    (served : task.connected = true → code.stage ≤ 8 → s.Holds i ∨ code.statement = true) :
    Pooled.Sound settings runtime t := by
  have same : ∀ j, t.Holds j ↔ s.Holds j := fun j => by
    unfold Pooled.Holds
    rw [connections]
  refine sound.moved tasks (fun process => connections ▸ List.Sublist.refl _) others
    (fun j _ => (same j).mpr)
    (fun connected early => (served connected early).imp_left (same i).mpr) ?_ ?_
  · intro key holding
    obtain ⟨holds, late⟩ := sound.locked i task key found holding
    exact ⟨(same i).mpr holds, Nat.le_trans late later⟩
  · intro key holding j other held different found' holding'
    exact sound.exclusive i j task other key held (Ne.symm different) found found' holding holding'

omit [DecidableEq Process] in
theorem idle (sound : s.Sound settings runtime) (state : t.state = s.state)
    (distinct : ∀ process, (t.connections process).Nodup)
    (bounded : ∀ process, t.inUse process ≤ settings.capacity)
    (owned : ∀ j, t.Holds j → s.state.tasks j ≠ none)
    (more : ∀ j, s.Holds j → t.Holds j) : t.Sound settings runtime where
  distinct := distinct
  bounded := bounded
  owned := by
    rw [state]
    exact owned
  served := by
    rw [state]
    exact fun j mine found connected early =>
      (sound.served j mine found connected early).imp_left (more j)
  locked := by
    rw [state]
    exact fun j mine key found holding => (sound.locked j mine key found holding).imp_left (more j)
  exclusive := by
    rw [state]
    exact sound.exclusive

end Pooled.Sound

theorem statement_early {code : Code} (statement : code.statement = true) : code.stage ≤ 3 := by
  unfold Code.statement Code.reads at statement
  split at statement
  · simp [Code.stage, RegisterPoint.stage]
  · split at statement
    · simp [Code.stage, RegisterPoint.stage]
    · simp [Code.stage, RegisterPoint.stage]
    · simp [Code.stage, UnregisterPoint.stage]
    · simp [Code.stage, SeatsPoint.stage]
    · cases statement

theorem begin_statement (job : Job) : job.begin.statement = true := by
  cases job with
  | register payload =>
    cases key : payload.idempotencyKey <;> simp [Job.begin, beginRegister, key, Code.statement,
      Code.reads]
  | unregister ticketId => rfl
  | seats eventId => rfl

theorem statement_resume {code : Code} (statement : code.statement = true)
    (other : ¬ code.reads = true) {db : Database} {now : Instant} {cache : SeatsCache} :
    code.resume runtime db now cache = none := by
  unfold Code.statement at statement
  split at statement
  · rfl
  · exact absurd statement other

theorem call_statement {code : Code} {call : ProviderCall} (asked : code.call = some call) :
    code.statement = false := by
  unfold Code.call at asked
  split at asked <;> first | rfl | cases asked

namespace Pooled.Sound

theorem request (sound : s.Sound settings runtime) {b : Action Process} {v : State Process P}
    (step : Step runtime s.state b v) (holds : ∀ i, b.executes s.state.tasks = some i → s.Holds i) :
    Pooled.Sound settings runtime
      { s with state := v, connections := s.without b.releases } := by
  cases step with
  | @start i process job fresh =>
    refine sound.moved (i := i) rfl (fun _ => List.Sublist.refl _) rfl (fun _ _ held => held)
      (fun _ _ => Or.inr (begin_statement job)) ?_ ?_
    · intro key holding
      cases holding
    · intro key holding
      cases holding
  | @lockKey i task payload key found connected waiting clean free =>
    have holds : s.Holds i := holds i rfl
    refine sound.moved (i := i) rfl (fun _ => List.Sublist.refl _) rfl (fun _ _ held => held)
      (fun _ _ => Or.inl holds) (fun _ _ => ⟨holds, by simp [Code.stage, RegisterPoint.stage]⟩) ?_
    rintro _ ⟨⟩ j other held different found' holding
    exact free j other held different found' holding
  | @resume i task code cache found connected resumed =>
    refine sound.went found rfl rfl rfl (Nat.le_of_lt (resume_stage resumed)) fun alive early => ?_
    have before := resume_stage resumed
    by_cases reads : task.code.reads = true
    · exact Or.inl (holds i (by simp [Action.executes, found, reads]))
    · rcases sound.served i task found alive (by omega) with held | waiting
      · exact Or.inl held
      · rw [statement_resume waiting reads] at resumed
        cases resumed
  | @answer i task code call answer provider found asked handled received =>
    have later := receive_stage received
    refine sound.went found rfl rfl rfl (by omega) fun alive early => ?_
    rcases sound.served i task found alive (by omega) with held | waiting
    · exact Or.inl held
    · rw [call_statement asked] at waiting
      cases waiting
  | @commit i task code outboxId session db found connected committing accepted =>
    have stages := commit_stage committing
    refine sound.moved (i := i) rfl (fun _ => List.erase_sublist) rfl
      (fun j other => Pooled.holds_without other) (fun _ early => ?_) ?_ ?_
    · have late : code.stage ≤ 8 := early
      omega
    · intro key holding
      cases holding
    · intro key holding
      cases holding
  | @fail i task code error found failed =>
    have stages := fail_stage failed
    exact sound.went found rfl rfl rfl (by omega) fun _ early => by omega
  | @disconnect i task found =>
    refine sound.moved (i := i) rfl (fun _ => List.erase_sublist) rfl
      (fun j other => Pooled.holds_without other)
      (fun connected => absurd connected Bool.false_ne_true) ?_ ?_
    · intro key holding
      cases holding
    · intro key holding
      cases holding
  | late | tick | evict | upsert | publish =>
    exact ⟨sound.distinct, sound.bounded, sound.owned, sound.served, sound.locked,
      sound.exclusive⟩

end Pooled.Sound

theorem pooled_sound_step (sound : s.Sound settings runtime)
    (step : PoolStep settings runtime s a t) : t.Sound settings runtime := by
  cases step with
  | @checkout i task found connected waiting first free =>
    refine sound.idle rfl (fun process => ?_) (fun process => ?_) ?_ ?_
    · show (Function.update s.connections task.process _ process).Nodup
      rw [Function.update_apply]
      split
      next => exact List.nodup_cons.mpr ⟨fun member => first ⟨_, member⟩, sound.distinct _⟩
      next => exact sound.distinct process
    · show s.others process + (Function.update s.connections task.process _ process).length ≤ _
      rw [Function.update_apply]
      split
      next here =>
        rw [here, List.length_cons]
        exact free
      next => exact sound.bounded process
    · rintro j ⟨process, member⟩
      have inside : j ∈ Function.update s.connections task.process _ process := member
      rw [Function.update_apply] at inside
      split at inside
      next =>
        rcases List.mem_cons.mp inside with rfl | inside
        · simp [found]
        · exact sound.owned j ⟨_, inside⟩
      next => exact sound.owned j ⟨_, inside⟩
    · rintro j ⟨process, member⟩
      refine ⟨process, ?_⟩
      show j ∈ Function.update s.connections task.process _ process
      rw [Function.update_apply]
      split
      next here => exact List.mem_cons_of_mem i (here ▸ member)
      next => exact member
  | request step holds => exact sound.request step holds
  | borrow process free =>
    refine sound.idle rfl sound.distinct (fun other => ?_) sound.owned (fun _ held => held)
    have before := sound.bounded other
    show Function.update s.others process _ other + (s.connections other).length ≤ _
    rw [Function.update_apply]
    split
    next here =>
      rw [here]
      unfold Pooled.inUse at free
      omega
    next => exact before
  | giveBack process borrowed =>
    refine sound.idle rfl sound.distinct (fun other => ?_) sound.owned (fun _ held => held)
    have before := sound.bounded other
    show Function.update s.others process _ other + (s.connections other).length ≤ _
    unfold Pooled.inUse at before
    rw [Function.update_apply]
    split
    next here =>
      rw [here, borrowed] at before
      rw [here]
      omega
    next => exact before

theorem pooled_sound_initial (initial : (pooled Process settings runtime P).Initial s) :
    s.Sound settings runtime where
  distinct process := by simp [initial.2.1 process]
  bounded process := by simp [Pooled.inUse, initial.2.1 process, initial.2.2 process]
  owned i := by
    rintro ⟨process, member⟩
    rw [initial.2.1 process] at member
    cases member
  served i task found := nomatch (initial.1.2.2.2.2.2.1 i).symm.trans found
  locked i task key found := nomatch (initial.1.2.2.2.2.2.1 i).symm.trans found
  exclusive i j task other key held _ found := nomatch (initial.1.2.2.2.2.2.1 i).symm.trans found

/-- Every call of the provider is answered in some way, if only by the time-out of its client. -/
def Provider.Answers (P : Provider) : Prop :=
  ∀ (provider : P.State) (code : Code) call, code.call = some call →
    ∃ answer provider' code', P.Handles provider call answer provider' ∧
      code.receive answer = some code'

/-- Whatever row it may get in the outbox, the database does not take the commit. -/
def CommitRefused (runtime : Runtime) (db : Database) (code : Code) : Prop :=
  ∀ outboxId session code', code.commit runtime outboxId = some (session, code') →
    db.commit session = none

/-- A move in which nothing is given up. A request fails for want of its connection or because the
    statement for its lock or its commit is refused, and its session is closed when it is over. -/
def Patient (runtime : Runtime) (m : Move (Pooled Process P) (PoolAction Process)) : Prop :=
  match m.action with
  | .request (.fail i _) => ∃ task, m.source.state.tasks i = some task ∧
      (task.connected = false ∨ m.source.Holds i ∧ LockRefused task.code ∨
        (∃ outboxId, (task.code.commit runtime outboxId).isSome = true) ∧
          CommitRefused runtime m.source.state.db task.code)
  | .request (.disconnect i) => m.source.state.stage i = 10
  | .request (.lockKey _) | .request (.resume _) | .request (.answer _ _)
  | .request (.commit _ _) | .checkout _ | .giveBack _ => True
  | _ => False

def Leads (settings : EngineSettings) (runtime : Runtime) (n : Nat) (s t : Pooled Process P) :
    Prop :=
  ∃ moves, Run (pooled Process settings runtime P) s moves t ∧ moves.length ≤ n ∧
    ∀ m ∈ moves, Patient runtime m

namespace Leads

theorem refl (s : Pooled Process P) : Leads settings runtime 0 s s :=
  ⟨[], .refl, Nat.le_refl _, List.forall_mem_nil _⟩

theorem step (step : PoolStep settings runtime s a t) (patient : Patient runtime ⟨s, a, t⟩) :
    Leads settings runtime 1 s t :=
  ⟨_, Run.refl.move step, Nat.le_refl _, List.forall_mem_singleton.mpr patient⟩

theorem trans {m n : Nat} (first : Leads settings runtime m s t)
    (second : Leads settings runtime n t u) : Leads settings runtime (m + n) s u := by
  obtain ⟨moves, run, length, patient⟩ := first
  obtain ⟨moves', run', length', patient'⟩ := second
  refine ⟨moves' ++ moves, run.trans run', ?_, List.forall_mem_append.mpr ⟨patient', patient⟩⟩
  rw [List.length_append]
  omega

theorem mono {m n : Nat} (leads : Leads settings runtime m s t) (less : m ≤ n) :
    Leads settings runtime n s t := by
  obtain ⟨moves, run, length, patient⟩ := leads
  exact ⟨moves, run, Nat.le_trans length less, patient⟩

theorem sound {n : Nat} (leads : Leads settings runtime n s t) (sound : s.Sound settings runtime) :
    t.Sound settings runtime := by
  obtain ⟨moves, run, _⟩ := leads
  exact run.invariant (fun _ _ _ sound step => pooled_sound_step sound step) sound

end Leads

structure Pooled.Alone (i : Nat) (s t : Pooled Process P) : Prop where
  tasks : ∀ j, j ≠ i → t.state.tasks j = s.state.tasks j
  fewer : ∀ process, (t.connections process).Sublist (s.connections process)
  kept : ∀ j, j ≠ i → s.Holds j → t.Holds j
  others : t.others = s.others

omit [DecidableEq Process] in
theorem Pooled.Alone.trans (first : Pooled.Alone i s t) (second : Pooled.Alone i t u) :
    Pooled.Alone i s u where
  tasks j other := (second.tasks j other).trans (first.tasks j other)
  fewer process := (second.fewer process).trans (first.fewer process)
  kept j other holds := second.kept j other (first.kept j other holds)
  others := second.others.trans first.others

/-- A request that waits for no other: it is past its lock, and has its connection for as long as
    it needs one, unless the connection is lost. -/
structure Pooled.Ready (s : Pooled Process P) (i : Nat) (task : Task Process) : Prop where
  past : task.connected = true → 2 ≤ task.code.stage
  served : task.connected = true → task.code.stage ≤ 8 → s.Holds i

theorem fail_some {code : Code} (unfinished : code.stage < 10) (error : Raised) :
    ∃ code', code.fail error = some code' := by
  cases code with
  | register payload point =>
    cases point <;> first | exact ⟨_, rfl⟩ | simp [Code.stage, RegisterPoint.stage] at unfinished
  | unregister ticketId point =>
    cases point <;> first | exact ⟨_, rfl⟩ | simp [Code.stage, UnregisterPoint.stage] at unfinished
  | seats eventId point =>
    cases point <;> first | exact ⟨_, rfl⟩ | simp [Code.stage, SeatsPoint.stage] at unfinished

inductive Awaits (runtime : Runtime) (code : Code) : Prop
  | turn (resumes : ∀ db now cache, ∃ code' cache',
      code.resume runtime db now cache = some (code', cache'))
  | provider (call : ProviderCall) (asked : code.call = some call)
  | commit (commits : ∀ outboxId, ∃ session code',
      code.commit runtime outboxId = some (session, code'))

theorem awaits (runtime : Runtime) {code : Code} (unfinished : code.stage < 10)
    (past : 2 ≤ code.stage) : Awaits runtime code := by
  cases code with
  | register payload point =>
    cases point with
    | lockKey key => simp [Code.stage, RegisterPoint.stage] at past
    | getKey | getEvent | seatsAnswered | registerAnswered | committed =>
      exact .turn fun _ _ _ => ⟨_, _, rfl⟩
    | askSeats | askRegister => exact .provider _ rfl
    | commit => exact .commit fun _ => ⟨_, _, rfl⟩
    | returned | raised => simp [Code.stage, RegisterPoint.stage] at unfinished
  | unregister ticketId point =>
    cases point with
    | getTicket | answered | deleted | cancelled => exact .turn fun _ _ _ => ⟨_, _, rfl⟩
    | askUnregister => exact .provider _ rfl
    | commitDelete | commitCancel => exact .commit fun _ => ⟨_, _, rfl⟩
    | returned | raised => simp [Code.stage, UnregisterPoint.stage] at unfinished
  | seats eventId point =>
    cases point with
    | getEvent | answered => exact .turn fun _ _ _ => ⟨_, _, rfl⟩
    | askSeats => exact .provider _ rfl
    | returned | raised => simp [Code.stage, SeatsPoint.stage] at unfinished

def Pooled.Advances (settings : EngineSettings) (runtime : Runtime) (s : Pooled Process P) (i : Nat)
    (task : Task Process) : Prop :=
  ∃ t task', Leads settings runtime 1 s t ∧ Pooled.Alone i s t ∧
    t.state.tasks i = some task' ∧ task.code.stage < task'.code.stage ∧ t.Ready i task'

theorem advances_step (ready : s.Ready i task) {b : Action Process} {v : State Process P}
    {code : Code} (step : Step runtime s.state b v)
    (holds : ∀ j, b.executes s.state.tasks = some j → s.Holds j)
    (keeps : s.without b.releases = s.connections)
    (patient : ∀ t, Patient runtime ⟨s, .request b, t⟩)
    (tasks : v.tasks = (s.state.setTask i { task with code }).tasks)
    (later : task.code.stage < code.stage) : s.Advances settings runtime i task := by
  have same : ∀ j, Pooled.Holds ⟨v, s.without b.releases, s.others⟩ j ↔ s.Holds j := fun j => by
    rw [keeps]
    rfl
  refine ⟨_, { task with code }, Leads.step (.request step holds) (patient _), ⟨?_, ?_, ?_, rfl⟩,
    ?_, later, fun connected => Nat.le_of_lt (Nat.lt_of_le_of_lt (ready.past connected) later),
    fun connected early => ?_⟩
  · intro j other
    show v.tasks j = _
    rw [tasks, setTask_tasks, if_neg other]
  · intro process
    show (s.without b.releases process).Sublist _
    rw [keeps]
  · exact fun j _ => (same j).mpr
  · exact (congrFun tasks i).trans (setTask_self ..)
  · have before : code.stage ≤ 8 := early
    exact (same i).mpr (ready.served connected (by omega))

theorem ready_advances (answers : P.Answers) (found : s.state.tasks i = some task)
    (unfinished : task.code.stage < 10) (ready : s.Ready i task) :
    s.Advances settings runtime i task := by
  have fails : (task.connected = false ∨
      (∃ outboxId, (task.code.commit runtime outboxId).isSome = true) ∧
        CommitRefused runtime s.state.db task.code) → s.Advances settings runtime i task := by
    intro cause
    obtain ⟨code', failed⟩ := fail_some unfinished (.other "")
    have stages := fail_stage failed
    exact advances_step ready (.fail found failed) (by simp [Action.executes]) rfl
      (fun _ => ⟨task, found, cause.imp_right Or.inr⟩) rfl (by omega)
  by_cases past : 2 ≤ task.code.stage
  case neg =>
    exact fails (Or.inl (Bool.eq_false_of_not_eq_true fun alive => past (ready.past alive)))
  cases awaits runtime unfinished past with
  | turn resumes =>
    obtain ⟨code', cache', resumed⟩ :=
      resumes s.state.db s.state.now (s.state.cache task.process)
    by_cases stuck : task.code.reads = true ∧ task.connected = false
    · exact fails (Or.inl stuck.2)
    · have connected : task.code.reads = true → task.connected = true := fun reads =>
        Bool.of_not_eq_false fun gone => stuck ⟨reads, gone⟩
      refine advances_step ready (.resume found connected resumed) (fun j executes => ?_) rfl
        (fun _ => trivial) rfl (resume_stage resumed)
      simp only [Action.executes, found, Option.any_some] at executes
      split at executes
      next reads =>
        cases executes
        have early : task.code.statement = true := by
          unfold Code.statement
          split
          · rfl
          · exact reads
        exact ready.served (connected reads) (Nat.le_trans (statement_early early) (by decide))
      next => cases executes
  | provider call asked =>
    obtain ⟨answer, provider', code', handled, received⟩ := answers s.state.provider _ call asked
    have later := receive_stage received
    exact advances_step ready (.answer found asked handled received)
      (by simp [Action.executes]) rfl (fun _ => trivial) rfl (by omega)
  | commit commits =>
    obtain ⟨_, _, committing⟩ := commits ⟨0⟩
    by_cases connected : task.connected = true
    · by_cases refused : CommitRefused runtime s.state.db task.code
      · exact fails (Or.inr ⟨⟨⟨0⟩, by rw [committing]; rfl⟩, refused⟩)
      · simp only [CommitRefused, not_forall] at refused
        obtain ⟨outboxId, session, code', committing, taken⟩ := refused
        obtain ⟨db, accepted⟩ := Option.ne_none_iff_exists'.mp taken
        have stages := commit_stage committing
        have holds := ready.served connected (by omega)
        refine ⟨_, { task with code := code', lock := none },
          Leads.step (.request (.commit found connected committing accepted) ?_) trivial,
          ⟨?_, fun _ => List.erase_sublist, fun j other => Pooled.holds_without other, rfl⟩,
          setTask_self .., ?_, ?_, fun _ early => ?_⟩
        · rintro _ ⟨⟩
          exact holds
        · intro j other
          exact (setTask_tasks ..).trans (if_neg other)
        · show task.code.stage < code'.stage
          omega
        · intro _
          show 2 ≤ code'.stage
          omega
        · have before : code'.stage ≤ 8 := early
          omega
    · exact fails (Or.inl (Bool.eq_false_of_not_eq_true connected))

theorem ready_ends (answers : P.Answers) (found : s.state.tasks i = some task)
    (ready : s.Ready i task) {n : Nat} (left : 10 ≤ task.code.stage + n) :
    ∃ t, Leads settings runtime n s t ∧ Pooled.Alone i s t ∧ t.state.stage i = 10 := by
  induction n generalizing s task with
  | zero =>
    have bound := stage_le task.code
    refine ⟨s, Leads.refl s, ⟨fun _ _ => rfl, fun _ => List.Sublist.refl _, fun _ _ => id, rfl⟩, ?_⟩
    simp only [State.stage, found, Option.elim_some]
    omega
  | succ n ih =>
    by_cases unfinished : task.code.stage < 10
    · obtain ⟨t, task', leads, alone, found', later, ready'⟩ :=
        ready_advances answers found unfinished ready
      obtain ⟨u, leads', alone', ended⟩ := ih found' ready' (by omega)
      exact ⟨u, (leads.trans leads').mono (by omega), alone.trans alone', ended⟩
    · obtain ⟨u, leads, alone, ended⟩ := ih found ready (by omega)
      exact ⟨u, leads.mono (by omega), alone, ended⟩

theorem ended_closes (sound : s.Sound settings runtime) (ended : s.state.stage i = 10) :
    ∃ t, Leads settings runtime 1 s t ∧ Pooled.Alone i s t ∧ ¬ t.Holds i ∧
      ∀ task, t.state.tasks i = some task → task.lock = none := by
  have started : s.state.tasks i ≠ none := fun absent => by
    simp [State.stage, absent] at ended
  obtain ⟨task, found⟩ := Option.ne_none_iff_exists'.mp started
  refine ⟨_, Leads.step (.request (.disconnect found) (by simp [Action.executes])) ended,
    ⟨?_, fun _ => List.erase_sublist, fun j other => Pooled.holds_without other, rfl⟩, ?_, ?_⟩
  · intro j other
    exact (setTask_tasks ..).trans (if_neg other)
  · rintro ⟨process, member⟩
    exact (sound.distinct process).not_mem_erase member
  · intro task' found'
    cases (setTask_self ..).symm.trans found'
    rfl

structure Pooled.Apart (s t : Pooled Process P) : Prop where
  tasks : ∀ j, ¬ s.Holds j → t.state.tasks j = s.state.tasks j
  fewer : ∀ process, (t.connections process).Sublist (s.connections process)
  others : t.others = s.others

omit [DecidableEq Process] in
theorem Pooled.Alone.apart (alone : Pooled.Alone i s t) (holds : s.Holds i) : Pooled.Apart s t where
  tasks j none := alone.tasks j fun same => none (same ▸ holds)
  fewer := alone.fewer
  others := alone.others

omit [DecidableEq Process] in
theorem Pooled.Apart.trans (first : Pooled.Apart s t) (second : Pooled.Apart t u) :
    Pooled.Apart s u where
  tasks j none := (second.tasks j fun holds => none (Pooled.holds_fewer first.fewer holds)).trans
    (first.tasks j none)
  fewer process := (second.fewer process).trans (first.fewer process)
  others := second.others.trans first.others

theorem lock_freed (sound : s.Sound settings runtime) (answers : P.Answers)
    (found : s.state.tasks i = some task) (holds : s.Holds i) (key : String) : ∃ t,
      Leads settings runtime 9 s t ∧ Pooled.Apart s t ∧ t.state.tasks i = some task ∧ t.Holds i ∧
        ∀ j other held, j ≠ i → t.state.tasks j = some other → other.lock = some held →
          runtime.hashtext held ≠ runtime.hashtext key := by
  by_cases blocked : ∃ j other held, j ≠ i ∧ s.state.tasks j = some other ∧
      other.lock = some held ∧ runtime.hashtext held = runtime.hashtext key
  · obtain ⟨j, other, held, apart, found', holding, same⟩ := blocked
    obtain ⟨holds', past⟩ := sound.locked j other held found' holding
    obtain ⟨u, leads, alone, ended⟩ :=
      ready_ends answers found' ⟨fun _ => past, fun _ _ => holds'⟩ (n := 8) (by omega)
    obtain ⟨t, leads', alone', gone, free⟩ := ended_closes (leads.sound sound) ended
    have alone := alone.trans alone'
    refine ⟨t, leads.trans leads', alone.apart holds', (alone.tasks i (Ne.symm apart)).trans found,
      alone.kept i (Ne.symm apart) holds, ?_⟩
    intro k third held' different found'' holding'
    by_cases here : k = j
    · subst here
      rw [free third found''] at holding'
      cases holding'
    · rw [alone.tasks k here] at found''
      rw [← same]
      exact sound.exclusive j k other third held held' (Ne.symm here) found' found'' holding
        holding'
  · refine ⟨s, (Leads.refl s).mono (by decide), ⟨fun _ _ => rfl, fun _ => List.Sublist.refl _, rfl⟩,
      found, holds, ?_⟩
    intro j other held apart found' holding same
    exact blocked ⟨j, other, held, apart, found', holding, same⟩

theorem waits_lock {code : Code} (early : code.stage < 2) :
    ∃ payload key, code = .register payload (.lockKey key) := by
  cases code with
  | register payload point =>
    cases point with
    | lockKey key => exact ⟨payload, key, rfl⟩
    | _ => simp [Code.stage, RegisterPoint.stage] at early
  | unregister ticketId point => cases point <;> simp [Code.stage, UnregisterPoint.stage] at early
  | seats eventId point => cases point <;> simp [Code.stage, SeatsPoint.stage] at early

theorem lock_granted (sound : s.Sound settings runtime) (answers : P.Answers)
    (found : s.state.tasks i = some task) (holds : s.Holds i) (connected : task.connected = true)
    {payload : SEventRegistrationCreate} {key : String}
    (here : task.code = .register payload (.lockKey key)) (clean : storable key = true) :
    ∃ t task', Leads settings runtime 10 s t ∧ Pooled.Apart s t ∧
      t.state.tasks i = some task' ∧ t.Ready i task' ∧ t.Holds i ∧ task'.code.stage = 2 := by
  obtain ⟨u, leads, apart, found, holds', free⟩ := lock_freed sound answers found holds key
  let granted : Task Process :=
    { task with code := .register payload (.getKey key), lock := some key }
  have step : PoolStep settings runtime u (.request (.lockKey i))
      { u with state := u.state.setTask i granted } :=
    .request (.lockKey found connected here clean free) (by rintro _ ⟨⟩; exact holds')
  have apart' : Pooled.Apart u { u with state := u.state.setTask i granted } := by
    refine ⟨fun j none => ?_, fun _ => List.Sublist.refl _, rfl⟩
    have other : j ≠ i := fun same => none (same ▸ holds')
    exact (setTask_tasks ..).trans (if_neg other)
  exact ⟨_, granted, leads.trans (.step step trivial), apart.trans apart', setTask_self ..,
    ⟨fun _ => Nat.le_refl _, fun _ _ => holds'⟩, holds', rfl⟩

theorem lock_refused (found : s.state.tasks i = some task) (holds : s.Holds i)
    (refused : LockRefused task.code) : ∃ t,
      Leads settings runtime 1 s t ∧ Pooled.Apart s t ∧ t.state.stage i = 10 := by
  obtain ⟨payload, key, here, _⟩ := id refused
  have failed : task.code.fail (.other "") = some (.register payload (.raised (.other ""))) := by
    rw [here]
    rfl
  refine ⟨_, Leads.step (.request (.fail found failed) (by simp [Action.executes]))
    ⟨task, found, Or.inr (Or.inl ⟨holds, refused⟩)⟩, ⟨fun j none => ?_,
      fun _ => List.Sublist.refl _, rfl⟩, ?_⟩
  · have other : j ≠ i := fun same => none (same ▸ holds)
    exact (setTask_tasks ..).trans (if_neg other)
  · simp [State.stage, State.setTask, Code.stage, RegisterPoint.stage]

theorem stage_pos (code : Code) : 1 ≤ code.stage := by
  cases code with
  | register payload point => cases point <;> simp [Code.stage, RegisterPoint.stage]
  | unregister ticketId point => cases point <;> simp [Code.stage, UnregisterPoint.stage]
  | seats eventId point => cases point <;> simp [Code.stage, SeatsPoint.stage]

theorem holder_ends (sound : s.Sound settings runtime) (answers : P.Answers)
    (found : s.state.tasks i = some task) (holds : s.Holds i) : ∃ t,
      Leads settings runtime 18 s t ∧ Pooled.Apart s t ∧ t.state.stage i = 10 := by
  by_cases waiting : task.connected = true ∧ task.code.stage < 2
  · obtain ⟨connected, early⟩ := waiting
    obtain ⟨payload, key, here⟩ := waits_lock early
    cases clean : storable key with
    | false =>
      obtain ⟨t, leads, apart, ended⟩ := lock_refused found holds ⟨payload, key, here, clean⟩
      exact ⟨t, leads.mono (by decide), apart, ended⟩
    | true =>
      obtain ⟨u, task', leads, apart, found', ready, holds', stage⟩ :=
        lock_granted sound answers found holds connected here clean
      obtain ⟨t, leads', alone, ended⟩ := ready_ends answers found' ready (n := 8) (by omega)
      exact ⟨t, leads.trans leads', apart.trans (alone.apart holds'), ended⟩
  · have started := stage_pos task.code
    have past : task.connected = true → 2 ≤ task.code.stage := fun connected =>
      Nat.le_of_not_lt fun early => waiting ⟨connected, early⟩
    obtain ⟨t, leads, alone, ended⟩ :=
      ready_ends answers found ⟨past, fun _ _ => holds⟩ (n := 9) (by omega)
    exact ⟨t, leads.mono (by decide), alone.apart holds, ended⟩

theorem place_freed (sound : s.Sound settings runtime) (answers : P.Answers) (process : Process) :
    ∃ t, Leads settings runtime 19 s t ∧ t.inUse process < settings.capacity ∧
      ∀ i, ¬ s.Holds i → t.state.tasks i = s.state.tasks i ∧ ¬ t.Holds i := by
  by_cases free : s.inUse process < settings.capacity
  · exact ⟨s, (Leads.refl s).mono (by decide), free, fun i none => ⟨rfl, none⟩⟩
  have bounded := sound.bounded process
  have positive : 0 < settings.capacity := Nat.add_pos_left settings.bounded _
  cases borrowed : s.others process with
  | succ n =>
    refine ⟨_, (Leads.step (.giveBack process borrowed) trivial).mono (by decide), ?_,
      fun i none => ⟨rfl, none⟩⟩
    unfold Pooled.inUse at bounded ⊢
    simp only [Function.update_self]
    omega
  | zero =>
    obtain ⟨j, member⟩ : ∃ j, j ∈ s.connections process := by
      apply List.exists_mem_of_length_pos
      unfold Pooled.inUse at free
      omega
    have holds : s.Holds j := ⟨process, member⟩
    obtain ⟨task, found⟩ := Option.ne_none_iff_exists'.mp (sound.owned j holds)
    obtain ⟨u, leads, apart, ended⟩ := holder_ends sound answers found holds
    obtain ⟨t, leads', alone, gone, _⟩ := ended_closes (leads.sound sound) ended
    refine ⟨t, leads.trans leads', ?_, fun i none => ?_⟩
    · have fewer := (alone.fewer process).trans (apart.fewer process)
      have less : (t.connections process).length < (s.connections process).length :=
        Nat.lt_of_le_of_ne fewer.length_le fun same =>
          gone ⟨process, fewer.eq_of_length same ▸ member⟩
      unfold Pooled.inUse at bounded ⊢
      rw [alone.others, apart.others]
      omega
    · have none' : ¬ u.Holds i := fun holds => none (Pooled.holds_fewer apart.fewer holds)
      refine ⟨?_, fun holds => none' (Pooled.holds_fewer alone.fewer holds)⟩
      have other : i ≠ j := fun same => none (same ▸ holds)
      exact (alone.tasks i other).trans (apart.tasks i none)

/-- Neither the pools nor the locks of idempotency keys can stop a request: wherever the processes
    have come to, it can end within 38 moves, in which nobody gives up. -/
theorem pooled_requests_end {moves : List (Move (Pooled Process P) (PoolAction Process))}
    (answers : P.Answers) (initial : (pooled Process settings runtime P).Initial s)
    (run : Run (pooled Process settings runtime P) s moves t) :
    (∃ moves', Run (system Process runtime P) s.state moves' t.state) ∧
      ∀ i, t.state.tasks i ≠ none →
        ∃ u, Leads settings runtime 38 t u ∧ u.state.stage i = 10 := by
  have sound : t.Sound settings runtime :=
    run.invariant (fun _ _ _ sound step => pooled_sound_step sound step)
      (pooled_sound_initial initial)
  refine ⟨(pooled_refines.run trivial run).2, fun i started => ?_⟩
  obtain ⟨task, found⟩ := Option.ne_none_iff_exists'.mp started
  by_cases holds : t.Holds i
  · obtain ⟨u, leads, _, ended⟩ := holder_ends sound answers found holds
    exact ⟨u, leads.mono (by decide), ended⟩
  by_cases waiting : task.connected = true ∧ task.code.stage ≤ 8
  · obtain ⟨connected, early⟩ := waiting
    have statement := (sound.served i task found connected early).resolve_left holds
    obtain ⟨v, leads, free, others⟩ := place_freed sound answers task.process
    obtain ⟨same, without⟩ := others i holds
    have step : PoolStep settings runtime v (.checkout i) _ :=
      .checkout (same.trans found) connected statement without free
    have taken := leads.trans (.step step trivial)
    obtain ⟨u, leads', _, ended⟩ := holder_ends (taken.sound sound) answers (same.trans found)
      ⟨task.process, by simp⟩
    exact ⟨u, taken.trans leads', ended⟩
  · have past : task.connected = true → 2 ≤ task.code.stage := fun connected => by
      by_contra early
      exact waiting ⟨connected, by omega⟩
    have started := stage_pos task.code
    obtain ⟨u, leads, _, ended⟩ := ready_ends answers found
      ⟨past, fun connected early => absurd ⟨connected, early⟩ waiting⟩ (n := 9) (by omega)
    exact ⟨u, leads.mono (by decide), ended⟩

section Sample

theorem any_answers : anyProvider.Answers := by
  intro provider code call asked
  unfold Code.call at asked
  split at asked
  · exact ⟨.seats (.ok []), (), _, trivial, rfl⟩
  · exact ⟨.registration (.ok ⟨7⟩), (), _, trivial, rfl⟩
  · exact ⟨.cancellation (.ok true), (), _, trivial, rfl⟩
  · exact ⟨.seats (.ok []), (), _, trivial, rfl⟩
  · cases asked

def sampleEngine : EngineSettings := ⟨1, 0, by decide⟩

def freshPooled : Pooled Unit anyProvider := ⟨sampleState anyProvider (), fun _ => [], fun _ => 0⟩

/-- The only connection of a process is held by a request that holds the lock of its key, and
    another request with that key has come. -/
theorem pooled_requests_end_exhausted : ∃ (moves : List (Move (Pooled Unit anyProvider)
      (PoolAction Unit))) (t u : Pooled Unit anyProvider),
    Run (pooled Unit sampleEngine sampleRuntime anyProvider) freshPooled moves t ∧
      t.inUse () = sampleEngine.capacity ∧ t.state.stage 0 = 2 ∧ t.state.stage 1 = 1 ∧
      ¬ t.Holds 1 ∧ Leads sampleEngine sampleRuntime 38 t u ∧ u.state.stage 1 = 10 := by
  have start := @Run.refl _ _ (pooled Unit sampleEngine sampleRuntime anyProvider) freshPooled
  have first := start.move (.request (Step.start ()
    (.register (samplePayload (some "k") (by decide))) (rfl : State.tasks _ 0 = none))
    (by simp [Action.executes]))
  have connected := first.move (@PoolStep.checkout _ _ _ _ _ _ 0 _ rfl rfl rfl
    (by simp [Pooled.Holds, Pooled.without, Action.releases, freshPooled]) (by decide))
  have locked := connected.move (.request (Step.lockKey (rfl : State.tasks _ 0 = some _) rfl rfl rfl
    (fun j _ _ other found => by simp [State.setTask, freshPooled, sampleState, other] at found))
    (by rintro _ ⟨⟩; exact ⟨(), List.mem_singleton_self 0⟩))
  have second := locked.move (.request (Step.start ()
    (.register (samplePayload (some "k") (by decide))) (rfl : State.tasks _ 1 = none))
    (by simp [Action.executes]))
  obtain ⟨_, ends⟩ := pooled_requests_end any_answers
    ⟨sample_initial trivial, fun _ => rfl, fun _ => rfl⟩ second
  obtain ⟨u, leads, ended⟩ := ends 1 (Option.some_ne_none _)
  refine ⟨_, _, u, second, ?_, ?_, ?_, ?_, leads, ended⟩
  · rfl
  · rfl
  · rfl
  · rintro ⟨_, member⟩
    cases List.mem_singleton.mp member

end Sample

end EventsAggregator
