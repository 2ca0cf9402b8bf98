import EventsAggregator.Services.Atomicity
import EventsAggregator.Clients.SeatProvider

namespace EventsAggregator

open Relational Transition

section Alone

variable {Process : Type} {P : Provider} [DecidableEq Process] {runtime : Runtime}
  {s t : State Process P} {a : Action Process} {i : Nat}
  {moves : List (Move (State Process P) (Action Process))}

/-- A move of the request `i`, or one of the surroundings that neither serves another request
    nor lets the provider handle a call whose caller is gone. -/
def Alone (i : Nat) (m : Move (State Process P) (Action Process)) : Prop :=
  (∀ j, m.action.request = some j → j = i) ∧ ∀ call answer, m.action ≠ .late call answer

theorem run_job (run : Run (system Process runtime P) s moves t) {task task' : Task Process}
    (here : s.tasks i = some task) (there : t.tasks i = some task') :
    task.code.job = task'.code.job := by
  have same : ∃ next, t.tasks i = some next ∧ next.code.job = task.code.job := by
    apply run.invariant (I := fun u => ∃ next, u.tasks i = some next ∧
      next.code.job = task.code.job)
    · intro u a v valid step
      obtain ⟨next, found, same⟩ := valid
      obtain ⟨later, found', same'⟩ := step_job step found
      exact ⟨later, found', same'.trans same⟩
    · exact ⟨task, here, rfl⟩
  obtain ⟨next, found, same⟩ := same
  cases found.symm.trans there
  exact same.symm

def Registers (payload : SEventRegistrationCreate) (i : Nat) (s : State Process P) : Prop :=
  ∀ task, s.tasks i = some task → task.code.job = .register payload

theorem registers_before {payload : SEventRegistrationCreate}
    (run : Run (system Process runtime P) s moves t) {task : Task Process}
    (there : t.tasks i = some task) (job : task.code.job = .register payload) :
    Registers payload i s := by
  intro before here
  rw [run_job run here there, job]

theorem registers_along {payload : SEventRegistrationCreate}
    (run : Run (system Process runtime P) s moves t) {task : Task Process}
    (there : t.tasks i = some task) (job : task.code.job = .register payload) :
    ∀ m ∈ moves, Registers payload i m.source := by
  intro m member
  obtain ⟨later, rest⟩ := run.rest member
  exact registers_before rest there job

theorem alone_keeps_ticket {payload : SEventRegistrationCreate} (step : Step runtime s a t)
    (alone : Alone i ⟨s, a, t⟩) (registers : Registers payload i s) {ticketId : UUID}
    {row : TicketORM} (found : s.db.tickets.find? ticketId = some row) :
    t.db.tickets.find? ticketId = some row := by
  have change := step_db step
  generalize t.db = db at change ⊢
  cases change with
  | unchanged | upserted | published => exact found
  | registered here connected committing written => exact Table.find?_kept written.ticket found
  | deleted here committing =>
    obtain rfl := alone.1 _ rfl
    have job := registers _ here
    rw [committing] at job
    cases job
  | cancelled here committing inserted =>
    obtain rfl := alone.1 _ rfl
    have job := registers _ here
    rw [committing] at job
    cases job

theorem alone_same_tickets (step : Step runtime s a t) (alone : Alone i ⟨s, a, t⟩)
    (idle : ∀ outboxId, a ≠ .commit i outboxId) : t.db.tickets = s.db.tickets := by
  have change := step_db step
  generalize t.db = db at change ⊢
  cases change with
  | unchanged | upserted | published => rfl
  | registered | deleted | cancelled =>
    obtain rfl := alone.1 _ rfl
    exact absurd rfl (idle _)

end Alone

variable {Process : Type} [DecidableEq Process] {layout : UUID → List Text} {runtime : Runtime}
  {s t : State Process (seatProvider layout)} {a : Action Process} {i : Nat}
  {payload : SEventRegistrationCreate} {ticketId : UUID}
  {moves : List (Move (State Process (seatProvider layout)) (Action Process))}

def Held (s : State Process (seatProvider layout)) (ticketId : UUID) : Prop :=
  Registrations.Holds s.provider ticketId

def Booked (payload : SEventRegistrationCreate) (ticketId : UUID) (db : Database) : Prop :=
  ∃ row, db.tickets.find? ticketId = some row ∧ row.eventId = payload.eventId ∧
    row.seat = payload.seat ∧ row.firstName = payload.firstName ∧
    row.lastName = payload.lastName ∧ row.email = payload.email

def NoOrphan (payload : SEventRegistrationCreate) (ticketId : UUID)
    (t : State Process (seatProvider layout)) : Prop :=
  ¬ Held t ticketId ∨ Booked payload ticketId t.db

theorem registered_booked {event : EventORM} {now : Instant} {outboxId : UUID} {db db' : Database}
    (written : Registered runtime payload event ticketId now outboxId db db') :
    Booked payload ticketId db' :=
  ⟨purchasedTicket payload ticketId now, by
    rw [Table.find?_inserted written.ticket]
    exact if_pos rfl, rfl, rfl, rfl, rfl, rfl⟩

theorem alone_keeps_held (step : Step runtime s a t) (alone : Alone i ⟨s, a, t⟩)
    (registers : Registers payload i s) (held : Held s ticketId) : Held t ticketId := by
  cases step with
  | @answer i task code' call answer provider found asked handled received =>
    obtain rfl := alone.1 _ rfl
    obtain ⟨point, code⟩ := register_job (registers _ found)
    have keeping : ∀ eventId ticketId, call ≠ .unregister eventId ticketId := by
      rintro eventId ticketId rfl
      rw [code] at asked
      cases point <;> cases asked
    obtain ⟨r, member, same⟩ := List.mem_map.mp held
    exact List.mem_map.mpr ⟨r, handles_keeps handled keeping member, same⟩
  | late waiting handled => exact absurd rfl (alone.2 _ _)
  | start | lockKey | resume | commit | fail | disconnect | tick | evict | upsert | publish =>
    exact held

def Carries (payload : SEventRegistrationCreate) (ticketId : UUID) : Code → Prop
  | .register own point => own = payload ∧
    match point with
    | .registerAnswered _ (.ok granted) => granted = ticketId
    | .commit _ granted _ => granted = ticketId
    | .committed _ | .returned _ | .raised _ => True
    | _ => False
  | _ => False

theorem resume_carries {db : Database} {now : Instant} {cache cache' : SeatsCache}
    {code code' : Code} (carries : Carries payload ticketId code)
    (resumed : code.resume runtime db now cache = some (code', cache')) :
    Carries payload ticketId code' := by
  cases resume_cases resumed with
  | granted =>
    obtain ⟨rfl, same⟩ := carries
    exact ⟨rfl, same⟩
  | booked => exact ⟨carries.1, trivial⟩
  | unknownKey | replayed | conflicting | uncached | cached | closed | free | taken | unlisted
  | refused => exact carries.2.elim
  | _ => exact carries.elim

omit [DecidableEq Process] in
theorem moved_carries {code code' : Code} (carries : Carries payload ticketId code)
    (moved : CodeStep runtime s a t code code') : Carries payload ticketId code' := by
  cases moved with
  | same => exact carries
  | locked own key => exact carries.2.elim
  | resumed unchanged resumed => exact resume_carries carries resumed
  | received asked handled received =>
    unfold Code.receive at received
    split at received <;> cases received
    all_goals first | exact carries.elim | exact carries.2.elim
  | committed committing accepted =>
    unfold Code.commit at committing
    split at committing <;> cases committing
    case h_1 => exact ⟨carries.1, trivial⟩
    all_goals exact carries.elim
  | failed acting failed =>
    unfold Code.fail at failed
    split at failed <;> cases failed
    case h_7 => exact ⟨carries.1, trivial⟩
    all_goals exact carries.elim

theorem run_carries (run : Run (system Process runtime (seatProvider layout)) s moves t)
    (carries : ∃ task, s.tasks i = some task ∧ Carries payload ticketId task.code) :
    ∃ task, t.tasks i = some task ∧ Carries payload ticketId task.code := by
  apply run.invariant (I := fun u => ∃ task, u.tasks i = some task ∧
    Carries payload ticketId task.code) _ carries
  intro u a v valid step
  obtain ⟨task, found, carries⟩ := valid
  obtain ⟨next, there, moved⟩ := step_code step found
  exact ⟨next, there, moved_carries carries moved⟩

theorem answer_carries (step : Step runtime s (.answer i (.registration (.ok ticketId))) t)
    (registers : Registers payload i s) :
    s.stage i = 6 ∧ Held t ticketId ∧
      ∃ task, t.tasks i = some task ∧ Carries payload ticketId task.code := by
  cases step with
  | @answer i task code' call answer provider found asked handled received =>
    obtain ⟨point, code⟩ := register_job (registers _ found)
    rw [code] at received asked
    cases point with
    | askRegister event =>
      cases received
      cases asked
      obtain ⟨member, _⟩ := handles_granted handled
      have moved := setTask_tasks s i i
        { task with code := .register payload (.registerAnswered event (.ok ticketId)) }
      rw [if_pos rfl] at moved
      exact ⟨by simp [State.stage, found, code, Code.stage, RegisterPoint.stage],
        List.mem_map_of_mem (f := Registration.ticketId) member, _, moved, rfl, rfl⟩
    | _ => cases received

theorem commit_booked {outboxId : UUID} (step : Step runtime s (.commit i outboxId) t)
    (carries : ∃ task, s.tasks i = some task ∧ Carries payload ticketId task.code) :
    Booked payload ticketId t.db := by
  obtain ⟨task, found, carries⟩ := carries
  cases code : task.code with
  | register own point =>
    rw [code] at carries
    obtain ⟨event, granted, now, rfl, written⟩ := change_registered (step_db step) found code
    obtain ⟨rfl, rfl⟩ := carries
    exact registered_booked written
  | unregister | seats =>
    rw [code] at carries
    exact carries.elim

theorem alone_keeps_booked (run : Run (system Process runtime (seatProvider layout)) s moves t)
    (alone : ∀ m ∈ moves, Alone i m) (registers : ∀ m ∈ moves, Registers payload i m.source)
    (booked : Booked payload ticketId s.db) : Booked payload ticketId t.db := by
  obtain ⟨row, found, same⟩ := booked
  refine ⟨row, ?_, same⟩
  apply run.guarded (I := fun u => u.db.tickets.find? ticketId = some row)
    (G := fun m => Alone i m ∧ Registers payload i m.source) _ _ found
  · intro u a v found guard step
    exact alone_keeps_ticket step guard.1 guard.2 found
  · intro m member
    exact ⟨alone m member, registers m member⟩

theorem no_orphan_iff (run : Run (system Process runtime (seatProvider layout)) s moves t)
    (alone : ∀ m ∈ moves, Alone i m)
    (answered : ∃ m ∈ moves, m.action = .answer i (.registration (.ok ticketId)))
    (raised : ∃ task error, t.tasks i = some task ∧ task.code = .register payload (.raised error)) :
    NoOrphan payload ticketId t ↔
      (∃ m ∈ moves, ∃ outboxId, m.action = .commit i outboxId) ∨ Booked payload ticketId s.db := by
  obtain ⟨task, error, there, code⟩ := raised
  have registers : ∀ m ∈ moves, Registers payload i m.source :=
    registers_along run there (by rw [code]; rfl)
  obtain ⟨grant, member, granted⟩ := answered
  obtain ⟨later, earlier, rfl, before, step, after⟩ := run.cut member
  rw [granted] at step
  obtain ⟨asking, held, carries⟩ := answer_carries step (registers grant member)
  constructor
  · intro kept
    by_cases committed : ∃ m ∈ later ++ grant :: earlier, ∃ outboxId, m.action = .commit i outboxId
    · exact Or.inl committed
    · right
      have still : Held t ticketId := by
        apply after.guarded (I := fun u => Held u ticketId)
          (G := fun m => Alone i m ∧ Registers payload i m.source) _ _ held
        · intro u a v held guard step
          exact alone_keeps_held step guard.1 guard.2 held
        · intro m inside
          exact ⟨alone m (by simp [inside]), registers m (by simp [inside])⟩
      have same : t.db.tickets = s.db.tickets := by
        apply run.guarded (I := fun u => u.db.tickets = s.db.tickets)
          (G := fun m => Alone i m ∧ ∀ outboxId, m.action ≠ .commit i outboxId) _ _ rfl
        · intro u a v same guard step
          exact (alone_same_tickets step guard.1 guard.2).trans same
        · intro m inside
          exact ⟨alone m inside, fun outboxId commit => committed ⟨m, inside, outboxId, commit⟩⟩
      rcases kept with gone | booked
      · exact absurd still gone
      · unfold Booked at booked ⊢
        rwa [same] at booked
  · intro reason
    right
    rcases reason with ⟨m, inside, outboxId, commit⟩ | booked
    · have step := run.step_of_mem inside
      rw [commit] at step
      rcases List.mem_append.mp inside with inside | inside
      · obtain ⟨last, first, split, path, _, rest⟩ := after.cut inside
        have inLast : ∀ n ∈ last, n ∈ later ++ grant :: earlier := by
          intro n member
          simp [split, member]
        exact alone_keeps_booked rest (fun n member => alone n (inLast n member))
          (fun n member => registers n (inLast n member))
          (commit_booked step (run_carries path carries))
      · have late := (commit_stages step).2
        rcases List.mem_cons.mp inside with rfl | inside
        · rw [granted] at commit
          cases commit
        · obtain ⟨_, _, _, _, _, rest⟩ := before.cut inside
          have early := rest.monotone (fun _ _ _ step => step_stage step i)
          omega
    · exact alone_keeps_booked run alone registers booked

def unstorablePayload : SEventRegistrationCreate :=
  { samplePayload none unkeyed with firstName := "Iv\x00an", firstNameLength := by decide }

theorem interrupted_commit : ∃ moves t,
    Run (system Unit sampleRuntime (seatProvider oneSeat))
      (sampleState (seatProvider oneSeat) .empty) moves t ∧
      (∀ m ∈ moves, Alone 0 m) ∧
      (∃ m ∈ moves, m.action = .answer 0 (.registration (.ok ⟨7⟩))) ∧
      (∃ task error, t.tasks 0 = some task ∧
        task.code = .register unstorablePayload (.raised error)) ∧
      t.db.tickets.rows = [] ∧ Held t ⟨7⟩ := by
  have start := @Run.refl _ _ (system Unit sampleRuntime (seatProvider oneSeat))
    (sampleState (seatProvider oneSeat) .empty)
  have requested := start.move
    (Step.start () (.register unstorablePayload) (rfl : State.tasks _ 0 = none))
  have checked := requested.move (Step.resume (rfl : State.tasks _ 0 = some _) (fun _ => rfl) rfl)
  have seats := checked.move
    (@Step.answer _ _ _ _ _ 0 _ _ _ _ _ rfl rfl (Or.inl (Answered.seats ⟨1⟩)) rfl)
  have free := seats.move (Step.resume (rfl : State.tasks _ 0 = some _) (fun _ => rfl) rfl)
  have granted := free.move
    (@Step.answer _ _ _ _ _ 0 _ _ _ _ _ rfl rfl (Or.inl (@single_granted _ ⟨7⟩ _ rfl)) rfl)
  have staged := granted.move (Step.resume (rfl : State.tasks _ 0 = some _) (fun _ => rfl) rfl)
  have refused := staged.move (@Step.fail _ _ _ _ _ 0 _ _
    (.other "invalid byte sequence for encoding UTF8: 0x00") rfl rfl)
  have closed := refused.move (Step.disconnect (rfl : State.tasks _ 0 = some _))
  refine ⟨_, _, closed, ?_, ⟨_, List.mem_cons_of_mem _ (List.mem_cons_of_mem _
    (List.mem_cons_of_mem _ (List.mem_cons_self ..))), rfl⟩, ⟨_, _, rfl, rfl⟩, rfl, ?_⟩
  · intro m member
    simp only [List.mem_cons, List.not_mem_nil, or_false] at member
    rcases member with rfl | rfl | rfl | rfl | rfl | rfl | rfl | rfl
    all_goals exact ⟨fun j acting => (Option.some.inj acting).symm, by simp⟩
  · exact List.mem_cons_self ..

theorem orphan_left : ∃ moves t,
    Run (system Unit sampleRuntime (seatProvider oneSeat))
      (sampleState (seatProvider oneSeat) .empty) moves t ∧
      (∃ m ∈ moves, m.action = .answer 0 (.registration (.ok ⟨7⟩))) ∧
      (∃ task error, t.tasks 0 = some task ∧
        task.code = .register unstorablePayload (.raised error)) ∧
      ¬ NoOrphan unstorablePayload ⟨7⟩ t := by
  obtain ⟨moves, t, run, _, answered, raised, empty, held⟩ := interrupted_commit
  refine ⟨moves, t, run, answered, raised, ?_⟩
  rintro (gone | ⟨row, found, _⟩)
  · exact gone held
  · simp [Table.find?, empty] at found

theorem no_orphan_iff_interrupted : ∃ moves t,
    Run (system Unit sampleRuntime (seatProvider oneSeat))
      (sampleState (seatProvider oneSeat) .empty) moves t ∧ Held t ⟨7⟩ ∧
      (NoOrphan unstorablePayload ⟨7⟩ t ↔
        (∃ m ∈ moves, ∃ outboxId, m.action = .commit 0 outboxId) ∨
          Booked unstorablePayload ⟨7⟩ sampleDatabase) := by
  obtain ⟨moves, t, run, alone, answered, raised, _, held⟩ := interrupted_commit
  exact ⟨moves, t, run, held, no_orphan_iff run alone answered raised⟩

end EventsAggregator
