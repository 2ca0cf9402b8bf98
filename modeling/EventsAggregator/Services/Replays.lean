import EventsAggregator.Services.Cancellations
import EventsAggregator.Services.Idempotency
import EventsAggregator.Services.Orphans
import EventsAggregator.Services.RequestHash

namespace EventsAggregator

open Relational Transition

variable {Process : Type} {P : Provider} [DecidableEq Process] {runtime : Runtime}
  {s t : State Process P} {a : Action Process}
  {moves : List (Move (State Process P) (Action Process))}
  {payload payload' : SEventRegistrationCreate} {ticketId : UUID}

def Finished (s : State Process P) (j : Nat) : Prop :=
  ∀ task, s.tasks j = some task → task.code.stage = 10

/-- Nothing is done for a request before the others that have begun are over. -/
def Sequential (m : Move (State Process P) (Action Process)) : Prop :=
  ∀ i, m.action.request = some i → ∀ j, j ≠ i → Finished m.source j

def Returns (m : Move (State Process P) (Action Process)) (i : Nat)
    (payload : SEventRegistrationCreate) (ticketId : UUID) : Prop :=
  m.action = .resume i ∧ ∃ task, m.target.tasks i = some task ∧
    task.code = .register payload (.returned ticketId)

def CancelsTicket (m : Move (State Process P) (Action Process)) (ticketId : UUID) : Prop :=
  ∃ i row, DeletesTicket m i row ∧ row.ticketId = ticketId

/-- The ticket id is replayed from a record whose ticket has been cancelled since, or which another
    request than one with this payload's data wrote. -/
def ReplaysLost (runtime : Runtime) (m : Move (State Process P) (Action Process))
    (earlier : List (Move (State Process P) (Action Process))) (i : Nat)
    (payload : SEventRegistrationCreate) (ticketId : UUID) : Prop :=
  ∃ key task since booking before writer, payload.idempotencyKey = some key ∧
    m.source.tasks i = some task ∧ task.code = .register payload (.getKey key) ∧
    earlier = since ++ booking :: before ∧ BooksTicket booking writer ticketId ∧
    writer.idempotencyKey = some key ∧
    computeRequestHash runtime writer = computeRequestHash runtime payload ∧
    ((∃ n ∈ since, CancelsTicket n ticketId) ∨ ¬ writer.SameData payload)

theorem booked_same_data (same : payload'.SameData payload) {db : Database}
    (booked : Booked payload' ticketId db) : Booked payload ticketId db := by
  obtain ⟨row, found, event, seat, first, last, email⟩ := booked
  obtain ⟨event', first', last', email', seat'⟩ := same
  exact ⟨row, found, event.trans event', seat.trans seat', first.trans first', last.trans last',
    email.trans email'⟩

theorem booked_kept (step : Step runtime s a t) (kept : ¬ CancelsTicket ⟨s, a, t⟩ ticketId)
    (booked : Booked payload ticketId s.db) : Booked payload ticketId t.db := by
  obtain ⟨row, found, same⟩ := booked
  refine ⟨row, ?_, same⟩
  have erased : ∀ {i : Nat} {outboxId own : UUID} {task : Task Process} {point : UnregisterPoint}
      (other : UUID), a = .commit i outboxId → s.tasks i = some task →
      task.code = .unregister own point → t.db.tickets = s.db.tickets.erase other →
      t.db.tickets.find? ticketId = some row := by
    intro i outboxId own task point other acting here code tickets
    have apart : ticketId ≠ other := by
      rintro rfl
      obtain ⟨member, key⟩ := (Table.find?_eq_some _ _ _).mp found
      refine kept ⟨i, row, ⟨⟨outboxId, acting⟩, ⟨task, own, point, here, code⟩, member, ?_⟩, key⟩
      show row ∉ t.db.tickets.rows
      rw [tickets, Table.mem_erase]
      exact fun there => there.2 key
    rw [tickets, Table.find?_erase_of_ne _ apart]
    exact found
  have change := step_db step
  generalize t.db = db at change erased ⊢
  cases change with
  | unchanged | upserted | published => exact found
  | registered here connected committing written => exact Table.find?_kept written.ticket found
  | deleted here committing => exact erased _ rfl here committing rfl
  | cancelled here committing inserted => exact erased _ rfl here committing rfl

theorem booked_along (run : Run (system Process runtime P) s moves t)
    (kept : ∀ m ∈ moves, ¬ CancelsTicket m ticketId) (booked : Booked payload ticketId s.db) :
    Booked payload ticketId t.db :=
  run.guarded (I := fun u => Booked payload ticketId u.db)
    (fun _ _ _ booked kept step => booked_kept step kept booked) kept booked

theorem books_booked (step : Step runtime s a t) (books : BooksTicket ⟨s, a, t⟩ payload ticketId) :
    Booked payload ticketId t.db := by
  obtain ⟨i, outboxId, task, event, now, acting, found, code⟩ := books
  simp only at acting found
  subst acting
  obtain ⟨_, _, _, same, written⟩ := change_registered (step_db step) found code
  cases same
  exact registered_booked written

def RecordsTold (runtime : Runtime) (moves : List (Move (State Process P) (Action Process)))
    (s : State Process P) : Prop :=
  ∀ key record, s.db.idempotencyKeys.find? key = some record →
    ∃ since booking before writer ticketId, moves = since ++ booking :: before ∧
      BooksTicket booking writer ticketId ∧ writer.idempotencyKey = some key ∧
      record.requestHash = computeRequestHash runtime writer ∧ record.names = some ticketId.str

theorem recordsTold_step (told : RecordsTold runtime moves s) (step : Step runtime s a t) :
    RecordsTold runtime (⟨s, a, t⟩ :: moves) t := by
  intro key record found
  have earlier : s.db.idempotencyKeys.find? key = some record → ∃ since booking before writer
      ticketId, (⟨s, a, t⟩ :: moves : List (Move (State Process P) (Action Process))) =
        since ++ booking :: before ∧ BooksTicket booking writer ticketId ∧
      writer.idempotencyKey = some key ∧ record.requestHash = computeRequestHash runtime writer ∧
      record.names = some ticketId.str := by
    intro found
    obtain ⟨since, booking, before, writer, ticketId, rfl, rest⟩ := told key record found
    exact ⟨⟨s, a, t⟩ :: since, booking, before, writer, ticketId, rfl, rest⟩
  have change := step_db step
  generalize t.db = db at change found
  cases change with
  | unchanged | upserted | published | deleted | cancelled => exact earlier found
  | @registered i task payload event ticketId outboxId now _ here connected committing written =>
    cases keyed : payload.idempotencyKey with
    | none =>
      rw [written.unkeyed keyed] at found
      exact earlier found
    | some key' =>
      rw [Table.find?_inserted (written.keyed key' keyed)] at found
      split at found
      · rename_i same
        cases found
        have same : key' = key := same
        exact ⟨[], _, moves, payload, ticketId, rfl,
          ⟨i, outboxId, task, event, now, rfl, here, committing⟩, same ▸ keyed, rfl, rfl⟩
      · exact earlier found

theorem records_told (initial : (system Process runtime P).Initial s)
    (run : Run (system Process runtime P) s moves t) : RecordsTold runtime moves t := by
  induction run with
  | refl =>
    obtain ⟨_, _, empty, _⟩ := initial
    intro key record found
    rw [empty] at found
    cases found
  | move run step ih => exact recordsTold_step ih step

def Code.Fresh (db : Database) : Code → Prop
  | .register payload (.committed ticketId) => Booked payload ticketId db
  | _ => True

theorem resume_fresh {db : Database} {now : Instant} {cache cache' : SeatsCache}
    {code code' : Code} (resumed : code.resume runtime db now cache = some (code', cache')) :
    code'.Fresh db := by
  cases resume_cases resumed <;> trivial

theorem every_fresh (sequential : Sequential (⟨s, a, t⟩ : Move (State Process P) (Action Process)))
    (step : Step runtime s a t) (every : EveryCode (Code.Fresh s.db) s) :
    EveryCode (Code.Fresh t.db) t := by
  have still : EveryCode (Code.Fresh t.db) s := by
    intro i task found
    have fresh := every i task found
    unfold Code.Fresh at fresh ⊢
    split
    · rename_i own ticketId code
      rw [code] at fresh
      refine booked_kept step ?_ fresh
      rintro ⟨j, row, ⟨⟨outboxId, acting⟩, ⟨task', _, _, here, code'⟩, _⟩, _⟩
      have apart : i ≠ j := by
        rintro rfl
        cases found.symm.trans here
        cases code.symm.trans code'
      have ended := sequential j (congrArg Action.request acting) i apart task found
      rw [code] at ended
      cases ended
    · trivial
  apply every_code step still
  · intro job
    cases job with
    | register payload =>
      unfold Job.begin
      rcases beginRegister_cases payload with ⟨_, same⟩ | ⟨_, _, same⟩
      all_goals simp only [same]; trivial
    | unregister | seats => trivial
  · intro code code' own moved
    cases moved with
    | same => exact own
    | locked payload key => trivial
    | resumed unchanged resumed =>
      rw [unchanged]
      exact resume_fresh resumed
    | received asked handled received =>
      unfold Code.receive at received
      split at received <;> cases received <;> trivial
    | committed committing accepted =>
      unfold Code.commit at committing
      split at committing <;> cases committing
      case h_1 => exact registered_booked (commit_registration accepted)
      all_goals trivial
    | failed acting failed =>
      unfold Code.fail at failed
      split at failed <;> cases failed <;> trivial

theorem resume_returned {db : Database} {now : Instant} {cache cache' : SeatsCache}
    {code code' : Code} (resumed : code.resume runtime db now cache = some (code', cache'))
    (returned : code' = .register payload (.returned ticketId)) :
    code = .register payload (.committed ticketId) ∨ ∃ key record,
      code = .register payload (.getKey key) ∧ db.idempotencyKeys.find? key = some record ∧
        record.requestHash = computeRequestHash runtime payload ∧
        record.names.bind UUID.parse = some ticketId := by
  subst returned
  cases resume_cases resumed with
  | replayed found same parsed => exact Or.inr ⟨_, _, rfl, found, same, parsed⟩
  | booked => exact Or.inl rfl

theorem returns_from (step : Step runtime s a t) {i : Nat}
    (returns : Returns ⟨s, a, t⟩ i payload ticketId) : t.db = s.db ∧ ∃ task, s.tasks i = some task ∧
      (task.code = .register payload (.committed ticketId) ∨ ∃ key record,
        task.code = .register payload (.getKey key) ∧
          s.db.idempotencyKeys.find? key = some record ∧
          record.requestHash = computeRequestHash runtime payload ∧
          record.names.bind UUID.parse = some ticketId) := by
  obtain ⟨acting, next, there, code⟩ := returns
  simp only at acting there
  subst acting
  cases step with
  | @resume _ task code' cache found connected resumed =>
    refine ⟨rfl, task, found, resume_returned resumed ?_⟩
    have there : some { task with code := code' } = some next := by
      rw [← there, setTask_tasks, if_pos rfl]
    cases there
    exact code

theorem returned_ticket_live (initial : (system Process runtime P).Initial s)
    (run : Run (system Process runtime P) s moves t) (sequential : ∀ m ∈ moves, Sequential m) :
    ∀ later m earlier, moves = later ++ m :: earlier →
      ∀ i payload ticketId, Returns m i payload ticketId →
        Booked payload ticketId m.target.db ∨
          ReplaysLost runtime m earlier i payload ticketId := by
  rintro later m earlier rfl i payload ticketId returns
  obtain ⟨before, step, _⟩ := run.split
  obtain ⟨same, task, found, source⟩ := returns_from step returns
  rw [same]
  have idle : ∀ j, s.tasks j = none := initial.2.2.2.2.2.1
  have along : EveryCode (Code.Fresh m.source.db) m.source := by
    refine before.guarded (I := fun u => EveryCode (Code.Fresh u.db) u) (G := Sequential)
      (fun _ _ _ every guard step => every_fresh guard step every) ?_ (every_initial idle)
    exact fun n inside => sequential n (by simp [inside])
  have stored : EveryCode (Code.Stored m.source.db) m.source :=
    before.invariant (I := fun u => EveryCode (Code.Stored u.db) u)
      (fun _ _ _ every step => every_stored step every) (every_initial idle)
  rcases source with code | ⟨key, record, code, present, hash, parsed⟩
  · have fresh := along i task found
    rw [code] at fresh
    exact Or.inl fresh
  · obtain ⟨since, booking, first, writer, booked, rfl, books, keyed, hash', names⟩ :=
      records_told initial before key record present
    have own : payload.idempotencyKey = some key := by
      have own := stored i task found
      rw [code] at own
      exact own
    have agree : booked = ticketId := by
      rw [names, Option.bind_some, UUID.parse_str] at parsed
      exact Option.some.inj parsed
    subst agree
    obtain ⟨_, taken, after⟩ := before.split
    by_cases cancelled : ∃ n ∈ since, CancelsTicket n booked
    · exact Or.inr ⟨key, task, since, booking, first, writer, own, found, code, rfl, books, keyed,
        hash'.symm.trans hash, Or.inl cancelled⟩
    by_cases data : writer.SameData payload
    · have kept : ∀ n ∈ since, ¬ CancelsTicket n booked := fun n inside cancels =>
        cancelled ⟨n, inside, cancels⟩
      exact Or.inl (booked_same_data data (booked_along after kept (books_booked taken books)))
    · exact Or.inr ⟨key, task, since, booking, first, writer, own, found, code, rfl, books, keyed,
        hash'.symm.trans hash, Or.inr data⟩

section Sample

def Action.undisturbed : Action Process → Bool
  | .fail _ _ | .disconnect _ => false
  | _ => true

def Turn (i : Nat) (m : Move (State Process P) (Action Process)) : Prop :=
  m.action.request = some i ∧ m.action.undisturbed = true

theorem sequential_run (run : Run (system Process runtime P) s moves t) {i : Nat}
    (others : ∀ j, j ≠ i →
      s.tasks j = none ∨ ∃ task, s.tasks j = some task ∧ task.code.stage = 10)
    (own : ∀ m ∈ moves, m.action.request = some i) : ∀ m ∈ moves, Sequential m := by
  intro m member k acting j other task here
  cases acting.symm.trans (own m member)
  obtain ⟨later, earlier, rfl, before, _, _⟩ := run.cut member
  have kept := others_kept before (fun n inside k acting => by
    have mine := own n (by simp [inside])
    exact Option.some.inj (acting.symm.trans mine)) other
  rcases others j other with absent | ⟨task', found, ended⟩
  · cases (kept.trans absent).symm.trans here
  · cases (kept.trans found).symm.trans here
    exact ended

theorem turn_sequential (run : Run (system Process runtime P) s moves t) {i : Nat}
    (others : ∀ j, j ≠ i →
      s.tasks j = none ∨ ∃ task, s.tasks j = some task ∧ task.code.stage = 10)
    (turn : ∀ m ∈ moves, Turn i m) :
    ∀ m ∈ moves, Sequential m ∧ m.action.undisturbed = true := by
  intro m member
  have sequential := sequential_run run others (fun n inside => (turn n inside).1)
  exact ⟨sequential m member, (turn m member).2⟩

omit [DecidableEq Process] in
theorem unlocked_free {i : Nat} {key : String} (unlocked : ∀ j, j ≠ i →
      s.tasks j = none ∨ ∃ task, s.tasks j = some task ∧ task.lock = none) (j : Nat)
    (other : Task Process) (held : String) (apart : j ≠ i) (found : s.tasks j = some other)
    (locked : other.lock = some held) : runtime.hashtext held ≠ runtime.hashtext key := by
  rcases unlocked j apart with absent | ⟨task, here, free⟩
  · cases absent.symm.trans found
  · cases here.symm.trans found
    cases free.symm.trans locked

theorem sampleKey : ∀ key ∈ some "k", 1 ≤ key.length ∧ key.length ≤ 255 := by
  decide

/-- A registration returns, its ticket is cancelled, and the same request comes again. -/
theorem cancelled_ticket_replayed : ∃ before first later m u t,
    Run (system Unit sampleRuntime sampleProvider) (sampleState sampleProvider Registrations.empty)
      (first :: before) u ∧ Run (system Unit sampleRuntime sampleProvider) u (m :: later) t ∧
      (∀ n ∈ first :: before, Sequential n ∧ n.action.undisturbed = true) ∧
      (∀ n ∈ m :: later, Sequential n ∧ n.action.undisturbed = true) ∧
      Returns first 0 (samplePayload (some "k") sampleKey) ⟨1⟩ ∧
      (∃ task, first.source.tasks 0 = some task ∧
        task.code = .register (samplePayload (some "k") sampleKey) (.committed ⟨1⟩)) ∧
      Returns m 2 (samplePayload (some "k") sampleKey) ⟨1⟩ ∧
      ¬ Booked (samplePayload (some "k") sampleKey) ⟨1⟩ m.target.db := by
  have start := @Run.refl _ _ (system Unit sampleRuntime sampleProvider)
    (sampleState sampleProvider Registrations.empty)
  have requested := start.move (Step.start ()
    (.register (samplePayload (some "k") sampleKey)) (rfl : State.tasks _ 0 = none))
  have locked := requested.move (Step.lockKey (rfl : State.tasks _ 0 = some _) rfl rfl rfl
    (fun j _ _ other found => by simp [State.setTask, sampleState, other] at found))
  have unknown := locked.move (Step.resume (rfl : State.tasks _ 0 = some _) (fun _ => rfl) rfl)
  have checked := unknown.move (Step.resume (rfl : State.tasks _ 0 = some _) (fun _ => rfl) rfl)
  have seats := checked.move (Step.answer (rfl : State.tasks _ 0 = some _) rfl
    (sample_seats _ _ sample_empty) rfl)
  have free := seats.move (Step.resume (rfl : State.tasks _ 0 = some _) (fun _ => rfl) rfl)
  have granted := free.move (Step.answer (rfl : State.tasks _ 0 = some _) rfl
    (sample_granted (samplePayload (some "k") sampleKey) rfl) rfl)
  have staged := granted.move (Step.resume (rfl : State.tasks _ 0 = some _) (fun _ => rfl) rfl)
  have bought := staged.move (@Step.commit _ _ _ _ _ 0 _ _ ⟨100⟩ _ _ rfl rfl rfl rfl)
  have returned := bought.move (Step.resume (rfl : State.tasks _ 0 = some _) (fun _ => rfl) rfl)
  have cancelling := returned.restart.move
    (Step.start () (.unregister ⟨1⟩) (rfl : State.tasks _ 1 = none))
  have read := cancelling.move (Step.resume (rfl : State.tasks _ 1 = some _) (fun _ => rfl) rfl)
  have released := read.move (Step.answer (rfl : State.tasks _ 1 = some _) rfl
    (sample_cancelled _ _) rfl)
  have deleting := released.move (Step.resume (rfl : State.tasks _ 1 = some _) (fun _ => rfl) rfl)
  have deleted := deleting.move (@Step.commit _ _ _ _ _ 1 _ _ ⟨101⟩ _ _ rfl rfl rfl rfl)
  have cancelled := deleted.move (Step.resume (rfl : State.tasks _ 1 = some _) (fun _ => rfl) rfl)
  have again := cancelled.restart.move (Step.start ()
    (.register (samplePayload (some "k") sampleKey)) (rfl : State.tasks _ 2 = none))
  have relocked := again.move (Step.lockKey (rfl : State.tasks _ 2 = some _) rfl rfl rfl
    (unlocked_free fun j other => by
      rcases j with _ | _ | _ | j
      · exact Or.inr ⟨_, rfl, rfl⟩
      · exact Or.inr ⟨_, rfl, rfl⟩
      · exact absurd rfl other
      · exact Or.inl rfl))
  have replayed := relocked.move (Step.resume (rfl : State.tasks _ 2 = some _) (fun _ => rfl) rfl)
  have first := turn_sequential returned (i := 0) (fun _ _ => Or.inl rfl) (by
    repeat refine List.forall_mem_cons.mpr ⟨⟨rfl, rfl⟩, ?_⟩
    exact List.forall_mem_nil _)
  have second := turn_sequential cancelled (i := 1) (fun j other => by
    rcases j with _ | _ | j
    · exact Or.inr ⟨_, rfl, rfl⟩
    · exact absurd rfl other
    · exact Or.inl rfl) (by
    repeat refine List.forall_mem_cons.mpr ⟨⟨rfl, rfl⟩, ?_⟩
    exact List.forall_mem_nil _)
  have third := turn_sequential replayed (i := 2) (fun j other => by
    rcases j with _ | _ | _ | j
    · exact Or.inr ⟨_, rfl, rfl⟩
    · exact Or.inr ⟨_, rfl, rfl⟩
    · exact absurd rfl other
    · exact Or.inl rfl) (by
    repeat refine List.forall_mem_cons.mpr ⟨⟨rfl, rfl⟩, ?_⟩
    exact List.forall_mem_nil _)
  refine ⟨_, _, _, _, _, _, returned, cancelled.trans replayed, first,
    List.forall_mem_append.mpr ⟨third, second⟩, ⟨rfl, _, rfl, rfl⟩, ⟨_, rfl, rfl⟩,
    ⟨rfl, _, rfl, rfl⟩, ?_⟩
  rintro ⟨row, found, _⟩
  cases found

theorem replayed_ticket_dead : ¬ ∀ (s t : State Unit sampleProvider)
    (moves : List (Move (State Unit sampleProvider) (Action Unit))),
    (system Unit sampleRuntime sampleProvider).Initial s →
      Run (system Unit sampleRuntime sampleProvider) s moves t →
        (∀ m ∈ moves, Sequential m ∧ m.action.undisturbed = true) →
          ∀ m ∈ moves, ∀ i payload ticketId, Returns m i payload ticketId →
            Booked payload ticketId m.target.db := by
  intro live
  obtain ⟨before, first, later, m, u, t, run, onward, early, late, _, _, returns, dead⟩ :=
    cancelled_ticket_replayed
  have orderly := List.forall_mem_append.mpr ⟨late, early⟩
  exact dead (live _ t _ (sample_initial sample_empty) (run.trans onward) orderly m
    (List.mem_cons_self ..) 2 _ _ returns)

theorem returned_ticket_live_cancelled : ∃ before first later m t,
    Run (system Unit sampleRuntime sampleProvider) (sampleState sampleProvider Registrations.empty)
      (m :: later ++ first :: before) t ∧
      (∀ n ∈ m :: later ++ first :: before, Sequential n) ∧
      Returns first 0 (samplePayload (some "k") sampleKey) ⟨1⟩ ∧
      Booked (samplePayload (some "k") sampleKey) ⟨1⟩ first.target.db ∧
      Returns m 2 (samplePayload (some "k") sampleKey) ⟨1⟩ ∧
      ReplaysLost sampleRuntime m (later ++ first :: before) 2
        (samplePayload (some "k") sampleKey) ⟨1⟩ := by
  obtain ⟨before, first, later, m, u, t, run, onward, early, late, returned, ⟨task, here, code⟩,
    replayed, dead⟩ := cancelled_ticket_replayed
  have sequential : ∀ n ∈ m :: later ++ first :: before, Sequential n := fun n member =>
    (List.forall_mem_append.mpr ⟨late, early⟩ n member).1
  have live := returned_ticket_live (sample_initial sample_empty) (run.trans onward) sequential
  have booked := live (m :: later) first before rfl 0 _ _ returned
  have lost := live [] m (later ++ first :: before) rfl 2 _ _ replayed
  refine ⟨before, first, later, m, t, run.trans onward, sequential, returned,
    booked.resolve_right ?_, replayed, lost.resolve_left dead⟩
  rintro ⟨key, other, _, _, _, _, _, found, reading, _⟩
  cases here.symm.trans found
  cases code.symm.trans reading

end Sample

end EventsAggregator
