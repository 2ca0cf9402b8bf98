import EventsAggregator.Clients.SeatProvider
import EventsAggregator.Services.Progress

namespace EventsAggregator

open Relational Transition

variable {Process : Type} {P : Provider} [DecidableEq Process] {runtime : Runtime}
  {s t : State Process P} {a : Action Process}
  {moves : List (Move (State Process P) (Action Process))}

def Code.loaded? : Code → Option TicketORM
  | .unregister _ (.askUnregister ticket) | .unregister _ (.answered ticket _)
  | .unregister _ (.commitDelete ticket) | .unregister _ (.commitCancel ticket _ _) => some ticket
  | _ => none

def ReadsTicket (m : Move (State Process P) (Action Process)) (i : Nat) (row : TicketORM) : Prop :=
  m.action = .resume i ∧ ∃ task ticketId, m.source.tasks i = some task ∧
    task.code = .unregister ticketId .getTicket ∧ m.source.db.tickets.find? ticketId = some row

def DeletesTicket (m : Move (State Process P) (Action Process)) (i : Nat) (row : TicketORM) :
    Prop :=
  (∃ outboxId, m.action = .commit i outboxId) ∧
    (∃ task ticketId point, m.source.tasks i = some task ∧ task.code = .unregister ticketId point) ∧
    row ∈ m.source.db.tickets.rows ∧ row ∉ m.target.db.tickets.rows

def BooksTicket (m : Move (State Process P) (Action Process)) (payload : SEventRegistrationCreate)
    (ticketId : UUID) : Prop :=
  ∃ i outboxId task event now, m.action = .commit i outboxId ∧ m.source.tasks i = some task ∧
    task.code = .register payload (.commit event ticketId now)

/-- What a move deletes for an `unregister` is the row that this request read, and since then no
    `register` has committed that ticket id. -/
def DeletesWhatItRead (m : Move (State Process P) (Action Process))
    (earlier : List (Move (State Process P) (Action Process))) : Prop :=
  ∀ i row, DeletesTicket m i row → ∃ since read before, earlier = since ++ read :: before ∧
    ReadsTicket read i row ∧ ∀ n ∈ since, ∀ payload, ¬ BooksTicket n payload row.ticketId

/-- No `unregister` still has a row under the ticket id that a `register` commits. -/
def BooksUnread (m : Move (State Process P) (Action Process)) : Prop :=
  ∀ payload ticketId, BooksTicket m payload ticketId → ∀ j task ticket,
    m.source.tasks j = some task → task.code.loaded? = some ticket → ticket.ticketId ≠ ticketId

omit [DecidableEq Process] in
theorem idle_unread {m : Move (State Process P) (Action Process)}
    (idle : m.action.committing = none) : BooksUnread m := by
  rintro payload ticketId ⟨i, outboxId, _, _, _, acting, _⟩
  rw [acting] at idle
  cases idle

omit [DecidableEq Process] in
theorem cancelling_unread {m : Move (State Process P) (Action Process)} {i : Nat}
    {outboxId ticketId : UUID} {task : Task Process} {point : UnregisterPoint}
    (acting : m.action = .commit i outboxId) (found : m.source.tasks i = some task)
    (code : task.code = .unregister ticketId point) : BooksUnread m := by
  rintro payload ticketId ⟨i', _, task', _, _, acting', found', code'⟩
  cases acting.symm.trans acting'
  cases found.symm.trans found'
  cases code.symm.trans code'

omit [DecidableEq Process] in
theorem unloaded_unread {m : Move (State Process P) (Action Process)}
    (unloaded : ∀ j, m.source.tasks j = none ∨
      ∃ task, m.source.tasks j = some task ∧ task.code.loaded? = none) : BooksUnread m := by
  intro payload ticketId _ j task ticket here loaded
  rcases unloaded j with absent | ⟨task', found, none⟩
  · cases absent.symm.trans here
  · cases found.symm.trans here
    cases none.symm.trans loaded

theorem resume_loaded {db : Database} {now : Instant} {cache cache' : SeatsCache}
    {code code' : Code} {ticket : TicketORM}
    (resumed : code.resume runtime db now cache = some (code', cache'))
    (loaded : code'.loaded? = some ticket) : code.loaded? = some ticket ∨
      ∃ ticketId, code = .unregister ticketId .getTicket ∧
        db.tickets.find? ticketId = some ticket := by
  cases resume_cases resumed with
  | @known ticketId row found =>
    cases loaded
    exact Or.inr ⟨ticketId, rfl, found⟩
  | released | lost => exact Or.inl loaded
  | _ => cases loaded

theorem receive_loaded {code code' : Code} {answer : ProviderAnswer}
    (received : code.receive answer = some code') : code'.loaded? = code.loaded? := by
  unfold Code.receive at received
  split at received <;> cases received <;> rfl

theorem commit_loaded {code code' : Code} {outboxId : UUID} {session : Session}
    (committing : code.commit runtime outboxId = some (session, code')) :
    code'.loaded? = none := by
  unfold Code.commit at committing
  split at committing <;> cases committing <;> rfl

theorem fail_loaded {code code' : Code} {error : Raised} (failed : code.fail error = some code') :
    code'.loaded? = none := by
  unfold Code.fail at failed
  split at failed <;> cases failed <;> rfl

def Loaded (s : State Process P) (j : Nat) (ticket : TicketORM) : Prop :=
  ∃ task, s.tasks j = some task ∧ task.code.loaded? = some ticket

omit [DecidableEq Process] in
theorem loaded_turn {i j : Nat} {task : Task Process} {ticket : TicketORM}
    (target : t.tasks = (s.setTask i task).tasks) (loaded : Loaded t j ticket) :
    j ≠ i ∧ Loaded s j ticket ∨ j = i ∧ task.code.loaded? = some ticket := by
  obtain ⟨next, there, carried⟩ := loaded
  rw [target, setTask_tasks] at there
  by_cases same : j = i
  · rw [if_pos same] at there
    cases there
    exact Or.inr ⟨same, carried⟩
  · rw [if_neg same] at there
    exact Or.inl ⟨same, next, there, carried⟩

theorem begin_loaded (job : Job) : job.begin.loaded? = none := by
  cases job <;> rfl

theorem step_loaded (step : Step runtime s a t) {j : Nat} {ticket : TicketORM}
    (loaded : Loaded t j ticket) : Loaded s j ticket ∨ ReadsTicket ⟨s, a, t⟩ j ticket := by
  cases step with
  | late | tick | evict | upsert | publish => exact Or.inl loaded
  | @start i process job fresh =>
    rcases loaded_turn rfl loaded with ⟨_, before⟩ | ⟨_, carried⟩
    · exact Or.inl before
    · rw [begin_loaded] at carried
      cases carried
  | @lockKey i task payload key found connected waiting clean free =>
    rcases loaded_turn rfl loaded with ⟨_, before⟩ | ⟨_, carried⟩
    · exact Or.inl before
    · cases carried
  | @resume i task code cache found connected resumed =>
    rcases loaded_turn rfl loaded with ⟨_, before⟩ | ⟨rfl, carried⟩
    · exact Or.inl before
    · rcases resume_loaded resumed carried with before | ⟨ticketId, code, row⟩
      · exact Or.inl ⟨task, found, before⟩
      · exact Or.inr ⟨rfl, task, ticketId, found, code, row⟩
  | @answer i task code call answer provider found asked handled received =>
    rcases loaded_turn rfl loaded with ⟨_, before⟩ | ⟨rfl, carried⟩
    · exact Or.inl before
    · exact Or.inl ⟨task, found, (receive_loaded received).symm.trans carried⟩
  | @commit i task code outboxId session db found connected committing accepted =>
    rcases loaded_turn rfl loaded with ⟨_, before⟩ | ⟨_, carried⟩
    · exact Or.inl before
    · rw [commit_loaded committing] at carried
      cases carried
  | @fail i task code error found failed =>
    rcases loaded_turn rfl loaded with ⟨_, before⟩ | ⟨_, carried⟩
    · exact Or.inl before
    · rw [fail_loaded failed] at carried
      cases carried
  | @disconnect i task found =>
    rcases loaded_turn rfl loaded with ⟨_, before⟩ | ⟨rfl, carried⟩
    · exact Or.inl before
    · exact Or.inl ⟨task, found, carried⟩

structure StillIts (moves : List (Move (State Process P) (Action Process)))
    (s : State Process P) (i : Nat) (ticket : TicketORM) : Prop where
  read : ∃ since read before, moves = since ++ read :: before ∧ ReadsTicket read i ticket ∧
    ∀ n ∈ since, ∀ payload, ¬ BooksTicket n payload ticket.ticketId
  only : ∀ row, s.db.tickets.find? ticket.ticketId = some row → row = ticket

omit [DecidableEq Process] in
theorem change_row {db : Database} (change : DbChange runtime s a db) {ticketId : UUID}
    {row : TicketORM} (found : db.tickets.find? ticketId = some row) :
    s.db.tickets.find? ticketId = some row ∨ ∃ payload, BooksTicket ⟨s, a, t⟩ payload ticketId := by
  have erased : ∀ other, (s.db.tickets.erase other).find? ticketId = some row →
      s.db.tickets.find? ticketId = some row := by
    intro other found
    obtain ⟨member, key⟩ := (Table.find?_eq_some _ _ _).mp found
    exact (Table.find?_eq_some _ _ _).mpr ⟨((s.db.tickets.mem_erase other row).mp member).1, key⟩
  cases change with
  | unchanged | upserted | published => exact Or.inl found
  | deleted => exact Or.inl (erased _ found)
  | cancelled => exact Or.inl (erased _ found)
  | @registered i task payload event booked outboxId now db here connected committing written =>
    rw [Table.find?_inserted written.ticket] at found
    by_cases same : booked = ticketId
    · subst same
      exact Or.inr ⟨payload, i, outboxId, task, event, now, rfl, here, committing⟩
    · exact Or.inl ((if_neg same).symm.trans found)

theorem stillIts_step (unread : BooksUnread (⟨s, a, t⟩ : Move (State Process P) (Action Process)))
    (its : ∀ i ticket, Loaded s i ticket → StillIts moves s i ticket)
    (step : Step runtime s a t) {i : Nat} {ticket : TicketORM} (loaded : Loaded t i ticket) :
    StillIts (⟨s, a, t⟩ :: moves) t i ticket := by
  rcases step_loaded step loaded with before | reads
  · obtain ⟨⟨since, read, earlier, rfl, reads, unbooked⟩, only⟩ := its i ticket before
    have apart : ∀ payload, ¬ BooksTicket ⟨s, a, t⟩ payload ticket.ticketId := by
      intro payload books
      obtain ⟨task, found, carried⟩ := before
      exact unread payload ticket.ticketId books i task ticket found carried rfl
    constructor
    · refine ⟨⟨s, a, t⟩ :: since, read, earlier, rfl, reads, ?_⟩
      exact List.forall_mem_cons.mpr ⟨apart, unbooked⟩
    · intro row found
      rcases @change_row _ _ _ _ t _ _ (step_db step) _ _ found with still | ⟨payload, books⟩
      · exact only row still
      · exact absurd books (apart payload)
  · refine ⟨⟨[], ⟨s, a, t⟩, moves, rfl, reads, List.forall_mem_nil _⟩, ?_⟩
    obtain ⟨acting, task, ticketId, _, _, found⟩ := reads
    have same : t.db = s.db := by
      apply change_idle (step_db step) (congrArg Action.request acting)
      intro outboxId committing
      cases acting.symm.trans committing
    intro row there
    obtain ⟨_, key⟩ := (Table.find?_eq_some _ _ _).mp found
    rw [key, same] at there
    exact Option.some.inj (there.symm.trans found)

theorem stillIts_run (initial : (system Process runtime P).Initial s)
    (run : Run (system Process runtime P) s moves t) (unread : ∀ m ∈ moves, BooksUnread m) :
    ∀ i ticket, Loaded t i ticket → StillIts moves t i ticket := by
  induction run with
  | refl =>
    rintro i ticket ⟨task, found, _⟩
    obtain ⟨_, _, _, _, _, idle, _⟩ := initial
    rw [idle i] at found
    cases found
  | move run step ih =>
    obtain ⟨last, rest⟩ := List.forall_mem_cons.mp unread
    exact fun i ticket => stillIts_step last (ih rest) step

theorem deletes_loaded (step : Step runtime s a t) {i : Nat} {row : TicketORM}
    (deletes : DeletesTicket ⟨s, a, t⟩ i row) : ∃ ticket, Loaded s i ticket ∧
      ticket.ticketId = row.ticketId := by
  obtain ⟨⟨outboxId, acting⟩, ⟨task, ticketId, point, found, code⟩, present, gone⟩ := deletes
  simp only at acting found present gone
  subst acting
  have erased : ∀ ticket : TicketORM, row ∉ (s.db.tickets.erase ticket.ticketId).rows →
      ticket.ticketId = row.ticketId := by
    intro ticket gone
    by_contra other
    exact gone ((s.db.tickets.mem_erase _ row).mpr ⟨present, fun same => other same.symm⟩)
  have change := step_db step
  generalize t.db = db at change gone
  cases change with
  | unchanged idle => exact absurd rfl (idle i outboxId)
  | registered here connected committing written =>
    cases found.symm.trans here
    cases code.symm.trans committing
  | @deleted _ task' _ _ ticket here committing =>
    exact ⟨ticket, ⟨task', here, by rw [committing]; rfl⟩, erased ticket gone⟩
  | @cancelled _ task' _ _ ticket _ _ _ here committing inserted =>
    exact ⟨ticket, ⟨task', here, by rw [committing]; rfl⟩, erased ticket gone⟩

theorem deletes_what_it_read (initial : (system Process runtime P).Initial s)
    (run : Run (system Process runtime P) s moves t) (unread : ∀ m ∈ moves, BooksUnread m) :
    ∀ later m earlier, moves = later ++ m :: earlier → DeletesWhatItRead m earlier := by
  rintro later m earlier rfl i row deletes
  obtain ⟨before, step, _⟩ := run.split
  obtain ⟨ticket, loaded, same⟩ := deletes_loaded step deletes
  have its := stillIts_run initial before (fun n inside => unread n (by simp [inside])) i ticket
    loaded
  obtain ⟨_, _, present, _⟩ := deletes
  have there : m.source.db.tickets.find? ticket.ticketId = some row :=
    (Table.find?_eq_some _ _ _).mpr ⟨present, same.symm⟩
  cases its.only row there
  exact its.read

theorem reads_stage (step : Step runtime s a t) {i : Nat} {row : TicketORM}
    (reads : ReadsTicket ⟨s, a, t⟩ i row) : s.stage i = 3 ∧ 6 ≤ t.stage i := by
  obtain ⟨acting, task, ticketId, found, code, present⟩ := reads
  simp only at acting found present
  subst acting
  cases step with
  | resume here connected resumed =>
    cases found.symm.trans here
    rw [code] at resumed
    simp only [Code.resume, present, checkTicket, Option.some.injEq, Prod.mk.injEq] at resumed
    obtain ⟨rfl, _⟩ := resumed
    constructor
    · simp [State.stage, found, code, Code.stage, UnregisterPoint.stage]
    · simp [State.stage, setTask_tasks, Code.stage, UnregisterPoint.stage]

theorem read_before {read read' : Move (State Process P) (Action Process)} {i : Nat}
    {row row' : TicketORM} {later earlier : List (Move (State Process P) (Action Process))}
    (run : Run (system Process runtime P) s (later ++ read :: earlier) t)
    (reads : ReadsTicket read i row) (reads' : ReadsTicket read' i row') : read' ∉ later := by
  intro inside
  obtain ⟨_, step, after⟩ := run.split
  obtain ⟨_, _, rfl, between, step', _⟩ := after.cut inside
  have far := between.monotone fun u a v taken => step_stage taken i
  have stages := reads_stage step reads
  have stages' := reads_stage step' reads'
  omega

theorem reads_once {read read' : Move (State Process P) (Action Process)} {i : Nat}
    {row row' : TicketORM} (run : Run (system Process runtime P) s moves t) (member : read ∈ moves)
    (member' : read' ∈ moves) (reads : ReadsTicket read i row) (reads' : ReadsTicket read' i row') :
    row = row' := by
  obtain ⟨later, earlier, rfl⟩ := List.append_of_mem member
  rcases List.mem_append.mp member' with inside | inside
  · exact absurd inside (read_before run reads reads')
  rcases List.mem_cons.mp inside with rfl | inside
  · obtain ⟨_, task, ticketId, found, code, present⟩ := reads
    obtain ⟨_, task', ticketId', found', code', present'⟩ := reads'
    cases found.symm.trans found'
    cases code.symm.trans code'
    exact Option.some.inj (present.symm.trans present')
  · obtain ⟨middle, first, rfl⟩ := List.append_of_mem inside
    have regrouped : later ++ read :: (middle ++ read' :: first) =
        (later ++ read :: middle) ++ read' :: first := by simp
    rw [regrouped] at run
    exact absurd (by simp) (read_before run reads' reads)

section Sample

abbrev sampleProvider : Provider := seatIdProvider oneSeat fun eventId _ => eventId

theorem otherNameLength : 1 ≤ ("Petr" : String).length ∧ ("Petr" : String).length ≤ 100 := by
  decide

def otherPayload : SEventRegistrationCreate :=
  { samplePayload none unkeyed with firstName := "Petr", firstNameLength := otherNameLength }

theorem sample_empty : sampleProvider.Initial Registrations.empty :=
  List.forall_mem_nil _

theorem sample_granted (payload : SEventRegistrationCreate) (seat : payload.seat = "A1") :
    sampleProvider.Handles Registrations.empty (.register payload.eventId payload.toProvider)
      (.registration (.ok payload.eventId))
      (Registrations.single ⟨payload.eventId, payload.eventId, payload.toProvider⟩) :=
  ⟨Or.inl (single_granted seat), by
    intro r member
    cases List.mem_singleton.mp member
    rfl⟩

theorem sample_seats (held : Registrations) (eventId : UUID)
    (ids : ∀ r ∈ held.held, r.ticketId = r.eventId) : sampleProvider.Handles held (.seats eventId)
      (.seats (.ok (held.free oneSeat eventId))) held :=
  ⟨Or.inl (.seats eventId), ids⟩

theorem sample_cancelled (registration : Registration) (eventId : UUID) :
    sampleProvider.Handles (Registrations.single registration)
      (.unregister eventId registration.ticketId) (.cancellation (.ok true))
      Registrations.empty :=
  ⟨Or.inl single_answered, sample_empty⟩

/-- The first `unregister` has read the row when a second one cancels the registration and another
    person books the freed seat: the first one then deletes the other person's row. -/
theorem other_row_deleted : ∃ s t moves m i row,
    (system Unit sampleRuntime sampleProvider).Initial s ∧
      Run (system Unit sampleRuntime sampleProvider) s (m :: moves) t ∧
      DeletesTicket m i row ∧ ¬ DeletesWhatItRead m moves := by
  have start := @Run.refl _ _ (system Unit sampleRuntime sampleProvider)
    (sampleState sampleProvider Registrations.empty)
  have requested := start.move
    (Step.start () (.register (samplePayload none unkeyed)) (rfl : State.tasks _ 0 = none))
  have checked := requested.move (Step.resume (rfl : State.tasks _ 0 = some _) (fun _ => rfl) rfl)
  have seats := checked.move (Step.answer (rfl : State.tasks _ 0 = some _) rfl
    (sample_seats _ _ sample_empty) rfl)
  have free := seats.move (Step.resume (rfl : State.tasks _ 0 = some _) (fun _ => rfl) rfl)
  have granted := free.move (Step.answer (rfl : State.tasks _ 0 = some _) rfl
    (sample_granted (samplePayload none unkeyed) rfl) rfl)
  have staged := granted.move (Step.resume (rfl : State.tasks _ 0 = some _) (fun _ => rfl) rfl)
  have bought := staged.move (@Step.commit _ _ _ _ _ 0 _ _ ⟨100⟩ _ _ rfl rfl rfl rfl)
  have cancelling := bought.move
    (Step.start () (.unregister ⟨1⟩) (rfl : State.tasks _ 1 = none))
  have read := cancelling.move (Step.resume (rfl : State.tasks _ 1 = some _) (fun _ => rfl) rfl)
  have again := read.restart.move
    (Step.start () (.unregister ⟨1⟩) (rfl : State.tasks _ 2 = none))
  have readAgain := again.move (Step.resume (rfl : State.tasks _ 2 = some _) (fun _ => rfl) rfl)
  have released := readAgain.move (Step.answer (rfl : State.tasks _ 2 = some _) rfl
    (sample_cancelled _ _) rfl)
  have deleting := released.move (Step.resume (rfl : State.tasks _ 2 = some _) (fun _ => rfl) rfl)
  have deleted := deleting.move (@Step.commit _ _ _ _ _ 2 _ _ ⟨101⟩ _ _ rfl rfl rfl rfl)
  have other := deleted.move
    (Step.start () (.register otherPayload) (rfl : State.tasks _ 3 = none))
  have cached := other.move (Step.resume (rfl : State.tasks _ 3 = some _) (fun _ => rfl) rfl)
  have regranted := cached.move (Step.answer (rfl : State.tasks _ 3 = some _) rfl
    (sample_granted otherPayload rfl) rfl)
  have restaged := regranted.move
    (Step.resume (rfl : State.tasks _ 3 = some _) (fun _ => rfl) rfl)
  have rebought := restaged.move (@Step.commit _ _ _ _ _ 3 _ _ ⟨102⟩ _ _ rfl rfl rfl rfl)
  have answered := rebought.move (Step.answer (rfl : State.tasks _ 1 = some _) rfl
    (sample_cancelled _ _) rfl)
  have last := answered.move (Step.resume (rfl : State.tasks _ 1 = some _) (fun _ => rfl) rfl)
  have gone := last.move (@Step.commit _ _ _ _ _ 1 _ _ ⟨103⟩ _ _ rfl rfl rfl rfl)
  have run := read.trans gone
  have initial : (system Unit sampleRuntime sampleProvider).Initial
      (sampleState sampleProvider Registrations.empty) :=
    sample_initial sample_empty
  refine ⟨_, _, _, _, 1, purchasedTicket otherPayload ⟨1⟩ 0, initial, run,
    ⟨⟨_, rfl⟩, ⟨_, _, _, rfl, rfl⟩, by decide, by decide⟩, ?_⟩
  intro kept
  obtain ⟨since, read', before, split, reads, _⟩ := kept 1 (purchasedTicket otherPayload ⟨1⟩ 0)
    ⟨⟨_, rfl⟩, ⟨_, _, _, rfl, rfl⟩, by decide, by decide⟩
  have inside : read' ∈ since ++ read' :: before := by simp
  rw [← split] at inside
  have own := reads_once run (List.mem_cons_of_mem _ inside)
    (List.mem_append_right _ (List.mem_cons_self ..)) reads ⟨rfl, _, _, rfl, rfl, rfl⟩
  exact absurd own (by decide)

theorem another_row_deleted : ¬ ∀ (s t : State Unit sampleProvider)
    (moves : List (Move (State Unit sampleProvider) (Action Unit))),
    (system Unit sampleRuntime sampleProvider).Initial s →
      Run (system Unit sampleRuntime sampleProvider) s moves t →
        ∀ later m earlier, moves = later ++ m :: earlier → DeletesWhatItRead m earlier := by
  intro spared
  obtain ⟨s, t, moves, m, i, row, initial, run, _, other⟩ := other_row_deleted
  exact other (spared s t _ initial run [] m moves rfl)

theorem own_row_deleted : ∃ t moves m row,
    Run (system Unit sampleRuntime sampleProvider) (sampleState sampleProvider Registrations.empty)
      (m :: moves) t ∧ (∀ n ∈ m :: moves, BooksUnread n) ∧ DeletesTicket m 1 row ∧
      DeletesWhatItRead m moves := by
  have start := @Run.refl _ _ (system Unit sampleRuntime sampleProvider)
    (sampleState sampleProvider Registrations.empty)
  have requested := start.move
    (Step.start () (.register (samplePayload none unkeyed)) (rfl : State.tasks _ 0 = none))
  have checked := requested.move (Step.resume (rfl : State.tasks _ 0 = some _) (fun _ => rfl) rfl)
  have seats := checked.move (Step.answer (rfl : State.tasks _ 0 = some _) rfl
    (sample_seats _ _ sample_empty) rfl)
  have free := seats.move (Step.resume (rfl : State.tasks _ 0 = some _) (fun _ => rfl) rfl)
  have granted := free.move (Step.answer (rfl : State.tasks _ 0 = some _) rfl
    (sample_granted (samplePayload none unkeyed) rfl) rfl)
  have staged := granted.move (Step.resume (rfl : State.tasks _ 0 = some _) (fun _ => rfl) rfl)
  have bought := staged.move (@Step.commit _ _ _ _ _ 0 _ _ ⟨100⟩ _ _ rfl rfl rfl rfl)
  have cancelling := bought.move
    (Step.start () (.unregister ⟨1⟩) (rfl : State.tasks _ 1 = none))
  have read := cancelling.move (Step.resume (rfl : State.tasks _ 1 = some _) (fun _ => rfl) rfl)
  have released := read.move (Step.answer (rfl : State.tasks _ 1 = some _) rfl
    (sample_cancelled _ _) rfl)
  have deleting := released.move (Step.resume (rfl : State.tasks _ 1 = some _) (fun _ => rfl) rfl)
  have deleted := deleting.move (@Step.commit _ _ _ _ _ 1 _ _ ⟨101⟩ _ _ rfl rfl rfl rfl)
  suffices unread : _ from
    ⟨_, _, _, purchasedTicket (samplePayload none unkeyed) ⟨1⟩ 0, deleted, unread,
      ⟨⟨_, rfl⟩, ⟨_, _, _, rfl, rfl⟩, by decide, by decide⟩,
      deletes_what_it_read (sample_initial sample_empty) deleted unread [] _ _ rfl⟩
  refine List.forall_mem_cons.mpr ⟨cancelling_unread rfl rfl rfl, ?_⟩
  repeat refine List.forall_mem_cons.mpr ⟨idle_unread rfl, ?_⟩
  refine List.forall_mem_cons.mpr ⟨unloaded_unread fun j => ?_, ?_⟩
  · rcases j with _ | j
    · exact Or.inr ⟨_, rfl, rfl⟩
    · exact Or.inl rfl
  repeat refine List.forall_mem_cons.mpr ⟨idle_unread rfl, ?_⟩
  exact List.forall_mem_nil _

end Sample

end EventsAggregator
