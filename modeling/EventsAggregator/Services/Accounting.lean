import EventsAggregator.Services.Effects

namespace EventsAggregator

open Relational Transition

def Database.ticketCount (db : Database) : Nat := db.tickets.rows.length

def Database.countByType (db : Database) (eventType : OutboxEventType) : Nat :=
  db.outbox.rows.countP (·.eventType = eventType)

def Database.Balanced (db : Database) : Prop :=
  db.countByType .ticketPurchased = db.ticketCount + db.countByType .ticketCancelled

instance (db : Database) : Decidable db.Balanced :=
  inferInstanceAs (Decidable (_ = _))

def Database.cancellationsOf (db : Database) (ticketId : UUID) : Nat :=
  db.outbox.rows.countP fun row =>
    row.eventType = .ticketCancelled ∧ row.payload.lookup "ticket_id" = some ticketId.str

variable {Process : Type} {P : Provider} [DecidableEq Process] {runtime : Runtime}

/-- A move records every ticket it deletes by one cancellation of that ticket, and no other. -/
def RecordsDeletions (m : Move (State Process P) (Action Process)) : Prop :=
  ∀ ticketId, m.target.db.cancellationsOf ticketId = m.source.db.cancellationsOf ticketId +
    if (m.source.db.tickets.find? ticketId).isSome ∧ m.target.db.tickets.find? ticketId = none
    then 1 else 0

/-- The commit of `unregister` finds the ticket row exactly when it also adds a cancellation. -/
def CommitMatchesRow (m : Move (State Process P) (Action Process)) : Prop :=
  ∀ i outboxId task ticketId ticket, m.action = .commit i outboxId →
    m.source.tasks i = some task →
    (task.code = .unregister ticketId (.commitDelete ticket) →
      m.source.db.tickets.find? ticketId = none) ∧
    (∀ success now, task.code = .unregister ticketId (.commitCancel ticket success now) →
      (m.source.db.tickets.find? ticketId).isSome)

def Code.OwnTicket : Code → Prop
  | .unregister ticketId point => ∀ ticket, point.ticket? = some ticket → ticket.ticketId = ticketId
  | _ => True

theorem resume_own {db : Database} {now : Instant} {cache cache' : SeatsCache} {code code' : Code}
    (own : code.OwnTicket) (resumed : code.resume runtime db now cache = some (code', cache')) :
    code'.OwnTicket := by
  cases resume_cases resumed with
  | @known ticketId ticket found =>
    intro other carried
    cases carried
    exact ((db.tickets.find?_eq_some ticketId ticket).mp found).2
  | released | lost =>
    intro other carried
    cases carried
    exact own _ rfl
  | _ => simp [Code.OwnTicket, UnregisterPoint.ticket?]

theorem every_own {s t : State Process P} {a : Action Process} (step : Step runtime s a t)
    (every : EveryCode Code.OwnTicket s) : EveryCode Code.OwnTicket t := by
  apply every_code step every
  · intro job
    cases job <;> simp [Job.begin, Code.OwnTicket, UnregisterPoint.ticket?]
  · intro code code' own moved
    cases moved with
    | same => exact own
    | locked payload key => trivial
    | resumed unchanged resumed => exact resume_own own resumed
    | received asked handled received =>
      unfold Code.receive at received
      split at received <;> cases received
      all_goals simp_all [Code.OwnTicket, UnregisterPoint.ticket?]
    | committed committing accepted =>
      unfold Code.commit at committing
      split at committing <;> cases committing
      all_goals simp_all [Code.OwnTicket, UnregisterPoint.ticket?]
    | failed acting failed =>
      unfold Code.fail at failed
      split at failed <;> cases failed
      all_goals simp [Code.OwnTicket, UnregisterPoint.ticket?]

variable {s t : State Process P} {a : Action Process} {db : Database}

omit [DecidableEq Process] in
theorem own_ticket (own : EveryCode Code.OwnTicket s) {i : Nat} {task : Task Process}
    {ticketId : UUID} {point : UnregisterPoint} {ticket : TicketORM}
    (found : s.tasks i = some task) (code : task.code = .unregister ticketId point)
    (carried : point.ticket? = some ticket) : ticket.ticketId = ticketId := by
  have here := own i task found
  rw [code] at here
  exact here ticket carried

omit [DecidableEq Process] in
theorem change_balanced (own : EveryCode Code.OwnTicket s) (balanced : s.db.Balanced)
    (change : DbChange runtime s a db) : db.Balanced ↔ CommitMatchesRow ⟨s, a, t⟩ := by
  unfold Database.Balanced Database.ticketCount Database.countByType at balanced ⊢
  cases change with
  | unchanged idle =>
    refine ⟨fun _ i outboxId _ _ _ commit => absurd commit (idle i outboxId), fun _ => balanced⟩
  | upserted event => exact ⟨fun _ i outboxId _ _ _ commit => (nomatch commit), fun _ => balanced⟩
  | published id mark =>
    refine ⟨fun _ i outboxId _ _ _ commit => (nomatch commit), fun _ => ?_⟩
    rw [countP_publish, countP_publish]
    · exact balanced
    · intro row; rfl
    · intro row; rfl
  | registered found connected committing written =>
    constructor
    · rintro _ i outboxId task ticketId ticket ⟨⟩ here
      cases found.symm.trans here
      simp [committing]
    · intro _
      have rows := ((Table.insert?_eq_some _ _ _).mp written.ticket).2
      rw [Table.countP_inserted _ written.outbox, Table.countP_inserted _ written.outbox, rows]
      simp [purchasedRow]
      omega
  | @deleted i task ticketId outboxId ticket found committing =>
    have same : ticket.ticketId = ticketId := own_ticket own found committing rfl
    constructor
    · rintro after i outboxId task' ticketId' ticket' ⟨⟩ here
      cases found.symm.trans here
      refine ⟨fun code => ?_, fun success now code => by simp [committing] at code⟩
      cases committing.symm.trans code
      cases gone : s.db.tickets.find? ticketId with
      | none => rfl
      | some row =>
        have shorter := s.db.tickets.length_erase (k := ticketId) (by simp [gone])
        rw [same] at after
        simp only at after
        omega
    · intro guard
      have gone := (guard i outboxId task ticketId ticket rfl found).1 committing
      simpa only [same, Table.erase_absent _ gone] using balanced
  | @cancelled i task ticketId outboxId ticket success now outbox found committing inserted =>
    have same : ticket.ticketId = ticketId := own_ticket own found committing rfl
    rw [Table.countP_inserted _ inserted, Table.countP_inserted _ inserted]
    simp only [cancelledRow, same]
    constructor
    · rintro after i outboxId task' ticketId' ticket' ⟨⟩ here
      cases found.symm.trans here
      refine ⟨fun code => by simp [committing] at code, fun success now code => ?_⟩
      cases committing.symm.trans code
      cases gone : s.db.tickets.find? ticketId with
      | some row => rfl
      | none =>
        rw [Table.erase_absent _ gone] at after
        simp at after
        omega
    · intro guard
      have present := (guard i outboxId task ticketId ticket rfl found).2 success now committing
      have shorter := s.db.tickets.length_erase present
      simp
      omega

omit [DecidableEq Process] in
theorem change_records (own : EveryCode Code.OwnTicket s) (change : DbChange runtime s a t.db)
    (guard : CommitMatchesRow ⟨s, a, t⟩) : RecordsDeletions ⟨s, a, t⟩ := by
  intro ticketId
  unfold Database.cancellationsOf
  generalize t.db = db at change ⊢
  cases change with
  | unchanged idle => cases s.db.tickets.find? ticketId <;> simp
  | upserted event =>
    cases same : s.db.tickets.find? ticketId <;> simp [Database.upsertEvent, same]
  | published id mark =>
    rw [countP_publish]
    · cases same : s.db.tickets.find? ticketId <;> simp [Database.publish, same]
    · intro row; rfl
  | registered found connected committing written =>
    rw [Table.countP_inserted _ written.outbox]
    cases before : s.db.tickets.find? ticketId with
    | none => simp [purchasedRow]
    | some row => simp [purchasedRow, Table.find?_kept written.ticket before]
  | @deleted i task own' outboxId ticket found committing =>
    have same : ticket.ticketId = own' := own_ticket own found committing rfl
    have gone := (guard i outboxId task own' ticket rfl found).1 committing
    rw [same, Table.erase_absent _ gone]
    cases s.db.tickets.find? ticketId <;> simp
  | @cancelled i task own' outboxId ticket success now outbox found committing inserted =>
    have same : ticket.ticketId = own' := own_ticket own found committing rfl
    have present := (guard i outboxId task own' ticket rfl found).2 success now committing
    rw [Table.countP_inserted _ inserted, same]
    by_cases here : ticketId = own'
    · subst here
      simp [cancelledRow, cancelledPayload, present, Table.find?_erase]
    · have apart : own'.str ≠ ticketId.str := fun eq => here (UUID.str_injective eq).symm
      rw [Table.find?_erase_of_ne _ here]
      cases s.db.tickets.find? ticketId <;> simp [cancelledRow, cancelledPayload, apart]

theorem initial_balanced (initial : (system Process runtime P).Initial s) : s.db.Balanced := by
  obtain ⟨tickets, outbox, -⟩ := initial
  simp [Database.Balanced, Database.ticketCount, Database.countByType, tickets, outbox]

/-- The books of a run: balanced wherever it has been, every deletion recorded once. -/
def BooksKept (moves : List (Move (State Process P) (Action Process))) (t : State Process P) :
    Prop :=
  t.db.Balanced ∧ ∀ m ∈ moves, m.source.db.Balanced ∧ RecordsDeletions m

theorem books_kept_iff {moves : List (Move (State Process P) (Action Process))}
    (initial : (system Process runtime P).Initial s)
    (run : Run (system Process runtime P) s moves t) :
    BooksKept moves t ↔ ∀ m ∈ moves, CommitMatchesRow m := by
  have own : EveryCode Code.OwnTicket s := by
    obtain ⟨-, -, -, -, -, idle, -⟩ := initial
    exact every_initial idle
  have balanced := initial_balanced initial
  have both : EveryCode Code.OwnTicket t ∧
      (BooksKept moves t ↔ ∀ m ∈ moves, CommitMatchesRow m) := by
    induction run with
    | refl => exact ⟨own, by simp [BooksKept, balanced]⟩
    | @move moves t u a run step ih =>
      obtain ⟨owned, books⟩ := ih
      refine ⟨every_own step owned, ?_⟩
      have change := step_db step
      constructor
      · rintro ⟨after, kept⟩
        obtain ⟨⟨before, _⟩, rest⟩ := List.forall_mem_cons.mp kept
        have guard : CommitMatchesRow ⟨t, a, u⟩ := (change_balanced owned before change).mp after
        exact List.forall_mem_cons.mpr ⟨guard, books.mp ⟨before, rest⟩⟩
      · intro guards
        obtain ⟨guard, rest⟩ := List.forall_mem_cons.mp guards
        obtain ⟨before, kept⟩ := books.mpr rest
        exact ⟨(change_balanced owned before change).mpr guard,
          List.forall_mem_cons.mpr ⟨⟨before, change_records owned change guard⟩, kept⟩⟩
  exact both.2

/-- A ticket is bought, and its `unregister` is answered 404: the row goes and nothing tells. -/
theorem unrecorded_deletion : ∃ moves t,
    Run (system Unit sampleRuntime anyProvider) (sampleState anyProvider ()) moves t ∧
      ¬ t.db.Balanced := by
  have start := @Run.refl _ _ (system Unit sampleRuntime anyProvider) (sampleState anyProvider ())
  have requested := start.move
    (Step.start () (.register (samplePayload none unkeyed)) (rfl : State.tasks _ 0 = none))
  have checked := requested.move (Step.resume (rfl : State.tasks _ 0 = some _) (fun _ => rfl) rfl)
  have seats := checked.move
    (@Step.answer _ _ _ _ _ 0 _ _ _ (.seats (.ok ["A1"])) () rfl rfl trivial rfl)
  have free := seats.move (Step.resume (rfl : State.tasks _ 0 = some _) (fun _ => rfl) rfl)
  have granted := free.move
    (@Step.answer _ _ _ _ _ 0 _ _ _ (.registration (.ok ⟨7⟩)) () rfl rfl trivial rfl)
  have staged := granted.move (Step.resume (rfl : State.tasks _ 0 = some _) (fun _ => rfl) rfl)
  have bought := staged.move (@Step.commit _ _ _ _ _ 0 _ _ ⟨100⟩ _ _ rfl rfl rfl rfl)
  have cancelling := bought.move
    (Step.start () (.unregister ⟨7⟩) (rfl : State.tasks _ 1 = none))
  have found := cancelling.move (Step.resume (rfl : State.tasks _ 1 = some _) (fun _ => rfl) rfl)
  have unknown := found.move (@Step.answer _ _ _ _ _ 1 _ _ _
    (.cancellation (.error ⟨.providerNotFound, "ticket not found", some 404, none⟩)) () rfl rfl
    trivial rfl)
  have deleting := unknown.move (Step.resume (rfl : State.tasks _ 1 = some _) (fun _ => rfl) rfl)
  have deleted := deleting.move (@Step.commit _ _ _ _ _ 1 _ _ ⟨101⟩ _ _ rfl rfl rfl rfl)
  exact ⟨_, _, deleted, by decide⟩

theorem books_not_kept : ¬ ∀ (s t : State Unit anyProvider)
    (moves : List (Move (State Unit anyProvider) (Action Unit))),
    (system Unit sampleRuntime anyProvider).Initial s →
      Run (system Unit sampleRuntime anyProvider) s moves t → BooksKept moves t := by
  intro books
  obtain ⟨moves, t, run, unbalanced⟩ := unrecorded_deletion
  exact unbalanced (books _ t moves (sample_initial trivial) run).1

theorem books_kept_iff_unrecorded_deletion : ∃ moves t,
    Run (system Unit sampleRuntime anyProvider) (sampleState anyProvider ()) moves t ∧
      ¬ t.db.Balanced ∧ (BooksKept moves t ↔ ∀ m ∈ moves, CommitMatchesRow m) := by
  obtain ⟨moves, t, run, unbalanced⟩ := unrecorded_deletion
  exact ⟨moves, t, run, unbalanced, books_kept_iff (sample_initial trivial) run⟩

end EventsAggregator
