import EventsAggregator.Services.DeliveryTable
import Mathlib.Algebra.Order.BigOperators.Group.List

namespace EventsAggregator

open Relational Transition

variable {libraries : Libraries} {settings : OutboxSettings}

abbrev IterationMove := Move (Table OutboxEventORM.id) IterationAction

namespace IterationAction

def iterates : IterationAction → Bool
  | .iterate _ _ => true
  | .add _ => false

end IterationAction

def Committed (libraries : Libraries) (settings : OutboxSettings) (m : IterationMove) : Prop :=
  ∀ batch attempts, m.action = .iterate batch attempts →
    (OutboxPublisher.processBatch libraries settings attempts batch m.source).finished = true

inductive RowChange (libraries : Libraries) (settings : OutboxSettings)
    (s : Table OutboxEventORM.id) (id : UUID) : IterationAction → Option OutboxEventORM → Prop
  | kept {a : IterationAction} (apart : ∀ batch attempts, a = .iterate batch attempts →
      id ∉ batch.map OutboxEventORM.id) : RowChange libraries settings s id a (s.find? id)
  | added {eventType : OutboxEventType} {payload : Payload} {createdAt : Instant}
      (absent : s.find? id = none) :
      RowChange libraries settings s id (.add (.pending id eventType payload createdAt))
        (some (.pending id eventType payload createdAt))
  | marked {batch : List OutboxEventORM} {attempts : UUID → Attempted} {event : OutboxEventORM}
      (member : event ∈ batch) (key : event.id = id) (stored : s.find? id = some event)
      (waiting : event.status = .pending) :
      RowChange libraries settings s id (.iterate batch attempts)
        (some ((OutboxPublisher.mark libraries settings event (attempts event.id)).apply event))

theorem iterate_processed {s t : Table OutboxEventORM.id} {batch : List OutboxEventORM}
    {attempts : UUID → Attempted}
    (step : IterationStep libraries settings s (.iterate batch attempts) t)
    (committed : Committed libraries settings ⟨s, .iterate batch attempts, t⟩) :
    (batch.map OutboxEventORM.id).Nodup ∧
      Processed (fun event => OutboxPublisher.mark libraries settings event (attempts event.id))
        batch s (OutboxPublisher.processBatch libraries settings attempts batch s) := by
  cases step with
  | iterate attempts fetched =>
    exact ⟨fetched_nodup fetched, OutboxPublisher.process_batch (fetched_nodup fetched)
      (fun event member => (fetched_mem fetched member).1)
      (OutboxPublisher.finished_iff.mp (committed batch attempts rfl))⟩

theorem iteration_change {s t : Table OutboxEventORM.id} {a : IterationAction}
    (step : IterationStep libraries settings s a t)
    (committed : Committed libraries settings ⟨s, a, t⟩) (id : UUID) :
    RowChange libraries settings s id a (t.find? id) := by
  cases step with
  | add id' eventType payload createdAt inserted =>
    have there := Table.find?_inserted inserted id
    rw [there]
    by_cases here : id' = id
    · subst here
      have absent := ((s.insert?_eq_some t _).mp inserted).1
      rw [if_pos (show (OutboxEventORM.pending id' eventType payload createdAt).id = id' from rfl)]
      exact .added absent
    · rw [if_neg (show (OutboxEventORM.pending id' eventType payload createdAt).id ≠ id from here)]
      exact .kept fun _ _ acting => nomatch acting
  | @iterate batch attempts fetched =>
    obtain ⟨_, after⟩ := iterate_processed (.iterate attempts fetched) committed
    by_cases inside : id ∈ batch.map OutboxEventORM.id
    · obtain ⟨event, member, rfl⟩ := List.mem_map.mp inside
      obtain ⟨stored, waiting, _⟩ := fetched_mem fetched member
      rw [after.written event member]
      exact .marked member rfl stored waiting
    · rw [after.kept id inside]
      refine .kept fun _ _ acting => ?_
      cases acting
      exact inside

theorem run_committed {s t : Table OutboxEventORM.id} {moves : List IterationMove}
    {I : Table OutboxEventORM.id → Prop} (run : Run (iterations libraries settings) s moves t)
    (committed : ∀ m ∈ moves, Committed libraries settings m)
    (preserved : ∀ t a u, I t → (∀ id, RowChange libraries settings t id a (u.find? id)) → I u)
    (initial : I s) : I t :=
  run.guarded (fun t a u holds guard step => preserved t a u holds (iteration_change step guard))
    committed initial

theorem row_stays {s t : Table OutboxEventORM.id} {moves : List IterationMove}
    (run : Run (iterations libraries settings) s moves t)
    (committed : ∀ m ∈ moves, Committed libraries settings m) {row : OutboxEventORM}
    (stored : s.find? row.id = some row) :
    ∃ row', t.find? row.id = some row' ∧ row'.createdAt = row.createdAt := by
  refine run_committed (I := fun t => ∃ row', t.find? row.id = some row' ∧
    row'.createdAt = row.createdAt) run committed ?_ ⟨row, stored, rfl⟩
  rintro t a u ⟨row', found, created⟩ change
  generalize there : u.find? row.id = after
  have change := there ▸ change row.id
  cases change with
  | kept => exact ⟨row', found, created⟩
  | added absent =>
    rw [found] at absent
    cases absent
  | @marked batch attempts event member key here waiting =>
    cases here.symm.trans found
    refine ⟨_, rfl, ?_⟩
    cases OutboxPublisher.mark libraries settings row' (attempts row'.id) <;> exact created

theorem final_stays {s t : Table OutboxEventORM.id} {moves : List IterationMove}
    (run : Run (iterations libraries settings) s moves t)
    (committed : ∀ m ∈ moves, Committed libraries settings m) {id : UUID} {row : OutboxEventORM}
    (stored : s.find? id = some row) (final : row.status ≠ .pending) : t.find? id = some row := by
  refine run_committed (I := fun t => t.find? id = some row) run committed ?_ stored
  intro t a u found change
  generalize there : u.find? id = after
  have change := there ▸ change id
  cases change with
  | kept => exact found
  | added absent =>
    rw [found] at absent
    cases absent
  | marked member key here waiting =>
    cases here.symm.trans found
    exact absurd waiting final

/-- How many dispatches a row still costs at most. A row that is not there yet costs them all. -/
def weight (maxAttempts : Nat) : Option OutboxEventORM → Nat
  | none => maxAttempts
  | some row => if row.status = .pending then max 1 (maxAttempts - row.attempts) else 0

def potential (maxAttempts : Nat) (ids : List UUID) (outbox : Table OutboxEventORM.id) : Nat :=
  (ids.map fun id => weight maxAttempts (outbox.find? id)).sum

theorem weight_le {maxAttempts : Nat} (room : 1 ≤ maxAttempts) (row : Option OutboxEventORM) :
    weight maxAttempts row ≤ maxAttempts := by
  unfold weight
  split
  · exact Nat.le_refl _
  · split <;> omega

theorem weight_pending {maxAttempts : Nat} {row : OutboxEventORM}
    (waiting : row.status = .pending) : 1 ≤ weight maxAttempts (some row) := by
  rw [weight, if_pos waiting]
  exact Nat.le_max_left ..

theorem mark_limit {event : OutboxEventORM} {attempted : Attempted} {error : Text}
    {maxAttempts : Int} (marked : OutboxPublisher.mark libraries settings event attempted =
      .failedAttempt error maxAttempts) :
    maxAttempts = settings.outboxMaxAttempts ∨ maxAttempts = 1 := by
  unfold OutboxPublisher.mark at marked
  split at marked
  · exact (record_failed marked).imp id And.left
  · exact (record_failed marked).imp id And.left

theorem mark_weight {event : OutboxEventORM} (room : 1 ≤ settings.outboxMaxAttempts)
    (waiting : event.status = .pending) (attempted : Attempted) :
    weight settings.outboxMaxAttempts.toNat
        (some ((OutboxPublisher.mark libraries settings event attempted).apply event)) <
      weight settings.outboxMaxAttempts.toNat (some event) := by
  have before : 1 ≤ weight settings.outboxMaxAttempts.toNat (some event) := weight_pending waiting
  cases marked : OutboxPublisher.mark libraries settings event attempted with
  | sent now => exact before
  | failedAttempt error maxAttempts =>
    have limit := mark_limit marked
    by_cases reached : maxAttempts ≤ ((event.attempts + 1 : Nat) : Int)
    · have after : weight settings.outboxMaxAttempts.toNat
          (some ((Mark.failedAttempt error maxAttempts).apply event)) = 0 := by
        simp only [weight, Mark.apply, OutboxRepository.markFailedAttempt, if_pos reached]
        rfl
      omega
    · have after : weight settings.outboxMaxAttempts.toNat
          (some ((Mark.failedAttempt error maxAttempts).apply event)) =
            max 1 (settings.outboxMaxAttempts.toNat - (event.attempts + 1)) := by
        simp only [weight, Mark.apply, OutboxRepository.markFailedAttempt, if_neg reached]
        exact if_pos waiting
      rw [after, weight, if_pos waiting]
      omega

theorem change_weight (room : 1 ≤ settings.outboxMaxAttempts) {s : Table OutboxEventORM.id}
    {id : UUID} {a : IterationAction} {after : Option OutboxEventORM}
    (change : RowChange libraries settings s id a after) :
    weight settings.outboxMaxAttempts.toNat after ≤
      weight settings.outboxMaxAttempts.toNat (s.find? id) := by
  cases change with
  | kept => exact Nat.le_refl _
  | added absent =>
    rw [absent]
    exact weight_le (by omega) _
  | marked member key stored waiting =>
    rw [stored]
    exact Nat.le_of_lt (mark_weight room waiting _)

theorem fetched_first {limit : Nat} (room : 1 ≤ limit) {outbox : Table OutboxEventORM.id}
    {batch : List OutboxEventORM}
    (fetched : OutboxRepository.FetchPending limit (fun _ => False) outbox batch)
    {row : OutboxEventORM} (stored : outbox.find? row.id = some row)
    (waiting : row.status = .pending) : ∃ event ∈ batch, event.createdAt ≤ row.createdAt := by
  obtain ⟨sorted, _, exact, ordered, rfl⟩ := fetched
  have inside : row ∈ sorted := (exact row).mpr
    ⟨((outbox.find?_eq_some _ _).mp stored).1, waiting, not_false⟩
  cases sorted with
  | nil => cases inside
  | cons event rest =>
    refine ⟨event, ?_, ?_⟩
    · obtain ⟨limit, rfl⟩ : ∃ n, limit = n + 1 := ⟨limit - 1, by omega⟩
      exact List.mem_cons_self ..
    · rcases List.mem_cons.mp inside with rfl | behind
      · exact le_refl _
      · exact (List.pairwise_cons.mp ordered).1 row behind

/-- The rows that can keep a row waiting, of those that are there in the end, and itself. -/
def ahead (r : OutboxEventORM) (outbox : Table OutboxEventORM.id) : List OutboxEventORM :=
  outbox.rows.filter fun row => row.id ≠ r.id ∧ row.createdAt ≤ r.createdAt

def contenders (r : OutboxEventORM) (outbox : Table OutboxEventORM.id) : List UUID :=
  r.id :: (ahead r outbox).map OutboxEventORM.id

theorem contender {r row : OutboxEventORM} {outbox : Table OutboxEventORM.id}
    (stored : outbox.find? row.id = some row) (early : row.createdAt ≤ r.createdAt) :
    row.id ∈ contenders r outbox := by
  by_cases same : row.id = r.id
  · exact List.mem_cons.mpr (Or.inl same)
  · refine List.mem_cons_of_mem _ (List.mem_map.mpr ⟨row, List.mem_filter.mpr ⟨?_, ?_⟩, rfl⟩)
    · exact ((outbox.find?_eq_some _ _).mp stored).1
    · exact decide_eq_true ⟨same, early⟩

theorem iteration_spends (limit : 1 ≤ settings.outboxBatchSize)
    (room : 1 ≤ settings.outboxMaxAttempts) {s t u : Table OutboxEventORM.id}
    {a : IterationAction} {later : List IterationMove} {r row : OutboxEventORM}
    (step : IterationStep libraries settings s a t)
    (committed : Committed libraries settings ⟨s, a, t⟩)
    (rest : Run (iterations libraries settings) t later u)
    (onward : ∀ m ∈ later, Committed libraries settings m) (stored : s.find? r.id = some row)
    (created : row.createdAt = r.createdAt) (waiting : row.status = .pending) :
    (potential settings.outboxMaxAttempts.toNat (contenders r u) t +
        if a.iterates then 1 else 0) ≤
      potential settings.outboxMaxAttempts.toNat (contenders r u) s := by
  have change := iteration_change step committed
  have each : ∀ id ∈ contenders r u, weight settings.outboxMaxAttempts.toNat (t.find? id) ≤
      weight settings.outboxMaxAttempts.toNat (s.find? id) := fun id _ =>
    change_weight room (change id)
  cases step with
  | add => exact List.sum_le_sum each
  | @iterate batch attempts fetched =>
    have key : row.id = r.id := ((s.find?_eq_some _ _).mp stored).2
    obtain ⟨event, member, early⟩ := fetched_first limit fetched (key ▸ stored) waiting
    obtain ⟨here, pending, _⟩ := fetched_mem fetched member
    have run := Run.trans ((@Run.refl _ _ (iterations libraries settings) s).move
      (.iterate attempts fetched)) rest
    have all : ∀ m ∈ later ++ [_], Committed libraries settings m := fun m inside =>
      (List.mem_append.mp inside).elim (onward m) fun last => List.mem_singleton.mp last ▸ committed
    obtain ⟨event', there, kept⟩ := row_stays run all here
    have among : event.id ∈ contenders r u := by
      have same : event'.id = event.id := ((u.find?_eq_some _ _).mp there).2
      rw [← same]
      exact contender (same ▸ there) (kept.le.trans (early.trans created.le))
    have less : weight settings.outboxMaxAttempts.toNat
        ((OutboxPublisher.processBatch libraries settings attempts batch s).outbox.find? event.id) <
          weight settings.outboxMaxAttempts.toNat (s.find? event.id) := by
      generalize marked : (OutboxPublisher.processBatch libraries settings attempts batch
        s).outbox.find? event.id = after
      have change := marked ▸ change event.id
      cases change with
      | kept apart => exact absurd (List.mem_map_of_mem member) (apart batch attempts rfl)
      | marked member key stored waiting =>
        rw [stored]
        exact mark_weight room waiting _
    exact List.sum_lt_sum _ _ each ⟨event.id, among, less⟩

theorem potential_le {maxAttempts : Nat} (room : 1 ≤ maxAttempts) (ids : List UUID)
    (outbox : Table OutboxEventORM.id) :
    potential maxAttempts ids outbox ≤ ids.length * maxAttempts := by
  have each : ∀ n ∈ ids.map fun id => weight maxAttempts (outbox.find? id), n ≤ maxAttempts := by
    intro n inside
    obtain ⟨id, _, rfl⟩ := List.mem_map.mp inside
    exact weight_le room _
  have sum := List.sum_le_card_nsmul _ _ each
  rwa [List.length_map] at sum

theorem potential_waiting {maxAttempts : Nat} {ids : List UUID} {outbox : Table OutboxEventORM.id}
    {id : UUID} {row : OutboxEventORM} (inside : id ∈ ids) (stored : outbox.find? id = some row)
    (waiting : row.status = .pending) : 1 ≤ potential maxAttempts ids outbox := by
  have weighs : 1 ≤ weight maxAttempts (some row) := weight_pending waiting
  rw [← stored] at weighs
  exact Nat.le_trans weighs (List.single_le_sum (fun _ _ => Nat.zero_le _) _
    (List.mem_map_of_mem inside))

/-- A row that at most `p` others can come before is sent or has failed after
    `(p + 1) * max_attempts` iterations. -/
theorem waits_boundedly {s t : Table OutboxEventORM.id} {moves : List IterationMove}
    (limit : 1 ≤ settings.outboxBatchSize) (room : 1 ≤ settings.outboxMaxAttempts)
    (run : Run (iterations libraries settings) s moves t)
    (committed : ∀ m ∈ moves, Committed libraries settings m) {r : OutboxEventORM}
    (stored : s.find? r.id = some r) {p : Nat}
    (others : (ahead r t).length ≤ p)
    (long : (p + 1) * settings.outboxMaxAttempts ≤ moves.countP fun m => m.action.iterates) :
    ∃ row, t.find? r.id = some row ∧ (row.status = .sent ∨ row.status = .failed) := by
  obtain ⟨row, there, _⟩ := row_stays run committed stored
  refine ⟨row, there, ?_⟩
  cases status : row.status with
  | sent => exact Or.inl rfl
  | failed => exact Or.inr rfl
  | pending =>
    exfalso
    have spent : potential settings.outboxMaxAttempts.toNat (contenders r t) t +
        (moves.countP fun m => m.action.iterates) ≤
          potential settings.outboxMaxAttempts.toNat (contenders r t) s :=
      run.spent fun m member step => by
        obtain ⟨later, earlier, rfl, before, _, after⟩ := run.cut member
        obtain ⟨past, future⟩ := List.forall_mem_append.mp committed
        obtain ⟨now, gone⟩ := List.forall_mem_cons.mp future
        obtain ⟨row', found, created⟩ := row_stays before gone stored
        refine iteration_spends limit room step now after past found created ?_
        by_contra final
        have same := final_stays (Run.trans ((@Run.refl _ _ (iterations libraries settings) _).move
          step) after) (List.forall_mem_append.mpr ⟨past, by simpa using now⟩) found final
        cases there.symm.trans same
        exact final status
    have least : 1 ≤ potential settings.outboxMaxAttempts.toNat (contenders r t) t :=
      potential_waiting (List.mem_cons_self ..) there status
    have most := @potential_le settings.outboxMaxAttempts.toNat (by omega) (contenders r t) s
    have few : (contenders r t).length ≤ p + 1 := by
      rw [contenders, List.length_cons, List.length_map]
      omega
    have bound : (contenders r t).length * settings.outboxMaxAttempts.toNat ≤
        (p + 1) * settings.outboxMaxAttempts.toNat := Nat.mul_le_mul_right _ few
    have attempts : ((p + 1) * settings.outboxMaxAttempts.toNat : Nat) =
        ((p : Int) + 1) * settings.outboxMaxAttempts := by
      rw [Nat.cast_mul, Int.toNat_of_nonneg (by omega)]
      rfl
    omega

def AnswersRecordable (libraries : Libraries) (m : IterationMove) : Prop :=
  ∀ batch attempts, m.action = .iterate batch attempts →
    ∀ event ∈ batch, Recordable libraries event (attempts event.id)

theorem recordable_committed {m : IterationMove} (recordable : AnswersRecordable libraries m) :
    Committed libraries settings m := fun batch attempts acting =>
  OutboxPublisher.finished_iff.mpr fun event member =>
    mark_storable (recordable batch attempts acting event member)

section Sample

def answered (response : Response) : UUID → Attempted := fun _ => ⟨.response response, 20⟩

theorem mark_soldRow (outboxId ticketId : UUID) (now : Instant) (attempted : Attempted) :
    OutboxPublisher.mark libraries settings (soldRow outboxId ticketId now) attempted =
      OutboxPublisher.record settings attempted.now
        ((CapashinoClient.receiveNotification libraries attempted.transport).map fun _ => ()) := by
  rw [OutboxPublisher.mark, dispatch_soldRow]

theorem sample_fetched (settings : OutboxSettings) (room : 2 ≤ settings.outboxBatchSize) :
    OutboxRepository.FetchPending settings.outboxBatchSize (fun _ => False) sampleOutbox
      sampleOutbox.rows := by
  have sorted : (sampleOutbox.rows.filter (·.status = .pending)).Pairwise
      fun row later => row.createdAt ≤ later.createdAt := by decide
  have fetched := @fetch_pending_rows settings.outboxBatchSize _ _ (fun _ => not_false) sorted
  rwa [List.take_of_length_le (by exact room)] at fetched

def onceSettings : OutboxSettings := ⟨100, 1⟩

theorem unauthorized_recordable (event : OutboxEventORM) (id : UUID) :
    Recordable sampleLibraries event (answered unauthorized id) := by
  rintro notification rejection _ received
  have text : rejection.message = "Capashino rejected request: HTTP 401: denied" := by
    cases received
    rfl
  rw [text]
  exact Or.inr (by decide)

def rejected : Mark := .failedAttempt "Capashino rejected request: HTTP 401: denied" 1

theorem unauthorized_mark (outboxId ticketId : UUID) (now : Instant) :
    OutboxPublisher.mark sampleLibraries onceSettings (soldRow outboxId ticketId now)
        ⟨.response unauthorized, 20⟩ = rejected := by
  rw [mark_soldRow]
  rfl

def rejectedOutbox : Table OutboxEventORM.id :=
  writeBack (writeBack sampleOutbox (soldRow ⟨100⟩ ⟨7⟩ 10) rejected) (soldRow ⟨101⟩ ⟨8⟩ 11)
    rejected

theorem unauthorized_iteration : OutboxPublisher.processBatch sampleLibraries onceSettings
    (answered unauthorized) sampleOutbox.rows sampleOutbox =
      ⟨rejectedOutbox, [⟨100⟩, ⟨101⟩], true⟩ := by
  have fits : rejected.storable = true := by decide
  have rows : sampleOutbox.rows = [soldRow ⟨100⟩ ⟨7⟩ 10, soldRow ⟨101⟩ ⟨8⟩ 11] := rfl
  have first := @OutboxPublisher.process_committed _ _ (answered unauthorized) _
    [soldRow ⟨101⟩ ⟨8⟩ 11] sampleOutbox _ (unauthorized_mark ⟨100⟩ ⟨7⟩ 10) fits
  have second := @OutboxPublisher.process_committed _ _ (answered unauthorized) _ []
    (writeBack sampleOutbox (soldRow ⟨100⟩ ⟨7⟩ 10) rejected) _ (unauthorized_mark ⟨101⟩ ⟨8⟩ 11)
    fits
  rw [rows, first, second]
  rfl

def unauthorizedMove : IterationMove :=
  ⟨sampleOutbox, .iterate sampleOutbox.rows (answered unauthorized), rejectedOutbox⟩

theorem unauthorized_run : Run (iterations sampleLibraries onceSettings) sampleOutbox
    [unauthorizedMove] rejectedOutbox := by
  have taken := @IterationStep.iterate sampleLibraries _ _ _ (answered unauthorized)
    (sample_fetched onceSettings (by decide))
  rw [unauthorized_iteration] at taken
  exact Run.refl.move taken

theorem unauthorized_answers : ∀ m ∈ [unauthorizedMove], AnswersRecordable sampleLibraries m := by
  intro m member batch attempts acting event _
  cases List.mem_singleton.mp member
  cases acting
  exact unauthorized_recordable event event.id

theorem waits_boundedly_unauthorized : ∃ row, rejectedOutbox.find? ⟨100⟩ = some row ∧
    (row.status = .sent ∨ row.status = .failed) := by
  have committed : ∀ m ∈ [unauthorizedMove], Committed sampleLibraries onceSettings m :=
    fun m member => recordable_committed (unauthorized_answers m member)
  have none : (ahead (soldRow ⟨100⟩ ⟨7⟩ 10) rejectedOutbox).length ≤ 0 := by decide
  exact waits_boundedly (by decide) (by decide) unauthorized_run committed
    (rfl : sampleOutbox.find? (soldRow ⟨100⟩ ⟨7⟩ 10).id = some _) none (by decide)

end Sample

end EventsAggregator
