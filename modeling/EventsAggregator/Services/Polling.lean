import EventsAggregator.Services.Lifecycle
import EventsAggregator.Services.Waiting

namespace EventsAggregator

open Relational Transition

variable {libraries : Libraries} {settings : OutboxSettings} {C : Capashino}

def PublisherAction.fetches : PublisherAction → Bool
  | .fetch _ => true
  | _ => false

/-- A move of the only worker `i`, or of none. Nothing is lost, and the worker gives a batch up
    only when it cannot commit what it has to record. -/
structure LeftToOne (i : Nat) (m : Move (PublisherState C) PublisherAction) : Prop where
  alone : ∀ j, m.action.worker = some j → j = i
  acknowledged : ∀ j, m.action ≠ .commitLost j
  refused : ∀ j, m.action = .abandon j → ∃ batch todo mark locks,
    m.source.workers i = .working batch todo (.marking mark) locks ∧ mark.storable = false

abbrev Handled := OutboxEventORM × Attempted

namespace OutboxPublisher

def written (libraries : Libraries) (settings : OutboxSettings) (outbox : Table OutboxEventORM.id)
    (handled : List Handled) : Table OutboxEventORM.id :=
  handled.foldl (fun outbox x => writeBack outbox x.1 (mark libraries settings x.1 x.2)) outbox

end OutboxPublisher

open OutboxPublisher

theorem writeBack_keys (outbox : Table OutboxEventORM.id) (event : OutboxEventORM) (mark : Mark) :
    (writeBack outbox event mark).rows.map OutboxEventORM.id =
      outbox.rows.map OutboxEventORM.id :=
  outbox.map_key_change fun _ same => (flush_id ..).trans same

theorem written_keys (outbox : Table OutboxEventORM.id) (handled : List Handled) :
    (written libraries settings outbox handled).rows.map OutboxEventORM.id =
      outbox.rows.map OutboxEventORM.id := by
  induction handled generalizing outbox with
  | nil => rfl
  | cons x rest ih => exact (ih _).trans (writeBack_keys outbox x.1 _)

theorem written_append (outbox : Table OutboxEventORM.id) (handled : List Handled) (x : Handled) :
    written libraries settings outbox (handled ++ [x]) =
      writeBack (written libraries settings outbox handled) x.1
        (mark libraries settings x.1 x.2) := by
  simp [written]

/-- Writing a row back leaves alone what was appended since. -/
theorem writeBack_appended {outbox outbox' : Table OutboxEventORM.id} {added : List OutboxEventORM}
    {event : OutboxEventORM} (mark : Mark) (rows : outbox'.rows = outbox.rows ++ added)
    (present : event.id ∈ outbox.rows.map OutboxEventORM.id) :
    (writeBack outbox' event mark).rows = (writeBack outbox event mark).rows ++ added := by
  have apart : ∀ row ∈ added, row.id ≠ event.id := by
    have distinct := outbox'.unique
    rw [rows, List.map_append] at distinct
    intro row member same
    exact (List.nodup_append.mp distinct).2.2 _ present _ (List.mem_map_of_mem member) same.symm
  have kept : added.map (fun row => if row.id = event.id then
      flush event (mark.apply event) row else row) = added := by
    conv_rhs => rw [← List.map_id added]
    apply List.map_congr_left
    intro row member
    exact if_neg (apart row member)
  simp only [writeBack, Table.update, rows, List.map_append, kept]

theorem process_handled {attempts : UUID → Attempted} {handled : List Handled}
    {rest : List OutboxEventORM} {outbox : Table OutboxEventORM.id}
    (attempted : ∀ x ∈ handled, attempts x.1.id = x.2)
    (storable : ∀ x ∈ handled, (mark libraries settings x.1 x.2).storable = true) :
    (processBatch libraries settings attempts (handled.map Prod.fst ++ rest) outbox).outbox =
      (processBatch libraries settings attempts rest
        (written libraries settings outbox handled)).outbox := by
  induction handled generalizing outbox with
  | nil => rfl
  | cons x handled ih =>
    obtain ⟨here, attempted⟩ := List.forall_mem_cons.mp attempted
    obtain ⟨first, storable⟩ := List.forall_mem_cons.mp storable
    rw [List.map_cons, List.cons_append,
      process_committed (congrArg (mark libraries settings x.1) here) first]
    exact ih attempted storable

theorem attempts_of {handled : List Handled}
    (distinct : (handled.map fun x => x.1.id).Nodup) :
    ∃ attempts : UUID → Attempted, ∀ x ∈ handled, attempts x.1.id = x.2 := by
  induction handled with
  | nil => exact ⟨fun _ => ⟨.timeout, 0⟩, List.forall_mem_nil _⟩
  | cons x rest ih =>
    obtain ⟨fresh, distinct⟩ := List.nodup_cons.mp distinct
    obtain ⟨attempts, agrees⟩ := ih distinct
    refine ⟨Function.update attempts x.1.id x.2, List.forall_mem_cons.mpr ⟨?_, ?_⟩⟩
    · exact Function.update_self ..
    · intro y member
      have other : y.1.id ≠ x.1.id := by
        intro same
        exact fresh (List.mem_map.mpr ⟨y, member, same⟩)
      rw [Function.update_of_ne other]
      exact agrees y member

def Appended (row : OutboxEventORM) : Prop :=
  ∃ id eventType payload createdAt, row = .pending id eventType payload createdAt

theorem append_run {outbox outbox' : Table OutboxEventORM.id} {added : List OutboxEventORM}
    (rows : outbox'.rows = outbox.rows ++ added) (fresh : ∀ row ∈ added, Appended row) :
    ∃ moves, Run (iterations libraries settings) outbox moves outbox' ∧
      moves.countP (fun m => m.action.iterates) = 0 := by
  induction added using List.reverseRecOn generalizing outbox' with
  | nil =>
    have same : outbox' = outbox := by
      ext1
      rw [rows, List.append_nil]
    exact ⟨[], same ▸ .refl, rfl⟩
  | append_singleton init row ih =>
    obtain ⟨id, eventType, payload, createdAt, rfl⟩ := fresh row (by simp)
    rw [← List.append_assoc] at rows
    have unique := outbox'.unique
    rw [rows, List.map_append] at unique
    obtain ⟨distinct, _, apart⟩ := List.nodup_append.mp unique
    obtain ⟨moves, run, silent⟩ := @ih ⟨outbox.rows ++ init, distinct⟩ rfl
      fun row member => fresh row (List.mem_append_left _ member)
    have absent : (⟨outbox.rows ++ init, distinct⟩ : Table OutboxEventORM.id).find? id = none := by
      rw [Table.find?_eq_none]
      intro other member same
      exact apart _ (List.mem_map_of_mem member) id (by simp [OutboxEventORM.pending]) same
    have inserted := (Table.insert?_eq_some _ outbox' (.pending id eventType payload createdAt)).mpr
      ⟨absent, rows⟩
    refine ⟨_, run.move (.add id eventType payload createdAt inserted), ?_⟩
    rw [List.countP_cons, silent]
    rfl

/-- A batch on its way: `outbox` is what it was fetched from, `handled` are the rows of it that are
    done and `added` those that came in meanwhile. -/
structure Midway (libraries : Libraries) (settings : OutboxSettings) (s : PublisherState C)
    (outbox : Table OutboxEventORM.id) (batch todo : List OutboxEventORM)
    (handled : List Handled) (added : List OutboxEventORM) : Prop where
  fetched : OutboxRepository.FetchPending settings.outboxBatchSize (fun _ => False) outbox batch
  split : batch = handled.map Prod.fst ++ todo
  storable : ∀ x ∈ handled, (mark libraries settings x.1 x.2).storable = true
  rows : s.outbox.rows = (written libraries settings outbox handled).rows ++ added
  fresh : ∀ row ∈ added, Appended row

def PublishPoint.Attempts (libraries : Libraries) (settings : OutboxSettings)
    (event : OutboxEventORM) : PublishPoint → Prop
  | .ready => True
  | .sending notification => dispatch event = .send notification
  | .marking attempted => ∃ x, attempted = mark libraries settings event x
  | .committing attempted =>
    attempted.storable = true ∧ ∃ x, attempted = mark libraries settings event x

/-- The lone worker against the iterations, each of which is put off to the end of its batch. -/
def Polls (libraries : Libraries) (settings : OutboxSettings) (worker : Worker)
    (s : PublisherState C) (outbox : Table OutboxEventORM.id) : Prop :=
  match worker with
  | .idle => s.outbox = outbox
  | .working batch todo point _ => ∃ handled added,
      Midway libraries settings s outbox batch todo handled added ∧
        ∃ event rest, todo = event :: rest ∧ point.Attempts libraries settings event

def Worker.busy : Worker → Nat
  | .idle => 0
  | .working _ _ _ _ => 1

section Midway

variable {s t : PublisherState C} {outbox : Table OutboxEventORM.id}
  {batch rest : List OutboxEventORM} {event : OutboxEventORM} {handled : List Handled}
  {added : List OutboxEventORM}

theorem Midway.same
    (midway : Midway libraries settings s outbox batch (event :: rest) handled added)
    (rows : t.outbox = s.outbox) :
    Midway libraries settings t outbox batch (event :: rest) handled added :=
  ⟨midway.fetched, midway.split, midway.storable, rows ▸ midway.rows, midway.fresh⟩

theorem Midway.present
    (midway : Midway libraries settings s outbox batch (event :: rest) handled added) :
    event.id ∈ (written libraries settings outbox handled).rows.map OutboxEventORM.id := by
  have member : event ∈ batch := by simp [midway.split]
  rw [written_keys]
  exact List.mem_map_of_mem
    ((Table.find?_eq_some _ _ _).mp (fetched_mem midway.fetched member).1).1

theorem Midway.next
    (midway : Midway libraries settings s outbox batch (event :: rest) handled added)
    {x : Attempted} (storable : (mark libraries settings event x).storable = true)
    (wrote : t.outbox = writeBack s.outbox event (mark libraries settings event x)) :
    Midway libraries settings t outbox batch rest (handled ++ [(event, x)]) added where
  fetched := midway.fetched
  split := by simp [midway.split]
  storable := by
    intro y member
    rcases List.mem_append.mp member with member | member
    · exact midway.storable y member
    · cases List.mem_singleton.mp member
      exact storable
  rows := by
    rw [wrote, written_append, writeBack_appended _ midway.rows midway.present]
  fresh := midway.fresh

theorem Midway.ended {todo : List OutboxEventORM}
    (midway : Midway libraries settings s outbox batch todo handled added)
    (stopped : todo = [] ∨ ∃ event rest x, todo = event :: rest ∧
      (mark libraries settings event x).storable = false) :
    ∃ moves, Run (iterations libraries settings) outbox moves s.outbox ∧
      moves.countP (fun m => m.action.iterates) = 1 := by
  have distinct : ((handled.map Prod.fst ++ todo).map OutboxEventORM.id).Nodup :=
    midway.split ▸ fetched_nodup midway.fetched
  have iterated : ∃ attempts, (processBatch libraries settings attempts batch outbox).outbox =
      written libraries settings outbox handled := by
    rcases stopped with rfl | ⟨event, rest, x, rfl, refused⟩
    · obtain ⟨attempts, agrees⟩ :=
        @attempts_of handled (by simpa [Function.comp_def] using distinct)
      refine ⟨attempts, ?_⟩
      rw [midway.split, process_handled agrees midway.storable]
      rfl
    · obtain ⟨attempts, agrees⟩ := @attempts_of (handled ++ [(event, x)]) (by
        refine distinct.sublist ?_
        simp only [List.map_append, List.map_map, List.map_cons, List.map_nil]
        exact List.Sublist.append_left (List.Sublist.cons_cons _ (List.nil_sublist _)) _)
      have here : attempts event.id = x := agrees (event, x) (by simp)
      refine ⟨attempts, ?_⟩
      rw [midway.split, process_handled (fun y member => agrees y (by simp [member]))
        midway.storable, process_refused (by rw [here]; exact refused)]
  obtain ⟨attempts, after⟩ := iterated
  obtain ⟨moves, run, silent⟩ := @append_run libraries settings _ _ _ midway.rows midway.fresh
  have step : IterationStep libraries settings outbox (.iterate batch attempts)
      (written libraries settings outbox handled) := after ▸ .iterate attempts midway.fetched
  have first : Run (iterations libraries settings) outbox _ _ := Run.refl.move step
  refine ⟨_, first.trans run, ?_⟩
  rw [List.countP_append, silent]
  rfl

end Midway

structure Advanced (libraries : Libraries) (settings : OutboxSettings) (i : Nat)
    (s : PublisherState C) (outbox : Table OutboxEventORM.id) (a : PublisherAction)
    (t : PublisherState C) (moves : List (Move (Table OutboxEventORM.id) IterationAction))
    (outbox' : Table OutboxEventORM.id) : Prop where
  run : Run (iterations libraries settings) outbox moves outbox'
  polls : Polls libraries settings (t.workers i) t outbox'
  count : moves.countP (fun m => m.action.iterates) + (t.workers i).busy =
    (if a.fetches then 1 else 0) + (s.workers i).busy

section Polls

variable {i : Nat} {s t : PublisherState C} {outbox : Table OutboxEventORM.id}
  {batch rest : List OutboxEventORM} {event : OutboxEventORM} {point point' : PublishPoint}
  {locks locks' : List UUID} {a : PublisherAction}

theorem Polls.midway
    (polls : Polls libraries settings (.working batch (event :: rest) point locks) s outbox) :
    point.Attempts libraries settings event ∧ ∃ handled added,
      Midway libraries settings s outbox batch (event :: rest) handled added := by
  obtain ⟨handled, added, midway, _, _, same, attempts⟩ := polls
  cases same
  exact ⟨attempts, handled, added, midway⟩

theorem Polls.stays
    (polls : Polls libraries settings (.working batch (event :: rest) point locks) s outbox)
    (rows : t.outbox = s.outbox) (attempts : point.Attempts libraries settings event →
      point'.Attempts libraries settings event) :
    Polls libraries settings (.working batch (event :: rest) point' locks') t outbox := by
  obtain ⟨before, handled, added, midway⟩ := polls.midway
  exact ⟨handled, added, midway.same rows, event, rest, rfl, attempts before⟩

theorem Polls.frame {worker : Worker} (polls : Polls libraries settings worker s outbox)
    (rows : t.outbox = s.outbox) : Polls libraries settings worker t outbox := by
  cases worker with
  | idle => exact rows.trans polls
  | working batch todo point locks =>
    obtain ⟨handled, added, midway, event, rest, rfl, attempts⟩ := polls
    exact ⟨handled, added, midway.same rows, event, rest, rfl, attempts⟩

theorem advanced_within (found : s.workers i = .working batch (event :: rest) point locks)
    (polls : Polls libraries settings (s.workers i) s outbox) (rows : t.outbox = s.outbox)
    (there : t.workers i = .working batch (event :: rest) point' locks')
    (attempts : point.Attempts libraries settings event →
      point'.Attempts libraries settings event) (quiet : a.fetches = false) :
    ∃ moves outbox', Advanced libraries settings i s outbox a t moves outbox' := by
  rw [found] at polls
  refine ⟨[], outbox, .refl, ?_, ?_⟩
  · rw [there]
    exact polls.stays rows attempts
  · rw [there, found, quiet]
    rfl

theorem advanced_apart (polls : Polls libraries settings (s.workers i) s outbox)
    (rows : t.outbox = s.outbox) (there : t.workers i = s.workers i) (quiet : a.fetches = false) :
    ∃ moves outbox', Advanced libraries settings i s outbox a t moves outbox' := by
  refine ⟨[], outbox, .refl, ?_, ?_⟩
  · rw [there]
    exact polls.frame rows
  · rw [there, quiet]
    rfl

theorem advanced_ended {handled : List Handled} {added todo : List OutboxEventORM}
    (busy : (s.workers i).busy = 1) (there : t.workers i = .idle) (quiet : a.fetches = false)
    (midway : Midway libraries settings t outbox batch todo handled added)
    (stopped : todo = [] ∨ ∃ event rest x, todo = event :: rest ∧
      (mark libraries settings event x).storable = false) :
    ∃ moves outbox', Advanced libraries settings i s outbox a t moves outbox' := by
  obtain ⟨moves, run, once⟩ := midway.ended stopped
  refine ⟨moves, t.outbox, run, ?_, ?_⟩
  · rw [there]
    exact rfl
  · rw [there, once, busy, quiet]
    rfl

theorem advanced_added {id : UUID} {eventType : OutboxEventType} {payload : Payload}
    {createdAt : Instant} {outbox₂ : Table OutboxEventORM.id}
    (polls : Polls libraries settings (s.workers i) s outbox)
    (inserted : s.outbox.insert? (.pending id eventType payload createdAt) = some outbox₂) :
    ∃ moves outbox', Advanced libraries settings i s outbox
      (.add (.pending id eventType payload createdAt)) { s with outbox := outbox₂ } moves
      outbox' := by
  have rows := ((Table.insert?_eq_some _ _ _).mp inserted).2
  cases found : s.workers i with
  | idle =>
    rw [found] at polls
    have same : s.outbox = outbox := polls
    have step : IterationStep libraries settings outbox _ outbox₂ :=
      .add id eventType payload createdAt (same ▸ inserted)
    have run : Run (iterations libraries settings) outbox _ outbox₂ := Run.refl.move step
    refine ⟨_, outbox₂, run, ?_, ?_⟩
    · show Polls libraries settings (s.workers i) _ outbox₂
      rw [found]
      exact rfl
    · show _ + (s.workers i).busy = _
      rw [found]
      rfl
  | working batch todo point locks =>
    rw [found] at polls
    obtain ⟨handled, added, midway, event, rest, rfl, attempts⟩ := polls
    refine ⟨[], outbox, .refl, ?_, rfl⟩
    show Polls libraries settings (s.workers i) _ outbox
    rw [found]
    refine ⟨handled, added ++ [.pending id eventType payload createdAt], ?_, event, rest, rfl,
      attempts⟩
    refine ⟨midway.fetched, midway.split, midway.storable, ?_, ?_⟩
    · show outbox₂.rows = _
      rw [rows, midway.rows, List.append_assoc]
    · intro row member
      rcases List.mem_append.mp member with member | member
      · exact midway.fresh row member
      · exact ⟨id, eventType, payload, createdAt, List.mem_singleton.mp member⟩

theorem advanced_fetched (alone : OthersIdle i s) (idle : s.workers i = .idle)
    (fetched : OutboxRepository.FetchPending settings.outboxBatchSize (LockedByOthers s.workers i)
      s.outbox batch) (polls : Polls libraries settings (s.workers i) s outbox) :
    ∃ moves outbox', Advanced libraries settings i s outbox (.fetch i)
      { s with workers := Function.update s.workers i (.fetched batch) } moves outbox' := by
  have unlocked : LockedByOthers s.workers i = fun _ => False := by
    funext id
    exact eq_false (others_unlocked alone id)
  rw [unlocked] at fetched
  rw [idle] at polls
  have same : s.outbox = outbox := polls
  subst same
  cases batch with
  | nil =>
    have step : IterationStep libraries settings s.outbox (.iterate [] fun _ => ⟨.timeout, 0⟩)
        s.outbox := .iterate _ fetched
    have run : Run (iterations libraries settings) s.outbox _ s.outbox := Run.refl.move step
    refine ⟨_, s.outbox, run, ?_, ?_⟩
    · show Polls libraries settings (Function.update s.workers i _ i) _ _
      rw [Function.update_self]
      exact rfl
    · show _ + (Function.update s.workers i _ i).busy = _
      rw [Function.update_self, idle]
      rfl
  | cons event rest =>
    refine ⟨[], s.outbox, .refl, ?_, ?_⟩
    · show Polls libraries settings (Function.update s.workers i _ i) _ _
      rw [Function.update_self]
      refine ⟨[], [], ⟨fetched, rfl, ?_, ?_, ?_⟩, event, rest, rfl, trivial⟩
      · exact List.forall_mem_nil _
      · exact (List.append_nil _).symm
      · exact List.forall_mem_nil _
    · show _ + (Function.update s.workers i _ i).busy = _
      rw [Function.update_self, idle]
      rfl

theorem advanced_committed {mark : Mark}
    (found : s.workers i = .working batch (event :: rest) (.committing mark) locks)
    (polls : Polls libraries settings (s.workers i) s outbox) :
    ∃ moves outbox', Advanced libraries settings i s outbox (.commit i)
      { s with
        outbox := writeBack s.outbox event mark
        workers := Function.update s.workers i (.next batch rest) } moves outbox' := by
  rw [found] at polls
  obtain ⟨⟨storable, x, rfl⟩, handled, added, midway⟩ := polls.midway
  have busy : (s.workers i).busy = 1 := by rw [found]; rfl
  have next := @Midway.next _ _ _ _ { s with
    outbox := writeBack s.outbox event (OutboxPublisher.mark libraries settings event x)
    workers := Function.update s.workers i (.next batch rest) } _ _ _ _ _ _ midway x storable rfl
  cases rest with
  | nil => exact advanced_ended busy (Function.update_self ..) rfl next (.inl rfl)
  | cons later rest =>
    refine ⟨[], outbox, .refl, ?_, ?_⟩
    · show Polls libraries settings (Function.update s.workers i _ i) _ _
      rw [Function.update_self]
      exact ⟨_, _, next, later, rest, rfl, trivial⟩
    · show _ + (Function.update s.workers i _ i).busy = _
      rw [Function.update_self, busy]
      rfl

theorem advanced_step (step : PublisherStep libraries settings s a t)
    (lone : LeftToOne i ⟨s, a, t⟩) (alone : OthersIdle i s)
    (polls : Polls libraries settings (s.workers i) s outbox) :
    ∃ moves outbox', Advanced libraries settings i s outbox a t moves outbox' := by
  cases step with
  | add id eventType payload createdAt inserted => exact advanced_added polls inserted
  | @fetch j batch idle fetched =>
    cases lone.alone j rfl
    exact advanced_fetched alone idle fetched polls
  | @send j batch rest event locks notification found dispatched =>
    cases lone.alone j rfl
    exact advanced_within found polls rfl (Function.update_self ..) (fun _ => dispatched) rfl
  | @acknowledge j batch rest event locks outcome found dispatched =>
    cases lone.alone j rfl
    refine advanced_within found polls rfl (Function.update_self ..) (fun _ => ?_) rfl
    exact ⟨⟨.timeout, s.now⟩, by rw [OutboxPublisher.mark, dispatched]⟩
  | @answer j batch rest event locks notification transport capashino found handled =>
    cases lone.alone j rfl
    refine advanced_within found polls rfl (Function.update_self ..) (fun dispatched => ?_) rfl
    have dispatched : dispatch event = .send notification := dispatched
    exact ⟨⟨transport, s.now⟩, by rw [OutboxPublisher.mark, dispatched]⟩
  | @update j batch rest event locks mark found free fits =>
    cases lone.alone j rfl
    refine advanced_within found polls rfl (Function.update_self ..) (fun marked => ?_) rfl
    refine ⟨?_, marked⟩
    cases mark with
    | sent now => rfl
    | failedAttempt error maxAttempts => exact fits _ rfl
  | @commit j batch rest event locks mark found =>
    cases lone.alone j rfl
    exact advanced_committed found polls
  | @commitLost j => exact absurd rfl (lone.acknowledged j)
  | @abandon j =>
    cases lone.alone j rfl
    obtain ⟨batch, todo, mark, locks, found, refused⟩ := lone.refused i rfl
    have busy : (s.workers i).busy = 1 := by rw [show s.workers i = _ from found]; rfl
    rw [show s.workers i = _ from found] at polls
    obtain ⟨handled, added, midway, event, rest, rfl, x, rfl⟩ := polls
    exact advanced_ended busy (Function.update_self ..) rfl (midway.same rfl)
      (.inr ⟨event, rest, x, rfl, refused⟩)
  | late => exact advanced_apart polls rfl rfl rfl
  | tick => exact advanced_apart polls rfl rfl rfl

end Polls

theorem alone_step {i : Nat} {s t : PublisherState C} {a : PublisherAction}
    (step : PublisherStep libraries settings s a t)
    (acts : ∀ j, a.worker = some j → j = i) (alone : OthersIdle i s) : OthersIdle i t := by
  cases step with
  | add | late | tick => exact alone
  | fetch | send | acknowledge | answer | update | commit | commitLost | abandon =>
    cases acts _ rfl
    exact others_idle_update alone

/-- A lone publisher whose commits are all acknowledged leaves the outbox, whenever it is between
    two batches, as whole iterations do, one for each time it has fetched. What comes in while it
    works on a batch comes in behind the iteration. -/
theorem lone_publisher_iterates {s t : PublisherState C} {i : Nat}
    {moves : List (Move (PublisherState C) PublisherAction)}
    (run : Run (publishers libraries settings C) s moves t) (idle : ∀ j, s.workers j = .idle)
    (undisturbed : ∀ m ∈ moves, LeftToOne i m) :
    ∃ moves' outbox, Run (iterations libraries settings) s.outbox moves' outbox ∧
      moves'.countP (fun m => m.action.iterates) + (t.workers i).busy =
        moves.countP (fun m => m.action.fetches) ∧
      (t.workers i = .idle → t.outbox = outbox) := by
  have polled : OthersIdle i t ∧ ∃ moves' outbox,
      Run (iterations libraries settings) s.outbox moves' outbox ∧
      Polls libraries settings (t.workers i) t outbox ∧
      moves'.countP (fun m => m.action.iterates) + (t.workers i).busy =
        moves.countP (fun m => m.action.fetches) := by
    induction run with
    | refl =>
      refine ⟨fun j _ => idle j, [], s.outbox, .refl, ?_, ?_⟩
      · rw [idle i]
        exact rfl
      · rw [idle i]
        rfl
    | @move moves t u a run step ih =>
      obtain ⟨last, before⟩ := List.forall_mem_cons.mp undisturbed
      obtain ⟨alone, moves', outbox, ran, polls, count⟩ := ih before
      obtain ⟨more, outbox', onward, polls, counted⟩ := advanced_step step last alone polls
      refine ⟨alone_step step last.alone alone, more ++ moves', outbox', ran.trans onward, polls,
        ?_⟩
      rw [List.countP_append, List.countP_cons]
      show _ = _ + if a.fetches then 1 else 0
      omega
  obtain ⟨_, moves', outbox, ran, polls, count⟩ := polled
  refine ⟨moves', outbox, ran, count, fun rest => ?_⟩
  rw [rest] at polls
  exact polls

/-- A second row comes in while the lone worker is busy with the first one. -/
theorem overtaken_batch : ∃ moves t,
    Run (publishers sampleLibraries sampleSettings anyCapashino) (freshPublishers anyCapashino ())
      moves t ∧ t.outbox.rows.map (·.status) = [.failed, .pending] ∧ t.workers 0 = .idle ∧
      moves.map Move.action = [.commit 0, .add (soldRow ⟨101⟩ ⟨8⟩ 11), .update 0,
        .answer 0 (.response unauthorized), .dispatch 0, .fetch 0,
        .add (soldRow ⟨100⟩ ⟨7⟩ 10)] := by
  have start := @Run.refl _ _ (publishers sampleLibraries sampleSettings anyCapashino)
    (freshPublishers anyCapashino ())
  have added := start.move (PublisherStep.add ⟨100⟩ .ticketPurchased
    (soldRow ⟨100⟩ ⟨7⟩ 10).payload 10 rfl)
  have fetched := added.move (@PublisherStep.fetch _ _ _ _ 0 [soldRow ⟨100⟩ ⟨7⟩ 10] rfl
    (fetch_pending_rows (fun _ => not_locked fun _ _ => rfl) (List.pairwise_singleton _ _)))
  obtain ⟨turn, actions, attempted⟩ := attempt_row () fetched (Function.update_self ..)
    (dispatch_soldRow ..) trivial (record_unauthorized 0)
    (by
      rw [locked_update]
      exact not_locked fun _ _ => rfl)
    (by
      intro error written
      cases written
      decide)
  have late := attempted.move (PublisherStep.add ⟨101⟩ .ticketPurchased
    (soldRow ⟨101⟩ ⟨8⟩ 11).payload 11 rfl)
  have committed := late.move (.commit (Function.update_self ..))
  refine ⟨_, _, committed, rfl, rfl, ?_⟩
  refine congrArg (fun earlier => PublisherAction.commit 0 ::
    PublisherAction.add (soldRow ⟨101⟩ ⟨8⟩ 11) :: earlier) ?_
  exact List.map_append.trans (congrArg (fun taken => taken ++ [PublisherAction.fetch 0,
    PublisherAction.add (soldRow ⟨100⟩ ⟨7⟩ 10)]) actions)

theorem lone_publisher_iterates_once : ∃ moves t,
    Run (publishers sampleLibraries sampleSettings anyCapashino) (freshPublishers anyCapashino ())
      moves t ∧ t.outbox.rows.map (·.status) = [.failed, .pending] ∧
      ∃ moves' : List IterationMove,
        Run (iterations sampleLibraries sampleSettings) .empty moves' t.outbox ∧
          moves'.countP (fun m => m.action.iterates) = 1 := by
  obtain ⟨moves, t, run, statuses, idle, actions⟩ := overtaken_batch
  have undisturbed : ∀ m ∈ moves, LeftToOne 0 m := by
    intro m member
    have acted := List.mem_map_of_mem (f := Move.action) member
    simp only [actions, List.mem_cons, List.not_mem_nil, or_false] at acted
    constructor
    · intro j acting
      rcases acted with same | same | same | same | same | same | same <;>
        simp [same, PublisherAction.worker] at acting <;> exact acting.symm
    · intro j acting
      simp [acting] at acted
    · intro j acting
      simp [acting] at acted
  obtain ⟨moves', outbox, iterated, count, rested⟩ :=
    lone_publisher_iterates run (fun _ => rfl) undisturbed
  cases rested idle
  have fetches : moves.countP (fun m => m.action.fetches) = 1 := by
    have counted := @List.countP_map _ _ PublisherAction.fetches Move.action moves
    rw [actions] at counted
    exact counted.symm
  rw [idle, fetches] at count
  exact ⟨moves, t, run, statuses, moves', iterated, count⟩

end EventsAggregator
