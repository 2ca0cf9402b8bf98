import EventsAggregator.Services.Application
import EventsAggregator.Services.Polling

namespace EventsAggregator

open Relational Transition

/-- Where `lifespan` stands: at its `yield`, in the wait for the publisher, in the wait for a task
    that it has cancelled, before it closes a client, or at its end. -/
inductive LifespanPoint
  | serving
  | stopping
  | cancellingPublisher
  | cancellingSync
  | closingCapashino
  | closingProvider
  | down
  deriving DecidableEq

namespace LifespanPoint

def pastPublisher : LifespanPoint → Bool
  | .serving | .stopping | .cancellingPublisher => false
  | .cancellingSync | .closingCapashino | .closingProvider | .down => true

def pastSync : LifespanPoint → Bool
  | .serving | .stopping | .cancellingPublisher | .cancellingSync => false
  | .closingCapashino | .closingProvider | .down => true

def capashinoOpen : LifespanPoint → Bool
  | .closingProvider | .down => false
  | _ => true

def providerOpen : LifespanPoint → Bool
  | .down => false
  | _ => true

end LifespanPoint

/-- Where `OutboxPublisher.run` stands: not begun, in `_process_batch`, before or behind its
    `fetch_pending`, in the wait between two iterations, or at its end. -/
inductive PublisherLoop
  | created
  | processing (fetched : Bool)
  | polling
  | finished

/-- The task of `initial_sync`, and who it is among the callers of `SyncService.sync`. -/
inductive InitialSync
  | created
  | calling (caller : Nat)
  | finished

/-- One process of the service from its start to its end. Its publisher is the worker 0, the other
    workers are those of other processes. -/
structure Lifespan (Process : Type) (P : Provider) (C : Capashino) where
  app : Application Process P C
  main : LifespanPoint
  scheduler : Bool
  stop : Bool
  loop : PublisherLoop
  initial : InitialSync

inductive LifespanAction (Process : Type)
  | app (action : AppAction Process)
  | check
  | processed
  | publisherCancelled
  | syncReturned
  | syncCancelled
  | stop
  | publisherEnded
  | timeout
  | syncEnded
  | closeCapashino
  | closeProvider

def CallersAction.caller : CallersAction → Option Nat
  | .tick _ | .restart => none
  | .call i _ | .granted i | .cancelWaiting i | .giveUp i | .proceed i _ | .finish i _ _ => some i

def CallersAction.cancels : CallersAction → Bool
  | .cancelWaiting _ | .giveUp _ | .finish _ .abandon _ => true
  | _ => false

def PublisherAction.cancels : PublisherAction → Bool
  | .abandon _ | .commitLost _ => true
  | _ => false

variable {Process : Type} {P : Provider} {C : Capashino}

def Lifespan.Apart (s : Lifespan Process P C) : AppAction Process → Prop
  | .request _ | .tick _ => True
  | .publish a => a.worker ≠ some 0
  | .sync (.call _ .initialSync) | .sync .restart => False
  | .sync (.call _ .periodicSync) => s.scheduler = true
  | .sync a => ∀ i, s.initial = .calling i → a.caller ≠ some i

def InitialSync.done : InitialSync → Bool
  | .finished => true
  | _ => false

theorem InitialSync.done_iff (initial : InitialSync) :
    initial.done = true ↔ initial = .finished := by
  cases initial <;> simp [InitialSync.done]

variable [DecidableEq Process]

inductive LifespanStep (config : AppConfig) :
    Lifespan Process P C → LifespanAction Process → Lifespan Process P C → Prop
  | others {s : Lifespan Process P C} {a : AppAction Process} {app : Application Process P C}
      (apart : s.Apart a) (step : AppStep config s.app a app) :
      LifespanStep config s (.app a) { s with app }
  -- `while not self._stop.is_set()`, at first or once the wait is over.
  | check {s : Lifespan Process P C} (here : s.loop = .created ∨ s.loop = .polling) :
      LifespanStep config s .check
        { s with loop := if s.stop then .finished else .processing false }
  | publish {s : Lifespan Process P C} {a : PublisherAction} {app : Application Process P C}
      {fetched : Bool} (mine : a.worker = some 0) (here : s.loop = .processing fetched)
      (once : a.fetches = true → fetched = false)
      (cancelled : s.main = .cancellingPublisher → a.cancels = true)
      (step : AppStep config s.app (.publish a) app) :
      LifespanStep config s (.app (.publish a))
        { s with app, loop := .processing (fetched || a.fetches) }
  -- `_process_batch` has returned, or what it raised is logged.
  | processed {s : Lifespan Process P C} {fetched : Bool} (here : s.loop = .processing fetched)
      (idle : s.app.workers 0 = .idle) (alive : s.main ≠ .cancellingPublisher) :
      LifespanStep config s .processed { s with loop := .polling }
  | publisherCancelled {s : Lifespan Process P C} (here : s.main = .cancellingPublisher)
      (idle : s.app.workers 0 = .idle) :
      LifespanStep config s .publisherCancelled { s with loop := .finished }
  | initialCall {s : Lifespan Process P C} {i : Nat} {app : Application Process P C}
      (created : s.initial = .created) (alive : s.main ≠ .cancellingSync)
      (step : AppStep config s.app (.sync (.call i .initialSync)) app) :
      LifespanStep config s (.app (.sync (.call i .initialSync)))
        { s with app, initial := .calling i }
  | initialProceed {s : Lifespan Process P C} {i : Nat} {a : CallersAction}
      {app : Application Process P C} (calling : s.initial = .calling i)
      (mine : a.caller = some i) (cancelled : s.main = .cancellingSync → a.cancels = true)
      (step : AppStep config s.app (.sync a) app) :
      LifespanStep config s (.app (.sync a)) { s with app }
  -- Whatever the sync has come to is logged, or is the cancellation.
  | syncReturned {s : Lifespan Process P C} {i : Nat} {caller : SyncCaller} {outcome : SyncOutcome}
      (calling : s.initial = .calling i)
      (ended : s.app.entries i = some ⟨caller, .finished outcome⟩) :
      LifespanStep config s .syncReturned { s with initial := .finished }
  | syncCancelled {s : Lifespan Process P C} (here : s.main = .cancellingSync)
      (created : s.initial = .created) :
      LifespanStep config s .syncCancelled { s with initial := .finished }
  | stop {s : Lifespan Process P C} (here : s.main = .serving) :
      LifespanStep config s .stop { s with main := .stopping, scheduler := false, stop := true }
  | publisherEnded {s : Lifespan Process P C}
      (here : s.main = .stopping ∨ s.main = .cancellingPublisher) (ended : s.loop = .finished) :
      LifespanStep config s .publisherEnded
        { s with main := if s.initial.done then .closingCapashino else .cancellingSync }
  -- `wait_for` cancels the task and waits until it has ended.
  | timeout {s : Lifespan Process P C} (here : s.main = .stopping) :
      LifespanStep config s .timeout { s with main := .cancellingPublisher }
  | syncEnded {s : Lifespan Process P C} (here : s.main = .cancellingSync)
      (ended : s.initial = .finished) :
      LifespanStep config s .syncEnded { s with main := .closingCapashino }
  | closeCapashino {s : Lifespan Process P C} (here : s.main = .closingCapashino) :
      LifespanStep config s .closeCapashino { s with main := .closingProvider }
  | closeProvider {s : Lifespan Process P C} (here : s.main = .closingProvider) :
      LifespanStep config s .closeProvider { s with main := .down }

def lifespan (Process : Type) [DecidableEq Process] (config : AppConfig) (P : Provider)
    (C : Capashino) : System (Lifespan Process P C) (LifespanAction Process) where
  Initial s := s.app.workers 0 = .idle ∧ s.app.lock = .new ∧ (∀ i, s.app.entries i = none) ∧
    s.main = .serving ∧ s.stop = false ∧ s.loop = .created ∧ s.initial = .created
  Step := LifespanStep config

variable {config : AppConfig} {s t : Lifespan Process P C} {a : LifespanAction Process}

theorem worker_kept {p q : PublisherState C} {a : PublisherAction} {i : Nat}
    (step : PublisherStep config.libraries config.outbox p a q) (other : a.worker ≠ some i) :
    q.workers i = p.workers i := by
  cases step with
  | add | late | tick => rfl
  | fetch | send | acknowledge | answer | update | commit | commitLost | abandon =>
    exact Function.update_of_ne (fun same => other (congrArg some same.symm)) ..

theorem set_entry_stays {c : SyncCallers} {i j : Nat} {caller : SyncCaller} {stage : SyncStage}
    (there : i = j ∨ c.entries i ≠ none) : (c.setEntry j caller stage).entries i ≠ none := by
  rw [setEntry_entries]
  split
  · exact Option.some_ne_none _
  next other => exact there.resolve_left other

theorem entry_stays {c d : SyncCallers} {a : CallersAction} {i : Nat}
    (step : CallersStep config.sync config.paginator c a d) (there : c.entries i ≠ none) :
    d.entries i ≠ none := by
  cases step with
  | tick | cancelWaiting => exact there
  | refuse | enter | wait | granted | giveUp => exact set_entry_stays (.inr there)
  | proceed | finish => exact @set_entry_stays (c.written _) _ _ _ _ (.inr there)
  | restart => exact fun gone => there (Option.map_eq_none_iff.mp gone)

theorem app_kept {app : Application Process P C} {a : AppAction Process}
    (step : AppStep config s.app a app) :
    ((∀ b, a = .publish b → b.worker ≠ some 0) → app.workers 0 = s.app.workers 0) ∧
      ∀ i, s.app.entries i ≠ none → app.entries i ≠ none := by
  cases step with
  | request own step => exact ⟨fun _ => rfl, fun _ there => there⟩
  | publish own step => exact ⟨fun other => worker_kept step (other _ rfl), fun _ there => there⟩
  | sync own step => exact ⟨fun _ => rfl, fun _ there => entry_stays step there⟩
  | tick now => exact ⟨fun _ => rfl, fun _ there => there⟩

theorem call_entered {app : Application Process P C} {i : Nat} {caller : SyncCaller}
    (step : AppStep config s.app (.sync (.call i caller)) app) : app.entries i ≠ none := by
  cases step with
  | sync own step =>
    cases step with
    | refuse | enter | wait => exact set_entry_stays (.inl rfl)

namespace Lifespan

structure Orderly (s : Lifespan Process P C) : Prop where
  busy : s.app.workers 0 = .idle ∨ ∃ fetched, s.loop = .processing fetched
  stopped : s.stop = true ↔ s.main ≠ .serving
  ended : s.loop = .finished → s.stop = true
  publisher : s.main.pastPublisher = true → s.loop = .finished
  sync : s.main.pastSync = true → s.initial = .finished
  calling : ∀ i, s.initial = .calling i → s.app.entries i ≠ none

end Lifespan

theorem orderly_step (orderly : s.Orderly) (step : LifespanStep config s a t) : t.Orderly := by
  obtain ⟨busy, stopped, ended, publisher, sync, calling⟩ := orderly
  cases step with
  | @others a app apart step =>
    obtain ⟨worker, entries⟩ := app_kept step
    have mine : app.workers 0 = s.app.workers 0 := by
      apply worker
      rintro b rfl
      exact apart
    exact ⟨mine ▸ busy, stopped, ended, publisher, sync, fun i here => entries i (calling i here)⟩
  | check here =>
    have alive : s.main.pastPublisher = false := by
      rw [← Bool.not_eq_true]
      intro past
      rcases here with here | here <;> cases here.symm.trans (publisher past)
    have idle : s.app.workers 0 = .idle := by
      rcases busy with idle | ⟨fetched, there⟩
      · exact idle
      · rcases here with here | here <;> cases here.symm.trans there
    refine ⟨Or.inl idle, stopped, ?_, fun past => ?_, sync, calling⟩
    · intro finished
      by_contra going
      simp [going] at finished
    · rw [alive] at past
      cases past
  | @publish a app fetched mine here once cancelled step =>
    refine ⟨Or.inr ⟨_, rfl⟩, stopped, fun finished => ?_, fun past => ?_, sync, fun i there =>
      (app_kept step).2 i (calling i there)⟩
    · cases finished
    · cases here.symm.trans (publisher past)
  | processed here idle alive =>
    refine ⟨Or.inl idle, stopped, fun finished => ?_, fun past => ?_, sync, calling⟩
    · cases finished
    · cases here.symm.trans (publisher past)
  | publisherCancelled here idle =>
    refine ⟨Or.inl idle, stopped, fun _ => stopped.mpr ?_, fun _ => rfl, sync, calling⟩
    rw [here]
    decide
  | @initialCall i app created alive step =>
    obtain ⟨worker, _⟩ := app_kept step
    have same := worker fun b other => nomatch other
    refine ⟨same ▸ busy, stopped, ended, publisher, fun past => ?_, ?_⟩
    · cases created.symm.trans (sync past)
    · rintro _ ⟨⟩
      exact call_entered step
  | @initialProceed i a app here mine cancelled step =>
    obtain ⟨worker, entries⟩ := app_kept step
    have same := worker fun b other => nomatch other
    exact ⟨same ▸ busy, stopped, ended, publisher, sync, fun i here => entries i (calling i here)⟩
  | syncReturned | syncCancelled =>
    exact ⟨busy, stopped, ended, publisher, fun _ => rfl, fun i here => nomatch here⟩
  | stop here =>
    refine ⟨busy, iff_of_true rfl ?_, fun _ => rfl, fun past => ?_, fun past => ?_, calling⟩
    · exact fun same => nomatch same
    · cases past
    · cases past
  | publisherEnded here finished =>
    have going : s.stop = true := ended finished
    refine ⟨busy, iff_of_true going ?_, ended, fun _ => finished, fun past => ?_, calling⟩
    · show (if s.initial.done then _ else _) ≠ LifespanPoint.serving
      split <;> exact fun same => nomatch same
    · by_cases done : s.initial.done = true
      · exact s.initial.done_iff.mp done
      · simp [done, LifespanPoint.pastSync] at past
  | timeout here =>
    have going : s.stop = true := by
      rw [stopped, here]
      decide
    refine ⟨busy, iff_of_true going (fun same => nomatch same), ended, fun past => ?_,
      fun past => ?_, calling⟩
    · cases past
    · cases past
  | syncEnded here finished =>
    have past : s.main.pastPublisher = true := by rw [here]; rfl
    have going := ended (publisher past)
    exact ⟨busy, iff_of_true going (fun same => nomatch same), ended, fun _ => publisher past,
      fun _ => finished, calling⟩
  | closeCapashino here | closeProvider here =>
    have past : s.main.pastSync = true := by rw [here]; rfl
    have past' : s.main.pastPublisher = true := by rw [here]; rfl
    have going := ended (publisher past')
    exact ⟨busy, iff_of_true going (fun same => nomatch same), ended, fun _ => publisher past',
      fun _ => sync past, calling⟩

theorem orderly_run {moves : List (Move (Lifespan Process P C) (LifespanAction Process))}
    (initial : (lifespan Process config P C).Initial s)
    (run : Run (lifespan Process config P C) s moves t) : t.Orderly := by
  refine run.invariant (fun _ _ _ orderly step => orderly_step orderly step) ?_
  obtain ⟨idle, _, _, serving, going, created, before⟩ := initial
  have early : s.main.pastPublisher = false ∧ s.main.pastSync = false := by
    rw [serving]
    exact ⟨rfl, rfl⟩
  refine ⟨Or.inl idle, ?_, fun finished => ?_, fun past => ?_, fun past => ?_, fun i here => ?_⟩
  · simp [going, serving]
  · cases created.symm.trans finished
  · cases early.1.symm.trans past
  · cases early.2.symm.trans past
  · cases before.symm.trans here

namespace LifespanAction

def fetches : LifespanAction Process → Bool
  | .app (.publish a) => a.fetches && a.worker == some 0
  | _ => false

end LifespanAction

def PublisherLoop.owed : PublisherLoop → Nat
  | .processing false => 1
  | _ => 0

def lateFetches (moves : List (Move (Lifespan Process P C) (LifespanAction Process))) : Nat :=
  moves.countP fun m => m.source.stop && m.action.fetches

/-- A move of the process uses no client that is closed. -/
structure KeepsToClients (m : Move (Lifespan Process P C) (LifespanAction Process)) : Prop where
  capashino : ∀ a, m.action = .app (.publish a) → a.worker = some 0 →
    m.source.main.capashinoOpen = true
  provider : ∀ a i, m.action = .app (.sync a) → m.source.initial = .calling i →
    a.caller = some i → m.source.main.providerOpen = true

omit [DecidableEq Process] in
theorem late_fetches_cons (a : LifespanAction Process)
    (moves : List (Move (Lifespan Process P C) (LifespanAction Process))) :
    lateFetches (⟨s, a, t⟩ :: moves) = lateFetches moves + if s.stop && a.fetches then 1 else 0 :=
  List.countP_cons

/-- At most one batch is fetched late, and only by an iteration that had begun before. -/
structure FewLate (s : Lifespan Process P C) (n : Nat) : Prop where
  before : s.stop = false → n = 0
  after : s.stop = true → n + s.loop.owed ≤ 1

section FewLate

variable {n : Nat}

omit [DecidableEq Process] in
theorem FewLate.same (few : FewLate s n) (quiet : a.fetches = false) (stop : t.stop = s.stop)
    (owed : t.loop.owed ≤ s.loop.owed) :
    FewLate t (n + if s.stop && a.fetches then 1 else 0) := by
  rw [quiet, Bool.and_false]
  constructor
  · intro going
    exact few.before (stop.symm.trans going)
  · intro going
    have bound := few.after (stop.symm.trans going)
    simp only [Bool.false_eq_true, if_false]
    omega

theorem few_late_step (step : LifespanStep config s a t) (orderly : s.Orderly)
    (few : FewLate s n) : FewLate t (n + if s.stop && a.fetches then 1 else 0) := by
  cases step with
  | @others b app apart step =>
    refine few.same ?_ rfl (Nat.le_refl _)
    cases b with
    | publish b =>
      have other : (b.worker == some 0) = false := beq_eq_false_iff_ne.mpr apart
      simp [LifespanAction.fetches, other]
    | request | sync | tick => rfl
  | check here =>
    by_cases going : s.stop = true
    · refine few.same rfl rfl ?_
      show PublisherLoop.owed (if s.stop then _ else _) ≤ _
      rw [if_pos going]
      exact Nat.zero_le _
    · have zero := few.before (eq_false_of_ne_true going)
      subst zero
      refine ⟨fun _ => ?_, fun other => absurd other going⟩
      simp [going]
  | @publish b app fetched mine here once cancelled step =>
    have fetches : @LifespanAction.fetches Process (.app (.publish b)) = b.fetches := by
      simp [LifespanAction.fetches, mine]
    cases fetching : b.fetches with
    | false =>
      refine few.same (fetches.trans fetching) rfl ?_
      rw [here, Bool.or_false]
    | true =>
      have first : s.loop.owed = 1 := by
        rw [here, once fetching]
        rfl
      rw [fetches, fetching, Bool.and_true]
      refine ⟨fun going => ?_, fun going => ?_⟩
      · rw [show s.stop = false from going]
        exact few.before going
      · have bound := few.after going
        rw [show s.stop = true from going, Bool.or_true]
        show n + 1 + 0 ≤ 1
        omega
  | processed | publisherCancelled => exact few.same rfl rfl (Nat.zero_le _)
  | stop here =>
    have going : s.stop = false := by
      rw [← Bool.not_eq_true, orderly.stopped, here]
      exact not_not_intro rfl
    have zero := few.before going
    subst zero
    refine ⟨(fun other => nomatch other), fun _ => ?_⟩
    have one : s.loop.owed ≤ 1 := by
      unfold PublisherLoop.owed
      split <;> simp
    simpa [going] using one
  | initialCall | initialProceed | syncReturned | syncCancelled | publisherEnded | timeout
  | syncEnded | closeCapashino | closeProvider => exact few.same rfl rfl (Nat.le_refl _)

end FewLate

theorem keeps_to_clients (orderly : s.Orderly) (step : LifespanStep config s a t) :
    KeepsToClients ⟨s, a, t⟩ where
  capashino := by
    rintro b rfl mine
    cases step with
    | others apart step => exact absurd mine apart
    | publish _ here once cancelled step =>
      have going : s.main.pastPublisher = false := by
        rw [← Bool.not_eq_true]
        intro past
        cases here.symm.trans (orderly.publisher past)
      cases here : s.main <;> simp [here, LifespanPoint.pastPublisher] at going <;> rfl
  provider := by
    rintro b i rfl calling _
    have going : s.main.pastSync = false := by
      rw [← Bool.not_eq_true]
      intro past
      cases (show s.initial = _ from calling).symm.trans (orderly.sync past)
    cases here : s.main <;> simp [here, LifespanPoint.pastSync] at going <;> rfl

theorem lifespan_application (step : LifespanStep config s a t) :
    ∃ moves, Run (application Process config P C) s.app moves t.app := by
  cases step with
  | others _ step | publish _ _ _ _ step | initialCall _ _ step | initialProceed _ _ _ step =>
    exact ⟨_, Run.refl.move step⟩
  | check | processed | publisherCancelled | syncReturned | syncCancelled | stop | publisherEnded
  | timeout | syncEnded | closeCapashino | closeProvider => exact ⟨[], .refl⟩

/-- In every life of the process its publisher and its initial sync only use clients that are still
    open. The publisher goes on for as long as the service does, whatever its iterations raise, and
    after `stop` fetches at most the batch of the iteration that it is in. -/
theorem tasks_end_before_clients_close
    {moves : List (Move (Lifespan Process P C) (LifespanAction Process))}
    (initial : (lifespan Process config P C).Initial s)
    (run : Run (lifespan Process config P C) s moves t) :
    (∀ m ∈ moves, KeepsToClients m) ∧ (t.loop = .finished → t.main ≠ .serving) ∧
      lateFetches moves ≤ 1 ∧
      ∃ moves', Run (application Process config P C) s.app moves' t.app := by
  have orderly := orderly_run initial run
  refine ⟨?_, fun finished => orderly.stopped.mp (orderly.ended finished), ?_, ?_⟩
  · intro m member
    obtain ⟨_, _, _, before, step, _⟩ := run.cut member
    exact keeps_to_clients (orderly_run initial before) step
  · have few : FewLate t (lateFetches moves) := by
      refine run.history (I := fun moves t => FewLate t (lateFetches moves)) ?_ ?_
      · intro moves t a u before few step
        rw [late_fetches_cons]
        exact few_late_step step (orderly_run initial before) few
      · refine ⟨fun _ => rfl, fun going => ?_⟩
        cases initial.2.2.2.2.1.symm.trans going
    cases going : t.stop with
    | false =>
      rw [few.before going]
      exact Nat.zero_le _
    | true => exact Nat.le_trans (Nat.le_add_right _ _) (few.after going)
  · clear initial orderly
    induction run with
    | refl => exact ⟨[], .refl⟩
    | move _ step ih =>
      obtain ⟨_, before⟩ := ih
      obtain ⟨_, onward⟩ := lifespan_application step
      exact ⟨_, before.trans onward⟩

/-- A move for which nobody is waited for: one of `lifespan` and its tasks themselves, or what the
    cancellation of a task comes to at the await where the task is suspended. -/
def Prompt (m : Move (Lifespan Process P C) (LifespanAction Process)) : Prop :=
  match m.action with
  | .app (.publish a) => m.source.main = .cancellingPublisher ∧ a = .abandon 0
  | .app (.sync a) => m.source.main = .cancellingSync ∧
      ∃ i, m.source.initial = .calling i ∧ (a = .giveUp i ∨ a = .finish i .abandon .cancelled)
  | .app (.request _) | .app (.tick _) => False
  | _ => True

def ShutsDown (config : AppConfig) (n : Nat) (s : Lifespan Process P C) : Prop :=
  ∃ moves u, Run (lifespan Process config P C) s moves u ∧ u.main = .down ∧ moves.length ≤ n ∧
    ∀ m ∈ moves, Prompt m

section ShutsDown

variable {n : Nat}

theorem ShutsDown.step (later : ShutsDown config n t) (step : LifespanStep config s a t)
    (prompt : Prompt ⟨s, a, t⟩) : ShutsDown config (n + 1) s := by
  obtain ⟨moves, u, run, down, short, quiet⟩ := later
  have first : Run (lifespan Process config P C) s [⟨s, a, t⟩] t := Run.refl.move step
  refine ⟨moves ++ [⟨s, a, t⟩], u, first.trans run, down, ?_, ?_⟩
  · simpa using short
  · intro m member
    rcases List.mem_append.mp member with member | member
    · exact quiet m member
    · cases List.mem_singleton.mp member
      exact prompt

theorem ShutsDown.mono {k : Nat} (bound : n ≤ k) (later : ShutsDown config n s) :
    ShutsDown config k s := by
  obtain ⟨moves, u, run, down, short, quiet⟩ := later
  exact ⟨moves, u, run, down, Nat.le_trans short bound, quiet⟩

theorem shuts_closing (here : s.main = .closingCapashino) : ShutsDown config 2 s := by
  have down : ShutsDown config 0 { s with main := .down } :=
    ⟨[], _, .refl, rfl, Nat.le_refl _, List.forall_mem_nil _⟩
  have last : ShutsDown config 1 { s with main := .closingProvider } :=
    down.step (.closeProvider rfl) trivial
  exact last.step (.closeCapashino here) trivial

theorem shuts_synced (here : s.main = .cancellingSync) (finished : s.initial = .finished) :
    ShutsDown config 3 s :=
  (shuts_closing rfl).step (.syncEnded here finished) trivial

theorem shuts_syncing (orderly : s.Orderly) (here : s.main = .cancellingSync) :
    ShutsDown config 5 s := by
  cases initial : s.initial with
  | finished => exact (shuts_synced here initial).mono (by decide)
  | created =>
    have synced : ShutsDown config 3 { s with initial := .finished } := shuts_synced here rfl
    exact (synced.step (.syncCancelled here initial) trivial).mono (by decide)
  | calling i =>
    obtain ⟨⟨caller, stage⟩, found⟩ := Option.ne_none_iff_exists'.mp (orderly.calling i initial)
    have returned : ∀ {app : Application Process P C} {outcome : SyncOutcome},
        app.entries i = some ⟨caller, .finished outcome⟩ → ShutsDown config 4 { s with app } := by
      intro app outcome ended
      have synced : ShutsDown config 3 { s with app, initial := .finished } := shuts_synced here rfl
      exact synced.step (.syncReturned initial ended) trivial
    cases stage with
    | finished outcome => exact (returned found).mono (by decide)
    | waiting =>
      have gone := @returned (s.app.withSyncing
        { s.app.syncing.setEntry i caller (.finished .cancelled) with
          lock := s.app.syncing.lock.giveUp i }) .cancelled (Function.update_self ..)
      exact gone.step (.initialProceed initial rfl (fun _ => rfl) (.sync rfl (.giveUp found)))
        ⟨here, i, initial, .inl rfl⟩
    | inside call =>
      have step : CallStep config.sync config.paginator (s.app.syncing.process call) .abandon
          { s.app.syncing.process call with call := none } := .abandon
      have gone := @returned (s.app.withSyncing
        { (s.app.syncing.written { s.app.syncing.process call with call := none }).setEntry i
            caller (.finished .cancelled) with
          lock := s.app.syncing.lock.release }) .cancelled (Function.update_self ..)
      exact gone.step (.initialProceed initial rfl (fun _ => rfl)
        (.sync rfl (.finish found step (.inl rfl)))) ⟨here, i, initial, .inr rfl⟩

theorem shuts_published (orderly : s.Orderly)
    (here : s.main = .stopping ∨ s.main = .cancellingPublisher) (finished : s.loop = .finished) :
    ShutsDown config 6 s := by
  have step : LifespanStep config s .publisherEnded _ := .publisherEnded here finished
  have after := orderly_step orderly step
  by_cases done : s.initial.done = true
  · have closing : ShutsDown config 2
        { s with main := if s.initial.done then .closingCapashino else .cancellingSync } :=
      shuts_closing (if_pos done)
    exact (closing.step step trivial).mono (by decide)
  · exact (shuts_syncing after (if_neg done)).step step trivial

theorem shuts_publishing (orderly : s.Orderly) (here : s.main = .cancellingPublisher) :
    ShutsDown config 8 s := by
  have idle : ∀ {s : Lifespan Process P C}, s.Orderly → s.main = .cancellingPublisher →
      s.app.workers 0 = .idle → ShutsDown config 7 s := by
    intro s orderly here idle
    have step : LifespanStep config s .publisherCancelled _ := .publisherCancelled here idle
    exact (shuts_published (orderly_step orderly step) (.inr here) rfl).step step trivial
  rcases orderly.busy with rest | ⟨fetched, there⟩
  · exact (idle orderly here rest).mono (by decide)
  · have abandoned : PublisherStep config.libraries config.outbox s.app.publishing (.abandon 0)
        { s.app.publishing with
          workers := Function.update s.app.publishing.workers 0 .idle } := .abandon
    have step : LifespanStep config s (.app (.publish (.abandon 0))) _ :=
      .publish rfl there (fun other => nomatch other) (fun _ => rfl) (.publish rfl abandoned)
    exact (idle (orderly_step orderly step) here rfl).step step ⟨here, rfl⟩

end ShutsDown

/-- From wherever its life has come to, the process can be down within ten moves, although neither
    Capashino nor the provider answers any more and no commit comes through. -/
theorem shutdown_waits_for_nobody
    {moves : List (Move (Lifespan Process P C) (LifespanAction Process))}
    (initial : (lifespan Process config P C).Initial s)
    (run : Run (lifespan Process config P C) s moves t) : ShutsDown config 10 t := by
  have orderly := orderly_run initial run
  have stopped : ∀ {t : Lifespan Process P C}, t.Orderly → t.main = .stopping →
      ShutsDown config 9 t := by
    intro t orderly here
    have step : LifespanStep config t .timeout _ := .timeout here
    exact (shuts_publishing (orderly_step orderly step) rfl).step step trivial
  cases here : t.main with
  | serving =>
    have step : LifespanStep config t .stop _ := .stop here
    exact (stopped (orderly_step orderly step) rfl).step step trivial
  | stopping => exact (stopped orderly here).mono (by decide)
  | cancellingPublisher => exact (shuts_publishing orderly here).mono (by decide)
  | cancellingSync => exact (shuts_syncing orderly here).mono (by decide)
  | closingCapashino => exact (shuts_closing here).mono (by decide)
  | closingProvider =>
    have step : LifespanStep config t .closeProvider _ := .closeProvider here
    refine ShutsDown.mono (Nat.le_add_left 1 9) (ShutsDown.step ?_ step trivial)
    exact ⟨[], _, .refl, rfl, Nat.le_refl _, List.forall_mem_nil _⟩
  | down => exact ⟨[], t, .refl, here, Nat.zero_le _, List.forall_mem_nil _⟩

section Sample

def freshLifespan : Lifespan Unit anyProvider (confirmingService sampleLibraries) where
  app := freshApplication
  main := .serving
  scheduler := true
  stop := false
  loop := .created
  initial := .created

theorem fresh_lifespan : (lifespan Unit sampleConfig anyProvider
    (confirmingService sampleLibraries)).Initial freshLifespan :=
  ⟨rfl, rfl, fun _ => rfl, rfl, rfl, rfl, rfl⟩

/-- The service is stopped right after an iteration has begun and the initial sync has entered. -/
theorem stopped_early : ∃ moves t, Run (lifespan Unit sampleConfig anyProvider
    (confirmingService sampleLibraries)) freshLifespan moves t ∧ t.main = .stopping ∧
      t.loop = .processing true ∧ t.initial = .calling 0 ∧ lateFetches moves = 1 := by
  have start := @Run.refl _ _ (lifespan Unit sampleConfig anyProvider
    (confirmingService sampleLibraries)) freshLifespan
  have begun := start.move (.check (.inl rfl))
  have entered := begun.move (.initialCall rfl (fun other => nomatch other) (.sync rfl
    (.enter .initialSync (rfl : SyncCallers.entries _ 0 = none) rfl rfl)))
  have stopped := entered.move (.stop rfl)
  have fetched := stopped.move (.publish rfl rfl (fun _ => rfl) (fun other => nomatch other)
    (.publish rfl (@PublisherStep.fetch _ _ _ _ 0 [] rfl
      (fetch_pending_rows (fun _ => not_locked fun _ _ => rfl) List.Pairwise.nil))))
  exact ⟨_, _, fetched, rfl, rfl, rfl, rfl⟩

theorem tasks_end_before_clients_close_stopped :
    ∃ (moves : List (Move (Lifespan Unit anyProvider (confirmingService sampleLibraries))
      (LifespanAction Unit))) (t : Lifespan Unit anyProvider (confirmingService sampleLibraries)),
      Run (lifespan Unit sampleConfig anyProvider (confirmingService sampleLibraries)) freshLifespan
        moves t ∧ t.main = .stopping ∧ (∀ m ∈ moves, KeepsToClients m) ∧ lateFetches moves = 1 := by
  obtain ⟨moves, t, run, stopping, _, _, late⟩ := stopped_early
  exact ⟨moves, t, run, stopping, (tasks_end_before_clients_close fresh_lifespan run).1, late⟩

theorem shutdown_waits_for_nobody_stopped :
    ∃ (moves : List (Move (Lifespan Unit anyProvider (confirmingService sampleLibraries))
      (LifespanAction Unit))) (t : Lifespan Unit anyProvider (confirmingService sampleLibraries)),
      Run (lifespan Unit sampleConfig anyProvider (confirmingService sampleLibraries)) freshLifespan
        moves t ∧ t.main = .stopping ∧ t.initial = .calling 0 ∧ ShutsDown sampleConfig 10 t := by
  obtain ⟨moves, t, run, stopping, _, calling, _⟩ := stopped_early
  exact ⟨moves, t, run, stopping, calling, shutdown_waits_for_nobody fresh_lifespan run⟩

end Sample

end EventsAggregator
