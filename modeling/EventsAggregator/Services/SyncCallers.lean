import EventsAggregator.Services.SyncCalls
import EventsAggregator.Transition.Lock
import EventsAggregator.Transition.Simulation

namespace EventsAggregator

open Relational Transition Asyncio

inductive SyncCaller
  | triggerSync (full : Bool)
  | periodicSync
  | initialSync

def SyncCaller.full : SyncCaller → Bool
  | .triggerSync full => full
  | .periodicSync | .initialSync => false

inductive SyncOutcome
  | returned (result : SyncResult)
  | alreadyRunning
  | raised (error : Raised)
  | cancelled

/-- Where a caller stands: in `self._lock.acquire()`, in `_do_sync`, or behind the call. -/
inductive SyncStage
  | waiting
  | inside (call : SyncCall)
  | finished (outcome : SyncOutcome)

def SyncStage.interrupted : SyncStage → SyncStage
  | .finished outcome => .finished outcome
  | .waiting | .inside _ => .finished .cancelled

structure SyncEntry where
  caller : SyncCaller
  stage : SyncStage

/-- Any number of callers in one process, with the lock of `SyncService` and the database. -/
structure SyncCallers where
  now : Instant
  events : Table EventORM.id
  metadata : Option SyncMetadataORM
  lock : Lock Nat
  entries : Nat → Option SyncEntry

inductive CallersAction
  | tick (now : Instant)
  | call (caller : Nat) (entry : SyncCaller)
  | granted (caller : Nat)
  | cancelWaiting (caller : Nat)
  | giveUp (caller : Nat)
  | proceed (caller : Nat) (action : CallAction)
  | finish (caller : Nat) (action : CallAction) (outcome : SyncOutcome)
  | restart

namespace SyncCallers

def process (s : SyncCallers) (call : SyncCall) : SyncProcess :=
  ⟨s.now, s.events, s.metadata, some call⟩

def setEntry (s : SyncCallers) (i : Nat) (caller : SyncCaller) (stage : SyncStage) : SyncCallers :=
  { s with entries := Function.update s.entries i (some ⟨caller, stage⟩) }

def written (s : SyncCallers) (p : SyncProcess) : SyncCallers :=
  { s with events := p.events, metadata := p.metadata }

end SyncCallers

/-- The steps that end `_do_sync`, and how. An `abandon` is a cancellation or an exception that
    `_do_sync` does not record. -/
def CallAction.Ends (call : SyncCall) : CallAction → SyncOutcome → Prop
  | .succeed result, outcome => outcome = .returned result
  | .recordFailure, outcome => ∃ error, call.point = .markFailure error ∧ outcome = .raised error
  | .abandon, outcome => outcome = .cancelled ∨ ∃ error, outcome = .raised error
  | _, _ => False

def CallAction.ticks : CallAction → Bool
  | .tick _ => true
  | _ => false

inductive CallersStep (settings : SyncSettings) (paginator : EventsPaginator) :
    SyncCallers → CallersAction → SyncCallers → Prop
  | tick {s : SyncCallers} (now : Instant) :
      CallersStep settings paginator s (.tick now) { s with now }
  | refuse {s : SyncCallers} {i : Nat} (caller : SyncCaller) (fresh : s.entries i = none)
      (locked : s.lock.locked = true) :
      CallersStep settings paginator s (.call i caller)
        (s.setEntry i caller (.finished .alreadyRunning))
  -- Between `locked()` and the first await of `acquire` no other coroutine runs.
  | enter {s : SyncCallers} {i : Nat} {lock : Lock Nat} (caller : SyncCaller)
      (fresh : s.entries i = none) (unlocked : s.lock.locked = false)
      (acquired : s.lock.acquire = some lock) :
      CallersStep settings paginator s (.call i caller)
        { s.setEntry i caller (.inside ⟨caller.full, s.now, .getMeta⟩) with lock }
  | wait {s : SyncCallers} {i : Nat} (caller : SyncCaller) (fresh : s.entries i = none)
      (unlocked : s.lock.locked = false) (queued : s.lock.acquire = none) :
      CallersStep settings paginator s (.call i caller)
        { s.setEntry i caller .waiting with lock := s.lock.enqueue i }
  | granted {s : SyncCallers} {i : Nat} {caller : SyncCaller}
      (found : s.entries i = some ⟨caller, .waiting⟩) (woken : (i, .done) ∈ s.lock.waiters) :
      CallersStep settings paginator s (.granted i)
        { s.setEntry i caller (.inside ⟨caller.full, s.now, .getMeta⟩) with
          lock := s.lock.take i }
  | cancelWaiting {s : SyncCallers} {i : Nat} {caller : SyncCaller}
      (found : s.entries i = some ⟨caller, .waiting⟩) :
      CallersStep settings paginator s (.cancelWaiting i)
        { s with
          lock := { s.lock with
            waiters := s.lock.waiters.map fun waiter =>
              if waiter = (i, .pending) then (i, .cancelled) else waiter } }
  | giveUp {s : SyncCallers} {i : Nat} {caller : SyncCaller}
      (found : s.entries i = some ⟨caller, .waiting⟩) :
      CallersStep settings paginator s (.giveUp i)
        { s.setEntry i caller (.finished .cancelled) with lock := s.lock.giveUp i }
  | proceed {s : SyncCallers} {i : Nat} {caller : SyncCaller} {call call' : SyncCall}
      {a : CallAction} {p : SyncProcess} (found : s.entries i = some ⟨caller, .inside call⟩)
      (step : CallStep settings paginator (s.process call) a p) (own : a.ticks = false)
      (goes : p.call = some call') :
      CallersStep settings paginator s (.proceed i a)
        ((s.written p).setEntry i caller (.inside call'))
  -- `async with self._lock` releases the lock however the call ends.
  | finish {s : SyncCallers} {i : Nat} {caller : SyncCaller} {call : SyncCall} {a : CallAction}
      {p : SyncProcess} {outcome : SyncOutcome}
      (found : s.entries i = some ⟨caller, .inside call⟩)
      (step : CallStep settings paginator (s.process call) a p) (ends : a.Ends call outcome) :
      CallersStep settings paginator s (.finish i a outcome)
        { (s.written p).setEntry i caller (.finished outcome) with lock := s.lock.release }
  -- The process dies and is started anew; the database stays.
  | restart {s : SyncCallers} :
      CallersStep settings paginator s .restart
        { s with
          lock := .new
          entries := fun i => (s.entries i).map fun entry =>
            { entry with stage := entry.stage.interrupted } }

def syncCallers (settings : SyncSettings) (paginator : EventsPaginator) :
    System SyncCallers CallersAction where
  Initial s := s.lock = .new ∧ (∀ i, s.entries i = none) ∧
    (syncCalls settings paginator).Initial ⟨s.now, s.events, s.metadata, none⟩
  Step := CallersStep settings paginator

structure Guarded (s : SyncCallers) (holder : Option (Nat × SyncCaller × SyncCall)) : Prop where
  lock : s.lock = ⟨holder.isSome, []⟩
  inside : ∀ i caller call,
    s.entries i = some ⟨caller, .inside call⟩ ↔ holder = some (i, caller, call)
  served : ∀ i caller, s.entries i ≠ some ⟨caller, .waiting⟩

def SyncCallers.alone (s : SyncCallers) (holder : Option (Nat × SyncCaller × SyncCall)) :
    SyncProcess :=
  ⟨s.now, s.events, s.metadata, holder.map fun held => held.2.2⟩

variable {settings : SyncSettings} {paginator : EventsPaginator} {s t : SyncCallers}
  {a : CallersAction} {holder : Option (Nat × SyncCaller × SyncCall)}

theorem setEntry_entries (s : SyncCallers) (i j : Nat) (caller : SyncCaller) (stage : SyncStage) :
    (s.setEntry i caller stage).entries j =
      if j = i then some ⟨caller, stage⟩ else s.entries j := by
  simp [SyncCallers.setEntry, Function.update_apply]

namespace Guarded

theorem holds (guarded : Guarded s holder) {i : Nat} {caller : SyncCaller} {call : SyncCall}
    (found : s.entries i = some ⟨caller, .inside call⟩) : holder = some (i, caller, call) :=
  (guarded.inside i caller call).mp found

theorem free (guarded : Guarded s holder) (unlocked : s.lock.locked = false) : holder = none := by
  rw [guarded.lock] at unlocked
  exact Option.isSome_eq_false_iff.mp unlocked |> Option.isNone_iff_eq_none.mp

theorem entered (guarded : Guarded s holder) {i : Nat} {caller : SyncCaller} {call : SyncCall}
    (others : holder = none ∨ ∃ call, holder = some (i, caller, call))
    (lock : t.lock = ⟨true, []⟩)
    (entries : t.entries = (s.setEntry i caller (.inside call)).entries) :
    Guarded t (some (i, caller, call)) where
  lock := lock
  inside := by
    intro j caller' call'
    rw [entries, setEntry_entries]
    by_cases here : j = i
    · subst here
      simp
    · rw [if_neg here, guarded.inside]
      rcases others with rfl | ⟨_, rfl⟩
      · simp [Ne.symm here]
      · simp [Ne.symm here]
  served := by
    intro j caller'
    rw [entries, setEntry_entries]
    split
    · simp
    · exact guarded.served j caller'

theorem left (guarded : Guarded s holder) {i : Nat} {caller : SyncCaller} {outcome : SyncOutcome}
    {holder' : Option (Nat × SyncCaller × SyncCall)} (lock : t.lock = ⟨holder'.isSome, []⟩)
    (entries : t.entries = (s.setEntry i caller (.finished outcome)).entries)
    (rest : ∀ j caller call, holder' = some (j, caller, call) ↔
      j ≠ i ∧ holder = some (j, caller, call)) : Guarded t holder' where
  lock := lock
  inside := by
    intro j caller' call'
    rw [entries, setEntry_entries, rest]
    by_cases here : j = i
    · simp [here]
    · simp [here, guarded.inside]
  served := by
    intro j caller'
    rw [entries, setEntry_entries]
    split
    · simp
    · exact guarded.served j caller'

end Guarded

theorem step_now {s t : SyncProcess} {a : CallAction} (step : CallStep settings paginator s a t)
    (own : a.ticks = false) : t.now = s.now := by
  cases step with
  | tick now => cases own
  | start | getMeta | markRunning | page | iterate | store | storeLast | storeLastLost | fail
  | succeed | recordFailure | abandon => rfl

theorem ends_ticks {call : SyncCall} {a : CallAction} {outcome : SyncOutcome}
    (ends : a.Ends call outcome) : a.ticks = false := by
  cases a with
  | tick now => cases ends
  | start | getMeta | markRunning | page | iterate | store | storeLast | storeLastLost | fail
  | succeed | recordFailure | abandon => rfl

theorem ends_returned {call : SyncCall} {a : CallAction} {result : SyncResult}
    (ends : a.Ends call (.returned result)) : a = .succeed result := by
  cases a with
  | succeed result' =>
    cases ends
    rfl
  | recordFailure =>
    obtain ⟨_, _, other⟩ := ends
    cases other
  | abandon => rcases ends with other | ⟨_, other⟩ <;> cases other
  | tick | start | getMeta | markRunning | page | iterate | store | storeLast | storeLastLost
  | fail => cases ends

theorem not_ends_refused {call : SyncCall} {a : CallAction} : ¬ a.Ends call .alreadyRunning := by
  cases a with
  | recordFailure =>
    rintro ⟨_, _, other⟩
    cases other
  | abandon => rintro (other | ⟨_, other⟩) <;> cases other
  | tick | start | getMeta | markRunning | page | iterate | store | storeLast | storeLastLost
  | fail | succeed =>
    intro ends
    cases ends

theorem ends_call {s t : SyncProcess} {call : SyncCall} {a : CallAction} {outcome : SyncOutcome}
    (step : CallStep settings paginator s a t) (ends : a.Ends call outcome) : t.call = none := by
  cases step with
  | succeed | recordFailure | abandon => rfl
  | tick | start | getMeta | markRunning | page | iterate | store | storeLast | storeLastLost
  | fail => cases ends

def CallersAction.performed : CallersAction → Option CallAction
  | .tick now => some (.tick now)
  | .call _ caller => some (.start caller.full)
  | .proceed _ a | .finish _ a _ => some a
  | .restart => some .abandon
  | .granted _ | .cancelWaiting _ | .giveUp _ => none

theorem callers_step (guarded : Guarded s holder) (step : CallersStep settings paginator s a t) :
    ∃ holder', Guarded t holder' ∧
      ((∃ i caller, a = .call i caller) ∧ t.alone holder' = s.alone holder ∨
        ∃ b, a.performed = some b ∧
          CallStep settings paginator (s.alone holder) b (t.alone holder')) := by
  have none_waits : ∀ {i caller}, s.entries i = some ⟨caller, .waiting⟩ → False :=
    fun found => guarded.served _ _ found
  cases step with
  | tick now =>
    exact ⟨holder, ⟨guarded.lock, guarded.inside, guarded.served⟩, Or.inr ⟨_, rfl, .tick now⟩⟩
  | @refuse i caller fresh locked =>
    have absent : ∀ j caller call, holder = some (j, caller, call) ↔
        j ≠ i ∧ holder = some (j, caller, call) := by
      intro j caller call
      refine ⟨fun held => ⟨?_, held⟩, And.right⟩
      rintro rfl
      rw [(guarded.inside j caller call).mpr held] at fresh
      cases fresh
    exact ⟨holder, guarded.left guarded.lock rfl absent, Or.inl ⟨⟨i, caller, rfl⟩, rfl⟩⟩
  | @enter i lock caller fresh unlocked acquired =>
    have nobody := guarded.free unlocked
    subst nobody
    rw [guarded.lock] at acquired
    cases acquired
    exact ⟨_, guarded.entered (Or.inl rfl) rfl rfl, Or.inr ⟨_, rfl, .start caller.full rfl⟩⟩
  | @wait i caller fresh unlocked queued =>
    have nobody := guarded.free unlocked
    subst nobody
    rw [guarded.lock] at queued
    cases queued
  | granted found | cancelWaiting found | giveUp found => exact (none_waits found).elim
  | @proceed i caller call call' a p found step own goes =>
    have held := guarded.holds found
    subst held
    have after : p = ((s.written p).setEntry i caller (.inside call')).alone
        (some (i, caller, call')) := by
      have now : p.now = s.now := step_now step own
      cases p
      cases now
      cases goes
      rfl
    exact ⟨_, guarded.entered (Or.inr ⟨call, rfl⟩) guarded.lock rfl,
      Or.inr ⟨_, rfl, after ▸ step⟩⟩
  | @finish i caller call a p outcome found step ends =>
    have held := guarded.holds found
    subst held
    have after : p = SyncCallers.alone
        { (s.written p).setEntry i caller (.finished outcome) with lock := s.lock.release }
        none := by
      have now : p.now = s.now := step_now step (ends_ticks ends)
      have gone : p.call = none := ends_call step ends
      cases p
      cases now
      cases gone
      rfl
    have nobody : ∀ j caller' call', none = some (j, caller', call') ↔
        j ≠ i ∧ some (i, caller, call) = some (j, caller', call') := by
      intro j caller' call'
      constructor
      · intro held
        cases held
      · rintro ⟨other, held⟩
        cases held
        exact absurd rfl other
    have released : s.lock.release = ⟨false, []⟩ := by
      rw [guarded.lock]
      rfl
    exact ⟨none, guarded.left released rfl nobody, Or.inr ⟨_, rfl, after ▸ step⟩⟩
  | restart =>
    refine ⟨none, ⟨rfl, ?_, ?_⟩, Or.inr ⟨_, rfl, .abandon⟩⟩
    · intro i caller call
      refine ⟨fun found => ?_, fun held => ?_⟩
      · obtain ⟨entry, _, same⟩ := Option.map_eq_some_iff.mp found
        cases stage : entry.stage <;> simp [SyncStage.interrupted, stage] at same
      · cases held
    · intro i caller found
      obtain ⟨entry, _, same⟩ := Option.map_eq_some_iff.mp found
      cases stage : entry.stage <;> simp [SyncStage.interrupted, stage] at same

theorem guarded_initial (initial : (syncCallers settings paginator).Initial s) :
    Guarded s none where
  lock := initial.1
  inside := by simp [initial.2.1]
  served := by simp [initial.2.1]

/-- The callers behave as the one call among them that holds the lock. -/
theorem callers_simulate : Simulates (syncCallers settings paginator)
    (syncCalls settings paginator) fun s p => ∃ holder, Guarded s holder ∧ p = s.alone holder where
  initial s initial := ⟨s.alone none, initial.2.2, none, guarded_initial initial, rfl⟩
  step := by
    rintro s a t _ ⟨holder, guarded, rfl⟩ step
    obtain ⟨holder', guarded', ⟨_, same⟩ | ⟨b, _, step⟩⟩ := callers_step guarded step
    · exact ⟨[], _, .refl, holder', guarded', same.symm⟩
    · exact ⟨_, _, Run.refl.move step, holder', guarded', rfl⟩

namespace SyncCallers

def Inside (s : SyncCallers) (i : Nat) : Prop :=
  ∃ caller call, s.entries i = some ⟨caller, .inside call⟩

def Waits (s : SyncCallers) (i : Nat) : Prop := ∃ caller, s.entries i = some ⟨caller, .waiting⟩

def Refused (s : SyncCallers) (i : Nat) : Prop :=
  ∃ caller, s.entries i = some ⟨caller, .finished .alreadyRunning⟩

end SyncCallers

/-- The lock is taken while one of the callers is in `_do_sync`, and by it alone. -/
structure OneInside (s : SyncCallers) : Prop where
  one : ∀ i j, s.Inside i → s.Inside j → i = j
  locked : s.lock.locked = true ↔ ∃ i, s.Inside i
  served : ∀ i, ¬ s.Waits i

/-- A call that finds another one inside is refused and leaves everything as it was; any other
    call comes in. -/
structure CallAnswered (m : Move SyncCallers CallersAction) (i : Nat) : Prop where
  refused : m.target.Refused i ↔ ∃ j, m.source.Inside j
  admitted : m.target.Inside i ↔ ¬ ∃ j, m.source.Inside j
  untouched : m.target.now = m.source.now ∧ m.target.events = m.source.events ∧
    m.target.metadata = m.source.metadata
  others : ∀ j, j ≠ i → m.target.entries j = m.source.entries j
  unlocked : m.target.Refused i → m.target.lock = m.source.lock

theorem Guarded.inside_iff (guarded : Guarded s holder) (i : Nat) :
    s.Inside i ↔ ∃ caller call, holder = some (i, caller, call) := by
  simp only [SyncCallers.Inside, guarded.inside]

theorem Guarded.locked_iff (guarded : Guarded s holder) :
    s.lock.locked = true ↔ ∃ i, s.Inside i := by
  rw [guarded.lock]
  constructor
  · intro taken
    obtain ⟨⟨i, caller, call⟩, rfl⟩ := Option.isSome_iff_exists.mp taken
    exact ⟨i, (guarded.inside_iff i).mpr ⟨caller, call, rfl⟩⟩
  · rintro ⟨i, inside⟩
    obtain ⟨_, _, rfl⟩ := (guarded.inside_iff i).mp inside
    rfl

theorem Guarded.oneInside (guarded : Guarded s holder) : OneInside s where
  one := by
    intro i j first second
    obtain ⟨_, _, rfl⟩ := (guarded.inside_iff i).mp first
    obtain ⟨_, _, same⟩ := (guarded.inside_iff j).mp second
    cases same
    rfl
  locked := guarded.locked_iff
  served := fun i ⟨caller, found⟩ => guarded.served i caller found

theorem call_answers (guarded : Guarded s holder) {i : Nat} {caller : SyncCaller}
    (step : CallersStep settings paginator s (.call i caller) t) :
    CallAnswered ⟨s, .call i caller, t⟩ i := by
  cases step with
  | refuse _ fresh locked =>
    have there : (s.setEntry i caller (.finished .alreadyRunning)).entries i =
        some ⟨caller, .finished .alreadyRunning⟩ := by
      rw [setEntry_entries, if_pos rfl]
    have others : ∀ j, j ≠ i →
        (s.setEntry i caller (.finished .alreadyRunning)).entries j = s.entries j := by
      intro j other
      rw [setEntry_entries, if_neg other]
    refine ⟨⟨fun _ => guarded.locked_iff.mp locked, fun _ => ⟨caller, there⟩⟩, ⟨?_, ?_⟩,
      ⟨rfl, rfl, rfl⟩, others, fun _ => rfl⟩
    · rintro ⟨_, _, found⟩
      cases there.symm.trans found
    · intro nobody
      exact absurd (guarded.locked_iff.mp locked) nobody
  | @enter _ lock _ fresh unlocked acquired =>
    have there : (s.setEntry i caller (.inside ⟨caller.full, s.now, .getMeta⟩)).entries i =
        some ⟨caller, .inside ⟨caller.full, s.now, .getMeta⟩⟩ := by
      rw [setEntry_entries, if_pos rfl]
    have nobody : ¬ ∃ j, s.Inside j := by
      rw [← guarded.locked_iff, unlocked]
      exact Bool.false_ne_true
    have others : ∀ j, j ≠ i →
        (s.setEntry i caller (.inside ⟨caller.full, s.now, .getMeta⟩)).entries j = s.entries j := by
      intro j other
      rw [setEntry_entries, if_neg other]
    have admitted : ¬ SyncCallers.Refused
        { s.setEntry i caller (.inside ⟨caller.full, s.now, .getMeta⟩) with lock } i := by
      rintro ⟨_, found⟩
      cases there.symm.trans found
    exact ⟨⟨fun refused => absurd refused admitted, fun inside => absurd inside nobody⟩,
      ⟨fun _ => nobody, fun _ => ⟨_, _, there⟩⟩, ⟨rfl, rfl, rfl⟩, others,
      fun refused => absurd refused admitted⟩
  | wait _ fresh unlocked queued =>
    have nobody := guarded.free unlocked
    subst nobody
    rw [guarded.lock] at queued
    cases queued

theorem guarded_run {moves : List (Move SyncCallers CallersAction)}
    (initial : (syncCallers settings paginator).Initial s)
    (run : Run (syncCallers settings paginator) s moves t) : ∃ holder, Guarded t holder := by
  obtain ⟨_, _, _, holder, guarded, _⟩ :=
    callers_simulate.run run ⟨none, guarded_initial initial, rfl⟩
  exact ⟨holder, guarded⟩

theorem one_caller_inside {moves : List (Move SyncCallers CallersAction)}
    (initial : (syncCallers settings paginator).Initial s)
    (run : Run (syncCallers settings paginator) s moves t) :
    OneInside t ∧ ∀ m ∈ moves, ∀ i caller, m.action = .call i caller → CallAnswered m i := by
  obtain ⟨holder, guarded⟩ := guarded_run initial run
  refine ⟨guarded.oneInside, ?_⟩
  rintro ⟨source, action, target⟩ member i caller rfl
  obtain ⟨_, _, _, before, step, _⟩ := run.cut member
  obtain ⟨_, guarded⟩ := guarded_run initial before
  exact call_answers guarded step

/-- What holds of the database in every run of single calls holds of it in every run of callers. -/
theorem callers_act_as_one {moves : List (Move SyncCallers CallersAction)}
    (initial : (syncCallers settings paginator).Initial s)
    (run : Run (syncCallers settings paginator) s moves t) : ∃ moves' p,
      Run (syncCalls settings paginator) ⟨s.now, s.events, s.metadata, none⟩ moves' p ∧
        p.now = t.now ∧ p.events = t.events ∧ p.metadata = t.metadata ∧
        ∀ call, p.call = some call ↔ ∃ i caller, t.entries i = some ⟨caller, .inside call⟩ := by
  obtain ⟨moves', _, run', holder, guarded, rfl⟩ :=
    callers_simulate.run run ⟨none, guarded_initial initial, rfl⟩
  refine ⟨moves', _, run', rfl, rfl, rfl, fun call => ?_⟩
  simp only [guarded.inside]
  rw [SyncCallers.alone, Option.map_eq_some_iff]
  constructor
  · rintro ⟨⟨i, caller, _⟩, rfl, rfl⟩
    exact ⟨i, caller, rfl⟩
  · rintro ⟨i, caller, rfl⟩
    exact ⟨_, rfl, rfl⟩

section Sample

def freshCallers : SyncCallers :=
  { now := sampleMidnight, events := .empty, metadata := none, lock := .new,
    entries := fun _ => none }

theorem fresh_callers :
    (syncCallers sampleSyncSettings samplePaginator).Initial freshCallers :=
  ⟨rfl, fun _ => rfl, rfl, rfl⟩

/-- The scheduled sync is in progress when somebody triggers another one. -/
theorem trigger_refused : ∃ moves t,
    Run (syncCallers sampleSyncSettings samplePaginator) freshCallers moves t ∧
      t.Inside 0 ∧ t.Refused 1 := by
  have start := @Run.refl _ _ (syncCallers sampleSyncSettings samplePaginator) freshCallers
  have scheduled := start.move (.enter .periodicSync (rfl : freshCallers.entries 0 = none) rfl rfl)
  have triggered := scheduled.move
    (.refuse (.triggerSync true) (rfl : SyncCallers.entries _ 1 = none) rfl)
  exact ⟨_, _, triggered, ⟨_, _, rfl⟩, _, rfl⟩

theorem one_caller_inside_triggered : ∃ (moves : List (Move SyncCallers CallersAction))
    (t : SyncCallers), Run (syncCallers sampleSyncSettings samplePaginator) freshCallers moves t ∧
      t.Refused 1 ∧ OneInside t ∧
      ∀ m ∈ moves, ∀ i caller, m.action = .call i caller → CallAnswered m i := by
  obtain ⟨moves, t, run, _, refused⟩ := trigger_refused
  exact ⟨moves, t, run, refused, one_caller_inside fresh_callers run⟩

theorem callers_act_as_one_triggered : ∃ (moves : List (Move SyncCallers CallersAction))
    (t : SyncCallers) (moves' : List (Move SyncProcess CallAction)) (p : SyncProcess),
    Run (syncCallers sampleSyncSettings samplePaginator) freshCallers moves t ∧ t.Refused 1 ∧
      Run (syncCalls sampleSyncSettings samplePaginator) ⟨sampleMidnight, .empty, none, none⟩
        moves' p ∧ p.events = t.events ∧ p.metadata = t.metadata ∧ p.call.isSome = true := by
  obtain ⟨moves, t, run, ⟨caller, call, inside⟩, refused⟩ := trigger_refused
  obtain ⟨moves', p, run', _, events, metadata, calls⟩ := callers_act_as_one fresh_callers run
  refine ⟨moves, t, moves', p, run, refused, run', events, metadata, ?_⟩
  rw [(calls call).mpr ⟨0, caller, inside⟩]
  rfl

end Sample

end EventsAggregator
