import EventsAggregator.Services.Cursor

namespace EventsAggregator

open Relational Transition

/-- How a call of `sync` comes to its end: what it returned, what was raised while the events were
    fetched and stored, or that its task was cancelled meanwhile. -/
inductive SyncEnd
  | returned (result : SyncResult)
  | raised (error : Raised)
  | cancelled

namespace SyncEnd

def status : SyncEnd → SyncStatus
  | .returned _ => .success
  | .raised _ | .cancelled => .failed

/-- Of the exceptions, those with a text that `last_error` can hold; a cancellation never is. -/
def Recordable : SyncEnd → Prop
  | .returned _ => True
  | .raised error => storable (truncate 2000 error.str) = true
  | .cancelled => False

end SyncEnd

def SyncPoint.fetchesOrStores : SyncPoint → Bool
  | .markSuccess .. => true
  | point => point.guarded

def SyncPoint.marked : SyncPoint → Bool
  | .getMeta | .markRunning _ => false
  | _ => true

/-- The moves that end a call, where the commits of the metadata fail only for a text that cannot
    be stored and tasks are cancelled only while events are fetched and stored. -/
inductive SyncEnds : Move SyncProcess CallAction → SyncEnd → Prop
  | returned {s t : SyncProcess} (result : SyncResult) :
      SyncEnds ⟨s, .succeed result, t⟩ (.returned result)
  | recorded {s t : SyncProcess} {call : SyncCall} {error : Raised} (running : s.call = some call)
      (here : call.point = .markFailure error) : SyncEnds ⟨s, .recordFailure, t⟩ (.raised error)
  -- The commit of `mark_failure` raises, and no other handler is left.
  | unrecorded {s t : SyncProcess} {call : SyncCall} {error : Raised}
      (running : s.call = some call) (here : call.point = .markFailure error)
      (refused : storable (truncate 2000 error.str) = false) :
      SyncEnds ⟨s, .abandon, t⟩ (.raised error)
  -- `CancelledError` is no `Exception`: the handler that calls `mark_failure` does not see it.
  | cancelled {s t : SyncProcess} {call : SyncCall} (running : s.call = some call)
      (inside : call.point.fetchesOrStores = true) : SyncEnds ⟨s, .abandon, t⟩ .cancelled

def SyncProcess.syncStatus (s : SyncProcess) : Option SyncStatus :=
  s.metadata.map SyncMetadataORM.syncStatus

/-- The lock is free, and the status says how the call ended. -/
structure EndedAs (s : SyncProcess) (ended : SyncEnd) : Prop where
  free : s.call = none
  status : s.syncStatus = some ended.status

def MarkedRunning (s : SyncProcess) : Prop :=
  ∀ call, s.call = some call → call.point.marked = true → s.syncStatus = some .running

variable {settings : SyncSettings} {paginator : EventsPaginator} {s t : SyncProcess}
  {a : CallAction} {moves : List (Move SyncProcess CallAction)}

theorem guarded_marked {point : SyncPoint} (inside : point.guarded = true) :
    point.marked = true := by
  cases point with
  | getMeta | markRunning => cases inside
  | _ => rfl

theorem fetchesOrStores_marked {point : SyncPoint} (inside : point.fetchesOrStores = true) :
    point.marked = true := by
  cases point with
  | getMeta | markRunning => cases inside
  | _ => rfl

theorem MarkedRunning.goes_on (marked : MarkedRunning s) {call : SyncCall}
    (running : s.call = some call) (here : call.point.marked = true)
    (same : t.metadata = s.metadata) : MarkedRunning t := by
  intro _ _ _
  show t.metadata.map _ = _
  rw [same]
  exact marked call running here

theorem step_marked_running (marked : MarkedRunning s) (step : CallStep settings paginator s a t) :
    MarkedRunning t := by
  cases step with
  | tick => exact marked
  | start =>
    rintro _ ⟨⟩ unmarked
    cases unmarked
  | getMeta =>
    rintro _ ⟨⟩ unmarked
    cases unmarked
  | markRunning => exact fun _ _ _ => rfl
  | page _ running here => exact marked.goes_on running (by rw [here]; rfl) rfl
  | iterate running here => exact marked.goes_on running (by rw [here]; rfl) rfl
  | store running here => exact marked.goes_on running (by rw [here]; rfl) rfl
  | storeLast running here => exact marked.goes_on running (by rw [here]; rfl) rfl
  | storeLastLost _ running here => exact marked.goes_on running (by rw [here]; rfl) rfl
  | fail _ running inside => exact marked.goes_on running (guarded_marked inside) rfl
  | succeed | recordFailure | abandon => exact fun _ running => nomatch running

theorem run_marked_running (initial : (syncCalls settings paginator).Initial s)
    (run : Run (syncCalls settings paginator) s moves t) : MarkedRunning t := by
  apply run.invariant (fun _ _ _ marked step => step_marked_running marked step)
  intro call running
  rw [initial.1] at running
  cases running

theorem abandoned_running (marked : MarkedRunning s) {call : SyncCall}
    (running : s.call = some call) (here : call.point.marked = true)
    (step : CallStep settings paginator s .abandon t) (ended : SyncEnd) : ¬ EndedAs t ended := by
  intro settled
  cases step
  have status := settled.status.symm.trans (marked call running here)
  cases ended <;> cases status

theorem ends_settled_iff (marked : MarkedRunning s) {ended : SyncEnd}
    (ends : SyncEnds ⟨s, a, t⟩ ended) (step : CallStep settings paginator s a t) :
    EndedAs t ended ↔ ended.Recordable := by
  cases ends with
  | returned result =>
    cases step
    exact ⟨fun _ => trivial, fun _ => ⟨rfl, rfl⟩⟩
  | recorded running here =>
    cases step with
    | recordFailure running' here' writable =>
      cases running.symm.trans running'
      cases here.symm.trans here'
      exact ⟨fun _ => writable, fun _ => ⟨rfl, rfl⟩⟩
  | unrecorded running here refused =>
    constructor
    · intro settled
      exact absurd settled (abandoned_running marked running (by rw [here]; rfl) step _)
    · intro writable
      cases refused.symm.trans writable
  | cancelled running inside =>
    constructor
    · intro settled
      exact absurd settled
        (abandoned_running marked running (fetchesOrStores_marked inside) step _)
    · exact False.elim

theorem sync_status_settled_iff {settings : SyncSettings} {paginator : EventsPaginator}
    {s t : SyncProcess} {moves : List (Move SyncProcess CallAction)}
    (initial : (syncCalls settings paginator).Initial s)
    (run : Run (syncCalls settings paginator) s moves t)
    {m : Move SyncProcess CallAction} (member : m ∈ moves) {ended : SyncEnd}
    (ends : SyncEnds m ended) : EndedAs m.target ended ↔ ended.Recordable := by
  obtain ⟨_, _, _, before, step, _⟩ := run.cut member
  exact ends_settled_iff (run_marked_running initial before) ends step

section Sample

/-- The application stops while its first sync waits for a page. -/
theorem status_left_running : ¬ ∀ (s t : SyncProcess) (moves : List (Move SyncProcess CallAction)),
    (syncCalls sampleSyncSettings samplePaginator).Initial s →
      Run (syncCalls sampleSyncSettings samplePaginator) s moves t →
        ∀ m ∈ moves, ∀ ended, SyncEnds m ended → EndedAs m.target ended := by
  intro recorded
  have start := @Run.refl _ _ (syncCalls sampleSyncSettings samplePaginator) idleProcess
  have begun := start.move (.start false rfl)
  have read := begun.move (.getMeta rfl rfl)
  have marked := read.move (.markRunning rfl rfl)
  have cancelled := marked.move .abandon
  have settled := recorded _ _ _ ⟨rfl, rfl⟩ cancelled _ (List.mem_cons_self ..) .cancelled
    (.cancelled rfl rfl)
  cases settled.status

theorem sync_status_settled_iff_refused : ∃ moves t,
    Run (syncCalls sampleSyncSettings samplePaginator) idleProcess moves t ∧
      EndedAs t (.raised (.other "Provider is down")) := by
  have start := @Run.refl _ _ (syncCalls sampleSyncSettings samplePaginator) idleProcess
  have begun := start.move (.start false rfl)
  have read := begun.move (.getMeta rfl rfl)
  have marked := read.move (.markRunning rfl rfl)
  have failed := marked.move (.fail (.other "Provider is down") rfl rfl)
  have writable : storable (truncate 2000 (Raised.other "Provider is down").str) = true := by
    decide
  have ended := failed.move (.recordFailure rfl rfl writable)
  exact ⟨_, _, ended, (sync_status_settled_iff ⟨rfl, rfl⟩ ended (List.mem_cons_self ..)
    (.recorded rfl rfl)).mpr writable⟩

end Sample

end EventsAggregator
