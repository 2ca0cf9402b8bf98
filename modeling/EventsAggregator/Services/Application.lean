import EventsAggregator.Services.Atomicity
import EventsAggregator.Services.Freshness
import EventsAggregator.Services.Notifications
import EventsAggregator.Services.SyncCallers

namespace EventsAggregator

open Relational Transition

/-- The whole service: its requests, its outbox publishers and the callers of its syncs, over one
    database and one clock, which are kept with the requests. -/
structure Application (Process : Type) (P : Provider) (C : Capashino) where
  requests : State Process P
  workers : Nat → Worker
  capashino : C.State
  sent : List (UUID × SCapashinoNotificationCreate)
  metadata : Option SyncMetadataORM
  lock : Asyncio.Lock Nat
  entries : Nat → Option SyncEntry

structure AppConfig where
  runtime : Runtime
  libraries : Libraries
  outbox : OutboxSettings
  sync : SyncSettings
  paginator : EventsPaginator

inductive AppAction (Process : Type)
  | request (action : Action Process)
  | publish (action : PublisherAction)
  | sync (action : CallersAction)
  | tick (now : Instant)

def Action.own {Process : Type} : Action Process → Bool
  | .upsert _ | .publish _ _ | .tick _ => false
  | _ => true

def PublisherAction.own : PublisherAction → Bool
  | .add _ | .tick _ => false
  | _ => true

def CallersAction.own : CallersAction → Bool
  | .tick _ => false
  | _ => true

/-- What the models of the parts have for the steps of the other parts. -/
def Action.foreign {Process : Type} : Action Process → Bool
  | .upsert _ | .publish _ _ => true
  | _ => false

def PublisherAction.foreign : PublisherAction → Bool
  | .add _ => true
  | _ => false

theorem Action.own_step {Process : Type} {a : Action Process} (own : a.own = true) :
    (!a.foreign) = true := by
  cases a <;> first | rfl | cases own

theorem PublisherAction.own_step {a : PublisherAction} (own : a.own = true) :
    (!a.foreign) = true := by
  cases a <;> first | rfl | cases own

namespace AppAction

variable {Process : Type}

def request? : AppAction Process → Option (Action Process)
  | .request a => some a
  | .tick now => some (.tick now)
  | .publish _ | .sync _ => none

def publish? : AppAction Process → Option PublisherAction
  | .publish a => some a
  | .tick now => some (.tick now)
  | .request _ | .sync _ => none

def sync? : AppAction Process → Option CallersAction
  | .sync a => some a
  | .tick now => some (.tick now)
  | .request _ | .publish _ => none

end AppAction

variable {Process : Type} {P : Provider} {C : Capashino}

namespace Application

def publishing (s : Application Process P C) : PublisherState C :=
  ⟨s.requests.db.outbox, s.capashino, s.sent, s.requests.now, s.workers⟩

def withPublishing (s : Application Process P C) (p : PublisherState C) :
    Application Process P C :=
  { s with
    requests := { s.requests with db := { s.requests.db with outbox := p.outbox } }
    capashino := p.capashino, sent := p.sent, workers := p.workers }

def syncing (s : Application Process P C) : SyncCallers :=
  ⟨s.requests.now, s.requests.db.events, s.metadata, s.lock, s.entries⟩

def withSyncing (s : Application Process P C) (c : SyncCallers) : Application Process P C :=
  { s with
    requests := s.requests.withEvents c.events
    metadata := c.metadata, lock := c.lock, entries := c.entries }

end Application

variable [DecidableEq Process]

inductive AppStep (config : AppConfig) :
    Application Process P C → AppAction Process → Application Process P C → Prop
  | request {s : Application Process P C} {a : Action Process} {u : State Process P}
      (own : a.own = true) (step : Step config.runtime s.requests a u) :
      AppStep config s (.request a) { s with requests := u }
  | publish {s : Application Process P C} {a : PublisherAction} {p : PublisherState C}
      (own : a.own = true)
      (step : PublisherStep config.libraries config.outbox s.publishing a p) :
      AppStep config s (.publish a) (s.withPublishing p)
  | sync {s : Application Process P C} {a : CallersAction} {c : SyncCallers} (own : a.own = true)
      (step : CallersStep config.sync config.paginator s.syncing a c) :
      AppStep config s (.sync a) (s.withSyncing c)
  | tick {s : Application Process P C} (now : Instant) :
      AppStep config s (.tick now) { s with requests := { s.requests with now } }

def application (Process : Type) [DecidableEq Process] (config : AppConfig) (P : Provider)
    (C : Capashino) : System (Application Process P C) (AppAction Process) where
  Initial s := (system Process config.runtime P).Initial s.requests ∧
    (publishers config.libraries config.outbox C).Initial s.publishing ∧
    (syncCallers config.sync config.paginator).Initial s.syncing
  Step := AppStep config

variable {config : AppConfig} {s t : Application Process P C} {b : AppAction Process}

theorem request_now {u v : State Process P} {a : Action Process} (own : a.own = true)
    (step : Step config.runtime u a v) : v.now = u.now := by
  cases step with
  | tick now => cases own
  | start | lockKey | resume | answer | commit | fail | disconnect | late | evict | upsert
  | publish => rfl

theorem request_events {u v : State Process P} {a : Action Process} (own : a.own = true)
    (step : Step config.runtime u a v) : v.db.events = u.db.events := by
  generalize there : v.db = db
  have change := there ▸ step_db step
  cases change with
  | unchanged => rfl
  | registered found connected committing written => exact written.events
  | deleted | cancelled => rfl
  | upserted | published => cases own

theorem publisher_now {p q : PublisherState C} {a : PublisherAction} (own : a.own = true)
    (step : PublisherStep config.libraries config.outbox p a q) : q.now = p.now := by
  cases step with
  | tick now => cases own
  | add | fetch | send | acknowledge | answer | update | commit | commitLost | abandon
  | late => rfl

theorem callers_now {c d : SyncCallers} {a : CallersAction} (own : a.own = true)
    (step : CallersStep config.sync config.paginator c a d) : d.now = c.now := by
  cases step with
  | tick now => cases own
  | refuse | enter | wait | granted | cancelWaiting | giveUp | proceed | finish | restart => rfl

theorem call_events {c d : SyncProcess} {a : CallAction}
    (step : CallStep config.sync config.paginator c a d) :
    ∃ rows : List EventORM, d.events = rows.foldl Table.upsert c.events := by
  cases step with
  | store running here stored | storeLast running here stored
  | storeLastLost error running here stored => exact ⟨_, (upsertMany_eq_some stored).2⟩
  | tick | start | getMeta | markRunning | page | iterate | fail | succeed | recordFailure
  | abandon => exact ⟨[], rfl⟩

theorem callers_events {c d : SyncCallers} {a : CallersAction}
    (step : CallersStep config.sync config.paginator c a d) :
    ∃ rows : List EventORM, d.events = rows.foldl Table.upsert c.events := by
  cases step with
  | proceed found step own goes => exact call_events step
  | finish found step ends => exact call_events step
  | tick | refuse | enter | wait | granted | cancelWaiting | giveUp | restart => exact ⟨[], rfl⟩

theorem application_requests : HasPart (application Process config P C)
    (system Process config.runtime P) Application.requests AppAction.request?
    (fun a => !a.foreign) where
  initial s initial := initial.1
  step := by
    intro s b t step
    cases step with
    | request own step => exact Answered.acts rfl (Action.own_step own) step
    | @publish _ p own step =>
      generalize there : p.outbox = outbox
      have change := there ▸ step_outbox step
      have after : (s.withPublishing p).requests =
          { s.requests with db := { s.requests.db with outbox } } := by
        rw [← there]
        rfl
      cases change with
      | unchanged =>
        apply Answered.rests rfl
        · rw [after]
          exact .refl
        · simp
      | inserted => cases own
      | @written _ i batch rest event locks mark acting found =>
        obtain ⟨delivery, published⟩ := writeBack_publish s.requests.db event mark
        have same : (⟨s.requests.db.events, s.requests.db.tickets,
            writeBack s.publishing.outbox event mark, s.requests.db.idempotencyKeys⟩ : Database) =
            s.requests.db.publish event.id delivery := by
          rw [show s.publishing.outbox = s.requests.db.outbox from rfl, ← published]
          rfl
        apply Answered.rests rfl
        · rw [after, same]
          exact Run.refl.move (Step.publish event.id delivery)
        · simp [Action.foreign]
    | @sync _ c own step =>
      obtain ⟨rows, events⟩ := callers_events step
      obtain ⟨moves, run, upserts⟩ := upserts_run s.requests rows
      have after : (s.withSyncing c).requests = s.requests.withEvents
          (rows.foldl Table.upsert s.requests.db.events) := by
        rw [show (s.withSyncing c).requests = s.requests.withEvents c.events from rfl, events]
        rfl
      apply Answered.rests rfl
      · rw [after]
        exact run
      · intro m member
        obtain ⟨row, upserting⟩ := upserts m member
        rw [upserting]
        rfl
    | tick now => exact Answered.acts rfl rfl (Step.tick now)

theorem application_publishers : HasPart (application Process config P C)
    (publishers config.libraries config.outbox C) Application.publishing AppAction.publish?
    (fun a => !a.foreign) where
  initial s initial := initial.2.1
  step := by
    intro s b t step
    cases step with
    | @request a u own step =>
      have after : Application.publishing { s with requests := u } =
          { s.publishing with outbox := u.db.outbox } := by
        simp only [Application.publishing, request_now own step]
      rcases request_outbox step with same | ⟨id, eventType, payload, createdAt, inserted⟩ |
        ⟨id, mark, acting, _⟩
      · apply Answered.rests rfl
        · rw [after, same]
          exact .refl
        · simp
      · apply Answered.rests rfl
        · rw [after]
          exact Run.refl.move (.add id eventType payload createdAt inserted)
        · simp [PublisherAction.foreign]
      · rw [acting] at own
        cases own
    | @publish _ p own step =>
      have after : (s.withPublishing p).publishing = p := by
        have now : p.now = s.requests.now := publisher_now own step
        cases p
        cases now
        rfl
      refine Answered.acts rfl (PublisherAction.own_step own) ?_
      rw [after]
      exact step
    | sync own step => exact Answered.rests rfl .refl (by simp)
    | tick now => exact Answered.acts rfl rfl (.tick now)

theorem application_callers : HasPart (application Process config P C)
    (syncCallers config.sync config.paginator) Application.syncing AppAction.sync?
    (fun _ => true) where
  initial s initial := initial.2.2
  step := by
    intro s b t step
    cases step with
    | @request a u own step =>
      have after : Application.syncing { s with requests := u } = s.syncing := by
        simp only [Application.syncing, request_now own step, request_events own step]
      apply Answered.rests rfl
      · rw [after]
        exact .refl
      · simp
    | publish own step => exact Answered.rests rfl .refl (by simp)
    | @sync _ c own step =>
      have after : (s.withSyncing c).syncing = c := by
        have now : c.now = s.requests.now := callers_now own step
        cases c
        cases now
        rfl
      refine Answered.acts rfl rfl ?_
      rw [after]
      exact step
    | tick now => exact Answered.acts rfl rfl (.tick now)

/-- A run of the service is, for each of its parts, a run of that part, in which the part's own
    moves are those it makes in the run of the service. The other moves stand for what the other
    parts write into the tables they share with it. -/
theorem application_runs_parts {moves : List (Move (Application Process P C) (AppAction Process))}
    (run : Run (application Process config P C) s moves t) :
    (∃ moves', Run (system Process config.runtime P) s.requests moves' t.requests ∧
        moves'.filter (fun m => !m.action.foreign) =
          moves.filterMap (Move.seen Application.requests AppAction.request?)) ∧
      (∃ moves', Run (publishers config.libraries config.outbox C) s.publishing moves'
          t.publishing ∧
        moves'.filter (fun m => !m.action.foreign) =
          moves.filterMap (Move.seen Application.publishing AppAction.publish?)) ∧
      Run (syncCallers config.sync config.paginator) s.syncing
        (moves.filterMap (Move.seen Application.syncing AppAction.sync?)) t.syncing := by
  refine ⟨application_requests.run run, application_publishers.run run, ?_⟩
  obtain ⟨moves', run', same⟩ := application_callers.run run
  rw [List.filter_true] at same
  exact same ▸ run'

section Sample

def sampleConfig : AppConfig :=
  ⟨sampleRuntime, sampleLibraries, sampleSettings, sampleSyncSettings, samplePaginator⟩

abbrev SampleApplication := Application Unit anyProvider (confirmingService sampleLibraries)

def freshApplication : SampleApplication where
  requests := sampleState anyProvider ()
  workers _ := .idle
  capashino := Table.empty
  sent := []
  metadata := none
  lock := .new
  entries _ := none

theorem fresh_application : (application Unit sampleConfig anyProvider
    (confirmingService sampleLibraries)).Initial freshApplication :=
  ⟨sample_initial trivial, ⟨rfl, rfl, rfl, fun _ => rfl⟩, rfl, fun _ => rfl, rfl, rfl⟩

/-- One ticket is sold and its row is dispatched. -/
theorem sample_sale : ∃ moves t, Run (application Unit sampleConfig anyProvider
    (confirmingService sampleLibraries)) freshApplication moves t ∧
      t.sent = [(⟨100⟩, ticketNotification ⟨100⟩ ⟨7⟩)] ∧ t.requests.db.tickets.rows.length = 1 := by
  have start := @Run.refl _ _ (application Unit sampleConfig anyProvider
    (confirmingService sampleLibraries)) freshApplication
  have requested := start.move (.request rfl (Step.start ()
    (.register (samplePayload none unkeyed)) (rfl : State.tasks _ 0 = none)))
  have checked := requested.move
    (.request rfl (Step.resume (rfl : State.tasks _ 0 = some _) (fun _ => rfl) rfl))
  have seats := checked.move (.request rfl
    (@Step.answer _ _ _ _ _ 0 _ _ _ (.seats (.ok ["A1"])) () rfl rfl trivial rfl))
  have free := seats.move
    (.request rfl (Step.resume (rfl : State.tasks _ 0 = some _) (fun _ => rfl) rfl))
  have granted := free.move (.request rfl
    (@Step.answer _ _ _ _ _ 0 _ _ _ (.registration (.ok ⟨7⟩)) () rfl rfl trivial rfl))
  have staged := granted.move
    (.request rfl (Step.resume (rfl : State.tasks _ 0 = some _) (fun _ => rfl) rfl))
  have bought := staged.move (.request rfl (@Step.commit _ _ _ _ _ 0 _ _ ⟨100⟩ _ _ rfl rfl rfl rfl))
  have fetched := bought.move (.publish rfl (@PublisherStep.fetch _ _ _ _ 0
    [soldRow ⟨100⟩ ⟨7⟩ 0] rfl (fetch_pending_rows (fun _ => not_locked fun _ _ => rfl)
      (List.pairwise_singleton _ _))))
  have sent := fetched.move (.publish rfl (@PublisherStep.send _ _ _ _ 0 _ _ _ _ _ rfl
    (dispatch_soldRow ⟨100⟩ ⟨7⟩ 0)))
  exact ⟨_, _, sent, rfl, by decide⟩

theorem application_runs_parts_sold : ∃ (moves : List (Move SampleApplication (AppAction Unit)))
    (t : SampleApplication)
    (moves' : List (Move (PublisherState (confirmingService sampleLibraries)) PublisherAction)),
    Run (application Unit sampleConfig anyProvider (confirmingService sampleLibraries))
      freshApplication moves t ∧ t.sent = [(⟨100⟩, ticketNotification ⟨100⟩ ⟨7⟩)] ∧
      Run (publishers sampleLibraries sampleSettings (confirmingService sampleLibraries))
        freshApplication.publishing moves' t.publishing ∧
      moves'.filter (fun m => !m.action.foreign) =
        moves.filterMap (Move.seen Application.publishing AppAction.publish?) := by
  obtain ⟨moves, t, run, sent, _⟩ := sample_sale
  obtain ⟨_, ⟨moves', run', own⟩, _⟩ := application_runs_parts run
  exact ⟨moves, t, moves', run, sent, run', own⟩

end Sample

end EventsAggregator
