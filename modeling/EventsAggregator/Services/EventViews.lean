import EventsAggregator.Relational.Versions
import EventsAggregator.Services.Listing
import EventsAggregator.Services.SyncCallers

namespace EventsAggregator

open Relational Transition

universe w

structure SEventPlaceDetailRead extends SEventPlaceRead where
  seatsPattern : String
  deriving DecidableEq

structure SEventDetailRead where
  id : UUID
  name : String
  place : SEventPlaceDetailRead
  eventTime : Instant
  registrationDeadline : Instant
  status : String
  numberOfVisitors : Int
  deriving DecidableEq

def Converter.eventOrmToDetailRead (event : EventORM) : SEventDetailRead where
  id := event.id
  name := event.name
  place :=
    { id := event.placeId, name := event.placeName, city := event.placeCity,
      address := event.placeAddress, seatsPattern := event.seatsPattern }
  eventTime := event.eventTime
  registrationDeadline := event.registrationDeadline
  status := event.status.value
  numberOfVisitors := event.numberOfVisitors

def EventService.getEvent (events : Table EventORM.id) (eventId : UUID) :
    Except DomainError SEventDetailRead :=
  match events.find? eventId with
  | none => .error ⟨.eventNotFound, s!"Event {eventId} not found"⟩
  | some event => .ok (Converter.eventOrmToDetailRead event)

/-- What the provider has shown of an event it does not take back. -/
def Forward (event event' : SProviderEvent) : Prop :=
  event.id = event'.id → event.changedAt ≤ event'.changedAt

def CallAction.shown : CallAction → List SProviderEvent
  | .page answer => answer.results
  | _ => []

def CallersAction.shown (a : CallersAction) : List SProviderEvent :=
  a.performed.elim [] CallAction.shown

def shownOn : List (Move SyncCallers CallersAction) → List SProviderEvent
  | [] => []
  | m :: earlier => shownOn earlier ++ m.action.shown

def RowOf (shown : List SProviderEvent) (row : EventORM) : Prop :=
  ∃ event ∈ shown, ∃ syncedAt, row = (SyncService.toRow event syncedAt).stored

theorem RowOf.append {shown : List SProviderEvent} {row : EventORM} (rowOf : RowOf shown row)
    (more : List SProviderEvent) : RowOf (shown ++ more) row := by
  obtain ⟨event, member, syncedAt, same⟩ := rowOf
  exact ⟨event, List.mem_append_left _ member, syncedAt, same⟩

def Ages {τ : Type w} [LE τ] (version : EventORM → τ) (shown : List SProviderEvent) : Prop :=
  ∀ before after, shown = before ++ after → ∀ row row', RowOf before row → RowOf after row' →
    row.id = row'.id → version row ≤ version row'

theorem Ages.front {τ : Type w} [LE τ] {version : EventORM → τ}
    {shown more : List SProviderEvent} (ages : Ages version (shown ++ more)) :
    Ages version shown := by
  rintro before after rfl row row' first later same
  exact ages before (after ++ more) (List.append_assoc ..) row row' first (later.append more) same

theorem ages_of_forward {shown : List SProviderEvent} (forward : shown.Pairwise Forward) :
    Ages EventORM.changedAt shown := by
  rintro before after rfl _ _ ⟨event, there, _, rfl⟩ ⟨event', there', _, rfl⟩ same
  exact (List.pairwise_append.mp forward).2.2 event there event' there' same

/-- The rows come from pages, and what a call has still to store the pages have shown last, behind
    all that the rows come from. -/
structure Mirrors (shown : List SProviderEvent) (s : SyncProcess) : Prop where
  rows : ∀ id row, s.events.find? id = some row → RowOf shown row
  ahead : ∀ call events, s.call = some call → call.point.pending? = some events →
    ∃ before, shown = before ++ events ∧
      ∀ id row, s.events.find? id = some row → RowOf before row

variable {settings : SyncSettings} {paginator : EventsPaginator} {shown : List SProviderEvent}
  {s t : SyncProcess} {a : CallAction} {fetch : Fetch} {τ : Type w} [Preorder τ]
  {version : EventORM → τ}

theorem iterate_pending (now : Instant) (page : List SProviderEvent) (next : Option String)
    {events : List SProviderEvent} (pending :
      (SyncService.iterate settings paginator now fetch next page).pending? = some events) :
    events = fetch.batch ++ page := by
  cases page with
  | cons event page =>
    simp only [SyncService.iterate] at pending
    split at pending <;>
      simpa [SyncPoint.pending?, SyncService.take, eq_comm] using pending
  | nil =>
    simp only [SyncService.iterate] at pending
    split at pending
    · cases pending
    · simpa [SyncPoint.pending?, eq_comm] using pending
    · split at pending
      next empty => simpa [SyncPoint.pending?, List.isEmpty_iff.mp empty, eq_comm] using pending
      next => simpa [SyncPoint.pending?, eq_comm] using pending

namespace Mirrors

theorem same (mirrors : Mirrors shown s) (events : t.events = s.events)
    (ahead : ∀ call events, t.call = some call → call.point.pending? = some events → events = [] ∨
      ∃ call', s.call = some call' ∧ call'.point.pending? = some events) : Mirrors shown t where
  rows := by
    rw [events]
    exact mirrors.rows
  ahead call waiting running pending := by
    rw [events]
    rcases ahead call waiting running pending with rfl | ⟨call', running', pending'⟩
    · exact ⟨shown, (List.append_nil _).symm, mirrors.rows⟩
    · exact mirrors.ahead call' waiting running' pending'

theorem stored (mirrors : Mirrors shown s) (ages : Ages version shown) {call : SyncCall}
    {page : List SProviderEvent} {events : Table EventORM.id} (running : s.call = some call)
    (pending : call.point.pending? = some (fetch.batch ++ page))
    (upserted : EventRepository.upsertMany s.events (SyncService.rows call.startedAt fetch) =
      some events) :
    s.events.Advances version events ∧
      ∃ before, shown = before ++ page ∧ ∀ id row, events.find? id = some row → RowOf before row := by
  obtain ⟨_, rfl⟩ := upsertMany_eq_some upserted
  obtain ⟨before, split, rows⟩ := mirrors.ahead call _ running pending
  constructor
  · apply Table.advances_upserts
    intro row member old found
    obtain ⟨given, taken, rfl⟩ := List.mem_map.mp member
    obtain ⟨event, there, rfl⟩ := List.mem_map.mp taken
    have here := ((Table.find?_eq_some _ _ _).mp found).2
    exact ages before _ split old _ (rows _ old found)
      ⟨event, List.mem_append_left _ there, _, rfl⟩ here
  · refine ⟨before ++ fetch.batch, by rw [split, List.append_assoc], fun id row found => ?_⟩
    rcases Table.find?_upserts_eq_some found with ⟨member, _⟩ | ⟨_, old⟩
    · obtain ⟨given, taken, rfl⟩ := List.mem_map.mp member
      obtain ⟨event, there, rfl⟩ := List.mem_map.mp taken
      exact ⟨event, List.mem_append_right _ there, _, rfl⟩
    · exact (rows id row old).append _

theorem step (mirrors : Mirrors shown s) (ages : Ages version (shown ++ a.shown))
    (step : CallStep settings paginator s a t) :
    Mirrors (shown ++ a.shown) t ∧ s.events.Advances version t.events := by
  have silent : a.shown = [] → Mirrors shown t → t.events = s.events →
      Mirrors (shown ++ a.shown) t ∧ s.events.Advances version t.events := by
    intro none mirrors' events
    rw [none, List.append_nil, events]
    exact ⟨mirrors', Table.Advances.refl _⟩
  -- A batch goes to the table; `page` is what the call has then still to store.
  have storing : ∀ {call : SyncCall} {fetch : Fetch} {page : List SProviderEvent},
      a.shown = [] → s.call = some call → call.point.pending? = some (fetch.batch ++ page) →
        EventRepository.upsertMany s.events (SyncService.rows call.startedAt fetch) =
          some t.events →
        (∀ call' events, t.call = some call' → call'.point.pending? = some events →
          events = page) →
        Mirrors (shown ++ a.shown) t ∧ s.events.Advances version t.events := by
    intro call fetch page none running pending upserted rest
    rw [none, List.append_nil] at ages ⊢
    obtain ⟨advances, before, split, rows⟩ := mirrors.stored ages running pending upserted
    refine ⟨⟨fun id row found => ?_, fun call' events running' pending' => ?_⟩, advances⟩
    · rw [split]
      exact (rows id row found).append _
    · rw [rest call' events running' pending']
      exact ⟨before, split, rows⟩
  cases step with
  | tick now =>
    exact silent rfl (mirrors.same rfl fun call _ running pending =>
      Or.inr ⟨call, running, pending⟩) rfl
  | start | getMeta | markRunning =>
    refine silent rfl (mirrors.same rfl ?_) rfl
    intro call events running pending
    cases running
    cases pending
    exact Or.inl rfl
  | @page call fetch url page running here =>
    refine ⟨⟨fun id row found => (mirrors.rows id row found).append _, ?_⟩,
      Table.Advances.refl _⟩
    intro call' events running' pending
    cases running'
    cases pending
    have waiting : call.point.pending? = some fetch.batch := by
      rw [here]
      rfl
    obtain ⟨before, split, rows⟩ := mirrors.ahead call _ running waiting
    refine ⟨before, ?_, rows⟩
    rw [split, List.append_assoc]
    rfl
  | @iterate call fetch page next running here =>
    refine silent rfl (mirrors.same rfl ?_) rfl
    intro call' events running' pending
    cases running'
    cases iterate_pending s.now page next pending
    refine Or.inr ⟨call, running, ?_⟩
    rw [here]
    rfl
  | @store call fetch page next events running here upserted =>
    have pending : call.point.pending? = some (fetch.batch ++ page) := by
      rw [here]
      rfl
    refine storing rfl running pending upserted fun call' waiting running' pending' => ?_
    cases running'
    cases pending'
    rfl
  | @storeLast call fetch events running here upserted =>
    have pending : call.point.pending? = some (fetch.batch ++ []) := by
      rw [here, List.append_nil]
      rfl
    refine storing rfl running pending upserted fun call' waiting running' pending' => ?_
    cases running'
    cases pending'
    rfl
  | @storeLastLost call fetch events error running here upserted =>
    have pending : call.point.pending? = some (fetch.batch ++ []) := by
      rw [here, List.append_nil]
      rfl
    refine storing rfl running pending upserted fun call' waiting running' pending' => ?_
    cases running'
    cases pending'
  | fail | succeed | recordFailure | abandon =>
    refine silent rfl (mirrors.same rfl ?_) rfl
    intro call events running pending
    first
      | cases running
        cases pending
      | cases running

end Mirrors

section Callers

variable {s t u : SyncCallers} {a : CallersAction}
  {moves earlier later : List (Move SyncCallers CallersAction)}

def Mirrored (shown : List SProviderEvent) (s : SyncCallers) : Prop :=
  ∃ holder, Guarded s holder ∧ Mirrors shown (s.alone holder)

theorem mirrored_fresh (initial : (syncCallers settings paginator).Initial s)
    (empty : s.events = .empty) : Mirrored [] s := by
  refine ⟨none, guarded_initial initial, fun id row found => ?_, fun call _ running => ?_⟩
  · rw [show (s.alone none).events = .empty from empty] at found
    cases found
  · cases running

theorem Mirrored.row (mirrored : Mirrored shown s) {id : UUID} {row : EventORM}
    (found : s.events.find? id = some row) : RowOf shown row := by
  obtain ⟨_, _, mirrors⟩ := mirrored
  exact mirrors.rows id row found

theorem shownOn_append (later earlier : List (Move SyncCallers CallersAction)) :
    shownOn (later ++ earlier) = shownOn earlier ++ shownOn later := by
  induction later with
  | nil => simp [shownOn]
  | cons m later ih => rw [List.cons_append, shownOn, shownOn, ih, List.append_assoc]

theorem mirrored_step (mirrored : Mirrored shown s) (ages : Ages version (shown ++ a.shown))
    (step : CallersStep settings paginator s a t) :
    Mirrored (shown ++ a.shown) t ∧ s.events.Advances version t.events := by
  obtain ⟨holder, guarded, mirrors⟩ := mirrored
  obtain ⟨holder', guarded', ⟨⟨i, caller, rfl⟩, same⟩ | ⟨b, performed, step⟩⟩ :=
    callers_step guarded step
  · have events : t.events = s.events := congrArg SyncProcess.events same
    refine ⟨⟨holder', guarded', ?_⟩, events ▸ Table.Advances.refl _⟩
    rw [same, show (CallersAction.call i caller).shown = [] from rfl, List.append_nil]
    exact mirrors
  · have shown : a.shown = b.shown := by rw [CallersAction.shown, performed, Option.elim_some]
    rw [shown] at ages ⊢
    obtain ⟨mirrors, advances⟩ := mirrors.step ages step
    exact ⟨⟨holder', guarded', mirrors⟩, advances⟩

theorem mirrored_run (mirrored : Mirrored (shownOn earlier) u)
    (ages : Ages version (shownOn (later ++ earlier)))
    (onward : Run (syncCallers settings paginator) u later t) :
    Mirrored (shownOn (later ++ earlier)) t ∧ u.events.Advances version t.events := by
  induction onward with
  | refl => exact ⟨mirrored, Table.Advances.refl _⟩
  | move _ step ih =>
    obtain ⟨mirrored, advances⟩ := ih ages.front
    obtain ⟨mirrored, advances'⟩ := mirrored_step mirrored ages step
    exact ⟨mirrored, advances.trans advances'⟩

/-- What the service shows of an event whose row it had once. -/
structure ShownSince (moves : List (Move SyncCallers CallersAction)) (t : SyncCallers)
    (row row' : EventORM) : Prop where
  provided : RowOf (shownOn moves) row'
  later : row.changedAt ≤ row'.changedAt
  detailed : EventService.getEvent t.events row.id = .ok (Converter.eventOrmToDetailRead row')
  listed : ∀ dateFrom page pageSize baseUrl response,
    EventService.ListEvents t.events dateFrom page pageSize baseUrl response →
      ∀ read ∈ response.results, read.id = row.id → read = Converter.eventOrmToRead row'

theorem listed_row {events : Table EventORM.id} {row : EventORM}
    (found : events.find? row.id = some row) {dateFrom : Option Date} {page pageSize : Int}
    {baseUrl : String} {response : SEventPageRead}
    (listed : EventService.ListEvents events dateFrom page pageSize baseUrl response) :
    ∀ read ∈ response.results, read.id = row.id → read = Converter.eventOrmToRead row := by
  obtain ⟨_, ⟨_, _, sorted, ordered, rfl⟩, rfl⟩ := listed
  intro read member same
  obtain ⟨other, inside, rfl⟩ := List.mem_map.mp member
  have matched := ordered.perm.subset (List.mem_of_mem_drop (List.mem_of_mem_take inside))
  have there := (Table.find?_eq_some _ _ _).mpr ⟨(List.mem_filter.mp matched).1, same⟩
  cases found.symm.trans there
  rfl

/-- Once an event has come to be shown it is shown ever after, as some page of the provider had it,
    and never in an older version than it has been shown in. -/
theorem event_views_never_go_back (initial : (syncCallers settings paginator).Initial s)
    (empty : s.events = .empty) (before : Run (syncCallers settings paginator) s earlier u)
    (onward : Run (syncCallers settings paginator) u later t)
    (forward : (shownOn (later ++ earlier)).Pairwise Forward) {id : UUID} {row : EventORM}
    (found : u.events.find? id = some row) : ∃ row', ShownSince (later ++ earlier) t row row' := by
  have ages := ages_of_forward forward
  have first : Ages EventORM.changedAt (shownOn (earlier ++ [])) := by
    rw [shownOn_append] at ages
    rw [List.append_nil]
    exact ages.front
  have fresh : Mirrored (shownOn []) s := mirrored_fresh initial empty
  obtain ⟨seen, _⟩ := mirrored_run fresh first before
  rw [List.append_nil] at seen
  obtain ⟨mirrored, advances⟩ := mirrored_run seen ages onward
  obtain ⟨_, rfl⟩ := (Table.find?_eq_some _ _ _).mp found
  obtain ⟨row', found', newer⟩ := advances _ row found
  obtain ⟨_, same⟩ := (Table.find?_eq_some _ _ _).mp found'
  refine ⟨row', mirrored.row found', newer, ?_, fun _ _ _ _ _ listed read inside here => ?_⟩
  · rw [EventService.getEvent, found']
  · rw [← same] at found' here
    exact listed_row found' listed read inside here

section Sample

variable {r : SyncCallers}

structure GoneOn (i : Nat) (s : SyncCallers) (p : SyncProcess) (call : SyncCall)
    (t : SyncCallers) : Prop where
  inside : t.entries i = some ⟨.periodicSync, .inside call⟩
  others : ∀ j, j ≠ i → t.entries j = s.entries j
  lock : t.lock = s.lock
  now : t.now = s.now
  events : t.events = p.events

theorem goes_on {i : Nat} {call call' : SyncCall} {a : CallAction} {p : SyncProcess}
    (run : Run (syncCallers settings paginator) r earlier s)
    (inside : s.entries i = some ⟨.periodicSync, .inside call⟩)
    (step : CallStep settings paginator (s.process call) a p) (own : a.ticks = false)
    (goes : p.call = some call') : ∃ t m, Run (syncCallers settings paginator) r (m :: earlier) t ∧
      m.action = .proceed i a ∧ GoneOn i s p call' t := by
  refine ⟨_, _, run.move (.proceed inside step own goes), rfl, Function.update_self .., ?_, rfl,
    rfl, rfl⟩
  intro j other
  exact Function.update_of_ne other ..

theorem short_call (run : Run (syncCallers sampleSyncSettings samplePaginator) r earlier s)
    {i : Nat} (free : s.lock = .new) (fresh : s.entries i = none) (event : SProviderEvent)
    (writable : (SyncService.toRow event s.now).storable = true) : ∃ moves t,
      Run (syncCallers sampleSyncSettings samplePaginator) r (moves ++ earlier) t ∧
        t.lock = .new ∧ (∀ j, j ≠ i → t.entries j = s.entries j) ∧
        t.now = s.now ∧ shownOn moves = [event] ∧
        t.events = s.events.upsert (SyncService.toRow event s.now).stored := by
  have unlocked : s.lock.locked = false := by rw [free]; rfl
  have acquired : s.lock.acquire = some ⟨true, []⟩ := by rw [free]; rfl
  have entered := run.move (.enter .periodicSync fresh unlocked acquired)
  obtain ⟨_, _, read, first, gone₁⟩ :=
    goes_on entered (Function.update_self ..) (.getMeta rfl rfl) rfl rfl
  obtain ⟨_, _, marked, second, gone₂⟩ :=
    goes_on read gone₁.inside (.markRunning rfl rfl) rfl rfl
  obtain ⟨_, _, told, third, gone₃⟩ :=
    goes_on marked gone₂.inside (.page ⟨none, [event]⟩ rfl rfl) rfl rfl
  obtain ⟨_, _, taken, fourth, gone₄⟩ := goes_on told gone₃.inside (.iterate rfl rfl) rfl rfl
  obtain ⟨_, _, ended, fifth, gone₅⟩ := goes_on taken gone₄.inside (.iterate rfl rfl) rfl rfl
  have one_row : [SyncService.toRow event s.now].length ≤ maxRows := by
    rw [List.length_singleton]
    decide
  have storable : ∀ row ∈ [SyncService.toRow event s.now], row.storable = true :=
    List.forall_mem_singleton.mpr writable
  obtain ⟨_, _, stored, sixth, gone₆⟩ := goes_on ended gone₅.inside
    (.storeLast rfl rfl (if_pos ⟨List.nodup_singleton _, one_row, storable⟩)) rfl rfl
  have succeeded := stored.move (.finish gone₆.inside (.succeed rfl rfl) rfl)
  refine ⟨[_, _, _, _, _, _, _, _], _, succeeded, ?_, fun j other => ?_, ?_, ?_, ?_⟩
  · have held := gone₆.lock
    rw [gone₅.lock, gone₄.lock, gone₃.lock, gone₂.lock, gone₁.lock] at held
    show Asyncio.Lock.release (SyncCallers.lock _) = _
    rw [held]
    rfl
  · have same := gone₆.others j other
    rw [gone₅.others j other, gone₄.others j other, gone₃.others j other, gone₂.others j other,
      gone₁.others j other] at same
    exact (Function.update_of_ne other ..).trans (same.trans (Function.update_of_ne other ..))
  · exact gone₆.now.trans (gone₅.now.trans (gone₄.now.trans (gone₃.now.trans (gone₂.now.trans
      gone₁.now))))
  · simp [shownOn, CallersAction.shown, CallersAction.performed, CallAction.shown, first, second,
      third, fourth, fifth, sixth]
  · have before := gone₅.events.trans (gone₄.events.trans (gone₃.events.trans (gone₂.events.trans
      gone₁.events)))
    exact gone₆.events.trans (congrArg (fun events : Table EventORM.id =>
      events.upsert (SyncService.toRow event s.now).stored) before)

theorem event_views_never_go_back_renamed :
    ∃ (earlier later : List (Move SyncCallers CallersAction)) (u t : SyncCallers)
      (row row' : EventORM),
      Run (syncCallers sampleSyncSettings samplePaginator) freshCallers earlier u ∧
      Run (syncCallers sampleSyncSettings samplePaginator) u later t ∧
      (shownOn (later ++ earlier)).Pairwise Forward ∧ u.events.find? ⟨1⟩ = some row ∧
      row.name = "Concert" ∧ row'.name = "Concert (moved)" ∧
      ShownSince (later ++ earlier) t row row' := by
  have start := @Run.refl _ _ (syncCallers sampleSyncSettings samplePaginator) freshCallers
  obtain ⟨earlier, u, before, free, fresh, now, shown, events⟩ :=
    short_call (i := 0) start rfl rfl concert (by decide)
  obtain ⟨later, t, whole, _, _, _, shown', events'⟩ :=
    short_call (i := 1) (@Run.refl _ _ (syncCallers sampleSyncSettings samplePaginator) u) free
      (fresh 1 (by decide)) renamedConcert (by rw [now]; decide)
  rw [List.append_nil] at before whole
  have forward : (shownOn (later ++ earlier)).Pairwise Forward := by
    rw [shownOn_append, shown, shown']
    simp [Forward]
    decide
  have found : u.events.find? ⟨1⟩ = some (SyncService.toRow concert sampleMidnight).stored := by
    rw [events]
    rfl
  have found' : t.events.find? ⟨1⟩ = some (SyncService.toRow renamedConcert u.now).stored := by
    rw [events', Table.find?_upsert]
    rfl
  obtain ⟨row', since⟩ := event_views_never_go_back fresh_callers rfl before whole forward found
  have detailed := since.detailed
  rw [EventService.getEvent, show EventORM.id _ = (⟨1⟩ : UUID) from rfl, found'] at detailed
  have name := congrArg SEventDetailRead.name (Except.ok.inj detailed)
  exact ⟨earlier, later, u, t, _, row', before, whole, forward, found, rfl, name.symm, since⟩

end Sample

end Callers

end EventsAggregator
