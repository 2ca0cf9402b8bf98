import EventsAggregator.Services.Sync

namespace EventsAggregator

open Relational Transition

variable {settings : SyncSettings} {paginator : EventsPaginator}

def SyncState.cursor (s : SyncState) : Option Instant :=
  s.metadata.bind SyncMetadataORM.lastChangedAt

def SyncState.Carries (s : SyncState) (id : UUID) (number : Nat) : Prop :=
  ∃ n event syncedAt, Revision (s.revisions id) n event ∧ number ≤ n ∧
    s.events.find? id = some (SyncService.toRow event syncedAt).stored

namespace SyncPoint

def fetch? : SyncPoint → Option Fetch
  | .fetching fetch _ | .iterating fetch _ _ | .storing fetch _ _ | .storingLast fetch
  | .markSuccess fetch _ => some fetch
  | _ => none

def requested? : SyncPoint → Option Instant
  | .markRunning changedAt => some changedAt
  | point => point.fetch?.map Fetch.changedAt

def pending? : SyncPoint → Option (List SProviderEvent)
  | .fetching fetch _ | .storingLast fetch => some fetch.batch
  | .iterating fetch page _ | .storing fetch page _ => some (fetch.batch ++ page)
  | .markFailure _ => none
  | _ => some []

def Ended (paginator : EventsPaginator) : SyncPoint → Prop
  | .iterating fetch _ next | .storing fetch _ next =>
    paginator.follow fetch.pagesSeen next = .ok none
  | .storingLast _ | .markSuccess _ _ => True
  | _ => False

end SyncPoint

structure Provided (settings : SyncSettings) (s : SyncState) : Prop where
  revisions : ∀ id, ∀ event ∈ s.revisions id,
    event.id = id ∧ settings.firstInstant ≤ event.changedAt ∧ event.changedAt ≤ s.now
  cursor : ∀ c, s.cursor = some c → c ≤ s.now ∨ c = settings.firstInstant

/-- What incremental syncs rely on: an event that changed on a day before the cursor's is stored
    as it is now. -/
def Settled (s : SyncState) : Prop :=
  ∀ c, s.cursor = some c → ∀ id event, (s.revisions id).head? = some event →
    utcDate event.changedAt < utcDate c → s.Carries id (s.revisions id).length

/-- What a running sync knows of the provider, wherever it stands. -/
structure Follows (s : SyncState) (task : SyncTask) : Prop where
  started : ∀ id, task.started id <:+ s.revisions id
  since : task.startedAt ≤ s.now
  newer : ∀ id event, s.revisions id ≠ task.started id → (s.revisions id).head? = some event →
    task.startedAt ≤ event.changedAt
  shown : ∀ x ∈ task.shown,
    Revision (s.revisions x.1.id) x.2 x.1 ∧ (task.started x.1.id).length ≤ x.2
  ordered : task.shown.Pairwise fun x y => x.1.id = y.1.id → x.2 ≤ y.2
  recent : ∀ x ∈ task.shown, x.2 = (s.revisions x.1.id).length ∨
    ∀ c event, s.cursor = some c → (s.revisions x.1.id).head? = some event →
      utcDate c ≤ utcDate event.changedAt
  kept : ∀ c, s.cursor = some c → ∀ id event, (task.started id).head? = some event →
    utcDate event.changedAt < utcDate c → s.Carries id (task.started id).length

structure Stands (settings : SyncSettings) (paginator : EventsPaginator) (s : SyncState)
    (task : SyncTask) : Prop where
  requested : ∀ c, task.point.requested? = some c → c = settings.firstInstant ∨ s.cursor = some c
  latest : ∀ fetch latest, task.point.fetch? = some fetch → fetch.maxChangedAt = some latest →
    ∃ x ∈ task.shown, x.1.changedAt = latest
  complete : task.point.Ended paginator → ∀ c, task.point.requested? = some c →
    Complete task.started c task.shown
  stored : ∀ events, task.point.pending? = some events → ∃ stored waiting,
    task.shown = stored ++ waiting ∧ waiting.map Prod.fst = events ∧
      ∀ x ∈ stored, s.Carries x.1.id x.2

structure Tracked (settings : SyncSettings) (paginator : EventsPaginator) (s : SyncState) :
    Prop where
  provided : Provided settings s
  settled : Settled s
  follows : ∀ task, s.task = some task → Follows s task
  stands : ∀ task, s.task = some task → Stands settings paginator s task

theorem carries_le {s : SyncState} {id : UUID} {n n' : Nat} (carries : s.Carries id n)
    (less : n' ≤ n) : s.Carries id n' := by
  obtain ⟨k, event, syncedAt, revision, above, row⟩ := carries
  exact ⟨k, event, syncedAt, revision, Nat.le_trans less above, row⟩

section Change

variable {s : SyncState} {event : SProviderEvent}

def SyncState.change (s : SyncState) (event : SProviderEvent) : SyncState :=
  { s with revisions := Function.update s.revisions event.id (event :: s.revisions event.id) }

theorem change_revisions (s : SyncState) (event : SProviderEvent) (id : UUID) :
    (s.change event).revisions id =
      if id = event.id then event :: s.revisions event.id else s.revisions id := by
  simp [SyncState.change, Function.update_apply]

theorem change_revision {id : UUID} {n : Nat} {value : SProviderEvent}
    (revision : Revision (s.revisions id) n value) :
    Revision ((s.change event).revisions id) n value := by
  rw [change_revisions]
  split
  · rename_i here
    exact (here ▸ revision).cons event
  · exact revision

theorem change_carries {id : UUID} {n : Nat} (carries : s.Carries id n) :
    (s.change event).Carries id n := by
  obtain ⟨k, value, syncedAt, revision, above, row⟩ := carries
  exact ⟨k, value, syncedAt, change_revision revision, above, row⟩

theorem change_head {id : UUID} {newest : SProviderEvent}
    (head : ((s.change event).revisions id).head? = some newest) :
    id = event.id ∧ newest = event ∨ id ≠ event.id ∧ (s.revisions id).head? = some newest := by
  rw [change_revisions] at head
  split at head
  · rename_i here
    exact Or.inl ⟨here, (Option.some.inj head).symm⟩
  · rename_i other
    exact Or.inr ⟨other, head⟩

theorem change_after_cursor (provided : Provided settings s)
    (instant : event.changedAt = s.now) (first : settings.firstInstant ≤ s.now) {c : Instant}
    (cursor : s.cursor = some c) : utcDate c ≤ utcDate event.changedAt := by
  apply utcDate_mono
  rcases provided.cursor c cursor with bound | rfl
  · rwa [instant]
  · rwa [instant]

theorem change_provided (provided : Provided settings s) (instant : event.changedAt = s.now)
    (first : settings.firstInstant ≤ s.now) : Provided settings (s.change event) where
  revisions := by
    intro id value member
    rw [change_revisions] at member
    split at member
    · rename_i here
      rcases List.mem_cons.mp member with rfl | member
      · exact ⟨here.symm, instant ▸ first, le_of_eq instant⟩
      · rw [here]
        exact provided.revisions event.id value member
    · exact provided.revisions id value member
  cursor := provided.cursor

theorem change_settled (provided : Provided settings s) (settled : Settled s)
    (instant : event.changedAt = s.now) (first : settings.firstInstant ≤ s.now) :
    Settled (s.change event) := by
  intro c cursor id newest head before
  rcases change_head head with ⟨rfl, rfl⟩ | ⟨other, head⟩
  · have after := change_after_cursor provided instant first cursor
    omega
  · rw [change_revisions, if_neg other]
    exact change_carries (settled c cursor id newest head before)

theorem change_follows {task : SyncTask} (provided : Provided settings s)
    (follows : Follows s task) (instant : event.changedAt = s.now)
    (first : settings.firstInstant ≤ s.now) : Follows (s.change event) task where
  started id := by
    rw [change_revisions]
    split
    · rename_i here
      rw [here]
      exact (follows.started event.id).trans (List.suffix_cons event _)
    · exact follows.started id
  since := follows.since
  newer id newest changed head := by
    rcases change_head head with ⟨rfl, rfl⟩ | ⟨other, head⟩
    · rw [instant]
      exact follows.since
    · rw [change_revisions, if_neg other] at changed
      exact follows.newer id newest changed head
  shown x member := by
    obtain ⟨revision, above⟩ := follows.shown x member
    exact ⟨change_revision revision, above⟩
  ordered := follows.ordered
  recent x member := by
    by_cases here : x.1.id = event.id
    · refine Or.inr ?_
      intro c newest cursor head
      rcases change_head head with ⟨_, rfl⟩ | ⟨other, _⟩
      · exact change_after_cursor provided instant first cursor
      · exact absurd here other
    · rw [change_revisions, if_neg here]
      exact follows.recent x member
  kept c cursor id value head before := change_carries (follows.kept c cursor id value head before)

theorem change_stands {task : SyncTask} (stands : Stands settings paginator s task) :
    Stands settings paginator (s.change event) task where
  requested := stands.requested
  latest := stands.latest
  complete := stands.complete
  stored events pending := by
    obtain ⟨stored, waiting, split, same, carried⟩ := stands.stored events pending
    exact ⟨stored, waiting, split, same, fun x member => change_carries (carried x member)⟩

end Change

section Store

variable {s : SyncState} {task : SyncTask} {fetch : Fetch} {events : Table EventORM.id}
  {batch : List (SProviderEvent × Nat)}

theorem carries_stored
    (stored : EventRepository.upsertMany s.events (SyncService.rows task.startedAt fetch) =
      some events)
    (entries : batch.map Prod.fst = fetch.batch)
    (revisions : ∀ x ∈ batch, Revision (s.revisions x.1.id) x.2 x.1)
    {x : SProviderEvent × Nat} (member : x ∈ batch) :
    SyncState.Carries { s with events } x.1.id x.2 := by
  obtain ⟨distinct, rfl⟩ := upsertMany_eq_some stored
  have inside : x.1 ∈ fetch.batch := by
    rw [← entries]
    exact List.mem_map_of_mem member
  have row : (SyncService.toRow x.1 task.startedAt).stored ∈
      (SyncService.rows task.startedAt fetch).map EventRow.stored :=
    List.mem_map_of_mem (List.mem_map_of_mem inside)
  exact ⟨x.2, x.1, task.startedAt, revisions x member, Nat.le_refl _, find?_upserts distinct row⟩

theorem carries_kept
    (stored : EventRepository.upsertMany s.events (SyncService.rows task.startedAt fetch) =
      some events)
    (entries : batch.map Prod.fst = fetch.batch)
    (revisions : ∀ x ∈ batch, Revision (s.revisions x.1.id) x.2 x.1)
    {id : UUID} {n : Nat} (carries : s.Carries id n)
    (above : ∀ x ∈ batch, x.1.id = id → n ≤ x.2) :
    SyncState.Carries { s with events } id n := by
  by_cases inside : ∃ x ∈ batch, x.1.id = id
  · obtain ⟨x, member, rfl⟩ := inside
    exact carries_le (carries_stored stored entries revisions member) (above x member rfl)
  · obtain ⟨_, rfl⟩ := upsertMany_eq_some stored
    obtain ⟨k, event, syncedAt, revision, less, row⟩ := carries
    refine ⟨k, event, syncedAt, revision, less, ?_⟩
    rw [← row]
    apply find?_upserts_other
    intro other written same
    obtain ⟨given, taken, rfl⟩ := List.mem_map.mp written
    obtain ⟨value, member, rfl⟩ := List.mem_map.mp taken
    rw [← entries] at member
    obtain ⟨x, there, rfl⟩ := List.mem_map.mp member
    exact inside ⟨x, there, same⟩

theorem store_settled (settled : Settled s) (follows : Follows s task)
    (stored : EventRepository.upsertMany s.events (SyncService.rows task.startedAt fetch) =
      some events)
    (entries : batch.map Prod.fst = fetch.batch) (shown : batch ⊆ task.shown) :
    Settled { s with events } := by
  intro c cursor id event head before
  apply carries_kept stored entries (fun x member => (follows.shown x (shown member)).1)
    (settled c cursor id event head before)
  intro x member same
  subst same
  rcases follows.recent x (shown member) with current | recent
  · exact Nat.le_of_eq current.symm
  · have after := recent c event cursor head
    omega

theorem store_follows {point : SyncPoint} (follows : Follows s task)
    (stored : EventRepository.upsertMany s.events (SyncService.rows task.startedAt fetch) =
      some events)
    (entries : batch.map Prod.fst = fetch.batch) (shown : batch ⊆ task.shown)
    (holder : Option SyncTask) :
    Follows { s with events, task := holder } { task with point } where
  started := follows.started
  since := follows.since
  newer := follows.newer
  shown := follows.shown
  ordered := follows.ordered
  recent := follows.recent
  kept c cursor id event head before := by
    have carries := follows.kept c cursor id event head before
    have kept := carries_kept stored entries (fun x member => (follows.shown x (shown member)).1)
      carries fun x member same => same ▸ (follows.shown x (shown member)).2
    exact kept

theorem store_carried {stored' waiting : List (SProviderEvent × Nat)} (follows : Follows s task)
    (stored : EventRepository.upsertMany s.events (SyncService.rows task.startedAt fetch) =
      some events)
    (entries : batch.map Prod.fst = fetch.batch)
    (split : task.shown = stored' ++ (batch ++ waiting))
    (carried : ∀ x ∈ stored', s.Carries x.1.id x.2) :
    ∀ x ∈ stored' ++ batch, SyncState.Carries { s with events } x.1.id x.2 := by
  have inside : batch ⊆ task.shown := by
    intro x member
    simp [split, member]
  have revisions : ∀ x ∈ batch, Revision (s.revisions x.1.id) x.2 x.1 := fun x member =>
    (follows.shown x (inside member)).1
  have ordered := follows.ordered
  rw [split] at ordered
  obtain ⟨_, _, across⟩ := List.pairwise_append.mp ordered
  intro x member
  rcases List.mem_append.mp member with member | member
  · apply carries_kept stored entries revisions (carried x member)
    intro y later same
    exact across x member y (List.mem_append_left _ later) same.symm
  · exact carries_stored stored entries revisions member

end Store

section Alike

structure Alike (s t : SyncState) : Prop where
  revisions : t.revisions = s.revisions
  now : t.now = s.now
  events : t.events = s.events
  cursor : t.cursor = s.cursor

variable {s t : SyncState}

theorem alike_task (s : SyncState) (task : Option SyncTask) : Alike s { s with task } :=
  ⟨rfl, rfl, rfl, rfl⟩

theorem alike_metadata {metadata : SyncMetadataORM}
    (cursor : metadata.lastChangedAt = s.metadata.bind SyncMetadataORM.lastChangedAt)
    (task : Option SyncTask) : Alike s { s with metadata := some metadata, task } :=
  ⟨rfl, rfl, rfl, cursor⟩

theorem alike_carries (alike : Alike s t) {id : UUID} {n : Nat} (carries : s.Carries id n) :
    t.Carries id n := by
  unfold SyncState.Carries at *
  rwa [alike.revisions, alike.events]

theorem alike_provided (alike : Alike s t) (provided : Provided settings s) :
    Provided settings t where
  revisions := by
    rw [alike.revisions, alike.now]
    exact provided.revisions
  cursor := by
    rw [alike.cursor, alike.now]
    exact provided.cursor

theorem alike_settled (alike : Alike s t) (settled : Settled s) : Settled t := by
  intro c cursor id event head before
  rw [alike.cursor] at cursor
  rw [alike.revisions] at head ⊢
  exact alike_carries alike (settled c cursor id event head before)

theorem alike_follows (alike : Alike s t) {task : SyncTask} (follows : Follows s task)
    (point : SyncPoint) : Follows t { task with point } where
  started := by
    rw [alike.revisions]
    exact follows.started
  since := by
    rw [alike.now]
    exact follows.since
  newer := by
    rw [alike.revisions]
    exact follows.newer
  shown := by
    rw [alike.revisions]
    exact follows.shown
  ordered := follows.ordered
  recent := by
    rw [alike.revisions, alike.cursor]
    exact follows.recent
  kept := by
    rw [alike.cursor]
    intro c cursor id event head before
    exact alike_carries alike (follows.kept c cursor id event head before)

theorem tracked_ended (tracked : Tracked settings paginator s) (alike : Alike s t)
    (idle : t.task = none) : Tracked settings paginator t where
  provided := alike_provided alike tracked.provided
  settled := alike_settled alike tracked.settled
  follows task running := by
    rw [idle] at running
    cases running
  stands task running := by
    rw [idle] at running
    cases running

theorem tracked_moved {task : SyncTask} {point : SyncPoint}
    (tracked : Tracked settings paginator s) (running : s.task = some task) (alike : Alike s t)
    (moved : t.task = some { task with point })
    (stands : Stands settings paginator t { task with point }) : Tracked settings paginator t where
  provided := alike_provided alike tracked.provided
  settled := alike_settled alike tracked.settled
  follows other here := by
    cases moved.symm.trans here
    exact alike_follows alike (tracked.follows task running) point
  stands other here := by
    cases moved.symm.trans here
    exact stands

end Alike

theorem get_cursor (metadata : Option SyncMetadataORM) (now : Instant) :
    (SyncMetadataRepository.get metadata now).lastChangedAt =
      metadata.bind SyncMetadataORM.lastChangedAt := by
  cases metadata <;> rfl

theorem markRunning_cursor (metadata : Option SyncMetadataORM) (now : Instant) :
    (SyncMetadataRepository.markRunning metadata now).lastChangedAt =
      metadata.bind SyncMetadataORM.lastChangedAt :=
  get_cursor metadata now

theorem markFailure_cursor (metadata : Option SyncMetadataORM) (error : Text) (now : Instant) :
    (SyncMetadataRepository.markFailure metadata error now).lastChangedAt =
      metadata.bind SyncMetadataORM.lastChangedAt :=
  get_cursor metadata now

theorem startFrom_cases (settings : SyncSettings) (full : Bool) (metadata : SyncMetadataORM) :
    SyncService.startFrom settings full metadata = settings.firstInstant ∨
      metadata.lastChangedAt = some (SyncService.startFrom settings full metadata) := by
  unfold SyncService.startFrom
  split
  · rename_i changedAt found
    exact Or.inr found
  · exact Or.inl rfl

theorem take_latest {fetch : Fetch} {event : SProviderEvent} {latest : Instant}
    (found : (SyncService.take fetch event).maxChangedAt = some latest) :
    latest = event.changedAt ∨ fetch.maxChangedAt = some latest := by
  simp only [SyncService.take] at found
  split at found
  · exact Or.inl (Option.some.inj found).symm
  · rename_i before here
    split at found
    · exact Or.inl (Option.some.inj found).symm
    · exact Or.inr (here.trans found)

section Stand

variable {s : SyncState} {task : SyncTask} {fetch : Fetch}

theorem stands_failed (s : SyncState) (task : SyncTask) (error : Raised) :
    Stands settings paginator s { task with point := .markFailure error } where
  requested c found := by cases found
  latest fetch latest found := by cases found
  complete ended := ended.elim
  stored events found := by cases found

theorem shown_of_pending {stored waiting : List (SProviderEvent × Nat)}
    {events : List SProviderEvent} (split : task.shown = stored ++ waiting)
    (same : waiting.map Prod.fst = events) {event : SProviderEvent} (member : event ∈ events) :
    ∃ x ∈ task.shown, x.1 = event := by
  rw [← same] at member
  obtain ⟨x, inside, rfl⟩ := List.mem_map.mp member
  exact ⟨x, by simp [split, inside], rfl⟩

theorem stands_taken {event : SProviderEvent} {page : List SProviderEvent} {next : Option String}
    (stands : Stands settings paginator s task)
    (here : task.point = .iterating fetch (event :: page) next) {point : SyncPoint}
    (there : point = .iterating (SyncService.take fetch event) page next ∨
      point = .storing (SyncService.take fetch event) page next) :
    Stands settings paginator s { task with point } := by
  obtain ⟨requested, latest, complete, stored⟩ := stands
  rw [here] at requested latest complete stored
  have same : (SyncService.take fetch event).batch ++ page = fetch.batch ++ event :: page := by
    simp [SyncService.take]
  have newest : ∀ instant, (SyncService.take fetch event).maxChangedAt = some instant →
      ∃ x ∈ task.shown, x.1.changedAt = instant := by
    intro instant found
    rcases take_latest found with rfl | found
    · obtain ⟨before, waiting, split, pending, _⟩ := stored _ rfl
      obtain ⟨x, member, rfl⟩ := shown_of_pending split pending
        (List.mem_append_right fetch.batch (List.mem_cons_self (a := event) (l := page)))
      exact ⟨x, member, rfl⟩
    · exact latest fetch instant rfl found
  have pending : (SyncPoint.iterating fetch (event :: page) next).pending? =
      some ((SyncService.take fetch event).batch ++ page) := congrArg some same.symm
  rw [pending] at stored
  have taken : ∀ other instant, some (SyncService.take fetch event) = some other →
      other.maxChangedAt = some instant → ∃ x ∈ task.shown, x.1.changedAt = instant := by
    intro other instant found
    cases found
    exact newest instant
  rcases there with rfl | rfl
  · exact ⟨requested, taken, complete, stored⟩
  · exact ⟨requested, taken, complete, stored⟩

theorem stands_iterated {page : List SProviderEvent} {next : Option String}
    (stands : Stands settings paginator s task) (here : task.point = .iterating fetch page next) :
    Stands settings paginator s
      { task with point := SyncService.iterate settings paginator s.now fetch next page } := by
  cases page with
  | cons event page =>
    apply stands_taken stands here
    simp only [SyncService.iterate]
    split
    · exact Or.inr rfl
    · exact Or.inl rfl
  | nil =>
    obtain ⟨requested, latest, complete, stored⟩ := stands
    rw [here] at requested latest complete stored
    simp only [SyncPoint.pending?, List.append_nil] at stored
    simp only [SyncService.iterate]
    split
    · exact stands_failed s task _
    · exact ⟨requested, latest, fun ended => ended.elim, stored⟩
    · rename_i closing
      split
      · rename_i empty
        refine ⟨requested, latest, fun _ => complete closing, ?_⟩
        intro events found
        apply stored events
        cases found
        rw [List.isEmpty_iff.mp empty]
      · exact ⟨requested, latest, fun _ => complete closing, stored⟩

def SyncState.shows (s : SyncState) (page : EventsPage) : List (SProviderEvent × Nat) :=
  page.results.map fun event => (event, (s.revisions event.id).length)

theorem mem_shows {page : EventsPage} {x : SProviderEvent × Nat}
    (current : ∀ event ∈ page.results, (s.revisions event.id).head? = some event)
    (member : x ∈ s.shows page) :
    x.2 = (s.revisions x.1.id).length ∧ (s.revisions x.1.id).head? = some x.1 := by
  obtain ⟨event, inside, rfl⟩ := List.mem_map.mp member
  exact ⟨rfl, current event inside⟩

theorem follows_page {page : EventsPage} (follows : Follows s task)
    (current : ∀ event ∈ page.results, (s.revisions event.id).head? = some event) :
    Follows s { task with shown := task.shown ++ s.shows page } where
  started := follows.started
  since := follows.since
  newer := follows.newer
  shown x member := by
    rcases List.mem_append.mp member with member | member
    · exact follows.shown x member
    · obtain ⟨number, head⟩ := mem_shows current member
      rw [number]
      exact ⟨Revision.newest head, (follows.started x.1.id).length_le⟩
  ordered := by
    refine List.pairwise_append.mpr ⟨follows.ordered, ?_, ?_⟩
    · apply List.pairwise_of_forall_mem_list
      intro x inside y later same
      rw [(mem_shows current inside).1, (mem_shows current later).1, same]
    · intro x inside y later same
      rw [(mem_shows current later).1, ← same]
      exact (follows.shown x inside).1.le_length
  recent x member := by
    rcases List.mem_append.mp member with member | member
    · exact follows.recent x member
    · exact Or.inl (mem_shows current member).1
  kept := follows.kept

theorem stands_page {page : EventsPage} {url : Option String}
    (stands : Stands settings paginator s task) (here : task.point = .fetching fetch url)
    (complete : paginator.follow (fetch.pagesSeen + 1) page.next = .ok none →
      Complete task.started fetch.changedAt (task.shown ++ s.shows page)) :
    Stands settings paginator s { task with
      point := .iterating { fetch with pagesSeen := fetch.pagesSeen + 1 } page.results page.next
      shown := task.shown ++ s.shows page } := by
  obtain ⟨requested, latest, _, stored⟩ := stands
  rw [here] at requested latest stored
  refine ⟨requested, ?_, ?_, ?_⟩
  · intro other instant found newest
    cases found
    obtain ⟨x, member, same⟩ := latest fetch instant rfl newest
    exact ⟨x, List.mem_append_left _ member, same⟩
  · intro closing c found
    cases found
    exact complete closing
  · intro events found
    cases found
    obtain ⟨before, waiting, split, same, carried⟩ := stored _ rfl
    refine ⟨before, waiting ++ s.shows page, ?_, ?_, carried⟩
    · rw [split, List.append_assoc]
    · rw [List.map_append, same, SyncState.shows, List.map_map]
      simp [Function.comp_def]

theorem batch_shown {page : List SProviderEvent} (stands : Stands settings paginator s task)
    (pending : task.point.pending? = some (fetch.batch ++ page)) :
    ∃ before batch waiting, task.shown = before ++ (batch ++ waiting) ∧
      batch.map Prod.fst = fetch.batch ∧ waiting.map Prod.fst = page ∧
      ∀ x ∈ before, s.Carries x.1.id x.2 := by
  obtain ⟨before, all, split, same, carried⟩ := stands.stored _ pending
  obtain ⟨batch, waiting, rfl, first, rest⟩ := List.map_eq_append_iff.mp same
  exact ⟨before, batch, waiting, split, first, rest, carried⟩

theorem tracked_store {events : Table EventORM.id} {page : List SProviderEvent}
    {point : SyncPoint} (tracked : Tracked settings paginator s) (running : s.task = some task)
    (pending : task.point.pending? = some (fetch.batch ++ page))
    (stored : EventRepository.upsertMany s.events (SyncService.rows task.startedAt fetch) =
      some events)
    (requested : point.requested? = task.point.requested?)
    (latest : ∀ fetch', point.fetch? = some fetch' →
      ∃ fetch, task.point.fetch? = some fetch ∧ fetch'.maxChangedAt = fetch.maxChangedAt)
    (ended : point.Ended paginator → task.point.Ended paginator)
    (left : point.pending? = some page) :
    Tracked settings paginator { s with events, task := some { task with point } } := by
  have follows := tracked.follows task running
  have stands := tracked.stands task running
  obtain ⟨before, batch, waiting, split, entries, rest, carried⟩ := batch_shown stands pending
  have inside : batch ⊆ task.shown := by
    intro x member
    simp [split, member]
  refine ⟨⟨tracked.provided.revisions, tracked.provided.cursor⟩, ?_, ?_, ?_⟩
  · exact store_settled tracked.settled follows stored entries inside
  · intro other here
    cases here
    exact store_follows follows stored entries inside _
  · intro other here
    cases here
    refine ⟨?_, ?_, ?_, ?_⟩
    · intro c found
      exact stands.requested c (requested ▸ found)
    · intro fetch' instant found newest
      obtain ⟨fetch, before, same⟩ := latest fetch' found
      exact stands.latest fetch instant before (same ▸ newest)
    · intro closing c found
      exact stands.complete (ended closing) c (requested ▸ found)
    · intro events' found
      cases left.symm.trans found
      refine ⟨before ++ batch, waiting, ?_, rest, ?_⟩
      · rw [split, List.append_assoc]
      · exact store_carried follows stored entries split carried

end Stand

theorem tracked_tick {s : SyncState} {now : Instant} (tracked : Tracked settings paginator s)
    (later : s.now ≤ now) : Tracked settings paginator { s with now } := by
  refine ⟨⟨?_, ?_⟩, tracked.settled, ?_, ?_⟩
  · intro id event member
    obtain ⟨own, first, past⟩ := tracked.provided.revisions id event member
    exact ⟨own, first, le_trans past later⟩
  · intro c cursor
    rcases tracked.provided.cursor c cursor with past | first
    · exact Or.inl (le_trans past later)
    · exact Or.inr first
  · intro task running
    have follows := tracked.follows task running
    exact ⟨follows.started, le_trans follows.since later, follows.newer, follows.shown,
      follows.ordered, follows.recent, follows.kept⟩
  · intro task running
    have stands := tracked.stands task running
    exact ⟨stands.requested, stands.latest, stands.complete, stands.stored⟩

theorem tracked_start {s : SyncState} {full : Bool} (tracked : Tracked settings paginator s) :
    Tracked settings paginator
      { s with task := some ⟨full, s.now, .getMeta, s.revisions, []⟩ } := by
  refine ⟨⟨tracked.provided.revisions, tracked.provided.cursor⟩, tracked.settled, ?_, ?_⟩
  · intro task running
    cases running
    refine ⟨fun id => List.suffix_rfl, le_refl _, ?_, ?_, List.Pairwise.nil, ?_,
      tracked.settled⟩
    · intro id event changed
      exact absurd rfl changed
    · intro x member
      cases member
    · intro x member
      cases member
  · intro task running
    cases running
    refine ⟨?_, ?_, fun ended => ended.elim, ?_⟩
    · intro c found
      cases found
    · intro fetch instant found
      cases found
    · intro events found
      cases found
      exact ⟨[], [], rfl, rfl, by simp⟩

theorem alike_stored {s t : SyncState} {task : SyncTask} (alike : Alike s t)
    (stands : Stands settings paginator s task) {events : List SProviderEvent}
    (pending : task.point.pending? = some events) : ∃ stored waiting,
      task.shown = stored ++ waiting ∧ waiting.map Prod.fst = events ∧
        ∀ x ∈ stored, t.Carries x.1.id x.2 := by
  obtain ⟨stored, waiting, split, same, carried⟩ := stands.stored events pending
  exact ⟨stored, waiting, split, same, fun x member => alike_carries alike (carried x member)⟩

theorem stands_getMeta {s t : SyncState} {task : SyncTask} (alike : Alike s t)
    (stands : Stands settings paginator s task) (here : task.point = .getMeta) {now : Instant} :
    Stands settings paginator t { task with
      point := .markRunning (SyncService.startFrom settings task.full
        (SyncMetadataRepository.get s.metadata now)) } := by
  refine ⟨?_, ?_, fun ended => ended.elim, ?_⟩
  · intro c found
    cases found
    rw [alike.cursor]
    have cases := startFrom_cases settings task.full (SyncMetadataRepository.get s.metadata now)
    rw [get_cursor] at cases
    exact cases
  · intro fetch instant found
    cases found
  · intro events found
    apply alike_stored alike stands
    rw [here]
    exact found

theorem stands_markRunning {s t : SyncState} {task : SyncTask} {changedAt : Instant}
    (alike : Alike s t) (stands : Stands settings paginator s task)
    (here : task.point = .markRunning changedAt) :
    Stands settings paginator t
      { task with point := .fetching ⟨changedAt, 0, none, [], 0⟩ none } := by
  refine ⟨?_, ?_, fun ended => ended.elim, ?_⟩
  · intro c found
    cases found
    rw [alike.cursor]
    exact stands.requested changedAt (by rw [here]; rfl)
  · intro fetch instant found newest
    cases found
    cases newest
  · intro events found
    apply alike_stored alike stands
    rw [here]
    exact found

end EventsAggregator
