import EventsAggregator.Api.Links
import EventsAggregator.Relational.Growth
import EventsAggregator.Services.EventViews
import EventsAggregator.Services.Pages

namespace EventsAggregator

open Relational Transition

/-- `EventService.list_events` on a table that changes between its two statements: `counted` is
    what its count sees, `queried` what its query for the rows sees after that. -/
def EventService.ListEventsAcross (counted queried : Table EventORM.id) (dateFrom : Option Date)
    (page pageSize : Int) (baseUrl : String) (response : SEventPageRead) : Prop :=
  ∃ rows, EventRepository.EventsList queried dateFrom pageSize ((page - 1) * pageSize) rows ∧
    response =
      { count := EventRepository.count counted dateFrom
        next := buildPageUrl baseUrl dateFrom (page + 1) pageSize
          (EventRepository.count counted dateFrom)
        previous := buildPageUrl baseUrl dateFrom (page - 1) pageSize
          (EventRepository.count counted dateFrom)
        results := rows.map Converter.eventOrmToRead }

theorem list_events_iff (events : Table EventORM.id) (route : RouteUrl) (params : ListEventsParams)
    (response : SEventPageRead) : ListEvents events route params response ↔
      EventService.ListEventsAcross events events params.dateFrom params.page params.pageSize
        route.baseUrl response := Iff.rfl

structure Visit where
  counted : Table EventORM.id
  queried : Table EventORM.id
  response : SEventPageRead

/-- A client that follows the `next` links beside the callers of the sync: the URL that it asks for,
    a request of which the count has run, and the answers so far. -/
structure Browsing where
  callers : SyncCallers
  url : Option String
  counted : Option (ListEventsParams × Table EventORM.id)
  visits : List Visit

inductive BrowsingAction
  | sync (action : CallersAction)
  | count
  | query
  | lost

section Steps

variable (settings : SyncSettings) (paginator : EventsPaginator) (decoder : QueryDecoder)
  (route : RouteUrl)

inductive BrowsingStep : Browsing → BrowsingAction → Browsing → Prop
  | sync {s : Browsing} {a : CallersAction} {callers : SyncCallers}
      (step : CallersStep settings paginator s.callers a callers) :
      BrowsingStep s (.sync a) { s with callers }
  -- A URL that the endpoint refuses gets no further than its validation.
  | count {s : Browsing} {url : String} {params : ListEventsParams} (here : s.url = some url)
      (free : s.counted = none) (routed : Urls.beforeQuery url = route.baseUrl)
      (parsed : ListEventsParams.parse decoder (Urls.query url) = some params) :
      BrowsingStep s .count { s with counted := some (params, s.callers.events) }
  | query {s : Browsing} {params : ListEventsParams} {counted : Table EventORM.id}
      {response : SEventPageRead} (here : s.counted = some (params, counted))
      (listed : EventService.ListEventsAcross counted s.callers.events params.dateFrom params.page
        params.pageSize route.baseUrl response) :
      BrowsingStep s .query
        { s with
          url := response.next, counted := none
          visits := s.visits ++ [⟨counted, s.callers.events, response⟩] }
  -- The request fails between its statements, and the client may ask again.
  | lost {s : Browsing} {request : ListEventsParams × Table EventORM.id}
      (here : s.counted = some request) : BrowsingStep s .lost { s with counted := none }

def browsing : System Browsing BrowsingAction where
  Initial s := (syncCallers settings paginator).Initial s.callers ∧ s.counted = none ∧ s.visits = []
  Step := BrowsingStep settings paginator decoder route

end Steps

def BrowsingAction.shown : BrowsingAction → List SProviderEvent
  | .sync a => a.shown
  | .count | .query | .lost => []

def browsedOn : List (Move Browsing BrowsingAction) → List SProviderEvent
  | [] => []
  | m :: earlier => browsedOn earlier ++ m.action.shown

/-- An event has one time, which no other event has. -/
def AtFixedTimes (shown : List SProviderEvent) : Prop :=
  ∀ event ∈ shown, ∀ event' ∈ shown, event.id = event'.id ↔ event.eventTime = event'.eventTime

instance (shown : List SProviderEvent) : Decidable (AtFixedTimes shown) :=
  inferInstanceAs (Decidable (∀ event ∈ shown, _))

def Seen (visits : List Visit) (row : EventORM) : Prop :=
  ∃ visit ∈ visits, ∃ read ∈ visit.response.results, read.id = row.id

/-- Between the two statements of a request an event before this one has come to be stored. -/
def Visit.TornBefore (visit : Visit) (dateFrom : Option Date) (row : EventORM) : Prop :=
  ∃ row' ∈ EventRepository.matching visit.queried dateFrom,
    visit.counted.find? row'.id = none ∧ row'.eventTime < row.eventTime

def ListEventsParams.Are (params : ListEventsParams) (dateFrom : Option Date)
    (page pageSize : Int) : Prop :=
  params.dateFrom = dateFrom ∧ params.page.val = page ∧ params.pageSize.val = pageSize

def AsksFor (decoder : QueryDecoder) (url : String) (dateFrom : Option Date)
    (page pageSize : Int) : Prop :=
  ∀ params, ListEventsParams.parse decoder (Urls.query url) = some params →
    params.Are dateFrom page pageSize

def eventTimes (events : Table EventORM.id) : List Instant := events.rows.map EventORM.eventTime

section Walk

variable {settings : SyncSettings} {paginator : EventsPaginator} {decoder : QueryDecoder}
  {route : RouteUrl} {dateFrom : Option Date} {pageSize : Nat} {shown : List SProviderEvent}
  {start events counted queried : Table EventORM.id} {row row' : EventORM}

theorem AtFixedTimes.front {more : List SProviderEvent} (fixed : AtFixedTimes (shown ++ more)) :
    AtFixedTimes shown := fun event there event' there' =>
  fixed event (List.mem_append_left _ there) event' (List.mem_append_left _ there')

def Sourced (shown : List SProviderEvent) (events : Table EventORM.id) : Prop :=
  ∀ row ∈ events.rows, RowOf shown row

theorem Sourced.append (sourced : Sourced shown events) (more : List SProviderEvent) :
    Sourced (shown ++ more) events := fun row inside => (sourced row inside).append more

theorem mirrored_sourced {s : SyncCallers} (mirrored : Mirrored shown s) :
    Sourced shown s.events := fun row inside =>
  mirrored.row ((Table.find?_eq_some _ _ row).mpr ⟨inside, rfl⟩)

theorem same_event (fixed : AtFixedTimes shown) (first : RowOf shown row)
    (second : RowOf shown row') : row.id = row'.id ↔ row.eventTime = row'.eventTime := by
  obtain ⟨event, there, _, rfl⟩ := first
  obtain ⟨event', there', _, rfl⟩ := second
  exact fixed event there event' there'

theorem times_nodup (fixed : AtFixedTimes shown) (sourced : Sourced shown events) :
    (eventTimes events).Nodup := by
  apply List.Nodup.map_on _ (List.Nodup.of_map _ events.unique)
  intro row inside row' inside' same
  have ids := (same_event fixed (sourced row inside) (sourced row' inside')).mpr same
  exact List.inj_on_of_nodup_map events.unique inside inside' ids

theorem times_kept {τ : Type} [Preorder τ] {version : EventORM → τ} (fixed : AtFixedTimes shown)
    (sourced : Sourced shown start) (sourced' : Sourced shown events)
    (kept : start.Advances version events) : eventTimes start ⊆ eventTimes events := by
  intro time inside
  obtain ⟨row, member, rfl⟩ := List.mem_map.mp inside
  obtain ⟨row', found, _⟩ := kept row.id row ((Table.find?_eq_some _ _ _).mpr ⟨member, rfl⟩)
  obtain ⟨member', same⟩ := (Table.find?_eq_some _ _ _).mp found
  have at' := (same_event fixed (sourced' row' member') (sourced row member)).mp same
  exact List.mem_map.mpr ⟨row', member', at'⟩

theorem matching_times (events : Table EventORM.id) (dateFrom : Option Date) :
    (EventRepository.matching events dateFrom).map EventORM.eventTime =
      (eventTimes events).filter fun time => dateFrom.all fun date => date.midnight ≤ time := by
  rw [EventRepository.matching, eventTimes, List.filter_map]
  rfl

theorem matching_nodup (distinct : (eventTimes events).Nodup) (dateFrom : Option Date) :
    ((EventRepository.matching events dateFrom).map EventORM.eventTime).Nodup := by
  rw [matching_times]
  exact distinct.filter _

theorem matching_kept (kept : eventTimes start ⊆ eventTimes events) (dateFrom : Option Date) :
    (EventRepository.matching start dateFrom).map EventORM.eventTime ⊆
      (EventRepository.matching events dateFrom).map EventORM.eventTime := by
  rw [matching_times, matching_times]
  exact List.filter_subset _ kept

theorem seen_or_behind (fixed : AtFixedTimes shown) (sourced : Sourced shown queried)
    (rowOf : RowOf shown row) (kept : row.eventTime ∈
      (EventRepository.matching queried dateFrom).map EventORM.eventTime) {n : Nat}
    {response : SEventPageRead} (listed : EventService.ListEventsAcross counted queried dateFrom
      (n + 1 : Nat) pageSize route.baseUrl response)
    (behind : n * pageSize ≤
      place EventORM.eventTime (EventRepository.matching queried dateFrom) row.eventTime) :
    (∃ read ∈ response.results, read.id = row.id) ∨ (n + 1) * pageSize ≤
      place EventORM.eventTime (EventRepository.matching queried dateFrom) row.eventTime := by
  obtain ⟨row', inside, same⟩ := List.mem_map.mp kept
  have ids := (same_event fixed (sourced row' (List.mem_filter.mp inside).1) rowOf).mpr same
  obtain ⟨rows, list, rfl⟩ := listed
  obtain ⟨sorted, ordered, results⟩ :=
    @list_events_page queried dateFrom pageSize route.baseUrl n _ ⟨rows, list, rfl⟩
  rw [← same] at behind ⊢
  by_cases before : place EventORM.eventTime (EventRepository.matching queried dateFrom)
      row'.eventTime < (n + 1) * pageSize
  · have distinct := matching_nodup (times_nodup fixed sourced) dateFrom
    have here := (mem_page_iff distinct ordered inside pageSize n).mpr ⟨behind, before⟩
    refine Or.inl ⟨Converter.eventOrmToRead row', ?_, ids⟩
    exact results ▸ List.mem_map_of_mem here
  · exact Or.inr (Nat.le_of_not_lt before)

theorem torn_before (fixed : AtFixedTimes shown) (sourced : Sourced shown counted)
    (sourced' : Sourced shown queried) (kept : row.eventTime ∈
      (EventRepository.matching counted dateFrom).map EventORM.eventTime)
    (behind : EventRepository.count counted dateFrom ≤
      place EventORM.eventTime (EventRepository.matching queried dateFrom) row.eventTime)
    (response : SEventPageRead) :
    Visit.TornBefore ⟨counted, queried, response⟩ dateFrom row := by
  obtain ⟨old, inside, same⟩ := List.mem_map.mp kept
  rw [← same] at behind
  have distinct := matching_nodup (times_nodup fixed sourced') dateFrom
  obtain ⟨row', member, earlier, fresh⟩ := exists_new distinct inside behind
  obtain ⟨there, matched⟩ := List.mem_filter.mp member
  refine ⟨row', member, ?_, same ▸ earlier⟩
  rw [← Option.not_isSome_iff_eq_none]
  intro stored
  obtain ⟨before, found⟩ := Option.isSome_iff_exists.mp stored
  obtain ⟨stored, ids⟩ := (Table.find?_eq_some _ _ _).mp found
  have at' := (same_event fixed (sourced before stored) (sourced' row' there)).mp ids
  apply fresh
  rw [matching_times]
  exact List.mem_filter.mpr ⟨List.mem_map.mpr ⟨before, stored, at'⟩, matched⟩

theorem next_asks (lawful : decoder.Lawful) {page pageSize : Int} {total : Nat} {url : String}
    (built : EventService.buildPageUrl route.baseUrl dateFrom page pageSize total = some url)
    (near : page < 2 ^ 63) (size : 0 ≤ pageSize ∧ pageSize < 2 ^ 63) :
    AsksFor decoder url dateFrom page pageSize := by
  have first : 1 ≤ page :=
    ((build_page_url_isSome route.baseUrl).mp (Option.isSome_of_eq_some built)).1
  obtain ⟨_, query⟩ := Urls.query_append route.base_bare (page_params_plain dateFrom page pageSize)
  rw [← build_page_url_eq built] at query
  intro params parsed
  rw [query, parse_page_params lawful dateFrom ⟨by omega, near⟩ size] at parsed
  split at parsed
  · cases parsed
    exact ⟨rfl, rfl, rfl⟩
  · cases parsed

theorem last_page {page pageSize : Int} {total : Nat} {baseUrl : String} (first : 1 ≤ page)
    (none : EventService.buildPageUrl baseUrl dateFrom (page + 1) pageSize total = none) :
    total ≤ page * pageSize := by
  by_contra more
  have built : (EventService.buildPageUrl baseUrl dateFrom (page + 1) pageSize total).isSome := by
    rw [build_page_url_isSome, Int.add_sub_cancel]
    omega
  rw [none] at built
  cases built

structure Walking (decoder : QueryDecoder) (dateFrom : Option Date) (pageSize : Nat)
    (start : Table EventORM.id) (shown : List SProviderEvent) (s : Browsing) : Prop where
  mirrored : Mirrored shown s.callers
  kept : eventTimes start ⊆ eventTimes s.callers.events
  url : ∀ url ∈ s.url, AsksFor decoder url dateFrom (s.visits.length + 1 : Nat) pageSize
  counted : ∀ params counted, s.counted = some (params, counted) →
    params.Are dateFrom (s.visits.length + 1 : Nat) pageSize ∧ Sourced shown counted ∧
      eventTimes start ⊆ eventTimes counted
  walked : ∀ row ∈ EventRepository.matching start dateFrom, Seen s.visits row ∨
    s.visits.length * pageSize ≤ place EventORM.eventTime
      (EventRepository.matching s.callers.events dateFrom) row.eventTime
  ended : s.url = none → ∀ row ∈ EventRepository.matching start dateFrom, Seen s.visits row ∨
    ∃ last, s.visits.getLast? = some last ∧ last.TornBefore dateFrom row

namespace Walking

variable {s t : Browsing} {a : CallersAction}

theorem sourced (walking : Walking decoder dateFrom pageSize start shown s) :
    Sourced shown s.callers.events := mirrored_sourced walking.mirrored

theorem sync (walking : Walking decoder dateFrom pageSize start shown s)
    (fixed : AtFixedTimes (shown ++ a.shown)) {callers : SyncCallers}
    (step : CallersStep settings paginator s.callers a callers) :
    Walking decoder dateFrom pageSize start (shown ++ a.shown) { s with callers } := by
  have ages : Ages (fun _ => ()) (shown ++ a.shown) := fun _ _ _ _ _ _ _ _ => le_refl _
  obtain ⟨mirrored, advances⟩ := mirrored_step walking.mirrored ages step
  have grows := times_kept fixed (walking.sourced.append _) (mirrored_sourced mirrored) advances
  refine ⟨mirrored, List.Subset.trans walking.kept grows, walking.url, ?_, ?_, walking.ended⟩
  · intro params counted here
    obtain ⟨asked, from', kept⟩ := walking.counted params counted here
    exact ⟨asked, from'.append _, kept⟩
  · intro row inside
    have distinct := matching_nodup (times_nodup fixed.front walking.sourced) dateFrom
    exact (walking.walked row inside).imp_right fun behind =>
      behind.trans (place_le distinct (matching_kept grows dateFrom) _)

theorem query (lawful : decoder.Lawful) (walking : Walking decoder dateFrom pageSize start shown s)
    (fixed : AtFixedTimes shown) (from' : Sourced shown start) {params : ListEventsParams}
    {response : SEventPageRead} (here : s.counted = some (params, counted))
    (listed : EventService.ListEventsAcross counted s.callers.events params.dateFrom params.page
      params.pageSize route.baseUrl response) :
    Walking decoder dateFrom pageSize start shown
      { s with
        url := response.next, counted := none
        visits := s.visits ++ [⟨counted, s.callers.events, response⟩] } := by
  obtain ⟨⟨rfl, page, size⟩, sourced, kept⟩ := walking.counted params counted here
  have near := params.page.property
  have sizes := params.pageSize.property
  rw [page, size] at listed
  have progress : ∀ row ∈ EventRepository.matching start params.dateFrom,
      Seen (s.visits ++ [⟨counted, s.callers.events, response⟩]) row ∨
        (s.visits.length + 1) * pageSize ≤ place EventORM.eventTime
          (EventRepository.matching s.callers.events params.dateFrom) row.eventTime := by
    intro row inside
    have rowOf := from' row (List.mem_filter.mp inside).1
    have there := matching_kept walking.kept params.dateFrom (List.mem_map_of_mem inside)
    rcases walking.walked row inside with ⟨visit, member, shown⟩ | behind
    · exact Or.inl ⟨visit, List.mem_append_left _ member, shown⟩
    · exact (seen_or_behind fixed walking.sourced rowOf there listed behind).imp_left fun shown =>
        ⟨_, List.mem_append_right _ (List.mem_singleton_self _), shown⟩
  obtain ⟨rows, list, rfl⟩ := listed
  refine ⟨walking.mirrored, walking.kept, fun url next => ?_, fun _ _ none => ?_, ?_,
    fun last => ?_⟩
  · have asks : AsksFor decoder url params.dateFrom ((s.visits.length + 1 : Nat) + 1) pageSize :=
      next_asks lawful next (by omega) (by omega)
    rw [List.length_append]
    exact asks
  · cases none
  · intro row inside
    rw [List.length_append]
    exact progress row inside
  · intro row inside
    have first : (1 : Int) ≤ (s.visits.length + 1 : Nat) := by omega
    have total := last_page first last
    refine (progress row inside).imp_right fun behind => ⟨_, List.getLast?_concat .., ?_⟩
    refine torn_before fixed sourced walking.sourced
      (matching_kept kept params.dateFrom (List.mem_map_of_mem inside)) (le_trans ?_ behind) _
    exact_mod_cast total

theorem step {a : BrowsingAction} (lawful : decoder.Lawful)
    (walking : Walking decoder dateFrom pageSize start shown s)
    (fixed : AtFixedTimes (shown ++ a.shown)) (from' : Sourced shown start)
    (step : BrowsingStep settings paginator decoder route s a t) :
    Walking decoder dateFrom pageSize start (shown ++ a.shown) t := by
  cases step with
  | sync step => exact walking.sync fixed step
  | count here free routed parsed =>
    rw [show BrowsingAction.shown .count = [] from rfl, List.append_nil]
    refine { walking with counted := fun _ _ asked => ?_ }
    cases asked
    exact ⟨walking.url _ here _ parsed, walking.sourced, walking.kept⟩
  | query here listed =>
    rw [show BrowsingAction.shown .query = [] from rfl, List.append_nil] at fixed ⊢
    exact walking.query lawful fixed from' here listed
  | lost here =>
    rw [show BrowsingAction.shown .lost = [] from rfl, List.append_nil]
    refine { walking with counted := fun _ _ none => ?_ }
    cases none

theorem run (lawful : decoder.Lawful) {moves : List (Move Browsing BrowsingAction)}
    (walking : Walking decoder dateFrom pageSize start shown s)
    (fixed : AtFixedTimes (shown ++ browsedOn moves)) (from' : Sourced shown start)
    (run : Run (browsing settings paginator decoder route) s moves t) :
    Walking decoder dateFrom pageSize start (shown ++ browsedOn moves) t := by
  induction run with
  | refl =>
    rw [browsedOn, List.append_nil]
    exact walking
  | move _ step ih =>
    rw [browsedOn, ← List.append_assoc] at fixed ⊢
    exact (ih fixed.front).step lawful fixed (from'.append _) step

end Walking

/-- A client that follows the links to the last page while syncs go on misses an event that was
    there at its start only if an earlier one is stored between the count and the query of its last
    request. -/
theorem walks_miss_by_a_torn_request {r u : SyncCallers} {t : Browsing} {url : String}
    {earlier : List (Move SyncCallers CallersAction)} {moves : List (Move Browsing BrowsingAction)}
    (lawful : decoder.Lawful) (initial : (syncCallers settings paginator).Initial r)
    (empty : r.events = .empty) (before : Run (syncCallers settings paginator) r earlier u)
    (first : LeadsTo decoder route url dateFrom 1 pageSize)
    (walk : Run (browsing settings paginator decoder route) ⟨u, some url, none, []⟩ moves t)
    (fixed : AtFixedTimes (shownOn earlier ++ browsedOn moves)) (done : t.url = none) :
    ∀ row ∈ EventRepository.matching u.events dateFrom, Seen t.visits row ∨
      ∃ last, t.visits.getLast? = some last ∧ last.TornBefore dateFrom row := by
  have ages : Ages (fun _ => ()) (shownOn (earlier ++ [])) := fun _ _ _ _ _ _ _ _ => le_refl _
  have fresh : Mirrored (shownOn []) r := mirrored_fresh initial empty
  obtain ⟨mirrored, _⟩ := mirrored_run fresh ages before
  rw [List.append_nil] at mirrored
  have sourced := mirrored_sourced mirrored
  obtain ⟨_, params, parsed, rfl, page, size⟩ := first
  have walking : Walking decoder params.dateFrom pageSize u.events (shownOn earlier)
      ⟨u, some url, none, []⟩ := by
    refine ⟨mirrored, List.Subset.refl _, ?_, fun _ _ none => ?_, fun _ _ => Or.inr ?_, ?_⟩
    · rintro _ ⟨⟩ other again
      cases parsed.symm.trans again
      exact ⟨rfl, page, size⟩
    · cases none
    · simp
    · intro none
      cases none
  exact (walking.run lawful fixed sourced walk).ended done

end Walk

section Sample

variable {settings : SyncSettings} {paginator : EventsPaginator} {decoder : QueryDecoder}
  {route : RouteUrl}

theorem browsing_of_callers {s : Browsing} {u v : SyncCallers} {url : Option String}
    {counted : Option (ListEventsParams × Table EventORM.id)} {visits : List Visit}
    {earlier : List (Move Browsing BrowsingAction)} {later : List (Move SyncCallers CallersAction)}
    (before : Run (browsing settings paginator decoder route) s earlier ⟨u, url, counted, visits⟩)
    (run : Run (syncCallers settings paginator) u later v) :
    ∃ moves, Run (browsing settings paginator decoder route) s moves ⟨v, url, counted, visits⟩ ∧
      browsedOn moves = browsedOn earlier ++ shownOn later := by
  induction run with
  | refl => exact ⟨_, before, (List.append_nil _).symm⟩
  | move _ step ih =>
    obtain ⟨moves, run, shown⟩ := ih
    refine ⟨_, run.move (.sync step), ?_⟩
    rw [browsedOn, shownOn, shown, List.append_assoc]
    rfl

def gala : SProviderEvent :=
  { providerEvent ⟨3⟩ "Gala" (sampleMidnight - 1000) with
    eventTime := sampleMidnight + 11 * microsecondsPerDay }

/-- One request, between whose statements the callers go on, and no next page. -/
theorem one_page_walk {u v : SyncCallers} {later : List (Move SyncCallers CallersAction)}
    {url : String} {pageSize : Nat} {response : SEventPageRead}
    (first : LeadsTo decoder route url none 1 pageSize)
    (onward : Run (syncCallers settings paginator) u later v)
    (listed : EventService.ListEventsAcross u.events v.events none 1 pageSize route.baseUrl response)
    (last : response.next = none) : ∃ moves,
      Run (browsing settings paginator decoder route) ⟨u, some url, none, []⟩ moves
        ⟨v, none, none, [⟨u.events, v.events, response⟩]⟩ ∧ browsedOn moves = shownOn later := by
  obtain ⟨routed, params, parsed, dates, page, size⟩ := first
  have asked : EventService.ListEventsAcross u.events v.events params.dateFrom params.page
      params.pageSize route.baseUrl response := by
    rw [dates, page, size]
    exact listed
  have opened := @Run.refl _ _ (browsing settings paginator decoder route) ⟨u, some url, none, []⟩
  obtain ⟨_, synced, browsed⟩ :=
    browsing_of_callers (opened.move (.count rfl rfl routed parsed)) onward
  have answered := synced.move (.query rfl asked)
  rw [last] at answered
  refine ⟨_, answered, ?_⟩
  rw [browsedOn, browsed]
  exact List.append_nil _

theorem steady_not_torn {visit : Visit} {dateFrom : Option Date} {row : EventORM}
    (steady : visit.counted = visit.queried) : ¬ visit.TornBefore dateFrom row := by
  rintro ⟨row', inside, absent, _⟩
  have there : visit.queried.find? row'.id = some row' :=
    (Table.find?_eq_some _ _ row').mpr ⟨(List.mem_filter.mp inside).1, rfl⟩
  rw [steady, there] at absent
  cases absent

/-- The count sees the gala only. If nothing is stored before the query, the page shows it, and
    otherwise the concert may take its place on the only page. -/
theorem walks_miss_by_a_torn_request_gala :
    ∃ (earlier : List (Move SyncCallers CallersAction)) (u : SyncCallers) (url : String)
      (moves moves' : List (Move Browsing BrowsingAction)) (t t' : Browsing) (last : Visit)
      (row : EventORM), Run (syncCallers sampleSyncSettings samplePaginator) freshCallers earlier u ∧
      row ∈ EventRepository.matching u.events none ∧ row.name = "Gala" ∧
      LeadsTo sampleDecoder sampleRoute url none 1 1 ∧
      Run (browsing sampleSyncSettings samplePaginator sampleDecoder sampleRoute)
        ⟨u, some url, none, []⟩ moves t ∧ t.url = none ∧ Seen t.visits row ∧
      Run (browsing sampleSyncSettings samplePaginator sampleDecoder sampleRoute)
        ⟨u, some url, none, []⟩ moves' t' ∧ t'.url = none ∧ ¬ Seen t'.visits row ∧
      t'.visits.getLast? = some last ∧ last.TornBefore none row := by
  have start := @Run.refl _ _ (syncCallers sampleSyncSettings samplePaginator) freshCallers
  obtain ⟨earlier, u, before, free, fresh, now, shown, events⟩ :=
    short_call (i := 0) start rfl rfl gala (by decide)
  obtain ⟨later, v, onward, _, _, _, shown', events'⟩ :=
    short_call (i := 1) (@Run.refl _ _ (syncCallers sampleSyncSettings samplePaginator) u) free
      (fresh 1 (by decide)) concert (by rw [now]; decide)
  rw [List.append_nil] at before onward
  let galaRow := (SyncService.toRow gala sampleMidnight).stored
  let concertRow := (SyncService.toRow concert sampleMidnight).stored
  let page (row : EventORM) : SEventPageRead := ⟨1, none, none, [Converter.eventOrmToRead row]⟩
  have stored : u.events.rows = [galaRow] := by
    rw [events]
    rfl
  have stored' : v.events.rows = [galaRow, concertRow] := by
    rw [events', events, now]
    rfl
  have inside : galaRow ∈ EventRepository.matching u.events none := by
    rw [EventRepository.matching, stored]
    decide
  have counted : EventRepository.count u.events none = 1 := by
    rw [EventRepository.count, EventRepository.matching, stored]
    rfl
  have steady : EventService.ListEventsAcross u.events u.events none 1 1 sampleRoute.baseUrl
      (page galaRow) := by
    refine ⟨[galaRow], ⟨by decide, by decide, [galaRow], ⟨?_, by decide⟩, rfl⟩, ?_⟩
    · rw [EventRepository.matching, stored]
      exact List.Perm.refl _
    · rw [counted]
      rfl
  have torn : EventService.ListEventsAcross u.events v.events none 1 1 sampleRoute.baseUrl
      (page concertRow) := by
    refine ⟨[concertRow], ⟨by decide, by decide, [concertRow, galaRow], ⟨?_, by decide⟩, rfl⟩, ?_⟩
    · rw [EventRepository.matching, stored']
      exact List.Perm.swap ..
    · rw [counted]
      rfl
  obtain ⟨url, built⟩ := Option.isSome_iff_exists.mp ((@build_page_url_isSome none 1 1 1
    sampleRoute.baseUrl).mpr (by decide))
  have first : LeadsTo sampleDecoder sampleRoute url none 1 1 :=
    (leads_to_iff sampleDecoder_lawful built (by decide) (by decide)).mpr (by decide)
  obtain ⟨moves, walk, browsed⟩ := one_page_walk first
    (@Run.refl _ _ (syncCallers sampleSyncSettings samplePaginator) u) steady rfl
  obtain ⟨moves', walk', browsed'⟩ := one_page_walk first onward torn rfl
  have missed : ¬ Seen [⟨u.events, v.events, page concertRow⟩] galaRow := by
    rintro ⟨visit, member, read, shown, same⟩
    cases List.mem_singleton.mp member
    cases List.mem_singleton.mp shown
    revert same
    decide
  have seen := walks_miss_by_a_torn_request sampleDecoder_lawful fresh_callers rfl before first walk
    (by rw [browsed, shown]; decide) rfl galaRow inside
  have unseen := walks_miss_by_a_torn_request sampleDecoder_lawful fresh_callers rfl before first
    walk' (by rw [browsed', shown, shown']; decide) rfl galaRow inside
  obtain ⟨last, here, early⟩ := unseen.resolve_left missed
  refine ⟨earlier, u, url, moves, moves', _, _, last, galaRow, before, inside, rfl, first, walk, rfl,
    seen.resolve_right ?_, walk', rfl, missed, here, early⟩
  rintro ⟨visit, alone, torn⟩
  cases alone
  exact steady_not_torn rfl torn

end Sample

end EventsAggregator
