import EventsAggregator.Clients.Traversal
import EventsAggregator.Services.Batches

namespace EventsAggregator

open Relational Transition

/-- A provider with fixed answers, per requested date and per URL of a further page. -/
structure Feed where
  first : Int → EventsPage
  next : String → EventsPage

namespace Feed

variable (feed : Feed) (paginator : EventsPaginator)

def page (changedAt : Instant) : Option String → EventsPage
  | none => feed.first (utcDate changedAt)
  | some url => feed.next url

def behind : Nat → Option String → List SProviderEvent
  | 0, _ => []
  | left + 1, next =>
    match paginator.follow (EventsPaginator.maxPages - (left + 1)) next with
    | .ok (some url) => (feed.next url).results ++ behind left (feed.next url).next
    | _ => []

def Ends : Nat → Option String → Prop
  | 0, next => paginator.follow EventsPaginator.maxPages next = .ok none
  | left + 1, next =>
    match paginator.follow (EventsPaginator.maxPages - (left + 1)) next with
    | .ok (some url) => Ends left (feed.next url).next
    | .ok none => True
    | .error _ => False

def stream (changedAt : Instant) : List SProviderEvent :=
  (feed.page changedAt none).results ++
    feed.behind paginator (EventsPaginator.maxPages - 1) (feed.page changedAt none).next

def StreamEnds (changedAt : Instant) : Prop :=
  feed.Ends paginator (EventsPaginator.maxPages - 1) (feed.page changedAt none).next

variable {feed paginator} {pagesSeen : Nat} {next : Option String} {url : String}

theorem follow_some (followed : paginator.follow pagesSeen next = .ok (some url)) :
    pagesSeen < EventsPaginator.maxPages :=
  (EventsPaginator.follow_some_iff.mp followed).2.2.1

theorem follow_none (followed : paginator.follow pagesSeen next = .ok none) (other : Nat) :
    paginator.follow other next = .ok none :=
  EventsPaginator.follow_none_iff.mpr (EventsPaginator.follow_none_iff.mp followed)

theorem left_succ (few : pagesSeen < EventsPaginator.maxPages) :
    EventsPaginator.maxPages - pagesSeen = EventsPaginator.maxPages - (pagesSeen + 1) + 1 ∧
      EventsPaginator.maxPages - (EventsPaginator.maxPages - (pagesSeen + 1) + 1) = pagesSeen := by
  omega

theorem behind_some (followed : paginator.follow pagesSeen next = .ok (some url)) :
    feed.behind paginator (EventsPaginator.maxPages - pagesSeen) next =
      (feed.next url).results ++
        feed.behind paginator (EventsPaginator.maxPages - (pagesSeen + 1))
          (feed.next url).next := by
  obtain ⟨left, back⟩ := left_succ (follow_some followed)
  rw [left, behind, back, followed]

theorem behind_none (followed : paginator.follow pagesSeen next = .ok none) :
    feed.behind paginator (EventsPaginator.maxPages - pagesSeen) next = [] := by
  cases EventsPaginator.maxPages - pagesSeen with
  | zero => rfl
  | succ left => rw [behind, follow_none followed]

theorem ends_some (followed : paginator.follow pagesSeen next = .ok (some url)) :
    feed.Ends paginator (EventsPaginator.maxPages - pagesSeen) next ↔
      feed.Ends paginator (EventsPaginator.maxPages - (pagesSeen + 1)) (feed.next url).next := by
  obtain ⟨left, back⟩ := left_succ (follow_some followed)
  rw [left, Ends, back, followed]

theorem ends_none (followed : paginator.follow pagesSeen next = .ok none) :
    feed.Ends paginator (EventsPaginator.maxPages - pagesSeen) next := by
  cases EventsPaginator.maxPages - pagesSeen with
  | zero => exact follow_none followed _
  | succ left =>
    rw [Ends, follow_none followed]
    trivial

theorem ends_error {error : APIClientError}
    (refused : paginator.follow pagesSeen next = .error error) :
    ¬ feed.Ends paginator (EventsPaginator.maxPages - pagesSeen) next := by
  intro ends
  cases left : EventsPaginator.maxPages - pagesSeen with
  | zero =>
    rw [left, Ends] at ends
    rw [follow_none ends] at refused
    cases refused
  | succ left' =>
    have back : EventsPaginator.maxPages - (left' + 1) = pagesSeen := by omega
    rw [left, Ends, back, refused] at ends
    exact ends

section Client

variable {libraries : Libraries} {send : HttpRequest → Transport}

theorem loop_stream
    (paged : ∀ url, EventsProviderClient.getEventsPage libraries send url = .ok (feed.next url))
    (page : EventsPage) (pagesSeen left : Nat)
    (few : pagesSeen + left = EventsPaginator.maxPages) :
    ((paginator.source libraries send).loop page pagesSeen).yielded =
        feed.behind paginator left page.next ∧
      (((paginator.source libraries send).loop page pagesSeen).outcome = .ok () ↔
        feed.Ends paginator left page.next) := by
  have back : EventsPaginator.maxPages - pagesSeen = left := by omega
  have linked := source_nextLink paginator libraries send pagesSeen page.next
  cases followed : paginator.follow pagesSeen page.next with
  | error error =>
    rw [followed] at linked
    have none_left : feed.behind paginator left page.next = [] := by
      cases left with
      | zero => rfl
      | succ left =>
        have here : EventsPaginator.maxPages - (left + 1) = pagesSeen := by omega
        rw [behind, here, followed]
    rw [PageSource.loop_refused linked, none_left]
    refine ⟨rfl, iff_of_false (fun same => nomatch same) ?_⟩
    exact back ▸ ends_error followed
  | ok next =>
    rw [followed] at linked
    cases next with
    | none =>
      rw [PageSource.loop_ends (EventsPaginator.follow_none_iff.mp followed)]
      exact ⟨(back ▸ behind_none followed).symm, iff_of_true rfl (back ▸ ends_none followed)⟩
    | some url =>
      have short := follow_some followed
      obtain ⟨rest, ended⟩ := loop_stream paged (feed.next url) (pagesSeen + 1)
        (EventsPaginator.maxPages - (pagesSeen + 1)) (by omega)
      rw [PageSource.loop_follows linked (paged url), ← back, behind_some followed,
        ends_some followed]
      exact ⟨congrArg _ rest, ended⟩
termination_by left

/-- What `iter_all_events` of a client yields is the stream of the feed behind it, and it comes to
    its end where the stream does. -/
theorem client_reads_stream {changedAt : Instant} {requested : Option String}
    (listed : EventsProviderClient.getEventsList libraries send requested =
      .ok (feed.page changedAt none))
    (paged : ∀ url, EventsProviderClient.getEventsPage libraries send url = .ok (feed.next url)) :
    ((paginator.source libraries send).iterAllEvents requested).yielded =
        feed.stream paginator changedAt ∧
      (((paginator.source libraries send).iterAllEvents requested).outcome = .ok () ↔
        feed.StreamEnds paginator changedAt) := by
  have first : (paginator.source libraries send).getEventsList requested =
      .ok (feed.page changedAt none) := listed
  obtain ⟨rest, ended⟩ := @loop_stream feed paginator libraries send paged
    (feed.page changedAt none) 1 (EventsPaginator.maxPages - 1) rfl
  simp only [PageSource.iterAllEvents, first]
  exact ⟨congrArg _ rest, ended⟩

end Client

end Feed

def AnsweredBy (feed : Feed) (m : Move SyncProcess CallAction) : Prop :=
  ∀ page, m.action = .page page → ∀ call fetch url, m.source.call = some call →
    call.point = .fetching fetch url → page = feed.page fetch.changedAt url

def requestedFrom (settings : SyncSettings) (full : Bool) (cursor : Option Instant) : Instant :=
  match full, cursor with
  | false, some changedAt => changedAt
  | _, _ => settings.firstInstant

/-- What a call for `changedAt` has been yielded of the feed's stream, and what is ahead of it. -/
def Ahead (feed : Feed) (paginator : EventsPaginator) (changedAt : Instant)
    (moves : List (Move SyncProcess CallAction)) : SyncPoint → Prop
  | .getMeta => yielded moves = []
  | .markRunning requested => requested = changedAt ∧ yielded moves = []
  | .fetching fetch url =>
    fetch.changedAt = changedAt ∧
      yielded moves ++ ((feed.page changedAt url).results ++ feed.behind paginator
        (EventsPaginator.maxPages - (fetch.pagesSeen + 1)) (feed.page changedAt url).next) =
          feed.stream paginator changedAt ∧
      (feed.Ends paginator (EventsPaginator.maxPages - (fetch.pagesSeen + 1))
        (feed.page changedAt url).next → feed.StreamEnds paginator changedAt)
  | .iterating fetch page next | .storing fetch page next =>
    fetch.changedAt = changedAt ∧
      yielded moves ++ (page ++
        feed.behind paginator (EventsPaginator.maxPages - fetch.pagesSeen) next) =
          feed.stream paginator changedAt ∧
      (feed.Ends paginator (EventsPaginator.maxPages - fetch.pagesSeen) next →
        feed.StreamEnds paginator changedAt)
  | .storingLast fetch | .markSuccess fetch _ =>
    fetch.changedAt = changedAt ∧ yielded moves = feed.stream paginator changedAt ∧
      feed.StreamEnds paginator changedAt
  | .markFailure _ => True

variable {settings : SyncSettings} {paginator : EventsPaginator} {feed : Feed}
  {changedAt : Instant} {s t : SyncProcess} {a : CallAction}
  {moves : List (Move SyncProcess CallAction)}

theorem startFrom_get (full : Bool) (s : SyncProcess) :
    SyncService.startFrom settings full (SyncMetadataRepository.get s.metadata s.now) =
      requestedFrom settings full s.lastChangedAt := by
  unfold SyncProcess.lastChangedAt
  rw [← get_cursor s.metadata s.now]
  rfl

theorem ahead_silent {point : SyncPoint} {m : Move SyncProcess CallAction}
    (ahead : Ahead feed paginator changedAt moves point) (silent : m.action ≠ .iterate) :
    Ahead feed paginator changedAt (m :: moves) point := by
  have same : yielded (m :: moves) = yielded moves := yielded_silent silent
  unfold Ahead at *
  rw [same]
  exact ahead

theorem ahead_iterate (now : Instant) {fetch : Fetch} {page : List SProviderEvent}
    {next : Option String} {m : Move SyncProcess CallAction}
    (ahead : Ahead feed paginator changedAt moves (.iterating fetch page next))
    (shown : yielded (m :: moves) = yielded moves ++ page.head?.toList) :
    Ahead feed paginator changedAt (m :: moves)
      (SyncService.iterate settings paginator now fetch next page) := by
  obtain ⟨requested, rest, ends⟩ := ahead
  cases page with
  | cons event page =>
    have left : yielded (m :: moves) ++ (page ++
        feed.behind paginator (EventsPaginator.maxPages - fetch.pagesSeen) next) =
          feed.stream paginator changedAt := by
      rw [shown, List.append_assoc]
      exact rest
    simp only [SyncService.iterate]
    split
    · exact ⟨requested, left, ends⟩
    · exact ⟨requested, left, ends⟩
  | nil =>
    rw [List.head?_nil, Option.toList_none, List.append_nil] at shown
    rw [List.nil_append] at rest
    simp only [SyncService.iterate]
    split
    · trivial
    · rename_i url followed
      refine ⟨requested, ?_, fun ended => ends ((Feed.ends_some followed).mpr ended)⟩
      rw [shown, ← rest, Feed.behind_some followed]
      rfl
    · rename_i followed
      have all : yielded (m :: moves) = feed.stream paginator changedAt := by
        rw [shown, ← rest, Feed.behind_none followed, List.append_nil]
      split
      · exact ⟨requested, all, ends (Feed.ends_none followed)⟩
      · exact ⟨requested, all, ends (Feed.ends_none followed)⟩

structure Fed (settings : SyncSettings) (paginator : EventsPaginator) (feed : Feed)
    (changedAt : Instant) (moves : List (Move SyncProcess CallAction)) (s : SyncProcess) :
    Prop where
  shown : yielded moves <+: feed.stream paginator changedAt
  ahead : ∀ call, s.call = some call → Ahead feed paginator changedAt moves call.point
  requested : ∀ call, s.call = some call →
    requestedFrom settings call.full s.lastChangedAt = changedAt

theorem iterate_front {fetch : Fetch} {page : List SProviderEvent}
    {next : Option String} {m : Move SyncProcess CallAction}
    (ahead : Ahead feed paginator changedAt moves (.iterating fetch page next))
    (shown : yielded (m :: moves) = yielded moves ++ page.head?.toList) :
    yielded (m :: moves) <+: feed.stream paginator changedAt := by
  obtain ⟨_, rest, _⟩ := ahead
  rw [shown, ← rest]
  cases page with
  | nil => simp
  | cons event page =>
    exact ⟨page ++ feed.behind paginator (EventsPaginator.maxPages - fetch.pagesSeen) next,
      by simp⟩

theorem ahead_step (fed : Fed settings paginator feed changedAt moves s)
    (step : CallStep settings paginator s a t) (inside : a.starts = false)
    (silent : a ≠ .iterate) (answered : AnsweredBy feed ⟨s, a, t⟩) {call : SyncCall}
    (found : t.call = some call) :
    Ahead feed paginator changedAt (⟨s, a, t⟩ :: moves) call.point := by
  have kept (call : SyncCall) (running : s.call = some call) :
      Ahead feed paginator changedAt (⟨s, a, t⟩ :: moves) call.point :=
    ahead_silent (fed.ahead call running) silent
  cases step with
  | tick => exact kept call found
  | start => cases inside
  | getMeta running here =>
    cases found
    have ahead := kept _ running
    rw [here] at ahead
    refine ⟨?_, ahead⟩
    rw [startFrom_get]
    exact fed.requested _ running
  | markRunning running here =>
    cases found
    have ahead := kept _ running
    rw [here] at ahead
    refine ⟨ahead.1, ?_, id⟩
    rw [ahead.2]
    rfl
  | page page running here =>
    cases found
    have ahead := kept _ running
    rw [here] at ahead
    obtain ⟨requested, rest, ends⟩ := ahead
    have same := answered page rfl _ _ _ running here
    rw [requested] at same
    subst same
    exact ⟨requested, rest, ends⟩
  | iterate => exact absurd rfl silent
  | store running here =>
    cases found
    have ahead := kept _ running
    rwa [here] at ahead
  | storeLast running here =>
    cases found
    have ahead := kept _ running
    rwa [here] at ahead
  | storeLastLost => cases found; trivial
  | fail => cases found; trivial
  | succeed | recordFailure | abandon => cases found

theorem requestedFrom_step (fed : Fed settings paginator feed changedAt moves s)
    (step : CallStep settings paginator s a t) (inside : a.starts = false) {call : SyncCall}
    (found : t.call = some call) :
    requestedFrom settings call.full t.lastChangedAt = changedAt := by
  obtain ⟨earlier, running, same⟩ := call_carried step inside found
  rcases step_cursor step with ⟨_, cursor⟩ | ⟨result, rfl, _⟩
  · rw [cursor, ← same]
    exact fed.requested earlier running
  · cases step
    cases found

theorem fed_step (fed : Fed settings paginator feed changedAt moves s)
    (step : CallStep settings paginator s a t) (inside : a.starts = false)
    (answered : AnsweredBy feed ⟨s, a, t⟩) :
    Fed settings paginator feed changedAt (⟨s, a, t⟩ :: moves) t := by
  refine ⟨?_, fun call found => ?_, fun call found => requestedFrom_step fed step inside found⟩
  · by_cases turn : a = .iterate
    · subst turn
      cases step with
      | iterate running here =>
        have ahead := fed.ahead _ running
        rw [here] at ahead
        exact iterate_front ahead (yielded_iterate running here)
    · rw [yielded_silent turn]
      exact fed.shown
  · by_cases turn : a = .iterate
    · subst turn
      cases step with
      | iterate running here =>
        cases found
        have ahead := fed.ahead _ running
        rw [here] at ahead
        exact ahead_iterate s.now ahead (yielded_iterate running here)
    · exact ahead_step fed step inside turn answered found

theorem fed_run (run : Run (syncCalls settings paginator) s moves t)
    (inside : ∀ m ∈ moves, m.action.starts = false) (answered : ∀ m ∈ moves, AnsweredBy feed m)
    (fed : Fed settings paginator feed changedAt [] s) :
    Fed settings paginator feed changedAt moves t := by
  induction run with
  | refl => exact fed
  | move _ step ih =>
    obtain ⟨last, earlier⟩ := List.forall_mem_cons.mp inside
    obtain ⟨page, pages⟩ := List.forall_mem_cons.mp answered
    exact fed_step (ih earlier pages) step last page

theorem fed_started (s : SyncProcess) (full : Bool) :
    Fed settings paginator feed (requestedFrom settings full s.lastChangedAt) []
      { s with call := some ⟨full, s.now, .getMeta⟩ } where
  shown := List.nil_prefix
  ahead := by
    intro call found
    cases found
    rfl
  requested := by
    intro call found
    cases found
    rfl

end EventsAggregator
