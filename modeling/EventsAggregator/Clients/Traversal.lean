import EventsAggregator.Clients.EventsProvider

namespace EventsAggregator

/-- A paginator and its client. `urlparse` can raise, and so can every page call. -/
structure PageSource where
  maxPages : Nat
  baseUrl : String
  netloc : String → Except Raised String
  getEventsList : Option String → Except Raised EventsPage
  getEventsPage : String → Except Raised EventsPage

/-- What a consumer that reads to the end gets from `iter_all_events`, and the page calls made. -/
structure Traversal where
  yielded : List SProviderEvent
  calls : Nat
  outcome : Except Raised Unit

def EventsPage.Ends (page : EventsPage) : Prop :=
  page.next = none ∨ page.next = some ""

namespace PageSource

def ensureSameHost (source : PageSource) (url : String) : Except Raised Unit := do
  let baseHost ← source.netloc source.baseUrl
  let targetHost ← source.netloc url
  if baseHost ≠ targetHost then
    throw (.client ⟨.eventsProviderError, s!"Pagination link points to a different host: " ++
      s!"{targetHost} (expected {baseHost})", none, none⟩)

def exceeded (source : PageSource) : Raised :=
  .client ⟨.eventsProviderError, s!"Pagination exceeded {source.maxPages} pages", none, none⟩

def nextLink (source : PageSource) (pagesSeen : Nat) :
    Option String → Except Raised (Option String)
  | none | some "" => .ok none
  | some url =>
    if pagesSeen ≥ source.maxPages then .error source.exceeded
    else (source.ensureSameHost url).map fun _ => some url

theorem nextLink_short {source : PageSource} {pagesSeen : Nat} {next : Option String}
    {url : String} (linked : source.nextLink pagesSeen next = .ok (some url)) :
    pagesSeen < source.maxPages := by
  unfold nextLink at linked
  split at linked
  · cases linked
  · cases linked
  · split at linked
    · cases linked
    · omega

def loop (source : PageSource) (page : EventsPage) (pagesSeen : Nat) : Traversal :=
  match linked : source.nextLink pagesSeen page.next with
  | .error raised => ⟨[], 0, .error raised⟩
  | .ok none => ⟨[], 0, .ok ()⟩
  | .ok (some url) =>
    match source.getEventsPage url with
    | .error raised => ⟨[], 1, .error raised⟩
    | .ok page =>
      have := nextLink_short linked
      let behind := source.loop page (pagesSeen + 1)
      ⟨page.results ++ behind.yielded, behind.calls + 1, behind.outcome⟩
termination_by source.maxPages - pagesSeen

def iterAllEvents (source : PageSource) (changedAt : Option String) : Traversal :=
  match source.getEventsList changedAt with
  | .error raised => ⟨[], 1, .error raised⟩
  | .ok page =>
    let behind := source.loop page 1
    ⟨page.results ++ behind.yielded, behind.calls + 1, behind.outcome⟩

variable {source : PageSource}

def Leads (source : PageSource) (page behind : EventsPage) : Prop :=
  ∃ url, url ≠ "" ∧ page.next = some url ∧ source.ensureSameHost url = .ok () ∧
    source.getEventsPage url = .ok behind

/-- The pages that a page leads to, in their order, and the last of them all. -/
inductive Behind (source : PageSource) : EventsPage → List EventsPage → EventsPage → Prop
  | here (page : EventsPage) : Behind source page [] page
  | next {page behind last : EventsPage} {more : List EventsPage}
      (leads : source.Leads page behind) (rest : Behind source behind more last) :
      Behind source page (behind :: more) last

/-- What stops the traversal at a page whose link is not followed to another one: the page is the
    last of `fetched`, after `calls` page calls. -/
inductive Stop (source : PageSource) (last : EventsPage) (fetched : Nat) : Nat → Raised → Prop
  | exceeded {url : String} (nonempty : url ≠ "") (next : last.next = some url)
      (full : fetched = source.maxPages) : Stop source last fetched fetched source.exceeded
  | foreign {url : String} {raised : Raised} (nonempty : url ≠ "") (next : last.next = some url)
      (short : fetched < source.maxPages) (refused : source.ensureSameHost url = .error raised) :
      Stop source last fetched fetched raised
  | failed {url : String} {raised : Raised} (nonempty : url ≠ "") (next : last.next = some url)
      (short : fetched < source.maxPages) (allowed : source.ensureSameHost url = .ok ())
      (refused : source.getEventsPage url = .error raised) :
      Stop source last fetched (fetched + 1) raised

theorem nextLink_ends {page : EventsPage} (ends : page.Ends) (pagesSeen : Nat) :
    source.nextLink pagesSeen page.next = .ok none := by
  cases ends with
  | inl absent =>
    rw [absent]
    rfl
  | inr empty =>
    rw [empty]
    rfl

theorem nextLink_some {url : String} (nonempty : url ≠ "") (pagesSeen : Nat) :
    source.nextLink pagesSeen (some url) =
      if pagesSeen ≥ source.maxPages then .error source.exceeded
      else (source.ensureSameHost url).map fun _ => some url := by
  unfold nextLink
  split
  · rename_i absent
    cases absent
  · rename_i empty
    exact absurd (Option.some.inj empty) nonempty
  · rename_i url' here
    cases here
    rfl

theorem loop_ends {page : EventsPage} (ends : page.Ends) (pagesSeen : Nat) :
    source.loop page pagesSeen = ⟨[], 0, .ok ()⟩ := by
  rw [loop]
  split
  · rename_i raised linked
    cases linked.symm.trans (nextLink_ends ends pagesSeen)
  · rfl
  · rename_i url linked
    cases linked.symm.trans (nextLink_ends ends pagesSeen)

theorem loop_follows {page behind : EventsPage} {pagesSeen : Nat} {url : String}
    (follows : source.nextLink pagesSeen page.next = .ok (some url))
    (answered : source.getEventsPage url = .ok behind) :
    source.loop page pagesSeen =
      ⟨behind.results ++ (source.loop behind (pagesSeen + 1)).yielded,
        (source.loop behind (pagesSeen + 1)).calls + 1,
        (source.loop behind (pagesSeen + 1)).outcome⟩ := by
  rw [loop]
  split
  · rename_i raised linked
    cases linked.symm.trans follows
  · rename_i linked
    cases linked.symm.trans follows
  · rename_i url' linked
    cases linked.symm.trans follows
    simp only [answered]

theorem loop_leads {page behind : EventsPage} {pagesSeen : Nat} (leads : source.Leads page behind)
    (short : pagesSeen < source.maxPages) :
    source.loop page pagesSeen =
      ⟨behind.results ++ (source.loop behind (pagesSeen + 1)).yielded,
        (source.loop behind (pagesSeen + 1)).calls + 1,
        (source.loop behind (pagesSeen + 1)).outcome⟩ := by
  obtain ⟨url, nonempty, next, allowed, answered⟩ := leads
  apply loop_follows _ answered
  rw [next, nextLink_some nonempty, if_neg (by omega), allowed]
  rfl

theorem loop_refused {page : EventsPage} {pagesSeen : Nat} {raised : Raised}
    (refused : source.nextLink pagesSeen page.next = .error raised) :
    source.loop page pagesSeen = ⟨[], 0, .error raised⟩ := by
  rw [loop]
  split
  · rename_i raised' linked
    cases linked.symm.trans refused
    rfl
  · rename_i linked
    cases linked.symm.trans refused
  · rename_i url linked
    cases linked.symm.trans refused

theorem loop_failed {page : EventsPage} {pagesSeen : Nat} {url : String} {raised : Raised}
    (follows : source.nextLink pagesSeen page.next = .ok (some url))
    (refused : source.getEventsPage url = .error raised) :
    source.loop page pagesSeen = ⟨[], 1, .error raised⟩ := by
  rw [loop]
  split
  · rename_i raised' linked
    cases linked.symm.trans follows
  · rename_i linked
    cases linked.symm.trans follows
  · rename_i url' linked
    cases linked.symm.trans follows
    simp only [refused]

theorem loop_stops {last : EventsPage} {pagesSeen calls : Nat} {raised : Raised}
    (stop : source.Stop last pagesSeen (pagesSeen + calls) raised) :
    source.loop last pagesSeen = ⟨[], calls, .error raised⟩ := by
  generalize made : pagesSeen + calls = total at stop
  cases stop with
  | exceeded nonempty next full =>
    have none_made : calls = 0 := by omega
    rw [none_made]
    apply loop_refused
    rw [next, nextLink_some nonempty, if_pos (by omega)]
  | foreign nonempty next short refused =>
    have none_made : calls = 0 := by omega
    rw [none_made]
    apply loop_refused
    rw [next, nextLink_some nonempty, if_neg (by omega), refused]
    rfl
  | failed nonempty next short allowed refused =>
    have one_made : calls = 1 := by omega
    rw [one_made]
    apply loop_failed _ refused
    rw [next, nextLink_some nonempty, if_neg (by omega), allowed]
    rfl

theorem page_cases (page : EventsPage) {pagesSeen : Nat} (seen : pagesSeen ≤ source.maxPages) :
    page.Ends ∨ (pagesSeen < source.maxPages ∧ ∃ behind, source.Leads page behind) ∨
      ∃ calls raised, source.Stop page pagesSeen (pagesSeen + calls) raised := by
  by_cases ends : page.Ends
  · exact .inl ends
  · right
    obtain ⟨url, nonempty, next⟩ : ∃ url, url ≠ "" ∧ page.next = some url := by
      cases next : page.next with
      | none => exact absurd (.inl next) ends
      | some url => exact ⟨url, fun empty => ends (.inr (by rw [next, empty])), rfl⟩
    by_cases full : pagesSeen = source.maxPages
    · exact .inr ⟨0, _, .exceeded nonempty next full⟩
    · have short : pagesSeen < source.maxPages := by omega
      cases checked : source.ensureSameHost url with
      | error raised => exact .inr ⟨0, _, .foreign nonempty next short checked⟩
      | ok =>
        cases answered : source.getEventsPage url with
        | error raised => exact .inr ⟨1, _, .failed nonempty next short checked answered⟩
        | ok behind => exact .inl ⟨short, behind, url, nonempty, next, checked, answered⟩

/-- The loop reads the pages behind a page up to the one that ends it. -/
theorem loop_complete {page last : EventsPage} {more : List EventsPage} {pagesSeen : Nat}
    (behind : source.Behind page more last) (ends : last.Ends)
    (few : pagesSeen + more.length ≤ source.maxPages) :
    source.loop page pagesSeen = ⟨more.flatMap EventsPage.results, more.length, .ok ()⟩ := by
  induction behind generalizing pagesSeen with
  | here page => exact loop_ends ends pagesSeen
  | @next page behind last more leads rest ih =>
    simp only [List.length_cons] at few
    rw [loop_leads leads (by omega), ih ends (by omega)]
    rfl

def Ended (source : PageSource) (page : EventsPage) (pagesSeen : Nat) (t : Traversal) : Prop :=
  ∃ more last, source.Behind page more last ∧ t.yielded = more.flatMap EventsPage.results ∧
    pagesSeen + more.length ≤ source.maxPages ∧
      ((last.Ends ∧ t.calls = more.length ∧ t.outcome = .ok ()) ∨
        ∃ raised, source.Stop last (pagesSeen + more.length) (pagesSeen + t.calls) raised ∧
          t.outcome = .error raised)

theorem ended_next {page behind : EventsPage} {pagesSeen : Nat} {t : Traversal}
    (leads : source.Leads page behind) (ended : source.Ended behind (pagesSeen + 1) t) :
    source.Ended page pagesSeen ⟨behind.results ++ t.yielded, t.calls + 1, t.outcome⟩ := by
  obtain ⟨more, last, rest, yielded, few, stopped⟩ := ended
  have one_more : pagesSeen + (behind :: more).length = pagesSeen + 1 + more.length := by
    rw [List.length_cons]
    omega
  refine ⟨behind :: more, last, .next leads rest, ?_, ?_, ?_⟩
  · rw [yielded]
    rfl
  · omega
  · cases stopped with
    | inl complete => exact .inl ⟨complete.1, by rw [complete.2.1, List.length_cons], complete.2.2⟩
    | inr stopped =>
      obtain ⟨raised, stop, outcome⟩ := stopped
      refine .inr ⟨raised, ?_, outcome⟩
      rw [one_more]
      show source.Stop last _ (pagesSeen + (t.calls + 1)) raised
      rw [Nat.add_comm t.calls, ← Nat.add_assoc]
      exact stop

theorem loop_ended (page : EventsPage) {pagesSeen : Nat} (seen : pagesSeen ≤ source.maxPages) :
    source.Ended page pagesSeen (source.loop page pagesSeen) := by
  obtain ends | ⟨short, behind, leads⟩ | ⟨calls, raised, stop⟩ := source.page_cases page seen
  · rw [loop_ends ends]
    exact ⟨[], page, .here page, rfl, seen, .inl ⟨ends, rfl, rfl⟩⟩
  · rw [loop_leads leads short]
    exact ended_next leads (loop_ended behind (by omega))
  · rw [loop_stops stop]
    exact ⟨[], page, .here page, rfl, seen, .inr ⟨raised, stop, rfl⟩⟩
termination_by source.maxPages - pagesSeen

theorem ended_calls {page : EventsPage} {pagesSeen : Nat} {t : Traversal}
    (ended : source.Ended page pagesSeen t) : pagesSeen + t.calls ≤ source.maxPages := by
  obtain ⟨more, last, rest, yielded, few, stopped⟩ := ended
  cases stopped with
  | inl complete => omega
  | inr stopped =>
    obtain ⟨raised, stop, outcome⟩ := stopped
    generalize pagesSeen + t.calls = total at stop
    cases stop with
    | exceeded => exact few
    | foreign nonempty next short => omega
    | failed nonempty next short => omega

/-- A chain of links that ends within the limit is traversed to its end; otherwise the traversal
    raises behind the pages that were fetched before the first thing to stop it. -/
theorem iter_all_events_exact (source : PageSource) (positive : 1 ≤ source.maxPages)
    (changedAt : Option String) :
    let t := source.iterAllEvents changedAt
    (∀ first more last, source.getEventsList changedAt = .ok first →
      source.Behind first more last → last.Ends → (first :: more).length ≤ source.maxPages →
        t.yielded = (first :: more).flatMap EventsPage.results ∧
          t.calls = (first :: more).length ∧ t.outcome = .ok ()) ∧
    ((¬ ∃ first more last, source.getEventsList changedAt = .ok first ∧
        source.Behind first more last ∧ last.Ends ∧ (first :: more).length ≤ source.maxPages) →
      ∃ raised, t.outcome = .error raised ∧
        ((source.getEventsList changedAt = .error raised ∧ t.yielded = [] ∧ t.calls = 1) ∨
          ∃ first more last, source.getEventsList changedAt = .ok first ∧
            source.Behind first more last ∧
              t.yielded = (first :: more).flatMap EventsPage.results ∧
                source.Stop last (first :: more).length t.calls raised)) ∧
    t.calls ≤ source.maxPages := by
  intro t
  cases listed : source.getEventsList changedAt with
  | error raised =>
    have stopped : t = ⟨[], 1, .error raised⟩ := by
      show source.iterAllEvents changedAt = _
      simp only [iterAllEvents, listed]
    rw [stopped]
    exact ⟨(fun _ _ _ found => nomatch found), (fun _ => ⟨raised, rfl, .inl ⟨rfl, rfl, rfl⟩⟩),
      positive⟩
  | ok first =>
    have begun : t = ⟨first.results ++ (source.loop first 1).yielded,
        (source.loop first 1).calls + 1, (source.loop first 1).outcome⟩ := by
      show source.iterAllEvents changedAt = _
      simp only [iterAllEvents, listed]
    have ended := source.loop_ended first positive
    rw [begun]
    refine ⟨?_, ?_, ?_⟩
    · rintro _ more last ⟨⟩ rest ends few
      rw [List.length_cons] at few
      rw [loop_complete rest ends (by omega)]
      exact ⟨rfl, rfl, rfl⟩
    · intro incomplete
      obtain ⟨more, last, rest, yielded, few, stopped⟩ := ended
      have length : (first :: more).length = 1 + more.length := by
        rw [List.length_cons, Nat.add_comm]
      cases stopped with
      | inl complete =>
        exact absurd ⟨first, more, last, rfl, rest, complete.1, length ▸ few⟩ incomplete
      | inr stopped =>
        obtain ⟨raised, stop, outcome⟩ := stopped
        refine ⟨raised, outcome, .inr ⟨first, more, last, rfl, rest, ?_, ?_⟩⟩
        · rw [yielded]
          rfl
        · rw [length, Nat.add_comm (source.loop first 1).calls]
          exact stop
    · have made := ended_calls ended
      show (source.loop first 1).calls + 1 ≤ source.maxPages
      omega

section Sample

def sampleCycleUrl : String := "https://provider.test/api/events/?page=2"

def sampleCycle : PageSource where
  maxPages := 2
  baseUrl := "https://provider.test/api"
  netloc url := .ok (Urls.netloc url)
  getEventsList _ := .ok ⟨some sampleCycleUrl, []⟩
  getEventsPage _ := .ok ⟨some sampleCycleUrl, []⟩

theorem sampleCycle_endless {page last : EventsPage} {more : List EventsPage}
    (behind : sampleCycle.Behind page more last) (linked : page.next = some sampleCycleUrl) :
    ¬ last.Ends := by
  induction behind with
  | here page =>
    intro ends
    rw [EventsPage.Ends, linked] at ends
    revert ends
    decide
  | next leads rest ih =>
    obtain ⟨url, nonempty, next, allowed, answered⟩ := leads
    cases answered
    exact ih rfl

theorem iter_all_events_exact_cycle :
    (∃ raised, (sampleCycle.iterAllEvents none).outcome = .error raised) ∧
      (sampleCycle.iterAllEvents none).calls ≤ 2 := by
  have traversal := iter_all_events_exact sampleCycle (by decide) none
  refine ⟨?_, traversal.2.2⟩
  have endless : ¬ ∃ first more last, sampleCycle.getEventsList none = .ok first ∧
      sampleCycle.Behind first more last ∧ last.Ends ∧
        (first :: more).length ≤ sampleCycle.maxPages := by
    rintro ⟨first, more, last, ⟨⟩, behind, ends, few⟩
    exact sampleCycle_endless behind rfl ends
  obtain ⟨raised, outcome, stopped⟩ := traversal.2.1 endless
  exact ⟨raised, outcome⟩

end Sample

end PageSource

def EventsPaginator.source (paginator : EventsPaginator) (libraries : Libraries)
    (send : HttpRequest → Transport) : PageSource where
  maxPages := EventsPaginator.maxPages
  baseUrl := paginator.baseUrl
  netloc url := .ok (paginator.netloc url)
  getEventsList := EventsProviderClient.getEventsList libraries send
  getEventsPage := EventsProviderClient.getEventsPage libraries send

theorem source_nextLink (paginator : EventsPaginator) (libraries : Libraries)
    (send : HttpRequest → Transport) (pagesSeen : Nat) (next : Option String) :
    (paginator.source libraries send).nextLink pagesSeen next =
      (paginator.follow pagesSeen next).mapError Raised.client := by
  unfold PageSource.nextLink
  split
  · rfl
  · rfl
  · rename_i url nonempty
    rw [EventsPaginator.follow_url nonempty]
    show (if pagesSeen ≥ EventsPaginator.maxPages then _ else _) = _
    by_cases full : pagesSeen ≥ EventsPaginator.maxPages
    · simp only [if_pos full]
      rfl
    · simp only [if_neg full]
      show Except.map _ (if paginator.netloc paginator.baseUrl ≠ paginator.netloc url
        then _ else _) = _
      by_cases foreign : paginator.netloc paginator.baseUrl ≠ paginator.netloc url
      · simp only [if_pos foreign]
        rfl
      · simp only [if_neg foreign]
        rfl

end EventsAggregator
