import EventsAggregator.Clients.EventsPages
import EventsAggregator.Clients.Http
import EventsAggregator.Transition.Run
import EventsAggregator.Values.Urls

namespace EventsAggregator

open Transition

structure Origin where
  scheme : String
  host : String
  port : Option Nat
  deriving DecidableEq

/-- What the clients use of `httpx`: `URL`, which refuses some texts, the URL that a request is sent
    to, and the URL and the headers of the request that follows a redirect. A URL without a scheme
    or a host is relative and has no origin. -/
structure Httpx where
  Url : Type
  url : String → Option Url
  origin : Url → Option Origin
  requestUrl (baseUrl url : Url) (params : List (String × String)) : Option Url
  redirectUrl (requested : Url) (location : String) : Option Url
  redirectHeaders (requested url : Url) : Headers → Headers
  maxRedirects : Nat

/-- What is documented of `httpx`: a relative URL is merged with the base URL, host and port are
    those of the authority, with the scheme's default port, and custom headers are kept. -/
structure Httpx.Documented (httpx : Httpx) : Prop where
  merged : ∀ {base url sent : httpx.Url} {params : List (String × String)},
    httpx.requestUrl base url params = some sent →
      httpx.origin sent = (httpx.origin url <|> httpx.origin base)
  relative : ∀ {text : String} {url : httpx.Url},
    httpx.url text = some url → Urls.netloc text = "" → httpx.origin url = none
  authority : ∀ {text text' : String} {url url' : httpx.Url} {origin origin' : Origin},
    httpx.url text = some url → httpx.url text' = some url' →
      httpx.origin url = some origin → httpx.origin url' = some origin' →
        Urls.netloc text = Urls.netloc text' → origin.scheme = origin'.scheme → origin = origin'
  kept : ∀ (requested url : httpx.Url) (headers : Headers),
    (httpx.redirectHeaders requested url headers).lookup "x-api-key" = headers.lookup "x-api-key"

structure EventsProviderClient (httpx : Httpx) where
  baseUrl : String
  apiKey : String
  base : httpx.Url
  parsed : httpx.url baseUrl = some base

variable {httpx : Httpx}

namespace EventsProviderClient

def headers (client : EventsProviderClient httpx) : Headers :=
  [("Accept", "application/json"), ("x-api-key", client.apiKey)]

def listParams : Option String → List (String × String)
  | some changedAt => [("changed_at", changedAt)]
  | none => []

def paginator (client : EventsProviderClient httpx) : EventsPaginator :=
  ⟨client.baseUrl, Urls.netloc⟩

end EventsProviderClient

structure Request (httpx : Httpx) where
  url : httpx.Url
  headers : Headers

/-- Where `iter_all_events` is suspended: at its start, at the request of a page, with the number
    of redirects that were followed for it, or at the events of the last page that was read. -/
inductive PaginationPoint (httpx : Httpx)
  | begun
  | requested (request : Request httpx) (redirects pagesSeen : Nat)
  | shown (page : EventsPage) (pagesSeen : Nat)
  | ended

structure Pagination (httpx : Httpx) where
  point : PaginationPoint httpx
  sent : List (Request httpx)

def Pagination.send (s : Pagination httpx) (request : Request httpx)
    (redirects pagesSeen : Nat) : Pagination httpx :=
  ⟨.requested request redirects pagesSeen, request :: s.sent⟩

inductive PaginationAction
  | getEventsList (changedAt : Option String)
  | redirect (location : String)
  | page (page : EventsPage)
  | getEventsPage (url : String)
  | finish
  | fail

inductive PaginationStep (client : EventsProviderClient httpx) :
    Pagination httpx → PaginationAction → Pagination httpx → Prop
  | getEventsList {s : Pagination httpx} {path url : httpx.Url} (changedAt : Option String)
      (here : s.point = .begun) (parsed : httpx.url "/events/" = some path)
      (merged : httpx.requestUrl client.base path (EventsProviderClient.listParams changedAt) =
        some url) :
      PaginationStep client s (.getEventsList changedAt) (s.send ⟨url, client.headers⟩ 0 0)
  | redirect {s : Pagination httpx} {request : Request httpx} {redirects pagesSeen : Nat}
      {url : httpx.Url} (location : String)
      (here : s.point = .requested request redirects pagesSeen)
      (allowed : redirects < httpx.maxRedirects)
      (resolved : httpx.redirectUrl request.url location = some url) :
      PaginationStep client s (.redirect location)
        (s.send ⟨url, httpx.redirectHeaders request.url url request.headers⟩ (redirects + 1)
          pagesSeen)
  | page {s : Pagination httpx} {request : Request httpx} {redirects pagesSeen : Nat}
      (page : EventsPage) (here : s.point = .requested request redirects pagesSeen) :
      PaginationStep client s (.page page) { s with point := .shown page (pagesSeen + 1) }
  | getEventsPage {s : Pagination httpx} {page : EventsPage} {pagesSeen : Nat} {next : String}
      {link url : httpx.Url} (here : s.point = .shown page pagesSeen)
      (followed : client.paginator.follow pagesSeen page.next = .ok (some next))
      (parsed : httpx.url next = some link)
      (merged : httpx.requestUrl client.base link [] = some url) :
      PaginationStep client s (.getEventsPage next) (s.send ⟨url, client.headers⟩ 0 pagesSeen)
  | finish {s : Pagination httpx} {page : EventsPage} {pagesSeen : Nat}
      (here : s.point = .shown page pagesSeen)
      (followed : client.paginator.follow pagesSeen page.next = .ok none) :
      PaginationStep client s .finish { s with point := .ended }
  -- An exception: of a request, of the validation of a page, or of the paginator's own checks.
  | fail {s : Pagination httpx} : PaginationStep client s .fail { s with point := .ended }

def pagination (client : EventsProviderClient httpx) :
    System (Pagination httpx) PaginationAction where
  Initial s := s = ⟨.begun, []⟩
  Step := PaginationStep client

/-- A redirect leads to the origin of the base URL, and a page's absolute link that has its network
    location has its scheme as well. -/
def LeadsToBase (client : EventsProviderClient httpx)
    (m : Move (Pagination httpx) PaginationAction) : Prop :=
  (∀ location request redirects pagesSeen url, m.action = .redirect location →
    m.source.point = .requested request redirects pagesSeen →
      httpx.redirectUrl request.url location = some url →
        httpx.origin url = httpx.origin client.base) ∧
  ∀ next link origin, m.action = .getEventsPage next → httpx.url next = some link →
    httpx.origin link = some origin →
      (httpx.origin client.base).map Origin.scheme = some origin.scheme

def Request.ToBase (request : Request httpx) (client : EventsProviderClient httpx) : Prop :=
  httpx.origin request.url = httpx.origin client.base ∧
    request.headers.lookup "x-api-key" = some client.apiKey

variable {client : EventsProviderClient httpx}

theorem headers_key : client.headers.lookup "x-api-key" = some client.apiKey := by
  simp [EventsProviderClient.headers, List.lookup_cons]

theorem events_path : Urls.netloc "/events/" = "" := by decide

theorem link_origin (documented : httpx.Documented) {next : String} {link url : httpx.Url}
    (same : Urls.netloc client.baseUrl = Urls.netloc next) (parsed : httpx.url next = some link)
    (merged : httpx.requestUrl client.base link [] = some url) :
    httpx.origin url = httpx.origin client.base ↔ ∀ origin, httpx.origin link = some origin →
      (httpx.origin client.base).map Origin.scheme = some origin.scheme := by
  rw [documented.merged merged]
  cases absolute : httpx.origin link with
  | none => simp
  | some origin =>
    constructor
    · rintro base _ ⟨⟩
      rw [← base]
      rfl
    · intro scheme
      obtain ⟨home, found, agree⟩ := Option.map_eq_some_iff.mp (scheme origin rfl)
      have here := documented.authority client.parsed parsed found absolute same agree
      rw [found, here]
      rfl

def Keyed (client : EventsProviderClient httpx) (s : Pagination httpx) : Prop :=
  ∀ request redirects pagesSeen, s.point = .requested request redirects pagesSeen →
    request.headers.lookup "x-api-key" = some client.apiKey

theorem send_keyed {s : Pagination httpx} {request : Request httpx} {redirects pagesSeen : Nat}
    (key : request.headers.lookup "x-api-key" = some client.apiKey) :
    Keyed client (s.send request redirects pagesSeen) := by
  rintro _ _ _ ⟨⟩
  exact key

theorem step_keyed (documented : httpx.Documented) {s t : Pagination httpx} {a : PaginationAction}
    (keyed : Keyed client s) (step : PaginationStep client s a t) : Keyed client t := by
  cases step with
  | getEventsList | getEventsPage => exact send_keyed headers_key
  | redirect location here =>
    apply send_keyed
    rw [documented.kept]
    exact keyed _ _ _ here
  | page | finish | fail => rintro _ _ _ ⟨⟩

theorem step_sent (documented : httpx.Documented) {s t : Pagination httpx} {a : PaginationAction}
    (keyed : Keyed client s) (step : PaginationStep client s a t) :
    (∀ request ∈ t.sent, request.ToBase client) ↔
      (∀ request ∈ s.sent, request.ToBase client) ∧ LeadsToBase client ⟨s, a, t⟩ := by
  have unsent : t.sent = s.sent → (∀ location, a ≠ .redirect location) →
      (∀ next, a ≠ .getEventsPage next) → ((∀ request ∈ t.sent, request.ToBase client) ↔
        (∀ request ∈ s.sent, request.ToBase client) ∧ LeadsToBase client ⟨s, a, t⟩) := by
    intro same redirects links
    have leads : LeadsToBase client ⟨s, a, t⟩ :=
      ⟨fun location _ _ _ _ acting => absurd acting (redirects location),
        fun next _ _ acting => absurd acting (links next)⟩
    rw [same]
    exact ⟨fun sent => ⟨sent, leads⟩, And.left⟩
  cases step with
  | page | finish | fail => exact unsent rfl (fun _ => by simp) (fun _ => by simp)
  | @getEventsList path url changedAt here parsed merged =>
    have home : httpx.origin url = httpx.origin client.base := by
      rw [documented.merged merged, documented.relative parsed events_path]
      rfl
    have leads : LeadsToBase client ⟨s, .getEventsList changedAt,
        s.send ⟨url, client.headers⟩ 0 0⟩ :=
      ⟨(fun _ _ _ _ _ acting => nomatch acting), fun _ _ _ acting => nomatch acting⟩
    simp only [Pagination.send, List.forall_mem_cons]
    exact ⟨fun sent => ⟨sent.2, leads⟩, fun sent => ⟨⟨home, headers_key⟩, sent.1⟩⟩
  | @redirect request redirects pagesSeen url location here allowed resolved =>
    have key : (httpx.redirectHeaders request.url url request.headers).lookup "x-api-key" =
        some client.apiKey := (documented.kept _ _ _).trans (keyed _ _ _ here)
    simp only [Pagination.send, List.forall_mem_cons]
    constructor
    · rintro ⟨⟨home, _⟩, sent⟩
      refine ⟨sent, ?_, fun _ _ _ acting => nomatch acting⟩
      rintro _ _ _ _ url' ⟨⟩ there resolved'
      cases there.symm.trans here
      cases resolved.symm.trans resolved'
      exact home
    · rintro ⟨sent, leads, _⟩
      exact ⟨⟨leads _ _ _ _ _ rfl here resolved, key⟩, sent⟩
  | @getEventsPage page pagesSeen next link url here followed parsed merged =>
    obtain ⟨_, _, _, same⟩ := EventsPaginator.follow_some_iff.mp followed
    have home := link_origin documented same parsed merged
    simp only [Pagination.send, List.forall_mem_cons]
    constructor
    · rintro ⟨⟨stays, _⟩, sent⟩
      refine ⟨sent, (fun _ _ _ _ _ acting => nomatch acting), ?_⟩
      rintro _ link' origin ⟨⟩ parsed' absolute
      cases parsed.symm.trans parsed'
      exact home.mp stays origin absolute
    · rintro ⟨sent, _, leads⟩
      exact ⟨⟨home.mpr fun origin absolute => leads next link origin rfl parsed absolute,
        headers_key⟩, sent⟩

theorem pagination_stays_iff (documented : httpx.Documented) {s t : Pagination httpx}
    {moves : List (Move (Pagination httpx) PaginationAction)}
    (initial : (pagination client).Initial s) (run : Run (pagination client) s moves t) :
    (∀ request ∈ t.sent, request.ToBase client) ↔ ∀ m ∈ moves, LeadsToBase client m := by
  have both : Keyed client t ∧
      ((∀ request ∈ t.sent, request.ToBase client) ↔ ∀ m ∈ moves, LeadsToBase client m) := by
    induction run with
    | refl =>
      cases initial
      exact ⟨(fun _ _ _ here => nomatch here), by simp⟩
    | move run step ih =>
      obtain ⟨keyed, stays⟩ := ih
      refine ⟨step_keyed documented keyed step, ?_⟩
      rw [step_sent documented keyed step, stays, List.forall_mem_cons, and_comm]
  exact both.2

section Sample

structure SampleUrl where
  origin : Option Origin
  text : String

@[irreducible] def sampleOrigin (text : String) : Option Origin :=
  if Urls.scheme text = "" ∨ Urls.netloc text = "" then none
  else some ⟨Urls.scheme text, Urls.netloc text, none⟩

def sampleHttpx : Httpx where
  Url := SampleUrl
  url text := some ⟨sampleOrigin text, text⟩
  origin := SampleUrl.origin
  requestUrl base url _ := some ⟨url.origin <|> base.origin, url.text⟩
  redirectUrl requested location := some ⟨sampleOrigin location <|> requested.origin, location⟩
  redirectHeaders _ _ headers := headers
  maxRedirects := 20

theorem sampleOrigin_some {text : String} {origin : Origin}
    (absolute : sampleOrigin text = some origin) :
    origin = ⟨origin.scheme, Urls.netloc text, none⟩ := by
  unfold sampleOrigin at absolute
  split at absolute
  · cases absolute
  · cases absolute
    rfl

theorem sampleHttpx_documented : sampleHttpx.Documented where
  merged := by
    rintro base url sent params ⟨⟩
    rfl
  relative := by
    rintro text url ⟨⟩ empty
    show sampleOrigin text = none
    unfold sampleOrigin
    exact if_pos (Or.inr empty)
  authority := by
    intro text text' url url' origin origin' parsed parsed' absolute absolute' same scheme
    have first := sampleOrigin_some ((congrArg SampleUrl.origin (Option.some.inj parsed)).trans
      absolute)
    have second := sampleOrigin_some ((congrArg SampleUrl.origin (Option.some.inj parsed')).trans
      absolute')
    rw [same, scheme] at first
    exact first.trans second.symm
  kept := fun _ _ _ => rfl

def sampleClient : EventsProviderClient sampleHttpx where
  baseUrl := "https://provider.test"
  apiKey := "secret"
  base := ⟨sampleOrigin "https://provider.test", "https://provider.test"⟩
  parsed := rfl

theorem sample_home : sampleOrigin "https://provider.test" =
    some ⟨"https", "provider.test", none⟩ := by decide +kernel

theorem sample_follow {next : String} (nonempty : next ≠ "")
    (same : Urls.netloc next = "provider.test") :
    sampleClient.paginator.follow 1 (some next) = .ok (some next) := by
  have home : Urls.netloc sampleClient.baseUrl = "provider.test" := by decide +kernel
  have there : sampleClient.paginator.netloc sampleClient.paginator.baseUrl =
      sampleClient.paginator.netloc next := home.trans same.symm
  exact EventsPaginator.follow_some_iff.mpr ⟨rfl, nonempty, by decide, there⟩

/-- The first page's link leaves the scheme, and the page behind it redirects to another host. -/
theorem pagination_leaves_base : ¬ ∀ (s t : Pagination sampleHttpx)
    (moves : List (Move (Pagination sampleHttpx) PaginationAction)),
    (pagination sampleClient).Initial s → Run (pagination sampleClient) s moves t →
      ∀ request ∈ t.sent, request.ToBase sampleClient := by
  intro stays
  have start := @Run.refl _ _ (pagination sampleClient) ⟨.begun, []⟩
  have listed := start.move (.getEventsList none rfl rfl rfl)
  have shown := listed.move
    (.page ⟨some "http://provider.test/api/events/?page=2", []⟩ rfl)
  have followed := shown.move (.getEventsPage rfl (sample_follow (by decide) (by decide +kernel))
    rfl rfl)
  have redirected := followed.move (.redirect "http://evil.example.com/" rfl (by decide) rfl)
  have evil : sampleOrigin "http://evil.example.com/" =
      some ⟨"http", "evil.example.com", none⟩ := by decide +kernel
  have leaves := (stays _ _ _ rfl redirected _ (List.mem_cons_self ..)).1
  simp [sampleHttpx, sampleClient, evil, sample_home] at leaves

theorem pagination_stays_iff_https : ∃ moves t,
    Run (pagination sampleClient) ⟨.begun, []⟩ moves t ∧ t.sent.length = 2 ∧
      ∀ request ∈ t.sent, request.ToBase sampleClient := by
  have start := @Run.refl _ _ (pagination sampleClient) ⟨.begun, []⟩
  have listed := start.move (.getEventsList none rfl rfl rfl)
  have shown := listed.move
    (.page ⟨some "https://provider.test/api/events/?page=2", []⟩ rfl)
  have followed := shown.move (.getEventsPage rfl (sample_follow (by decide) (by decide +kernel))
    rfl rfl)
  have second : sampleOrigin "https://provider.test/api/events/?page=2" =
      some ⟨"https", "provider.test", none⟩ := by decide +kernel
  refine ⟨_, _, followed, rfl, (pagination_stays_iff sampleHttpx_documented rfl followed).mpr ?_⟩
  refine List.forall_mem_cons.mpr ⟨⟨(fun _ _ _ _ _ acting => nomatch acting), ?_⟩, ?_⟩
  · rintro _ _ origin ⟨⟩ ⟨⟩ absolute
    cases second.symm.trans absolute
    exact congrArg (Option.map Origin.scheme) sample_home
  refine List.forall_mem_cons.mpr ⟨⟨(fun _ _ _ _ _ acting => nomatch acting),
    (fun _ _ _ acting => nomatch acting)⟩, ?_⟩
  refine List.forall_mem_cons.mpr ⟨⟨(fun _ _ _ _ _ acting => nomatch acting),
    (fun _ _ _ acting => nomatch acting)⟩, ?_⟩
  exact fun _ none => nomatch none

end Sample

end EventsAggregator
