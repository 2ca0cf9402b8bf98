import EventsAggregator.Api.Events

namespace EventsAggregator

open Relational

/-- A link that leads to the endpoint and is accepted there with these parameters. -/
def LeadsTo (decoder : QueryDecoder) (route : RouteUrl) (url : String) (dateFrom : Option Date)
    (page pageSize : Int) : Prop :=
  Urls.beforeQuery url = route.baseUrl ∧
    ∃ params, ListEventsParams.parse decoder (Urls.query url) = some params ∧
      params.dateFrom = dateFrom ∧ params.page.val = page ∧ params.pageSize.val = pageSize

def SomeBehind (events : Table EventORM.id) (dateFrom : Option Date) (pageSize offset : Int) :
    Prop :=
  ∃ rows, EventRepository.EventsList events dateFrom pageSize offset rows ∧ rows ≠ []

structure LinksFollowable (decoder : QueryDecoder) (events : Table EventORM.id) (route : RouteUrl)
    (params : ListEventsParams) (response : SEventPageRead) : Prop where
  next : ∀ url ∈ response.next,
    LeadsTo decoder route url params.dateFrom (params.page + 1) params.pageSize
  previous : ∀ url ∈ response.previous,
    LeadsTo decoder route url params.dateFrom (params.page - 1) params.pageSize
  next_iff : response.next.isSome ↔
    SomeBehind events params.dateFrom params.pageSize (params.page * params.pageSize)
  previous_iff : response.previous.isSome ↔ 1 < params.page.val ∧
    SomeBehind events params.dateFrom params.pageSize ((params.page - 2) * params.pageSize)

variable {decoder : QueryDecoder} {events : Table EventORM.id} {route : RouteUrl}
  {dateFrom : Option Date}

theorem some_behind_iff {pageSize offset : Int} (positive : 1 ≤ pageSize) (inside : 0 ≤ offset) :
    SomeBehind events dateFrom pageSize offset ↔
      offset < EventRepository.count events dateFrom := by
  constructor
  · rintro ⟨rows, ⟨_, _, sorted, ordered, rfl⟩, some⟩
    have length := ordered.perm.length_eq
    rw [Ne, List.take_eq_nil_iff, List.drop_eq_nil_iff, length] at some
    unfold EventRepository.count
    omega
  · intro before
    obtain ⟨sorted, ordered⟩ := exists_ordered EventORM.eventTime
      (EventRepository.matching events dateFrom)
    have length := ordered.perm.length_eq
    refine ⟨_, ⟨by omega, inside, sorted, ordered, rfl⟩, ?_⟩
    rw [Ne, List.take_eq_nil_iff, List.drop_eq_nil_iff, length]
    unfold EventRepository.count at before
    omega

theorem build_page_url_isSome {page pageSize : Int} {total : Nat} (baseUrl : String) :
    (EventService.buildPageUrl baseUrl dateFrom page pageSize total).isSome ↔
      1 ≤ page ∧ (page - 1) * pageSize < total := by
  unfold EventService.buildPageUrl
  split
  · simp
    omega
  · split
    · simp
      omega
    · simp
      omega

theorem link_exists_iff {page pageSize : Int} (baseUrl : String) (positive : 1 ≤ pageSize) :
    (EventService.buildPageUrl baseUrl dateFrom page pageSize
      (EventRepository.count events dateFrom)).isSome ↔
        1 ≤ page ∧ SomeBehind events dateFrom pageSize ((page - 1) * pageSize) := by
  rw [build_page_url_isSome]
  apply and_congr_right
  intro first
  exact (some_behind_iff positive (Int.mul_nonneg (by omega) (by omega))).symm

theorem build_page_url_eq {page pageSize : Int} {total : Nat} {baseUrl url : String}
    (built : EventService.buildPageUrl baseUrl dateFrom page pageSize total = some url) :
    url = baseUrl ++ "?" ++ Urls.urlencode (EventService.pageParams dateFrom page pageSize) := by
  unfold EventService.buildPageUrl at built
  split at built
  · cases built
  · split at built
    · cases built
    · exact (Option.some.inj built).symm

theorem leads_to_iff (lawful : decoder.Lawful) {page pageSize : Int} {total : Nat} {url : String}
    (built : EventService.buildPageUrl route.baseUrl dateFrom page pageSize total = some url)
    (size : 1 ≤ pageSize ∧ pageSize ≤ 100) (near : page ≤ 101) :
    LeadsTo decoder route url dateFrom page pageSize ↔ page ≤ 100 := by
  obtain ⟨before, query⟩ := Urls.query_append route.base_bare
    (page_params_plain dateFrom page pageSize)
  rw [← build_page_url_eq built] at before query
  have first : 1 ≤ page :=
    ((build_page_url_isSome route.baseUrl).mp (Option.isSome_of_eq_some built)).1
  rw [LeadsTo, before, query,
    parse_page_params lawful dateFrom (by omega) (by omega)]
  constructor
  · rintro ⟨_, params, parsed, _⟩
    split at parsed
    · rename_i bounds
      exact bounds.1.2
    · cases parsed
  · intro last
    exact ⟨rfl, _, dif_pos ⟨⟨first, last⟩, size⟩, rfl, rfl, rfl⟩

theorem links_followable_iff (decoder : QueryDecoder) (lawful : decoder.Lawful)
    (events : Table EventORM.id) (route : RouteUrl) (params : ListEventsParams)
    (response : SEventPageRead) (answered : ListEvents events route params response) :
    LinksFollowable decoder events route params response ↔
      params.page.val < 100 ∨
        EventRepository.count events params.dateFrom ≤ 100 * params.pageSize.val := by
  obtain ⟨first, last⟩ := params.page.property
  have sizes := params.pageSize.property
  have positive := sizes.1
  obtain ⟨rows, _, rfl⟩ := answered
  have nextExists : (EventService.buildPageUrl route.baseUrl params.dateFrom (params.page + 1)
      params.pageSize (EventRepository.count events params.dateFrom)).isSome ↔
        params.page * params.pageSize.val < EventRepository.count events params.dateFrom := by
    rw [build_page_url_isSome, Int.add_sub_cancel]
    exact and_iff_right (by omega)
  constructor
  · intro followable
    by_contra beyond
    rw [not_or, not_lt, not_le] at beyond
    have here : params.page.val = 100 := by omega
    have behind : params.page * params.pageSize.val <
        EventRepository.count events params.dateFrom := by
      rw [here]
      exact beyond.2
    obtain ⟨url, built⟩ := Option.isSome_iff_exists.mp (nextExists.mpr behind)
    have accepted := (leads_to_iff lawful built sizes (by omega)).mp (followable.next url built)
    omega
  · intro bounded
    refine ⟨fun url built => ?_, fun url built => ?_, ?_, ?_⟩
    · apply (leads_to_iff lawful built sizes (by omega)).mpr
      rcases bounded with inside | all
      · omega
      · have behind := nextExists.mp (Option.isSome_of_eq_some built)
        have below := Int.lt_of_lt_of_le behind all
        have strict := Int.lt_of_mul_lt_mul_right below (by omega)
        omega
    · exact (leads_to_iff lawful built sizes (by omega)).mpr (by omega)
    · rw [link_exists_iff route.baseUrl positive, Int.add_sub_cancel]
      exact and_iff_right (by omega)
    · have before : params.page.val - 1 - 1 = params.page - 2 := by omega
      have second : 1 ≤ params.page.val - 1 ↔ 1 < params.page.val := by omega
      rw [link_exists_iff route.baseUrl positive, before, second]

section Sample

def sampleDecoder : QueryDecoder :=
  ⟨id, fun text => (Date.number text.toList).map Int.ofNat, Date.fromisoformat⟩

theorem sampleDecoder_lawful : sampleDecoder.Lawful where
  int_str := by
    intro n nonneg _
    obtain ⟨m, rfl⟩ := Int.eq_ofNat_of_zero_le nonneg
    have text : (toString (m : Int)).toList = Nat.toDigits 10 m := Nat.toList_repr
    have read : Date.number (toString (m : Int)).toList = some m := by
      rw [text]
      simpa [Date.padded] using Date.number_padded 0 m
    change (Date.number (toString (m : Int)).toList).map Int.ofNat = _
    rw [read]
    rfl
  date_isoformat := Date.fromisoformat_isoformat

theorem sample_route_bare :
    ∀ c ∈ ("http://test/api/events" : String).toList, c ≠ '?' ∧ c ≠ '#' := by
  simp

def sampleRoute : RouteUrl := ⟨"http://test/api/events", sample_route_bare⟩

theorem many_bound : 101 ≤ 2 ^ 128 := by decide

theorem few_bound : 3 ≤ 2 ^ 128 := by decide

def hundredthPage : ListEventsParams := ⟨none, ⟨100, by decide⟩, ⟨1, by decide⟩⟩

def secondPageParams : ListEventsParams := ⟨none, ⟨2, by decide⟩, ⟨1, by decide⟩⟩

theorem answer_exists (events : Table EventORM.id) (route : RouteUrl) (params : ListEventsParams) :
    ∃ response, ListEvents events route params response := by
  obtain ⟨sorted, ordered⟩ := exists_ordered EventORM.eventTime
    (EventRepository.matching events params.dateFrom)
  have sizes := params.pageSize.property
  have pages := params.page.property
  exact ⟨_, _, ⟨by omega, Int.mul_nonneg (by omega) (by omega), sorted, ordered, rfl⟩, rfl⟩

/-- Behind page 100 the link leads to a page that the endpoint refuses. -/
theorem hundred_and_first_page_refused : ¬ ∀ (decoder : QueryDecoder), decoder.Lawful →
    ∀ events route params response, ListEvents events route params response →
      LinksFollowable decoder events route params response := by
  intro followable
  obtain ⟨response, answered⟩ := answer_exists (manyEvents 101 many_bound) sampleRoute hundredthPage
  have links := followable sampleDecoder sampleDecoder_lawful _ _ _ _ answered
  obtain ⟨rows, _, rfl⟩ := answered
  have total : EventRepository.count (manyEvents 101 many_bound) hundredthPage.dateFrom = 101 :=
    count_manyEvents 101 many_bound
  have built : EventService.buildPageUrl sampleRoute.baseUrl hundredthPage.dateFrom
      (hundredthPage.page + 1) hundredthPage.pageSize
        (EventRepository.count (manyEvents 101 many_bound) hundredthPage.dateFrom) =
      some "http://test/api/events?page=101&page_size=1" := by
    rw [total]
    decide
  obtain ⟨_, params, _, _, page, _⟩ := links.next _ built
  have bound := params.page.property.2
  rw [page] at bound
  exact absurd bound (by decide)

theorem links_followable_iff_second : ∃ response,
    ListEvents (manyEvents 3 few_bound) sampleRoute secondPageParams response ∧
      LinksFollowable sampleDecoder (manyEvents 3 few_bound) sampleRoute secondPageParams
        response := by
  obtain ⟨response, answered⟩ := answer_exists (manyEvents 3 few_bound) sampleRoute secondPageParams
  exact ⟨response, answered, (links_followable_iff sampleDecoder sampleDecoder_lawful _ _ _ _
    answered).mpr (Or.inl (by decide))⟩

end Sample

end EventsAggregator
