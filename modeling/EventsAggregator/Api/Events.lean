import EventsAggregator.Services.Listing
import Mathlib.Data.List.DropRight

namespace EventsAggregator

open Relational

/-- What FastAPI makes of the texts in a query: percent-decoding, and its validators. -/
structure QueryDecoder where
  unquoted : String → String
  int : String → Option Int
  date : String → Option Date

structure QueryDecoder.Lawful (decoder : QueryDecoder) : Prop where
  int_str : ∀ n : Int, 0 ≤ n → n < 2 ^ 63 → decoder.int (toString n) = some n
  date_isoformat : ∀ date : Date, decoder.date date.isoformat = some date

/-- The value of a scalar parameter. When it is repeated the last one counts. -/
def lastValue (fields : List (String × String)) (name : String) : Option String :=
  fields.reverse.lookup name

def queryInt (decoder : QueryDecoder) {ge le : Int} (default : { n : Int // ge ≤ n ∧ n ≤ le }) :
    Option String → Option { n : Int // ge ≤ n ∧ n ≤ le }
  | none => some default
  | some text =>
    match decoder.int text with
    | none => none
    | some n => if bounds : ge ≤ n ∧ n ≤ le then some ⟨n, bounds⟩ else none

def queryDate (decoder : QueryDecoder) : Option String → Option (Option Date)
  | none => some none
  | some text => (decoder.date text).map some

structure ListEventsParams where
  dateFrom : Option Date
  page : { n : Int // 1 ≤ n ∧ n ≤ 100 }
  pageSize : { n : Int // 1 ≤ n ∧ n ≤ 100 }

theorem default_page_bounds : (1 : Int) ≤ 1 ∧ (1 : Int) ≤ 100 := by decide

theorem default_page_size_bounds : (1 : Int) ≤ 20 ∧ (20 : Int) ≤ 100 := by decide

/-- The validation of a query; for `none` the handler of `RequestValidationError` answers 400. -/
def ListEventsParams.parse (decoder : QueryDecoder) (query : List Char) :
    Option ListEventsParams := do
  let fields := Urls.parseQsl decoder.unquoted query
  let dateFrom ← queryDate decoder (lastValue fields "date_from")
  let page ← queryInt decoder ⟨1, default_page_bounds⟩ (lastValue fields "page")
  let pageSize ← queryInt decoder ⟨20, default_page_size_bounds⟩ (lastValue fields "page_size")
  return { dateFrom, page, pageSize }

structure RouteUrl where
  text : String
  bare : ∀ c ∈ text.toList, c ≠ '?' ∧ c ≠ '#'

def RouteUrl.baseUrl (route : RouteUrl) : String :=
  String.ofList (route.text.toList.rdropWhile (· = '/'))

def ListEvents (events : Table EventORM.id) (route : RouteUrl) (params : ListEventsParams)
    (response : SEventPageRead) : Prop :=
  EventService.ListEvents events params.dateFrom params.page params.pageSize route.baseUrl response

variable {decoder : QueryDecoder}

theorem RouteUrl.base_bare (route : RouteUrl) :
    ∀ c ∈ route.baseUrl.toList, c ≠ '?' ∧ c ≠ '#' := by
  intro c inside
  rw [baseUrl, String.toList_ofList] at inside
  exact route.bare c ((List.rdropWhile_prefix _ _).subset inside)

theorem isDigit_unreserved {c : Char} (digit : c.isDigit = true) : Urls.unreserved c = true := by
  simp [Urls.unreserved, Char.isAlphanum, digit]

theorem nat_repr_plain (n : Nat) : Urls.Plain n.repr := by
  intro c inside
  rw [Nat.toList_repr] at inside
  exact isDigit_unreserved (Nat.isDigit_of_mem_toDigits (by decide) (by decide) inside)

theorem int_str_plain (n : Int) : Urls.Plain (toString n) := by
  cases n with
  | ofNat n => exact nat_repr_plain n
  | negSucc n =>
    intro c inside
    have sign : (toString (Int.negSucc n)).toList = '-' :: (n + 1).repr.toList := by
      change (Int.repr (Int.negSucc n)).toList = _
      simp [Int.repr, String.toList_append]
    rw [sign] at inside
    rcases List.mem_cons.mp inside with rfl | inside
    · decide
    · exact nat_repr_plain (n + 1) c inside

theorem padded_plain (width n : Nat) : ∀ c ∈ Date.padded width n, Urls.unreserved c = true := by
  intro c inside
  rcases List.mem_append.mp inside with zero | inside
  · rw [List.eq_of_mem_replicate zero]
    decide
  · exact isDigit_unreserved (Nat.isDigit_of_mem_toDigits (by decide) (by decide) inside)

theorem isoformat_plain (date : Date) : Urls.Plain date.isoformat := by
  intro c inside
  have hyphen : Urls.unreserved '-' = true := by decide
  rw [Date.isoformat, String.toList_ofList] at inside
  simp only [List.mem_append, List.mem_cons] at inside
  rcases inside with (inside | rfl | inside) | rfl | inside
  · exact padded_plain _ _ c inside
  · exact hyphen
  · exact padded_plain _ _ c inside
  · exact hyphen
  · exact padded_plain _ _ c inside

theorem page_params_plain (dateFrom : Option Date) (page pageSize : Int) :
    ∀ param ∈ EventService.pageParams dateFrom page pageSize,
      Urls.Plain param.1 ∧ Urls.Plain param.2 := by
  have names : Urls.Plain "page" ∧ Urls.Plain "page_size" ∧ Urls.Plain "date_from" :=
    ⟨Urls.plain_of_all (by decide), Urls.plain_of_all (by decide), Urls.plain_of_all (by decide)⟩
  intro param inside
  simp only [EventService.pageParams, List.cons_append, List.nil_append, List.mem_cons,
    List.mem_map, Option.mem_toList] at inside
  rcases inside with rfl | rfl | ⟨date, _, rfl⟩
  · exact ⟨names.1, int_str_plain page⟩
  · exact ⟨names.2.1, int_str_plain pageSize⟩
  · exact ⟨names.2.2, isoformat_plain date⟩

theorem parse_page_params (lawful : decoder.Lawful) (dateFrom : Option Date)
    {page pageSize : Int} (small : 0 ≤ page ∧ page < 2 ^ 63)
    (small' : 0 ≤ pageSize ∧ pageSize < 2 ^ 63) :
    ListEventsParams.parse decoder
        (Urls.urlencode (EventService.pageParams dateFrom page pageSize)).toList =
      if bounds : (1 ≤ page ∧ page ≤ 100) ∧ 1 ≤ pageSize ∧ pageSize ≤ 100 then
        some ⟨dateFrom, ⟨page, bounds.1⟩, ⟨pageSize, bounds.2⟩⟩
      else none := by
  have dates : queryDate decoder
      (lastValue (EventService.pageParams dateFrom page pageSize) "date_from") =
        some dateFrom := by
    cases dateFrom with
    | none => rfl
    | some date =>
      have value : lastValue (EventService.pageParams (some date) page pageSize) "date_from" =
        some date.isoformat := rfl
      rw [value, queryDate, lawful.date_isoformat, Option.map_some]
  have pages : lastValue (EventService.pageParams dateFrom page pageSize) "page" =
      some (toString page) := by
    cases dateFrom <;> rfl
  have sizes : lastValue (EventService.pageParams dateFrom page pageSize) "page_size" =
      some (toString pageSize) := by
    cases dateFrom <;> rfl
  unfold ListEventsParams.parse
  simp only [Urls.parseQsl_urlencode (page_params_plain dateFrom page pageSize), dates, pages,
    sizes, queryInt, lawful.int_str page small.1 small.2,
    lawful.int_str pageSize small'.1 small'.2, Option.bind_eq_bind, Option.bind_some,
    Option.pure_def]
  by_cases first : 1 ≤ page ∧ page ≤ 100
  · by_cases second : 1 ≤ pageSize ∧ pageSize ≤ 100
    · simp [first, second]
    · simp [first, second]
  · simp [first]

end EventsAggregator
