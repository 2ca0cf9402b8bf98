import EventsAggregator.Clients.Errors
import EventsAggregator.Db.Models

namespace EventsAggregator

structure SProviderPlace where
  id : UUID
  name : Text
  city : Text
  address : Text
  seatsPattern : Text
  deriving DecidableEq

structure SProviderEvent where
  id : UUID
  name : Text
  place : SProviderPlace
  eventTime : Instant
  registrationDeadline : Instant
  status : EventStatus
  numberOfVisitors : Int
  changedAt : Instant
  deriving DecidableEq

structure EventsPage where
  next : Option String
  results : List SProviderEvent

structure EventsPaginator where
  baseUrl : String
  netloc : String → String

namespace EventsPaginator

def maxPages : Nat := 100

def follow (paginator : EventsPaginator) (pagesSeen : Nat) :
    Option String → Except APIClientError (Option String)
  | none | some "" => .ok none
  | some url =>
    if pagesSeen ≥ maxPages then
      .error ⟨.eventsProviderError, s!"Pagination exceeded {maxPages} pages", none, none⟩
    else if paginator.netloc paginator.baseUrl ≠ paginator.netloc url then
      .error ⟨.eventsProviderError, s!"Pagination link points to a different host: " ++
        s!"{paginator.netloc url} (expected {paginator.netloc paginator.baseUrl})", none, none⟩
    else .ok (some url)

variable {paginator : EventsPaginator} {pagesSeen : Nat} {next : Option String}

theorem follow_url {url : String} (nonempty : url ≠ "") :
    paginator.follow pagesSeen (some url) =
      if pagesSeen ≥ maxPages then
        .error ⟨.eventsProviderError, s!"Pagination exceeded {maxPages} pages", none, none⟩
      else if paginator.netloc paginator.baseUrl ≠ paginator.netloc url then
        .error ⟨.eventsProviderError, s!"Pagination link points to a different host: " ++
          s!"{paginator.netloc url} (expected {paginator.netloc paginator.baseUrl})", none, none⟩
      else .ok (some url) := by
  unfold follow
  split
  · rename_i absent
    cases absent
  · rename_i empty
    exact absurd (Option.some.inj empty) nonempty
  · rename_i url' here
    cases here
    rfl

theorem follow_none_iff :
    paginator.follow pagesSeen next = .ok none ↔ next = none ∨ next = some "" := by
  constructor
  · intro ends
    unfold follow at ends
    split at ends
    · exact Or.inl rfl
    · exact Or.inr rfl
    · split at ends
      · cases ends
      · split at ends <;> cases ends
  · rintro (rfl | rfl) <;> rfl

theorem follow_some_iff {url : String} : paginator.follow pagesSeen next = .ok (some url) ↔
    next = some url ∧ url ≠ "" ∧ pagesSeen < maxPages ∧
      paginator.netloc paginator.baseUrl = paginator.netloc url := by
  constructor
  · intro followed
    unfold follow at followed
    split at followed
    · cases followed
    · cases followed
    · rename_i link nonempty
      split at followed
      · cases followed
      · rename_i few
        split at followed
        · cases followed
        · rename_i same
          cases followed
          exact ⟨rfl, nonempty, Nat.lt_of_not_le few, not_not.mp same⟩
  · rintro ⟨rfl, nonempty, few, same⟩
    rw [follow_url nonempty, if_neg (Nat.not_le_of_lt few), if_neg (not_not.mpr same)]

end EventsPaginator

end EventsAggregator
