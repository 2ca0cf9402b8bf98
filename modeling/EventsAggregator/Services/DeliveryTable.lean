import EventsAggregator.Clients.Normalisation
import EventsAggregator.Services.Iterations
import EventsAggregator.Services.Lifecycle

namespace EventsAggregator

open Relational

variable {libraries : Libraries} {settings : OutboxSettings}

def Recordable (libraries : Libraries) (event : OutboxEventORM) (attempted : Attempted) : Prop :=
  ∀ notification rejection, OutboxPublisher.dispatch event = .send notification →
    CapashinoClient.receiveNotification libraries attempted.transport =
      .error (.client rejection) →
        rejection.statusCode = some 409 ∨ storable (truncate 2000 rejection.message) = true

/-- What the documentation makes of a delivery attempt. -/
inductive Ruling
  | sent
  | failed
  | again

def Response.parses (libraries : Libraries) (response : Response) : Bool :=
  response.content ≠ [] &&
    match response.json with
    | .value json => (SCapashinoNotificationResponse.modelValidate libraries json).toBool
    | _ => false

def documentedRuling (libraries : Libraries) : Transport → Ruling
  | .response response =>
    if response.statusCode < 400 ∧ response.statusCode ≠ 204 ∧ response.parses libraries = true ∨
        response.statusCode = 409 then .sent
    else if response.statusCode ∈ [400, 401, 403, 422] then .failed
    else .again
  | _ => .again

def Ruling.change (settings : OutboxSettings) (row : OutboxEventORM) (now : Instant) :
    Ruling → OutboxStatus × Nat × Option Instant
  | .sent => (.sent, row.attempts, some now)
  | .failed => (.failed, row.attempts + 1, row.sentAt)
  | .again =>
    (if ((row.attempts + 1 : Nat) : Int) = settings.outboxMaxAttempts then .failed else .pending,
      row.attempts + 1, row.sentAt)

inductive Rules (settings : OutboxSettings) (now : Instant) : Ruling → Mark → Prop
  | sent : Rules settings now .sent (.sent now)
  | failed (error : Text) : Rules settings now .failed (.failedAttempt error 1)
  | again (error : Text) :
    Rules settings now .again (.failedAttempt error settings.outboxMaxAttempts)

theorem base_class (error : APIClientError) : error.isInstance .apiClientError = true := by
  obtain ⟨cls, _, _, _⟩ := error
  cases cls <;> rfl

theorem record_again {now : Instant} {error : APIClientError}
    (temporary : error.isInstance .capashinoPermanentError = false)
    (other : error.statusCode ≠ some 409) :
    Rules settings now .again (OutboxPublisher.record settings now (.error (.client error))) := by
  simp only [OutboxPublisher.record, temporary, base_class, if_neg other, if_true]
  exact .again error.message

theorem record_error {now : Instant} {response : Response} {error : APIClientError}
    (failed : response.statusCode ≥ 400)
    (built : CapashinoClient.errorFromResponse libraries response = .ok error) :
    Rules settings now (documentedRuling libraries (.response response))
      (OutboxPublisher.record settings now (.error (.client error))) := by
  have high : ¬ response.statusCode < 400 := by omega
  unfold CapashinoClient.errorFromResponse at built
  split at built
  · cases built
  · simp only [documentedRuling, high, false_and, false_or]
    split at built
    · rename_i permanent
      have other : response.statusCode ≠ 409 := by
        intro conflict
        rw [conflict] at permanent
        exact absurd permanent (by decide)
      cases built
      rw [if_neg other, if_pos permanent]
      exact .failed _
    · rename_i temporary
      split at built
      · rename_i conflict
        cases built
        rw [if_pos conflict]
        simp only [OutboxPublisher.record, conflict]
        exact .sent
      · rename_i other
        cases built
        rw [if_neg other, if_neg temporary]
        exact record_again rfl fun same => other (Option.some.inj same)

theorem receive_low {now : Instant} {response : Response} (low : response.statusCode < 400) :
    Rules settings now (documentedRuling libraries (.response response))
      (OutboxPublisher.record settings now
        ((CapashinoClient.receiveNotification libraries (.response response)).map
          fun _ => ())) := by
  have accepted : ¬ response.statusCode ≥ 400 := by omega
  have ordinary : response.statusCode ≠ 409 ∧ response.statusCode ∉ [400, 401, 403, 422] := by
    refine ⟨by omega, fun listed => ?_⟩
    simp only [List.mem_cons, List.not_mem_nil, or_false] at listed
    omega
  simp only [CapashinoClient.receiveNotification, BaseAPIClient.request, documentedRuling, low,
    ordinary, if_neg accepted, true_and, or_false, if_false]
  by_cases bare : response.statusCode = 204 ∨ response.content = []
  · have unparsed : ¬ (response.statusCode ≠ 204 ∧ response.parses libraries = true) := by
      rintro ⟨content, parses⟩
      simp only [Response.parses, Bool.and_eq_true, decide_eq_true_eq] at parses
      exact bare.elim content parses.1
    rw [if_neg unparsed, if_pos bare]
    exact record_again rfl (by simp)
  · obtain ⟨content, body⟩ := not_or.mp bare
    rw [if_neg bare]
    simp only [Response.parses, body, content, ne_eq, not_false_eq_true, decide_true,
      Bool.true_and, true_and]
    cases response.json with
    | raised description => exact .again "unexpected error"
    | valueError => exact record_again rfl (by simp)
    | value json =>
      have validation : (∃ notification, SCapashinoNotificationResponse.modelValidate libraries
          json = .ok notification) ∨ ∃ count,
            SCapashinoNotificationResponse.modelValidate libraries json = .error count := by
        cases SCapashinoNotificationResponse.modelValidate libraries json with
        | ok notification => exact Or.inl ⟨notification, rfl⟩
        | error count => exact Or.inr ⟨count, rfl⟩
      rcases validation with ⟨notification, valid⟩ | ⟨count, invalid⟩
      · simp only [BaseAPIClient.parse, valid]
        exact .sent
      · simp only [BaseAPIClient.parse, invalid]
        exact record_again rfl (by simp)

theorem mark_ruled {now : Instant} {transport : Transport}
    (readable : ∀ response, transport = .response response → response.statusCode ≥ 400 →
      response.Readable libraries) :
    Rules settings now (documentedRuling libraries transport)
      (OutboxPublisher.record settings now
        ((CapashinoClient.receiveNotification libraries transport).map fun _ => ())) := by
  cases transport with
  | timeout => exact record_again rfl (by simp)
  | requestError description => exact record_again rfl (by simp)
  | raised description => exact .again "unexpected error"
  | response response =>
    by_cases failed : response.statusCode ≥ 400
    · rcases capashino_builds libraries response with ⟨_, error, built⟩ | ⟨unreadable, _⟩
      · simp only [CapashinoClient.receiveNotification, BaseAPIClient.request, if_pos failed, built]
        exact record_error failed built
      · exact absurd (readable response rfl failed) unreadable
    · exact receive_low (by omega)

theorem mark_unread {now : Instant} {response : Response} (failed : response.statusCode ≥ 400)
    (unreadable : ¬ response.Readable libraries) :
    OutboxPublisher.record settings now
        ((CapashinoClient.receiveNotification libraries (.response response)).map fun _ => ()) =
      .failedAttempt "unexpected error" settings.outboxMaxAttempts := by
  rcases capashino_builds libraries response with ⟨readable, _⟩ | ⟨_, description, raised⟩
  · exact absurd readable unreadable
  · simp only [CapashinoClient.receiveNotification, BaseAPIClient.request, if_pos failed, raised]
    rfl

theorem unexpected_storable : storable (truncate 2000 "unexpected error") = true := by decide

theorem record_storable {now : Instant} {outcome : Except Raised Unit}
    (storable : ∀ rejection, outcome = .error (.client rejection) →
      EventsAggregator.storable (truncate 2000 rejection.message) = true) :
    (OutboxPublisher.record settings now outcome).storable = true := by
  unfold OutboxPublisher.record
  split
  · rfl
  · rename_i rejection
    have text := storable rejection rfl
    split_ifs
    · exact text
    · rfl
    · exact text
    · exact unexpected_storable
  · exact unexpected_storable

theorem conflict_storable {now : Instant} {transport : Transport} {rejection : APIClientError}
    (received : CapashinoClient.receiveNotification libraries transport =
      .error (.client rejection)) (conflict : rejection.statusCode = some 409) :
    (OutboxPublisher.record settings now (.error (.client rejection))).storable = true := by
  obtain ⟨response, rfl, status⟩ := receive_error_status received conflict
  have marked : OutboxPublisher.record settings now (.error (.client rejection)) =
      OutboxPublisher.record settings now ((CapashinoClient.receiveNotification libraries
        (.response response)).map fun _ => ()) := by
    rw [received]
    rfl
  rw [marked]
  by_cases readable : response.Readable libraries
  · have sent : documentedRuling libraries (.response response) = .sent := if_pos (Or.inr status)
    have rules : Rules settings now (documentedRuling libraries (.response response)) _ :=
      mark_ruled fun _ same _ => by
        cases same
        exact readable
    rw [sent] at rules
    generalize OutboxPublisher.record settings now _ = mark at rules ⊢
    cases rules
    rfl
  · rw [mark_unread (by omega) readable]
    exact unexpected_storable

theorem mark_storable {event : OutboxEventORM} {attempted : Attempted}
    (recordable : Recordable libraries event attempted) :
    (OutboxPublisher.mark libraries settings event attempted).storable = true := by
  unfold OutboxPublisher.mark
  cases dispatched : OutboxPublisher.dispatch event with
  | ended outcome =>
    exact record_storable fun rejection raised =>
      absurd raised (dispatch_ended dispatched rejection)
  | send notification =>
    cases received : CapashinoClient.receiveNotification libraries attempted.transport with
    | ok created => rfl
    | error raised =>
      cases raised with
      | client rejection =>
        rcases recordable notification rejection dispatched received with conflict | text
        · exact conflict_storable received conflict
        · exact record_storable fun _ same => by cases same; exact text
      | domain | other => exact unexpected_storable

section Sample

end Sample

end EventsAggregator
