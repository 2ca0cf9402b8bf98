import EventsAggregator.Services.Requests
import EventsAggregator.Values.Delimited

namespace EventsAggregator

open Relational

def SEventRegistrationCreate.SameData (p q : SEventRegistrationCreate) : Prop :=
  p.eventId = q.eventId ∧ p.firstName = q.firstName ∧ p.lastName = q.lastName ∧
    p.email = q.email ∧ p.seat = q.seat

def SEventRegistrationCreate.texts (payload : SEventRegistrationCreate) : List (List Char) :=
  [payload.firstName.toList, payload.lastName.toList, payload.email.toList, payload.seat.toList]

/-- The free-form fields in the order of the hashed text, cut at every '|'. -/
def SEventRegistrationCreate.pieces (payload : SEventRegistrationCreate) : List (List Char) :=
  Delimited.pieces '|' payload.texts

def SEventRegistrationCreate.delimiters (payload : SEventRegistrationCreate) : List Nat :=
  payload.texts.map (List.count '|')

def idempotencyConflict (runtime : Runtime) (key : String) : Raised :=
  .domain ⟨.idempotencyConflict,
    s!"Idempotency key {runtime.repr key} was already used with different data"⟩

/-- The hash tells `p` from `q`, and a request with `p` that finds the record which a registration
    with `q` left under its key ends in `IdempotencyConflict`. -/
def Separated (runtime : Runtime) (p q : SEventRegistrationCreate) : Prop :=
  (computeRequestHash runtime p = computeRequestHash runtime q ↔ p.SameData q) ∧
    (¬ p.SameData q → ∀ event ticketId written outboxId record,
      record ∈ (stageRegistration runtime q event ticketId written outboxId).records →
      ∀ (db : Database) now cache, db.idempotencyKeys.find? record.key = some record →
        Code.resume runtime db now cache (.register p (.getKey record.key)) =
          some (.register p (.raised (idempotencyConflict runtime record.key)), cache))

variable {runtime : Runtime} {p q : SEventRegistrationCreate}

theorem hyphenate_no_delimiter {hex : List Char} (plain : '|' ∉ hex) : '|' ∉ hyphenate hex := by
  have take (m n : Nat) : '|' ∉ (hex.drop n).take m := fun inside =>
    plain (List.mem_of_mem_drop (List.mem_of_mem_take inside))
  have first : '|' ∉ hex.take 8 := fun inside => plain (List.mem_of_mem_take inside)
  have last : '|' ∉ hex.drop 20 := fun inside => plain (List.mem_of_mem_drop inside)
  simp [hyphenate, take, first, last]

theorem hexDigits_no_delimiter (width n : Nat) : '|' ∉ hexDigits width n := by
  induction width generalizing n with
  | zero => simp [hexDigits]
  | succ width ih => simp [hexDigits, ih]

theorem uuid_no_delimiter (u : UUID) : '|' ∉ u.str.toList := by
  rw [UUID.str, String.toList_ofList]
  exact hyphenate_no_delimiter (hexDigits_no_delimiter 32 _)

theorem hash_eq_iff (injective : Function.Injective runtime.sha256) :
    computeRequestHash runtime p = computeRequestHash runtime q ↔
      p.eventId = q.eventId ∧ p.pieces = q.pieces := by
  have hashed (payload : SEventRegistrationCreate) :
      ("|".intercalate [payload.eventId.str, payload.firstName, payload.lastName, payload.email,
        payload.seat]).toList =
        ['|'].intercalate (payload.eventId.str.toList :: payload.texts) :=
    String.toList_intercalate
  have cut (payload : SEventRegistrationCreate) :
      Delimited.pieces '|' (payload.eventId.str.toList :: payload.texts) =
        payload.eventId.str.toList :: payload.pieces := by
    rw [Delimited.pieces, List.flatMap_cons,
      List.splitOn_eq_singleton (uuid_no_delimiter payload.eventId)]
    rfl
  unfold computeRequestHash
  rw [injective.eq_iff, ← String.toList_inj, hashed, hashed,
    Delimited.joined_eq_iff (List.cons_ne_nil _ _) (List.cons_ne_nil _ _), cut, cut,
    List.cons.injEq, String.toList_inj, UUID.str_injective.eq_iff]

theorem same_data_iff :
    p.SameData q ↔ p.eventId = q.eventId ∧ p.pieces = q.pieces ∧ p.delimiters = q.delimiters := by
  have fields : p.texts = q.texts ↔ p.firstName = q.firstName ∧ p.lastName = q.lastName ∧
      p.email = q.email ∧ p.seat = q.seat := by
    simp [SEventRegistrationCreate.texts, String.toList_inj]
  unfold SEventRegistrationCreate.SameData
  rw [← fields]
  constructor
  · rintro ⟨sameEvent, same⟩
    unfold SEventRegistrationCreate.pieces SEventRegistrationCreate.delimiters
    rw [same]
    exact ⟨sameEvent, rfl, rfl⟩
  · rintro ⟨sameEvent, pieces, delimiters⟩
    exact ⟨sameEvent, Delimited.pieces_inj delimiters pieces⟩

theorem staged_hash {event : EventORM} {ticketId outboxId : UUID} {now : Instant}
    {record : IdempotencyRecordORM}
    (staged : record ∈ (stageRegistration runtime q event ticketId now outboxId).records) :
    record.requestHash = computeRequestHash runtime q := by
  unfold stageRegistration at staged
  cases key : q.idempotencyKey with
  | none =>
    rw [key] at staged
    cases staged
  | some key' =>
    rw [key] at staged
    rw [List.mem_singleton.mp staged]

theorem conflict_of_hash_ne {record : IdempotencyRecordORM}
    (other : record.requestHash ≠ computeRequestHash runtime p) {db : Database}
    (found : db.idempotencyKeys.find? record.key = some record) (now : Instant)
    (cache : SeatsCache) :
    Code.resume runtime db now cache (.register p (.getKey record.key)) =
      some (.register p (.raised (idempotencyConflict runtime record.key)), cache) := by
  simp only [Code.resume, found, checkExisting, if_pos other]
  rfl

theorem request_hash_separates_iff (runtime : Runtime)
    (injective : Function.Injective runtime.sha256) (p q : SEventRegistrationCreate) :
    Separated runtime p q ↔
      (p.eventId = q.eventId → p.pieces = q.pieces → p.delimiters = q.delimiters) := by
  unfold Separated
  rw [hash_eq_iff injective, same_data_iff]
  constructor
  · rintro ⟨law, _⟩ sameEvent pieces
    exact (law.mp ⟨sameEvent, pieces⟩).2.2
  · intro unmoved
    have law : p.eventId = q.eventId ∧ p.pieces = q.pieces ↔
        p.eventId = q.eventId ∧ p.pieces = q.pieces ∧ p.delimiters = q.delimiters :=
      ⟨fun ⟨sameEvent, pieces⟩ => ⟨sameEvent, pieces, unmoved sameEvent pieces⟩,
        fun ⟨sameEvent, pieces, _⟩ => ⟨sameEvent, pieces⟩⟩
    refine ⟨law, fun different event ticketId written outboxId record staged db now cache found =>
      conflict_of_hash_ne ?_ found now cache⟩
    rw [staged_hash staged]
    intro same
    exact different (law.mp ((hash_eq_iff injective).mp same.symm))

section Sample

def namedPayload (firstName lastName : String)
    (firstNameLength : 1 ≤ firstName.length ∧ firstName.length ≤ 100)
    (lastNameLength : 1 ≤ lastName.length ∧ lastName.length ≤ 100) : SEventRegistrationCreate :=
  { samplePayload none unkeyed with firstName, lastName, firstNameLength, lastNameLength }

/-- The delimiter in a first name moves the boundary between the names. -/
theorem shifted_names_share_a_hash : ¬ ∀ (runtime : Runtime),
    Function.Injective runtime.sha256 → ∀ p q, Separated runtime p q := by
  intro separated
  have law := (separated sampleRuntime Function.injective_id
    (namedPayload "a|b" "c" (by decide) (by decide))
    (namedPayload "a" "b|c" (by decide) (by decide))).1
  have same := law.mp (by decide)
  exact absurd same.2.1 (by decide)

theorem request_hash_separates_iff_plain : Function.Injective sampleRuntime.sha256 ∧
    Separated sampleRuntime (namedPayload "a" "b" (by decide) (by decide))
      (namedPayload "a" "c" (by decide) (by decide)) :=
  ⟨Function.injective_id, (request_hash_separates_iff sampleRuntime Function.injective_id _ _).mpr
    fun _ => by decide⟩

end Sample

end EventsAggregator
