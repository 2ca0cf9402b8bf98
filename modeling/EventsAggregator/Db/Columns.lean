import EventsAggregator.Db.Sync

namespace EventsAggregator

inductive ColumnType
  | uuid
  | string (length : Nat)
  | text
  | dateTime
  | integer

def int32 (n : Int) : Bool := -2 ^ 31 ≤ n && n < 2 ^ 31

namespace ColumnType

/-- A time that the service has taken itself is in UTC, one that it was sent has an offset. -/
inductive Time
  | utc (instant : Instant)
  | offset (instant : Instant)

def Value : ColumnType → Type
  | uuid => UUID
  | string _ | text => Text
  | dateTime => Time
  | integer => Int

def holds : (type : ColumnType) → type.Value → Bool
  | uuid, _ | dateTime, .utc _ => true
  | dateTime, .offset instant => inUtc instant
  | string length, value => fitsVarchar length value
  | text, value => storable value
  | integer, value => int32 value

end ColumnType

structure Column (Row : Type) where
  type : ColumnType
  value : Row → type.Value

def Column.fits {Row : Type} (column : Column Row) (row : Row) : Bool :=
  column.type.holds (column.value row)

namespace EventRow

def columns : List (Column EventRow) :=
  [⟨.uuid, id⟩,
    ⟨.string 500, name⟩,
    ⟨.string 50, fun row => (row.status.value : Text)⟩,
    ⟨.uuid, placeId⟩,
    ⟨.string 255, placeName⟩,
    ⟨.string 100, placeCity⟩,
    ⟨.string 500, placeAddress⟩,
    ⟨.text, seatsPattern⟩,
    ⟨.dateTime, fun row => .offset row.eventTime⟩,
    ⟨.dateTime, fun row => .offset row.registrationDeadline⟩,
    ⟨.integer, numberOfVisitors⟩,
    ⟨.dateTime, fun row => .offset row.changedAt⟩,
    ⟨.dateTime, fun row => .utc row.syncedAt⟩]

example : 32767 / columns.length = maxRows := by decide

def fitsColumns (row : EventRow) : Bool := columns.all fun column => column.fits row

end EventRow

theorem status_fits (status : EventStatus) : fitsVarchar 50 status.value = true := by
  cases status <;> decide

theorem int32_iff (n : Int) : int32 n = true ↔ -2147483648 ≤ n ∧ n ≤ 2147483647 := by
  simp only [int32, Bool.and_eq_true, decide_eq_true_eq]
  omega

theorem EventRow.storable_iff (row : EventRow) : row.storable = true ↔ row.fitsColumns = true := by
  simp only [fitsColumns, columns, List.all_cons, List.all_nil, Column.fits, ColumnType.holds,
    EventRow.storable, int32_iff, Bool.and_eq_true, decide_eq_true_eq, Bool.and_true,
    status_fits row.status]
  tauto

end EventsAggregator
