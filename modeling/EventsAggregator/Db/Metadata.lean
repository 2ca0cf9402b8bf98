import EventsAggregator.Db.Columns
import EventsAggregator.Relational.Ddl

namespace EventsAggregator

open Relational

inductive SqlType
  | uuid
  | string (length : Nat)
  | text
  | dateTime
  | integer
  | json
  deriving DecidableEq

def ColumnType.sql : ColumnType → SqlType
  | .uuid => .uuid
  | .string length => .string length
  | .text => .text
  | .dateTime => .dateTime
  | .integer => .integer

structure MappedColumn where
  name : String
  type : SqlType
  nullable : Bool := false
  primaryKey : Bool := false
  index : Bool := false
  foreignKey : Option (String × String) := none

structure MappedClass where
  tablename : String
  columns : List MappedColumn
  checks : List (String × String) := []
  indexes : List (String × List String) := []

namespace MappedClass

def table (mapped : MappedClass) : TableDef SqlType where
  name := mapped.tablename
  columns := mapped.columns.map fun column => ⟨column.name, column.type, column.nullable⟩
  primaryKey := (mapped.columns.filter MappedColumn.primaryKey).map MappedColumn.name
  foreignKeys := mapped.columns.filterMap fun column =>
    column.foreignKey.map fun target => ⟨column.name, target.1, target.2, true⟩
  checks := mapped.checks

def allIndexes (mapped : MappedClass) : List IndexDef :=
  (mapped.columns.filter MappedColumn.index).map (fun column =>
    ⟨"ix_" ++ mapped.tablename ++ "_" ++ column.name, mapped.tablename, [column.name], false⟩) ++
    mapped.indexes.map fun index => ⟨index.1, mapped.tablename, index.2, false⟩

end MappedClass

def EventORM.mapped : MappedClass where
  tablename := "events"
  columns :=
    [{ name := "id", type := .uuid, primaryKey := true },
      { name := "name", type := .string 500 },
      { name := "status", type := .string 50, index := true },
      { name := "place_id", type := .uuid, index := true },
      { name := "place_name", type := .string 255 },
      { name := "place_city", type := .string 100, index := true },
      { name := "place_address", type := .string 500 },
      { name := "seats_pattern", type := .text },
      { name := "event_time", type := .dateTime, index := true },
      { name := "registration_deadline", type := .dateTime },
      { name := "number_of_visitors", type := .integer },
      { name := "changed_at", type := .dateTime, index := true },
      { name := "synced_at", type := .dateTime }]
  indexes := [("ix_events_city_event_time", ["place_city", "event_time"])]

def TicketORM.mapped : MappedClass where
  tablename := "tickets"
  columns :=
    [{ name := "ticket_id", type := .uuid, primaryKey := true },
      { name := "event_id", type := .uuid, index := true, foreignKey := some ("events", "id") },
      { name := "first_name", type := .string 100 },
      { name := "last_name", type := .string 100 },
      { name := "email", type := .string 255 },
      { name := "seat", type := .string 10 },
      { name := "created_at", type := .dateTime }]

def SyncMetadataORM.mapped : MappedClass where
  tablename := "sync_metadata"
  columns :=
    [{ name := "id", type := .integer, primaryKey := true },
      { name := "last_sync_time", type := .dateTime, nullable := true },
      { name := "last_changed_at", type := .dateTime, nullable := true },
      { name := "sync_status", type := .string 20 },
      { name := "last_error", type := .text, nullable := true },
      { name := "updated_at", type := .dateTime }]
  checks := [("ck_sync_metadata_single_row", "id = 1")]

def OutboxEventORM.mapped : MappedClass where
  tablename := "outbox_events"
  columns :=
    [{ name := "id", type := .uuid, primaryKey := true },
      { name := "event_type", type := .string 100 },
      { name := "payload", type := .json },
      { name := "status", type := .string 20, index := true },
      { name := "attempts", type := .integer },
      { name := "last_error", type := .text, nullable := true },
      { name := "created_at", type := .dateTime, index := true },
      { name := "sent_at", type := .dateTime, nullable := true }]
  indexes := [("ix_outbox_status_created_at", ["status", "created_at"])]

def IdempotencyRecordORM.mapped : MappedClass where
  tablename := "idempotency_keys"
  columns :=
    [{ name := "key", type := .string 255, primaryKey := true },
      { name := "request_hash", type := .string 64 },
      { name := "response_body", type := .json },
      { name := "status_code", type := .integer },
      { name := "created_at", type := .dateTime }]

def Base.metadata : List MappedClass :=
  [EventORM.mapped, TicketORM.mapped, SyncMetadataORM.mapped, OutboxEventORM.mapped,
    IdempotencyRecordORM.mapped]

/-- The database has the tables and the indexes of the metadata, and no others. -/
structure Maps (metadata : List MappedClass) (schema : Schema SqlType) : Prop where
  tables : schema.tables.rows.Perm (metadata.map MappedClass.table)
  indexes : schema.indexes.rows.Perm (metadata.flatMap MappedClass.allIndexes)

instance (metadata : List MappedClass) (schema : Schema SqlType) :
    Decidable (Maps metadata schema) :=
  decidable_of_iff (_ ∧ _) ⟨fun both => ⟨both.1, both.2⟩, fun maps => ⟨maps.tables, maps.indexes⟩⟩

theorem EventRow.columns_mapped :
    EventRow.columns.map (fun column => column.type.sql) =
      EventORM.mapped.table.columns.map ColumnDef.type := by
  decide

end EventsAggregator
