import EventsAggregator.Db.Metadata
import EventsAggregator.Relational.Migrations

namespace EventsAggregator

open Relational Transition

namespace Migrations

def createIndex (name table : String) (columns : List String) : Ddl SqlType :=
  .createIndex ⟨name, table, columns, false⟩

def createEventsAndTicketsTables : Migration SqlType where
  revision := "7d715edbb1b6"
  downRevision := none
  upgrade :=
    [.createTable {
        name := "events"
        columns :=
          [⟨"id", .uuid, false⟩, ⟨"name", .string 500, false⟩, ⟨"status", .string 50, false⟩,
            ⟨"place_id", .uuid, false⟩, ⟨"place_name", .string 255, false⟩,
            ⟨"place_city", .string 100, false⟩, ⟨"place_address", .string 500, false⟩,
            ⟨"seats_pattern", .text, false⟩, ⟨"event_time", .dateTime, false⟩,
            ⟨"registration_deadline", .dateTime, false⟩, ⟨"number_of_visitors", .integer, false⟩,
            ⟨"changed_at", .dateTime, false⟩, ⟨"synced_at", .dateTime, false⟩]
        primaryKey := ["id"]
        foreignKeys := []
        checks := [] },
      createIndex "ix_events_changed_at" "events" ["changed_at"],
      createIndex "ix_events_city_event_time" "events" ["place_city", "event_time"],
      createIndex "ix_events_event_time" "events" ["event_time"],
      createIndex "ix_events_place_city" "events" ["place_city"],
      createIndex "ix_events_place_id" "events" ["place_id"],
      createIndex "ix_events_status" "events" ["status"],
      .createTable {
        name := "tickets"
        columns :=
          [⟨"ticket_id", .uuid, false⟩, ⟨"event_id", .uuid, false⟩,
            ⟨"first_name", .string 100, false⟩, ⟨"last_name", .string 100, false⟩,
            ⟨"email", .string 255, false⟩, ⟨"seat", .string 10, false⟩,
            ⟨"created_at", .dateTime, false⟩]
        primaryKey := ["ticket_id"]
        foreignKeys := [⟨"event_id", "events", "id", true⟩]
        checks := [] },
      createIndex "ix_tickets_event_id" "tickets" ["event_id"]]
  downgrade :=
    [.dropIndex "ix_tickets_event_id", .dropTable "tickets", .dropIndex "ix_events_status",
      .dropIndex "ix_events_place_id", .dropIndex "ix_events_place_city",
      .dropIndex "ix_events_event_time", .dropIndex "ix_events_city_event_time",
      .dropIndex "ix_events_changed_at", .dropTable "events"]

def addSyncMetadataTable : Migration SqlType where
  revision := "b5f7c695f303"
  downRevision := some "7d715edbb1b6"
  upgrade :=
    [.createTable {
        name := "sync_metadata"
        columns :=
          [⟨"id", .integer, false⟩, ⟨"last_sync_time", .dateTime, true⟩,
            ⟨"last_changed_at", .dateTime, true⟩, ⟨"sync_status", .string 20, false⟩,
            ⟨"last_error", .text, true⟩, ⟨"updated_at", .dateTime, false⟩]
        primaryKey := ["id"]
        foreignKeys := []
        checks := [("ck_sync_metadata_single_row", "id = 1")] }]
  downgrade := [.dropTable "sync_metadata"]

def addOutboxEventsTable : Migration SqlType where
  revision := "6214482246ae"
  downRevision := some "b5f7c695f303"
  upgrade :=
    [.createTable {
        name := "outbox_events"
        columns :=
          [⟨"id", .uuid, false⟩, ⟨"event_type", .string 100, false⟩, ⟨"payload", .json, false⟩,
            ⟨"status", .string 20, false⟩, ⟨"attempts", .integer, false⟩,
            ⟨"last_error", .text, true⟩, ⟨"created_at", .dateTime, false⟩,
            ⟨"sent_at", .dateTime, true⟩]
        primaryKey := ["id"]
        foreignKeys := []
        checks := [] },
      createIndex "ix_outbox_events_created_at" "outbox_events" ["created_at"],
      createIndex "ix_outbox_events_status" "outbox_events" ["status"],
      createIndex "ix_outbox_status_created_at" "outbox_events" ["status", "created_at"]]
  downgrade :=
    [.dropIndex "ix_outbox_status_created_at", .dropIndex "ix_outbox_events_status",
      .dropIndex "ix_outbox_events_created_at", .dropTable "outbox_events"]

def addIdempotencyKeysTable : Migration SqlType where
  revision := "9ff8e094db0e"
  downRevision := some "6214482246ae"
  upgrade :=
    [.createTable {
        name := "idempotency_keys"
        columns :=
          [⟨"key", .string 255, false⟩, ⟨"request_hash", .string 64, false⟩,
            ⟨"response_body", .json, false⟩, ⟨"status_code", .integer, false⟩,
            ⟨"created_at", .dateTime, false⟩]
        primaryKey := ["key"]
        foreignKeys := []
        checks := [] }]
  downgrade := [.dropTable "idempotency_keys"]

/-- The scripts by their file names: alembic orders them by their revisions. -/
def versions : List (Migration SqlType) :=
  [addOutboxEventsTable, createEventsAndTicketsTables, addIdempotencyKeysTable,
    addSyncMetadataTable]

end Migrations

open Migrations

theorem downgrades_undo : ∀ script ∈ versions,
    Ddl.undoAll script.upgrade = some script.downgrade := by
  decide

/-- A downgrade takes any database back to where its upgrade found it. -/
theorem downgrade_undoes_upgrade {script : Migration SqlType} (member : script ∈ versions)
    {schema schema' : Schema SqlType} (ran : Ddl.runAll schema script.upgrade = some schema') :
    Ddl.runAll schema' script.downgrade = some schema :=
  undoAll_runAll (downgrades_undo script member) ran

def allUpgrades : List (Ddl SqlType) :=
  createEventsAndTicketsTables.upgrade ++ (addSyncMetadataTable.upgrade ++
    (addOutboxEventsTable.upgrade ++ addIdempotencyKeysTable.upgrade))

theorem all_upgrades_run : (Ddl.runAll .empty allUpgrades).any (Maps Base.metadata ·) = true := by
  decide

theorem versions_climb : ∃ head,
    Upgrades versions none .empty (some "9ff8e094db0e") head ∧ Maps Base.metadata head := by
  obtain ⟨head, run, maps⟩ := (Option.any_eq_true _ _).mp all_upgrades_run
  obtain ⟨_, first, rest⟩ := runAll_append run
  obtain ⟨_, second, rest⟩ := runAll_append rest
  obtain ⟨_, third, fourth⟩ := runAll_append rest
  have begun : following versions none = some createEventsAndTicketsTables := by decide
  have sync : following versions (some "7d715edbb1b6") = some addSyncMetadataTable := by decide
  have outbox : following versions (some "b5f7c695f303") = some addOutboxEventsTable := by decide
  have keys : following versions (some "6214482246ae") = some addIdempotencyKeysTable := by decide
  have last : following versions (some "9ff8e094db0e") = none := by decide
  exact ⟨head, .script begun first (.script sync second (.script outbox third
    (.script keys fourth (.head last)))), of_decide_eq_true maps⟩

/-- However containers come, fail and come again over the database of whatever release: while one
    of them serves, the database is what the classes of the service are mapped to, and one that
    starts can always come to serve. -/
theorem containers_serve_the_metadata {s t : Rollout SqlType}
    {moves : List (Move (Rollout SqlType) RolloutAction)}
    (initial : (rollouts versions).Initial s) (run : Run (rollouts versions) s moves t) :
    (∀ i, t.containers i = .serving → Maps Base.metadata t.schema) ∧
      ∀ i, t.containers i = .starting → ∃ moves' u, Run (rollouts versions) t moves' u ∧
        u.containers i = .serving ∧ ∀ j, j ≠ i → u.containers j = t.containers j := by
  obtain ⟨head, climb, maps⟩ := versions_climb
  have sound := sound_run initial run
  constructor
  · intro i serving
    rw [sound.level.at_head climb (sound.served i serving)]
    exact maps
  · intro i starting
    have read := (@Run.refl _ _ (rollouts versions) t).move (.read starting)
    have upgraded := read.move (.upgrade (Function.update_self ..) (sound.level.upgrades climb))
    refine ⟨_, _, upgraded, Function.update_self .., fun j other => ?_⟩
    exact (Function.update_of_ne other ..).trans (Function.update_of_ne other ..)

section Sample

def emptyRollout : Rollout SqlType := ⟨none, .empty, fun _ => .starting⟩

/-- Two containers start over an empty database: the slower one fails and starts anew. -/
theorem slow_container : ∃ moves t, Run (rollouts versions) emptyRollout moves t ∧
    t.containers 0 = .serving ∧ t.containers 1 = .starting := by
  obtain ⟨head, climb, _⟩ := versions_climb
  have start := @Run.refl _ _ (rollouts versions) emptyRollout
  have first := start.move (@RolloutStep.read _ _ _ 0 rfl)
  have second := first.move (@RolloutStep.read _ _ _ 1 rfl)
  have upgraded := second.move (@RolloutStep.upgrade _ _ _ 0 _ _ rfl climb)
  have failed := upgraded.move (@RolloutStep.fail _ _ _ 1 none rfl)
  have anew := failed.move (@RolloutStep.restart _ _ _ 1)
  exact ⟨_, _, anew, rfl, rfl⟩

theorem containers_serve_the_metadata_slowly : ∃ (moves : List (Move (Rollout SqlType)
      RolloutAction)) (t : Rollout SqlType) (moves' : List (Move (Rollout SqlType) RolloutAction))
    (u : Rollout SqlType), Run (rollouts versions) emptyRollout moves t ∧
      t.containers 0 = .serving ∧ t.containers 1 = .starting ∧ Maps Base.metadata t.schema ∧
      Run (rollouts versions) t moves' u ∧ u.containers 1 = .serving := by
  obtain ⟨moves, t, run, serving, starting⟩ := slow_container
  have idle : ∀ i, emptyRollout.containers i ≠ .serving := by
    intro i same
    cases same
  obtain ⟨maps, comes⟩ := containers_serve_the_metadata ⟨.base, idle⟩ run
  obtain ⟨moves', u, onward, served, _⟩ := comes 1 starting
  exact ⟨moves, t, moves', u, run, serving, starting, maps 0 serving, onward, served⟩

theorem downgrade_undoes_upgrade_of_events : ∃ schema : Schema SqlType,
    Ddl.runAll schema createEventsAndTicketsTables.downgrade = some .empty := by
  obtain ⟨head, run, _⟩ := (Option.any_eq_true _ _).mp all_upgrades_run
  obtain ⟨schema, first, _⟩ := runAll_append run
  exact ⟨schema, downgrade_undoes_upgrade (by decide) first⟩

end Sample

end EventsAggregator
