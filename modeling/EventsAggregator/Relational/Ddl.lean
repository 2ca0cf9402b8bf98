import EventsAggregator.Relational.Table

namespace Relational

universe u

structure ColumnDef (τ : Type u) where
  name : String
  type : τ
  nullable : Bool
  deriving DecidableEq

structure ForeignKey where
  column : String
  table : String
  referenced : String
  cascades : Bool
  deriving DecidableEq

structure TableDef (τ : Type u) where
  name : String
  columns : List (ColumnDef τ)
  primaryKey : List String
  foreignKeys : List ForeignKey
  checks : List (String × String)
  deriving DecidableEq

structure IndexDef where
  name : String
  table : String
  columns : List String
  unique : Bool
  deriving DecidableEq

/-- The tables and the indexes of a database: an index belongs to a table that exists, and a table
    refers to tables that exist. -/
@[ext]
structure Schema (τ : Type u) where
  tables : Table (TableDef.name (τ := τ))
  indexes : Table IndexDef.name
  indexed : ∀ index ∈ indexes.rows, index.table ∈ tables.rows.map TableDef.name
  referred : ∀ table ∈ tables.rows, ∀ foreign ∈ table.foreignKeys,
    foreign.table ∈ tables.rows.map TableDef.name

variable {τ : Type u}

namespace TableDef

def columnNames (table : TableDef τ) : List String := table.columns.map ColumnDef.name

def wellFormed (table : TableDef τ) : Bool :=
  decide table.columnNames.Nodup && table.primaryKey.all (· ∈ table.columnNames) &&
    table.foreignKeys.all fun foreign => foreign.column ∈ table.columnNames

end TableDef

namespace Schema

def empty : Schema τ := ⟨.empty, .empty, by simp, by simp⟩

def free (schema : Schema τ) (name : String) : Bool :=
  (schema.tables.find? name).isNone && (schema.indexes.find? name).isNone

def has (schema : Schema τ) (name : String) (columns : List String) : Bool :=
  match schema.tables.find? name with
  | none => false
  | some table => columns.all (· ∈ table.columnNames)

theorem mem_of_has {schema : Schema τ} {name : String} {columns : List String}
    (there : schema.has name columns = true) : name ∈ schema.tables.rows.map TableDef.name := by
  unfold has at there
  split at there
  · cases there
  next found =>
    obtain ⟨member, rfl⟩ := (schema.tables.find?_eq_some _ _).mp found
    exact List.mem_map_of_mem member

def Creatable (schema : Schema τ) (table : TableDef τ) : Prop :=
  schema.free table.name = true ∧ table.wellFormed = true ∧
    ∀ foreign ∈ table.foreignKeys, schema.has foreign.table [foreign.referenced] = true

instance (schema : Schema τ) (table : TableDef τ) : Decidable (schema.Creatable table) :=
  inferInstanceAs (Decidable (_ ∧ _ ∧ _))

theorem fresh_of_free {schema : Schema τ} {name : String} (free : schema.free name = true) :
    name ∉ schema.tables.rows.map TableDef.name ∧ name ∉ schema.indexes.rows.map IndexDef.name := by
  simp only [Schema.free, Bool.and_eq_true, Option.isNone_iff_eq_none, Table.find?_eq_none] at free
  simpa using free

def createTable (schema : Schema τ) (table : TableDef τ) : Option (Schema τ) :=
  if able : schema.Creatable table then some
    { tables := ⟨schema.tables.rows ++ [table], by
        rw [List.map_append, List.nodup_append]
        refine ⟨schema.tables.unique, by simp, ?_⟩
        intro name member other last same
        cases List.mem_singleton.mp last
        exact (fresh_of_free able.1).1 (same ▸ member)⟩
      indexes := schema.indexes
      indexed := fun index member => by
        rw [List.map_append]
        exact List.mem_append_left _ (schema.indexed index member)
      referred := fun other member foreign inside => by
        rw [List.map_append]
        refine List.mem_append_left _ ?_
        rcases List.mem_append.mp member with member | member
        · exact schema.referred other member foreign inside
        · cases List.mem_singleton.mp member
          exact mem_of_has (able.2.2 foreign inside) }
  else none

def createIndex (schema : Schema τ) (index : IndexDef) : Option (Schema τ) :=
  if able : schema.free index.name = true ∧ schema.has index.table index.columns = true then some
    { tables := schema.tables
      indexes := ⟨schema.indexes.rows ++ [index], by
        rw [List.map_append, List.nodup_append]
        refine ⟨schema.indexes.unique, by simp, ?_⟩
        intro name member other last same
        cases List.mem_singleton.mp last
        exact (fresh_of_free able.1).2 (same ▸ member)⟩
      indexed := fun other member => by
        rcases List.mem_append.mp member with member | member
        · exact schema.indexed other member
        · cases List.mem_singleton.mp member
          exact mem_of_has able.2
      referred := schema.referred }
  else none

def Referred (schema : Schema τ) (name : String) : Prop :=
  ∃ table ∈ schema.tables.rows, table.name ≠ name ∧ ∃ foreign ∈ table.foreignKeys,
    foreign.table = name

instance (schema : Schema τ) (name : String) : Decidable (schema.Referred name) :=
  inferInstanceAs (Decidable (∃ table ∈ _, _))

/-- The indexes of a table are dropped with it. A table that others refer to stays. -/
def dropTable (schema : Schema τ) (name : String) : Option (Schema τ) :=
  if able : (schema.tables.find? name).isSome = true ∧ ¬ schema.Referred name then some
    { tables := schema.tables.erase name
      indexes := ⟨schema.indexes.rows.filter fun index => index.table ≠ name,
        schema.indexes.unique.sublist (List.filter_sublist.map _)⟩
      indexed := fun index member => by
        obtain ⟨member, other⟩ := List.mem_filter.mp member
        obtain ⟨table, inside, same⟩ := List.mem_map.mp (schema.indexed index member)
        refine List.mem_map.mpr ⟨table, (schema.tables.mem_erase name table).mpr ⟨inside, ?_⟩, same⟩
        rw [same]
        exact of_decide_eq_true other
      referred := fun table member foreign inside => by
        obtain ⟨member, other⟩ := (schema.tables.mem_erase name table).mp member
        obtain ⟨target, there, same⟩ :=
          List.mem_map.mp (schema.referred table member foreign inside)
        refine List.mem_map.mpr
          ⟨target, (schema.tables.mem_erase name target).mpr ⟨there, fun gone => ?_⟩, same⟩
        exact able.2 ⟨table, member, other, foreign, inside, same.symm.trans gone⟩ }
  else none

def dropIndex (schema : Schema τ) (name : String) : Option (Schema τ) :=
  if (schema.indexes.find? name).isSome then some
    { schema with
      indexes := schema.indexes.erase name
      indexed := fun index member =>
        schema.indexed index ((schema.indexes.mem_erase name index).mp member).1 }
  else none

end Schema

inductive Ddl (τ : Type u)
  | createTable (table : TableDef τ)
  | createIndex (index : IndexDef)
  | dropTable (name : String)
  | dropIndex (name : String)
  deriving DecidableEq

namespace Ddl

def run (schema : Schema τ) : Ddl τ → Option (Schema τ)
  | .createTable table => schema.createTable table
  | .createIndex index => schema.createIndex index
  | .dropTable name => schema.dropTable name
  | .dropIndex name => schema.dropIndex name

def undo : Ddl τ → Option (Ddl τ)
  | .createTable table => some (.dropTable table.name)
  | .createIndex index => some (.dropIndex index.name)
  | .dropTable _ | .dropIndex _ => none

def runAll (schema : Schema τ) (statements : List (Ddl τ)) : Option (Schema τ) :=
  statements.foldlM run schema

def undoAll (statements : List (Ddl τ)) : Option (List (Ddl τ)) :=
  (statements.mapM undo).map List.reverse

end Ddl

theorem runAll_append {schema schema' : Schema τ} {first second : List (Ddl τ)}
    (ran : Ddl.runAll schema (first ++ second) = some schema') :
    ∃ middle, Ddl.runAll schema first = some middle ∧ Ddl.runAll middle second = some schema' := by
  rw [Ddl.runAll, List.foldlM_append] at ran
  exact Option.bind_eq_some_iff.mp ran

section Undo

variable {schema schema' : Schema τ}

theorem filter_appended {α : Type u} {rows : List α} {row : α} {p : α → Bool}
    (kept : ∀ other ∈ rows, p other = true) (gone : p row = false) :
    (rows ++ [row]).filter p = rows := by
  rw [List.filter_append, List.filter_eq_self.mpr kept]
  simp [gone]

theorem created_table {table : TableDef τ} (created : schema.createTable table = some schema') :
    schema.Creatable table ∧ schema'.tables.rows = schema.tables.rows ++ [table] ∧
      schema'.indexes = schema.indexes := by
  unfold Schema.createTable at created
  split at created
  next able =>
    cases created
    exact ⟨able, rfl, rfl⟩
  · cases created

theorem created_index {index : IndexDef} (created : schema.createIndex index = some schema') :
    schema.free index.name = true ∧ schema.has index.table index.columns = true ∧
      schema'.tables = schema.tables ∧ schema'.indexes.rows = schema.indexes.rows ++ [index] := by
  unfold Schema.createIndex at created
  split at created
  next able =>
    cases created
    exact ⟨able.1, able.2, rfl, rfl⟩
  · cases created

theorem drop_created_table {table : TableDef τ}
    (created : schema.createTable table = some schema') :
    schema'.dropTable table.name = some schema := by
  obtain ⟨able, tables, indexes⟩ := created_table created
  obtain ⟨freshTable, _⟩ := Schema.fresh_of_free able.1
  have other : ∀ row ∈ schema.tables.rows, row.name ≠ table.name := fun row member same =>
    freshTable (same ▸ List.mem_map_of_mem member)
  have there : (schema'.tables.find? table.name).isSome = true :=
    (Table.find?_isSome _ _).mpr ⟨table, by simp [tables], rfl⟩
  have unreferred : ¬ schema'.Referred table.name := by
    rintro ⟨row, member, unlike, foreign, inside, same⟩
    rw [tables] at member
    rcases List.mem_append.mp member with member | member
    · exact freshTable (same ▸ schema.referred row member foreign inside)
    · cases List.mem_singleton.mp member
      exact unlike rfl
  unfold Schema.dropTable
  rw [dif_pos ⟨there, unreferred⟩]
  congr 1
  ext1
  · ext1
    show schema'.tables.rows.filter _ = _
    rw [tables]
    exact filter_appended (by simpa using other) (by simp)
  · ext1
    show schema'.indexes.rows.filter _ = _
    rw [indexes]
    refine List.filter_eq_self.mpr fun index member => decide_eq_true fun same => ?_
    exact freshTable (same ▸ schema.indexed index member)

theorem drop_created_index {index : IndexDef} (created : schema.createIndex index = some schema') :
    schema'.dropIndex index.name = some schema := by
  obtain ⟨free, _, tables, indexes⟩ := created_index created
  obtain ⟨_, freshIndex⟩ := Schema.fresh_of_free free
  have other : ∀ row ∈ schema.indexes.rows, row.name ≠ index.name := fun row member same =>
    freshIndex (same ▸ List.mem_map_of_mem member)
  have there : (schema'.indexes.find? index.name).isSome = true :=
    (Table.find?_isSome _ _).mpr ⟨index, by simp [indexes], rfl⟩
  unfold Schema.dropIndex
  rw [if_pos there]
  congr 1
  ext1
  · exact tables
  · ext1
    show schema'.indexes.rows.filter _ = _
    rw [indexes]
    exact filter_appended (by simpa using other) (by simp)

theorem undo_run {statement inverse : Ddl τ} (undone : statement.undo = some inverse)
    (ran : statement.run schema = some schema') : inverse.run schema' = some schema := by
  cases statement with
  | createTable table =>
    cases undone
    exact drop_created_table ran
  | createIndex index =>
    cases undone
    exact drop_created_index ran
  | dropTable | dropIndex => cases undone

theorem undoAll_runAll {statements inverses : List (Ddl τ)}
    (undone : Ddl.undoAll statements = some inverses)
    (ran : Ddl.runAll schema statements = some schema') :
    Ddl.runAll schema' inverses = some schema := by
  induction statements generalizing schema inverses with
  | nil =>
    cases undone
    cases ran
    rfl
  | cons statement rest ih =>
    obtain ⟨all, mapped, rfl⟩ := Option.map_eq_some_iff.mp undone
    rw [List.mapM_cons] at mapped
    simp only [Option.bind_eq_bind, Option.bind_eq_some_iff, Option.pure_def,
      Option.some.injEq] at mapped
    obtain ⟨inverse, first, others, later, rfl⟩ := mapped
    rw [Ddl.runAll, List.foldlM_cons] at ran
    obtain ⟨middle, begun, onward⟩ := Option.bind_eq_some_iff.mp ran
    have back := @ih middle others.reverse (by rw [Ddl.undoAll, later]; rfl) onward
    rw [List.reverse_cons, Ddl.runAll, List.foldlM_append]
    rw [Ddl.runAll] at back
    rw [back]
    simpa using undo_run first begun

end Undo

end Relational
