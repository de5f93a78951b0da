/-! What a database can do, as a set of named capabilities. Lock features are not among
them: they follow from the lock clauses. -/

namespace PortableSql

inductive Capability
  /-- Accepts `drop table if exists t`. -/
  | ifExistsBeforeTableName
  /-- Accepts `drop table t if exists`. -/
  | ifExistsAfterTableName
  /-- Accepts `alter table t drop constraint if exists c`. -/
  | ifExistsBeforeConstraintName
  /-- Accepts `alter table t drop constraint c if exists`. -/
  | ifExistsAfterConstraintName
  /-- Accepts `alter table if exists t`. -/
  | ifExistsAfterAlterTable
  /-- Tables can be altered at all. -/
  | hasAlterTable
  /-- Constraints are dropped before their tables. -/
  | dropConstraints
  /-- Index names take the schema of their table. -/
  | qualifyIndexName
  /-- Accepts `on delete cascade` on foreign keys. -/
  | cascadeDelete
  /-- Accepts `comment on table` and `comment on column`. -/
  | commentOn
  /-- Check constraints on columns. -/
  | columnCheck
  /-- Check constraints on tables. -/
  | tableCheck
  /-- Foreign keys can be added to an existing table. -/
  | alterTableForeignKeys
  /-- Catalogs can be created. -/
  | canCreateCatalog
  /-- Schemas can be created. -/
  | canCreateSchema
  | createTableIfNotExists
  | temporaryTables
  | unionAll
  | rowValueConstructorSyntax
  | rowValueConstructorSyntaxInInList
  | tupleDistinctCounts
  | tupleCounts
  | existsInSelect
  | emptyInList
  | subqueryOnMutatingTable
  | lateral
  | windowFunctions
  | fetchClause
  | offsetInSubquery
  | nullsOrdering
  | distinctFromPredicate
  | caseInsensitiveLike
  | outerJoinForUpdate
  | insertReturning
  | valueListsForInsert
  | nativeBoolean
  | timestampArithmetic
  | currentTimestampSelection
  | standardArrays
  | refCursors
  | queryHints
  | ifExistsOnDropSequence
  deriving DecidableEq, Repr

namespace Capability

/-- All capabilities, in the order of a configuration dump. -/
def all : List Capability :=
  [ifExistsBeforeTableName, ifExistsAfterTableName, ifExistsBeforeConstraintName,
    ifExistsAfterConstraintName, ifExistsAfterAlterTable, hasAlterTable, dropConstraints,
    qualifyIndexName, cascadeDelete, commentOn, columnCheck, tableCheck, alterTableForeignKeys,
    canCreateCatalog, canCreateSchema, createTableIfNotExists, temporaryTables, unionAll,
    rowValueConstructorSyntax, rowValueConstructorSyntaxInInList, tupleDistinctCounts,
    tupleCounts, existsInSelect, emptyInList, subqueryOnMutatingTable, lateral, windowFunctions,
    fetchClause, offsetInSubquery, nullsOrdering, distinctFromPredicate, caseInsensitiveLike,
    outerJoinForUpdate, insertReturning, valueListsForInsert, nativeBoolean, timestampArithmetic,
    currentTimestampSelection, standardArrays, refCursors, queryHints, ifExistsOnDropSequence]

theorem mem_all (c : Capability) : c ∈ all := by cases c <;> decide

/-- The name in a configuration dump. -/
def name : Capability → String
  | ifExistsBeforeTableName => "if_exists_before_table_name"
  | ifExistsAfterTableName => "if_exists_after_table_name"
  | ifExistsBeforeConstraintName => "if_exists_before_constraint_name"
  | ifExistsAfterConstraintName => "if_exists_after_constraint_name"
  | ifExistsAfterAlterTable => "if_exists_after_alter_table"
  | hasAlterTable => "has_alter_table"
  | dropConstraints => "drop_constraints"
  | qualifyIndexName => "qualify_index_name"
  | cascadeDelete => "cascade_delete"
  | commentOn => "comment_on"
  | columnCheck => "column_check"
  | tableCheck => "table_check"
  | alterTableForeignKeys => "alter_table_foreign_keys"
  | canCreateCatalog => "can_create_catalog"
  | canCreateSchema => "can_create_schema"
  | createTableIfNotExists => "create_table_if_not_exists"
  | temporaryTables => "temporary_tables"
  | unionAll => "union_all"
  | rowValueConstructorSyntax => "row_value_constructor_syntax"
  | rowValueConstructorSyntaxInInList => "row_value_constructor_syntax_in_in_list"
  | tupleDistinctCounts => "tuple_distinct_counts"
  | tupleCounts => "tuple_counts"
  | existsInSelect => "exists_in_select"
  | emptyInList => "empty_in_list"
  | subqueryOnMutatingTable => "subquery_on_mutating_table"
  | lateral => "lateral"
  | windowFunctions => "window_functions"
  | fetchClause => "fetch_clause"
  | offsetInSubquery => "offset_in_subquery"
  | nullsOrdering => "nulls_ordering"
  | distinctFromPredicate => "distinct_from_predicate"
  | caseInsensitiveLike => "case_insensitive_like"
  | outerJoinForUpdate => "outer_join_for_update"
  | insertReturning => "insert_returning"
  | valueListsForInsert => "value_lists_for_insert"
  | nativeBoolean => "native_boolean"
  | timestampArithmetic => "timestamp_arithmetic"
  | currentTimestampSelection => "current_timestamp_selection"
  | standardArrays => "standard_arrays"
  | refCursors => "ref_cursors"
  | queryHints => "query_hints"
  | ifExistsOnDropSequence => "if_exists_on_drop_sequence"

def ofName? (name : String) : Option Capability := all.find? (·.name == name)

end Capability

/-- The capabilities of a database: which ones are on. -/
structure Capabilities where
  has : Capability → Bool

namespace Capabilities

/-- The capabilities with one of them set. -/
def set (s : Capabilities) (c : Capability) (on : Bool) : Capabilities :=
  ⟨fun x => if x = c then on else s.has x⟩

/-- The capabilities with some more of them on. -/
def enable (s : Capabilities) (on : List Capability) : Capabilities :=
  ⟨fun x => decide (x ∈ on) || s.has x⟩

/-- The capabilities with some of them off. -/
def disable (s : Capabilities) (off : List Capability) : Capabilities :=
  ⟨fun x => !decide (x ∈ off) && s.has x⟩

/-- What a database close to the standard can do. -/
def standard : Capabilities :=
  ⟨fun c => decide (c ∈ standardOn)⟩
where
  standardOn : List Capability :=
    [.hasAlterTable, .dropConstraints, .qualifyIndexName, .cascadeDelete, .columnCheck,
      .tableCheck, .alterTableForeignKeys, .canCreateSchema, .temporaryTables, .unionAll,
      .rowValueConstructorSyntax, .rowValueConstructorSyntaxInInList, .existsInSelect,
      .subqueryOnMutatingTable, .windowFunctions, .fetchClause, .offsetInSubquery, .nullsOrdering,
      .outerJoinForUpdate, .valueListsForInsert, .nativeBoolean, .currentTimestampSelection]

@[simp] theorem has_enable (s : Capabilities) (on : List Capability) (c : Capability) :
    (s.enable on).has c = (decide (c ∈ on) || s.has c) := rfl

@[simp] theorem has_disable (s : Capabilities) (off : List Capability) (c : Capability) :
    (s.disable off).has c = (!decide (c ∈ off) && s.has c) := rfl

@[simp] theorem has_standard (c : Capability) :
    standard.has c = decide (c ∈ standard.standardOn) := rfl

theorem ext_has {s t : Capabilities} (h : ∀ c, s.has c = t.has c) : s = t := by
  cases s; cases t; simpa using funext h

instance : DecidableEq Capabilities := fun s t =>
  if h : ∀ c ∈ Capability.all, s.has c = t.has c then
    isTrue (ext_has fun c => h c (Capability.mem_all c))
  else isFalse fun e => h fun _ _ => by rw [e]

end Capabilities

end PortableSql
