import PortableSql.ColumnType.Size
import PortableSql.Dialect.Capability
import PortableSql.Expression.CastType
import PortableSql.Json.Basic
import PortableSql.Lexical.Literal
import PortableSql.Lexical.QuoteStyle
import PortableSql.Locking.Clauses

/-! The configuration of a dialect: everything in which databases differ only by a flag, a
number or a piece of text. A configuration can be dumped as a document. -/

namespace PortableSql

/-- The words of schema definition statements. -/
structure DdlWords where
  createTable : String
  /-- Stands behind the column list. -/
  tableType : String
  /-- Stands behind `drop table t`. -/
  cascadeConstraints : String
  addColumn : String
  addColumnSuffix : String
  /-- Between the altered table and the name of a foreign key to drop. -/
  dropForeignKey : String
  /-- Between the altered table and the name of a unique key to drop. -/
  dropUniqueKey : String
  /-- Stands behind nullable columns. -/
  nullColumn : String
  createSchema : String
  dropSchema : String
  createCatalog : String
  dropCatalog : String
  /-- `drop index` names the table. -/
  dropIndexOnTable : Bool
  /-- Comments are parts of definitions rather than statements. -/
  inlineComments : Bool
  deriving DecidableEq, Repr

def DdlWords.standard : DdlWords :=
  { createTable := "create table"
    tableType := ""
    cascadeConstraints := ""
    addColumn := "add column"
    addColumnSuffix := ""
    dropForeignKey := " drop constraint "
    dropUniqueKey := " drop constraint "
    nullColumn := ""
    createSchema := "create schema"
    dropSchema := "drop schema"
    createCatalog := "create catalog"
    dropCatalog := "drop catalog"
    dropIndexOnTable := false
    inlineComments := false }

/-- Sequences. The templates have `$n` for the name and `$v` for the next-value expression. -/
structure SequenceSupport where
  supported : Bool
  /-- Increments other than one are usable. -/
  pooled : Bool
  nextValue : String
  selectNextValue : String
  deriving DecidableEq, Repr

namespace SequenceSupport

def standard : SequenceSupport :=
  { supported := true
    pooled := true
    nextValue := "next value for $n"
    selectNextValue := "values ($v)" }

def absent : SequenceSupport :=
  { supported := false, pooled := false, nextValue := "", selectNextValue := "" }

end SequenceSupport

/-- Columns whose values the database generates. -/
structure IdentitySupport where
  supported : Bool
  /-- Stands behind the definition of an identity column. -/
  columnClause : String
  /-- The column type stands before the clause. -/
  hasDataType : Bool
  /-- The statement that returns the identity generated last. -/
  selectLast : Option String
  deriving DecidableEq, Repr

def IdentitySupport.standard : IdentitySupport :=
  { supported := true
    columnClause := " generated by default as identity"
    hasDataType := true
    selectLast := none }

/-- How the removal of characters from the ends of a string is written. -/
inductive TrimStyle
  | ansi | functions
  deriving DecidableEq, Repr

def TrimStyle.name : TrimStyle → String
  | ansi => "ansi"
  | functions => "functions"

def TrimStyle.ofName? (name : String) : Option TrimStyle :=
  [ansi, functions].find? (·.name == name)

structure Config where
  name : String
  capabilities : Capabilities
  ddl : DdlWords
  locking : LockClauses
  sizes : SizeDefaults
  sequences : SequenceSupport
  identity : IdentitySupport
  quote : QuoteStyle
  /-- How booleans are stored. -/
  booleanRepresentation : CastType
  trueLiteral : String
  falseLiteral : String
  momentLiterals : MomentStyle
  /-- The most bind markers in one list, zero for any number. -/
  inListCeiling : Int
  maxAliasLength : Nat
  maxIdentifierLength : Option Nat
  /-- What ends the insertion of a row without columns. -/
  noColumnsInsert : String
  trim : TrimStyle
  /-- A pattern with the unit at `?1` and the operand at `?2`. -/
  extractPattern : String
  currentTimestampSelect : String
  /-- The type name of a cursor returned by a procedure. -/
  refCursorType : Option String
  deriving DecidableEq

def Config.standard : Config :=
  { name := "standard"
    capabilities := .standard
    ddl := .standard
    locking := .standard
    sizes := .standard
    sequences := .standard
    identity := .standard
    quote := .doubleQuotes
    booleanRepresentation := .boolean
    trueLiteral := "1"
    falseLiteral := "0"
    momentLiterals := .escaped
    inListCeiling := 0
    maxAliasLength := 10
    maxIdentifierLength := none
    noColumnsInsert := "values ( )"
    trim := .ansi
    extractPattern := "extract(?1 from ?2)"
    currentTimestampSelect := "values current_timestamp"
    refCursorType := none }

end PortableSql
