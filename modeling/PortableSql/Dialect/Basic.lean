import PortableSql.Dialect.Config
import PortableSql.Dialect.Registrations
import PortableSql.Dialect.ResolutionInfo

/-! Dialects. A dialect is the configuration of a database together with its tables and
what the database reported about itself. It is put together by a draft and then does
not change. -/

namespace PortableSql

/-- Where a database declares unique keys. -/
inductive UniqueKeyStyle
  /-- By altering the table. -/
  | alterTable
  /-- Within the definition of the table, and by altering it later. -/
  | createTable
  /-- By unique indexes that leave out rows with nulls, which the database takes for equal. -/
  | skipNullable
  deriving DecidableEq, Repr

def UniqueKeyStyle.name : UniqueKeyStyle → String
  | alterTable => "alter_table"
  | createTable => "create_table"
  | skipNullable => "skip_nullable"

def UniqueKeyStyle.ofName? (name : String) : Option UniqueKeyStyle :=
  [alterTable, createTable, skipNullable].find? (·.name == name)

structure Dialect where
  config : Config
  tables : Registrations
  version : Version
  uniqueKeys : UniqueKeyStyle
  /-- The most bind markers in one list, zero for any number. -/
  inListCeiling : Int

/-- A dialect in the making. -/
structure Draft where
  config : Config
  tables : Registrations := {}
  version : Version := {}
  uniqueKeys : UniqueKeyStyle := .alterTable
  /-- The ceiling that the database reported. -/
  reportedCeiling : Option Int := none

namespace Draft

/-- A draft with empty tables. -/
def blank (config : Config) : Draft := { config }

/-- A draft with the standard tables. -/
def standard (config : Config) : Draft := { config, tables := .standard }

def register (d : Draft) (changes : List Registrations.Change) : Draft :=
  { d with tables := d.tables.run changes }

/-- Take over what a database reported. A ceiling that it left out does not undo an earlier one. -/
def resolve (d : Draft) (info : ResolutionInfo) : Draft :=
  { d.register [.keyword (.report info.keywords)] with
    version := info.version
    reportedCeiling := info.inListCeiling <|> d.reportedCeiling }

/-- The finished dialect. Functions on timestamps are left out where the database has no
timestamp arithmetic. -/
def build (d : Draft) : Dialect :=
  { config := d.config
    tables :=
      if d.config.capabilities.has .timestampArithmetic then d.tables
      else d.tables.run
        (FunctionTable.timestampArithmetic.map fun name => .function (.unregister name))
    version := d.version
    uniqueKeys := d.uniqueKeys
    inListCeiling := d.reportedCeiling.getD d.config.inListCeiling }

end Draft

namespace Dialect

def standard : Dialect := (Draft.standard .standard).build

def name (d : Dialect) : String := d.config.name

/-- Does the database have a capability? -/
def can (d : Dialect) (c : Capability) : Bool := d.config.capabilities.has c

/-- The refusal of a feature. -/
def unsupported (d : Dialect) (feature : Feature) : Failure := .unsupported d.name feature

/-- Go on if a condition holds, and refuse a feature otherwise. -/
def demand (d : Dialect) (condition : Bool) (feature : Feature) : Except Failure Unit :=
  if condition then .ok () else .error (d.unsupported feature)

/-- The event that reports a finished dialect. -/
def builtEvent (d : Dialect) : Event :=
  ⟨.debug, "Dialect built",
    [ .text "dialect" d.name,
      .plain "version" (toString d.version.major ++ "." ++ toString d.version.minor),
      .count "type_names" d.tables.typeNames.size,
      .count "keywords" d.tables.keywords.size,
      .count "functions" d.tables.functions.size,
      .number "in_list_ceiling" d.inListCeiling ]⟩

def isKeyword (d : Dialect) (word : String) : Bool := d.tables.keywords.contains word

def quote (d : Dialect) (name : String) : String := d.config.quote.quote name

/-- The name, in quotes if it is reserved. -/
def quoteIfReserved (d : Dialect) (name : String) : String :=
  if d.isKeyword name then d.quote name else name

/-- The name as it stands in a statement: one between backticks gets the quotes of the
database, any other is written as it is. -/
def renderIdentifier (d : Dialect) (name : String) : String := d.config.quote.requote name

/-- Names as they stand in a statement, with commas between them. -/
def renderIdentifiers (d : Dialect) (names : List String) : String :=
  ", ".intercalate (names.map d.renderIdentifier)

theorem demand_eq_ok_iff {d : Dialect} {condition : Bool} {feature : Feature} :
    d.demand condition feature = .ok () ↔ condition = true := by
  cases condition <;> simp [demand]

end Dialect

end PortableSql
