import PortableSql.Dialect.Basic
import PortableSql.InList
import PortableSql.Lexical.Comment
import PortableSql.Locking.RowLock

/-! The phrases a dialect contributes to statements: casts and other expressions, check
conditions, literals, lists of bind markers, row locks, comments and hints. -/

namespace PortableSql

/-- The ends of a string from which characters are removed. -/
inductive TrimSide
  | leading | trailing | both
  deriving DecidableEq, Repr

namespace TrimSide

def keyword : TrimSide → String
  | leading => "leading"
  | trailing => "trailing"
  | both => "both"

def function : TrimSide → String
  | leading => "ltrim"
  | trailing => "rtrim"
  | both => "trim"

def ofKeyword? (word : String) : Option TrimSide :=
  [leading, trailing, both].find? (·.keyword == word)

end TrimSide

namespace Dialect

/-- A cast of an operand; `target` is the type name for the generic form. -/
def castExpression (d : Dialect) (operand : String) (source target : CastType)
    (typeName : String) : String :=
  fillPattern (d.tables.casts.pattern source target) [operand, typeName]

/-- A character between quotes. The quote itself is the one that has to be doubled. -/
def quotedCharacter (character : Char) : String :=
  if character = Literal.quoteMark then "''''" else "'" ++ character.toString ++ "'"

/-- The pattern that removes a character from an operand `?1`. Blanks go without saying. -/
def trimPattern (d : Dialect) (side : TrimSide) (character : Char) : String :=
  let quoted := quotedCharacter character
  match d.config.trim with
  | .ansi =>
    if character = ' ' then "trim(" ++ side.keyword ++ " from ?1)"
    else "trim(" ++ side.keyword ++ " " ++ quoted ++ " from ?1)"
  | .functions =>
    if character = ' ' then side.function ++ "(?1)"
    else side.function ++ "(?1," ++ quoted ++ ")"

def extract (d : Dialect) (unit operand : String) : String :=
  fillPattern d.config.extractPattern [unit, operand]

def callFunction (d : Dialect) (name : String) (arguments : List String) :
    Except Failure String :=
  d.tables.functions.render name arguments

/-- The condition that keeps a boolean column to its two values, where its type does not. -/
def booleanCheck? (d : Dialect) (column : String) : Option String :=
  match d.config.booleanRepresentation with
  | .integerBoolean => some (column ++ " in (0,1)")
  | .ynBoolean => some (column ++ " in ('N','Y')")
  | .tfBoolean => some (column ++ " in ('F','T')")
  | .boolean => if d.can .nativeBoolean then none else some (column ++ " in (0,1)")
  | _ => none

/-- The condition on a column that holds one of several names. -/
def enumCheck (column : String) (values : List String) : String :=
  column ++ " in (" ++ ",".intercalate (values.map Literal.string) ++ ")"

/-- The condition on a column that holds one of the first numbers from zero. -/
def ordinalCheck (column : String) (count : Nat) : String :=
  column ++ " between 0 and " ++ toString (count - 1)

def booleanLiteral (d : Dialect) (value : Bool) : String :=
  if value then d.config.trueLiteral else d.config.falseLiteral

/-- The batch for keys of some columns under the ceiling of the dialect. -/
def batchSize (d : Dialect) (columns keys : Nat) : BatchSize :=
  .choose columns keys d.inListCeiling

/-- The batch that decides about padding a list, if the list is padded. -/
def paddingBatch? (d : Dialect) (keys : Nat) (settings : Settings) : Option BatchSize :=
  if settings.padInLists ∧ keys ≠ 0 then some (d.batchSize 1 keys) else none

/-- The number of bind markers for some keys. No key is lost when padding stops at a ceiling. -/
def markerCount (d : Dialect) (keys : Nat) (settings : Settings) : Nat :=
  match d.paddingBatch? keys settings with
  | some batch => max batch.size keys
  | none => keys

/-- What padding a list reports. -/
def paddingEvents (d : Dialect) (keys : Nat) (settings : Settings) : List Event :=
  match d.paddingBatch? keys settings with
  | some batch => batch.events
  | none => []

/-- The condition that a column equals one of some keys. -/
def inList (d : Dialect) (column : String) (keys : Nat) (settings : Settings) : String :=
  if keys = 0 then if d.can .emptyInList then column ++ " in()" else "1=0"
  else InList.render column (d.markerCount keys settings) d.inListCeiling

/-- The statement that locks a row, if there is one to issue now. -/
def lockRow (d : Dialect) (mode : LockMode) (row : LockableRow) (timeout : LockTimeout) :
    Except Failure (Option String) :=
  d.config.locking.rowLockSql row timeout (.ofMode mode)

/-- The statement with a comment, if comments are wanted. -/
def prependComment (sql comment : String) (settings : Settings) : String :=
  if settings.sqlComments then Comment.prepend sql comment else sql

/-- The query with hints, if the database takes them. -/
def withHints (d : Dialect) (sql : String) (hints : List String) : String :=
  if d.can .queryHints then Comment.hinted sql hints else sql

def selectCurrentTimestamp (d : Dialect) : Except Failure String := do
  d.demand (d.can .currentTimestampSelection) .currentTimestampSelection
  return d.config.currentTimestampSelect

/-- The type name of a cursor that a procedure returns. -/
def refCursorType (d : Dialect) : Except Failure String :=
  match d.config.refCursorType with
  | some name => if d.can .refCursors then .ok name else .error (d.unsupported .refCursors)
  | none => .error (d.unsupported .refCursors)

end Dialect

end PortableSql
