import PortableSql.ColumnType.LanguageType
import PortableSql.Text.Blank

/-! Portable type codes: the vocabulary in which columns are described before a
database gives them its own type names. A long type that has no name of its own
borrows the name of its short form. -/

namespace PortableSql

inductive TypeCode
  | boolean | bit
  | tinyint | smallint | integer | bigint
  | real | float | double
  | numeric | decimal
  | date | time | timeWithTimezone | timestamp | timestampWithTimezone
  | binary | varbinary | longVarbinary | blob
  | char | varchar | longVarchar | clob
  | nchar | nvarchar | longNvarchar | nclob
  deriving DecidableEq, Repr

namespace TypeCode

def all : List TypeCode :=
  [boolean, bit, tinyint, smallint, integer, bigint, real, float, double, numeric, decimal,
    date, time, timeWithTimezone, timestamp, timestampWithTimezone, binary, varbinary,
    longVarbinary, blob, char, varchar, longVarchar, clob, nchar, nvarchar, longNvarchar, nclob]

theorem mem_all (c : TypeCode) : c ∈ all := by cases c <;> decide

/-- The name by which a code is requested and reported. -/
def name : TypeCode → String
  | boolean => "BOOLEAN"
  | bit => "BIT"
  | tinyint => "TINYINT"
  | smallint => "SMALLINT"
  | integer => "INTEGER"
  | bigint => "BIGINT"
  | real => "REAL"
  | float => "FLOAT"
  | double => "DOUBLE"
  | numeric => "NUMERIC"
  | decimal => "DECIMAL"
  | date => "DATE"
  | time => "TIME"
  | timeWithTimezone => "TIME_WITH_TIMEZONE"
  | timestamp => "TIMESTAMP"
  | timestampWithTimezone => "TIMESTAMP_WITH_TIMEZONE"
  | binary => "BINARY"
  | varbinary => "VARBINARY"
  | longVarbinary => "LONGVARBINARY"
  | blob => "BLOB"
  | char => "CHAR"
  | varchar => "VARCHAR"
  | longVarchar => "LONGVARCHAR"
  | clob => "CLOB"
  | nchar => "NCHAR"
  | nvarchar => "NVARCHAR"
  | longNvarchar => "LONGNVARCHAR"
  | nclob => "NCLOB"

/-- The spelling in stored documents, which separates the words of every name. -/
def storedName : TypeCode → String
  | longVarbinary => "LONG_VARBINARY"
  | longVarchar => "LONG_VARCHAR"
  | longNvarchar => "LONG_NVARCHAR"
  | code => code.name

/-- The code a text names. Letter case, outer white space and the choice between hyphen,
space and underscore do not matter. -/
def ofText? (text : String) : Option TypeCode :=
  let wanted := (Text.strip text.toList).map fun c =>
    if c = '-' ∨ c = ' ' then '_' else c.toUpper
  all.find? (·.name.toList == wanted)

def isNumeric : TypeCode → Bool
  | bit | tinyint | smallint | integer | bigint | real | float | double | numeric | decimal => true
  | _ => false

/-- Is it a string of characters, large objects apart? -/
def isCharacter : TypeCode → Bool
  | char | varchar | longVarchar | nchar | nvarchar | longNvarchar => true
  | _ => false

def isFloating : TypeCode → Bool
  | float | real | double => true
  | _ => false

def isExactNumeric : TypeCode → Bool
  | numeric | decimal => true
  | _ => false

/-- The short form whose type name a long type borrows. -/
def shortForm? : TypeCode → Option TypeCode
  | longVarchar => some varchar
  | longNvarchar => some nvarchar
  | longVarbinary => some varbinary
  | _ => none

/-- Do the codes stand for essentially one type? The two exact numerics do, and so do the
three floating ones. -/
def equivalent (a b : TypeCode) : Bool :=
  a == b || (a.isExactNumeric && b.isExactNumeric) || (a.isFloating && b.isFloating)

/-- What a column holds when nothing more specific is known. -/
def defaultLanguage : TypeCode → LanguageType
  | boolean | bit => .boolean
  | tinyint => .byte
  | smallint => .short
  | integer => .int
  | bigint => .long
  | real => .float
  | float | double => .double
  | numeric | decimal => .bigDecimal
  | date => .date
  | time | timeWithTimezone => .time
  | timestamp => .timestamp
  | timestampWithTimezone => .offsetTimestamp
  | binary | varbinary | longVarbinary | blob => .bytes
  | char | varchar | longVarchar | clob | nchar | nvarchar | longNvarchar | nclob => .string

/-- A short form has no short form of its own. -/
theorem shortForm?_shortForm? {a b : TypeCode} (h : a.shortForm? = some b) :
    b.shortForm? = none := by
  cases a <;> simp [shortForm?] at h <;> subst h <;> rfl

end TypeCode

end PortableSql
