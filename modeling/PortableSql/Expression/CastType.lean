import PortableSql.Failure

/-! How values are represented, as far as casts are concerned. Booleans are stored in four
ways: natively, as zero and one, as the letters Y and N, and as T and F. -/

namespace PortableSql

inductive CastType
  | string | clob | boolean | integer | long | integerBoolean | ynBoolean | tfBoolean
  | float | double | fixed | date | time | timestamp | offsetTimestamp | other
  deriving DecidableEq, Repr

namespace CastType

def all : List CastType :=
  [string, clob, boolean, integer, long, integerBoolean, ynBoolean, tfBoolean, float, double,
    fixed, date, time, timestamp, offsetTimestamp, other]

theorem mem_all (t : CastType) : t ∈ all := by cases t <;> decide

def name : CastType → String
  | string => "STRING"
  | clob => "CLOB"
  | boolean => "BOOLEAN"
  | integer => "INTEGER"
  | long => "LONG"
  | integerBoolean => "INTEGER_BOOLEAN"
  | ynBoolean => "YN_BOOLEAN"
  | tfBoolean => "TF_BOOLEAN"
  | float => "FLOAT"
  | double => "DOUBLE"
  | fixed => "FIXED"
  | date => "DATE"
  | time => "TIME"
  | timestamp => "TIMESTAMP"
  | offsetTimestamp => "OFFSET_TIMESTAMP"
  | other => "OTHER"

/-- The cast type a text names, whatever its letter case and outer white space, with hyphens
for underscores if need be. -/
def ofText? (text : String) : Option CastType :=
  let wanted := (Text.strip text.toList).map fun c => if c = '-' then '_' else c.toUpper
  all.find? (·.name.toList == wanted)

def parse (text : String) : Except Failure CastType :=
  match ofText? text with
  | some t => .ok t
  | none => .error (.unknownName .castType text)

/-- Does the type belong to the families between which booleans are converted? -/
def holdsBooleans : CastType → Bool
  | string | boolean | integer | long | integerBoolean | ynBoolean | tfBoolean => true
  | _ => false

/-- The representation of a column's values. -/
def ofCode : TypeCode → CastType
  | .boolean | .bit => boolean
  | .tinyint | .smallint | .integer => integer
  | .bigint => long
  | .real | .float => float
  | .double => double
  | .numeric | .decimal => fixed
  | .date => date
  | .time | .timeWithTimezone => time
  | .timestamp => timestamp
  | .timestampWithTimezone => offsetTimestamp
  | .char | .varchar | .longVarchar | .nchar | .nvarchar | .longNvarchar => string
  | .clob | .nclob => clob
  | .binary | .varbinary | .longVarbinary | .blob => other

end CastType

end PortableSql
