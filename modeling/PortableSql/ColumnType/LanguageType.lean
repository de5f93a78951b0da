/-! The value types of the host language that columns are mapped from. They decide the
natural size of a column: one character for a character, thirty-six for a textual
identifier, no scale for whole numbers. -/

namespace PortableSql

inductive LanguageType
  | boolean | byte | short | int | long | float | double | bigInteger | bigDecimal
  | character | string | uuid | bytes | date | time | timestamp | offsetTimestamp
  deriving DecidableEq, Repr

namespace LanguageType

def all : List LanguageType :=
  [boolean, byte, short, int, long, float, double, bigInteger, bigDecimal, character, string,
    uuid, bytes, date, time, timestamp, offsetTimestamp]

theorem mem_all (t : LanguageType) : t ∈ all := by cases t <;> decide

def name : LanguageType → String
  | boolean => "boolean"
  | byte => "byte"
  | short => "short"
  | int => "int"
  | long => "long"
  | float => "float"
  | double => "double"
  | bigInteger => "big_integer"
  | bigDecimal => "big_decimal"
  | character => "character"
  | string => "string"
  | uuid => "uuid"
  | bytes => "bytes"
  | date => "date"
  | time => "time"
  | timestamp => "timestamp"
  | offsetTimestamp => "offset_timestamp"

/-- The type with exactly this name. -/
def ofName? (name : String) : Option LanguageType := all.find? (·.name == name)

/-- Is it a whole number type? -/
def isIntegral : LanguageType → Bool
  | byte | short | int | long | bigInteger => true
  | _ => false

end LanguageType

end PortableSql
