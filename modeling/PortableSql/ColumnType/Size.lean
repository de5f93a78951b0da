import PortableSql.ColumnType.TypeCode
import PortableSql.Number.Rounding

/-! Column sizes and how they are chosen. A size has up to three dimensions. Those the
caller supplies are kept, save two corrections: the general default length says
nothing about booleans, characters and identifiers, and a precision given together
with a scale counts decimal digits where a floating type counts binary ones. Every
dimension left open takes the natural default of the type, if the type has one. -/

namespace PortableSql

/-- Length, precision and scale, any of them open. -/
structure Size where
  length : Option Nat := none
  precision : Option Nat := none
  scale : Option Nat := none
  deriving DecidableEq, Repr

/-- What a type name must have room for: the length, or else the precision. -/
def Size.capacity (s : Size) : Option Nat := s.length <|> s.precision

/-- The length that mapping annotations fall back to. -/
def defaultLength : Nat := 255

/-- The length of the long string and binary types. -/
def longLength : Nat := 32600

/-- The largest digit count. -/
def maxDigits : Nat := 4294967295

/-- The natural logarithm of ten as a double, in units of `2 ^ -51`. -/
def logTenMantissa : Nat := 5184960683398422

/-- The binary precision asked for when `digits` decimal digits are wanted. -/
def binaryDigits (digits : Nat) : Nat :=
  min (Number.ceilDiv (Number.roundTo53Bits (digits * logTenMantissa)) (Nat.pow 2 51)) maxDigits

/-- The decimal digits that `bits` binary digits hold, where 53 bits hold 17. -/
def decimalDigits (bits : Nat) : Nat :=
  if bits = 0 then 0
  else
    let (m, k) := Number.quotient53 bits 53
    min (Number.ceilDiv (Number.roundTo53Bits (m * 17)) (Nat.pow 2 k)) maxDigits

/-- The numbers a database contributes to the choice of sizes. -/
structure SizeDefaults where
  lobLength : Nat
  decimalPrecision : Nat
  decimalScale : Nat
  timestampPrecision : Nat
  floatPrecision : Nat
  doublePrecision : Nat
  deriving DecidableEq, Repr

namespace SizeDefaults

/-- A mebibyte for large objects, the widest decimal that all large databases accept,
microseconds, and the precisions of the two floating formats. -/
def standard : SizeDefaults :=
  { lobLength := 1048576
    decimalPrecision := 38
    decimalScale := 2
    timestampPrecision := 6
    floatPrecision := 24
    doublePrecision := 53 }

def lengthOf (d : SizeDefaults) (code : TypeCode) (language : LanguageType) : Nat :=
  match code, language with
  | .clob, _ | .nclob, _ | .blob, _ => d.lobLength
  | _, .boolean | _, .character => 1
  | .binary, .uuid | .varbinary, .uuid => 16
  | _, .uuid => 36
  | _, _ => defaultLength

def precisionOf (d : SizeDefaults) (code : TypeCode) (language : LanguageType) : Nat :=
  match code, language with
  | .timestamp, _ | .timestampWithTimezone, _ | .timeWithTimezone, _ => d.timestampPrecision
  | .float, .float | .real, .float | .double, .float => d.floatPrecision
  | .float, .double | .real, .double | .double, .double => d.doublePrecision
  | .real, _ => d.floatPrecision
  | .float, _ | .double, _ => d.doublePrecision
  | _, _ => d.decimalPrecision

def scaleOf (d : SizeDefaults) (language : LanguageType) : Nat :=
  if language.isIntegral then 0 else d.decimalScale

/-- The dimensions that matter for a type, at their natural values. -/
def natural (d : SizeDefaults) (code : TypeCode) (language : LanguageType) : Size :=
  match code with
  | .bit | .char | .nchar | .varchar | .nvarchar | .binary | .varbinary
  | .clob | .nclob | .blob => { length := d.lengthOf code language }
  | .longVarchar | .longNvarchar | .longVarbinary => { length := longLength }
  | .float | .real | .double
  | .timestamp | .timestampWithTimezone | .timeWithTimezone =>
    { precision := d.precisionOf code language }
  | .numeric | .decimal =>
    { precision := d.precisionOf code language, scale := d.scaleOf language }
  | .boolean | .tinyint | .smallint | .integer | .bigint | .date | .time => {}

end SizeDefaults

/-- Does the general default length say nothing about a column of this type and content? -/
def ignoresDefaultLength (code : TypeCode) (language : LanguageType) : Bool :=
  match code, language with
  | .bit, .boolean => true
  | .char, .character | .nchar, .character | .char, .uuid | .nchar, .uuid => true
  | .varchar, .uuid | .nvarchar, .uuid | .binary, .uuid | .varbinary, .uuid => true
  | _, _ => false

/-- The supplied dimensions after the two corrections. -/
def Size.corrected (supplied : Size) (code : TypeCode) (language : LanguageType) : Size :=
  let length :=
    if supplied.length = some defaultLength && ignoresDefaultLength code language then none
    else supplied.length
  match code.isFloating, supplied.precision, supplied.scale with
  | true, some digits, some _ => { length, precision := some (binaryDigits digits), scale := none }
  | _, precision, scale => { length, precision, scale }

/-- The size of a column: what was supplied, completed by what is natural. -/
def SizeDefaults.resolve (d : SizeDefaults) (code : TypeCode) (language : LanguageType)
    (supplied : Size) : Size :=
  let given := supplied.corrected code language
  let natural := d.natural code language
  { length := given.length <|> natural.length
    precision := given.precision <|> natural.precision
    scale := given.scale <|> natural.scale }

end PortableSql
