import PortableSql.Expression.CastType

/-! Casts that a database cannot do by itself. Converting between the representations of
booleans, or between them and strings or integers, takes a case expression instead
of a cast. The matrix holds such a pattern for some pairs of cast types; every other
pair takes the generic cast. In a pattern `?1` is the operand and `?2` the name of
the target type. -/

namespace PortableSql

/-- The cast of every pair that has no pattern of its own. -/
def genericCast : String := "cast(?1 as ?2)"

structure CastCell where
  source : CastType
  target : CastType
  pattern : String
  deriving DecidableEq, Repr

/-- The patterns set for pairs of cast types, at most one for each pair, latest first. -/
structure CastMatrix where
  cells : List CastCell := []
  deriving DecidableEq, Repr

namespace CastMatrix

def empty : CastMatrix := {}

/-- Let a pair take the generic cast. -/
def clear (m : CastMatrix) (source target : CastType) : CastMatrix :=
  ⟨m.cells.filter fun c => !(c.source = source && c.target = target)⟩

/-- Give a pair a pattern, in place of an earlier one. -/
def set (m : CastMatrix) (source target : CastType) (pattern : String) : CastMatrix :=
  ⟨⟨source, target, pattern⟩ :: (m.clear source target).cells⟩

/-- The changes that build a matrix. -/
inductive Change
  | set (source target : CastType) (pattern : String)
  | clear (source target : CastType)

def Change.apply : Change → CastMatrix → CastMatrix
  | .set source target pattern, m => m.set source target pattern
  | .clear source target, m => m.clear source target

/-- Make changes in order. -/
def run (changes : List Change) (m : CastMatrix) : CastMatrix :=
  changes.foldl (fun m change => change.apply m) m

def pattern? (m : CastMatrix) (source target : CastType) : Option String :=
  (m.cells.find? fun c => c.source = source && c.target = target).map CastCell.pattern

/-- The pattern that casts `source` to `target`. -/
def pattern (m : CastMatrix) (source target : CastType) : String :=
  (m.pattern? source target).getD genericCast

/-- Does the pair have a pattern of its own? -/
def isEmulated (m : CastMatrix) (source target : CastType) : Bool :=
  (m.pattern? source target).isSome

def size (m : CastMatrix) : Nat := m.cells.length

/-- The conversions between booleans, strings and integers in any representation. -/
def standardChanges : List Change :=
  [ .set .integerBoolean .string "case ?1 when 1 then 'true' when 0 then 'false' else null end",
    .set .ynBoolean .string "case ?1 when 'Y' then 'true' when 'N' then 'false' else null end",
    .set .tfBoolean .string "case ?1 when 'T' then 'true' when 'F' then 'false' else null end",
    .set .ynBoolean .integer lettersYnToNumber,
    .set .tfBoolean .integer lettersTfToNumber,
    .set .boolean .integer nativeToNumber,
    .set .ynBoolean .long lettersYnToNumber,
    .set .tfBoolean .long lettersTfToNumber,
    .set .boolean .long nativeToNumber,
    .set .string .integerBoolean
      "case ?1 when 'T' then 1 when 'Y' then 1 when 'F' then 0 when 'N' then 0 else null end",
    .set .integer .integerBoolean "abs(sign(?1))",
    .set .long .integerBoolean "abs(sign(?1))",
    .set .ynBoolean .integerBoolean lettersYnToNumber,
    .set .tfBoolean .integerBoolean lettersTfToNumber,
    .set .boolean .integerBoolean nativeToNumber,
    .set .string .ynBoolean
      ("case ?1 when 'T' then 'Y' when 'Y' then 'Y' when 'F' then 'N' " ++
        "when 'N' then 'N' else null end"),
    .set .integerBoolean .ynBoolean "case ?1 when 1 then 'Y' when 0 then 'N' else null end",
    .set .integer .ynBoolean numberToLettersYn,
    .set .long .ynBoolean numberToLettersYn,
    .set .tfBoolean .ynBoolean "case ?1 when 'T' then 'Y' when 'F' then 'N' else null end",
    .set .boolean .ynBoolean "case ?1 when true then 'Y' when false then 'N' else null end",
    .set .string .tfBoolean
      ("case ?1 when 'T' then 'T' when 'Y' then 'T' when 'F' then 'F' " ++
        "when 'N' then 'F' else null end"),
    .set .integerBoolean .tfBoolean "case ?1 when 1 then 'T' when 0 then 'F' else null end",
    .set .integer .tfBoolean numberToLettersTf,
    .set .long .tfBoolean numberToLettersTf,
    .set .ynBoolean .tfBoolean "case ?1 when 'Y' then 'T' when 'N' then 'F' else null end",
    .set .boolean .tfBoolean "case ?1 when true then 'T' when false then 'F' else null end",
    .set .string .boolean
      ("case ?1 when 'T' then true when 'Y' then true when 'F' then false " ++
        "when 'N' then false else null end"),
    .set .integerBoolean .boolean "(?1<>0)",
    .set .integer .boolean "(?1<>0)",
    .set .long .boolean "(?1<>0)",
    .set .ynBoolean .boolean "(?1<>'N')",
    .set .tfBoolean .boolean "(?1<>'F')" ]
where
  lettersYnToNumber := "case ?1 when 'Y' then 1 when 'N' then 0 else null end"
  lettersTfToNumber := "case ?1 when 'T' then 1 when 'F' then 0 else null end"
  nativeToNumber := "case ?1 when true then 1 when false then 0 else null end"
  numberToLettersYn := "case abs(sign(?1)) when 1 then 'Y' when 0 then 'N' else null end"
  numberToLettersTf := "case abs(sign(?1)) when 1 then 'T' when 0 then 'F' else null end"

def standard : CastMatrix := empty.run standardChanges

@[simp] theorem run_nil (m : CastMatrix) : run [] m = m := rfl

@[simp] theorem run_cons (c : Change) (cs : List Change) (m : CastMatrix) :
    run (c :: cs) m = run cs (c.apply m) := rfl

theorem run_append (cs ds : List Change) (m : CastMatrix) :
    run (cs ++ ds) m = run ds (run cs m) := List.foldl_append

end CastMatrix

end PortableSql
