import PortableSql.Event

/-! Lists of bind markers. The number of keys is padded to a power of two, so that few
shapes of a statement occur, but never beyond what a database accepts in one list. A
list that is longer all the same is split into groups. -/

namespace PortableSql

/-- The least power of two that is at least `n`. -/
def ceilingPowerOfTwo (n : Nat) : Nat := if n ≤ 1 then 1 else Nat.pow 2 ((n - 1).log2 + 1)

/-- How many keys one batch binds, and what decided that. -/
inductive BatchSize
  | padded (size : Nat)
  /-- Padding would have passed the ceiling. -/
  | unpadded (keys ceiling : Nat)
  /-- The keys fill the ceiling exactly. -/
  | full (ceiling : Nat)
  /-- There are more keys than the ceiling. -/
  | clamped (keys ceiling : Nat)
  deriving DecidableEq, Repr

namespace BatchSize

def size : BatchSize → Nat
  | padded size => size
  | unpadded keys _ => keys
  | full ceiling => ceiling
  | clamped _ ceiling => ceiling

def events : BatchSize → List Event
  | padded _ | full _ => []
  | unpadded keys ceiling =>
    [⟨.warn, "Padding would exceed the IN-list ceiling; binding keys unpadded",
      [.count "key_count" keys, .count "ceiling" ceiling]⟩]
  | clamped keys ceiling =>
    [⟨.warn, "Key count exceeds the IN-list ceiling; batch clamped",
      [.count "key_count" keys, .count "ceiling" ceiling]⟩]

/-- The batch for keys of `columns` columns. Keys of several columns are not bound as one list,
and a ceiling that is not positive is no ceiling. -/
def choose (columns keys : Nat) (ceiling : Int) : BatchSize :=
  let size := ceilingPowerOfTwo keys
  if 1 < columns ∨ ceiling ≤ 0 then padded size
  else
    let ceiling := ceiling.toNat
    if size < ceiling then padded size
    else if keys < ceiling then unpadded keys ceiling
    else if keys = ceiling then full ceiling
    else clamped keys ceiling

end BatchSize

namespace InList

/-- The sizes of the groups into which a positive ceiling cuts `count` markers, each as large as
the ceiling and the markers that are left allow. -/
def groupSizes (count ceiling : Nat) : List Nat :=
  if 0 < count ∧ 0 < ceiling then
    min ceiling count :: groupSizes (count - ceiling) ceiling
  else []
termination_by count

/-- `column in(?,?)` with `n` markers. -/
def group (column : String) (n : Nat) : String :=
  column ++ " in(" ++ ",".intercalate (List.replicate n "?") ++ ")"

/-- A list of `count` markers, split where a positive ceiling demands it. -/
def render (column : String) (count : Nat) (ceiling : Int) : String :=
  if 0 < ceiling ∧ ceiling < count then
    "(" ++ " or ".intercalate ((groupSizes count ceiling.toNat).map (group column)) ++ ")"
  else group column count

end InList

end PortableSql
