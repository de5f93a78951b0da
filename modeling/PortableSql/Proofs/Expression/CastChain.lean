import Mathlib.Tactic.SplitIfs
import PortableSql.Proofs.Expression.CastMeaning

/-! Truth along chains of casts. Numbers hold a truth by being zero or not, the other
representations by one of two spellings. A cast of the standard matrix between any two of the
representations is one of four expressions over the truth that is tested, and each of them
keeps the truth of its operand. So does a chain of casts, however long. -/

namespace PortableSql

namespace CastType

/-- The representations of truths. -/
def truthTypes : List CastType := [boolean, integer, long, integerBoolean, ynBoolean, tfBoolean]

/-- Any integer is a value of the type. -/
def HoldsIntegers (t : CastType) : Prop := t = integer ∨ t = long

instance : DecidablePred HoldsIntegers := fun _ => inferInstanceAs (Decidable (_ ∨ _))

/-- The truth of a value of the type, none for null. -/
def truth? : CastType → SqlValue → Option (Option Bool)
  | boolean, .truth b => some (some b)
  | integer, .number n | long, .number n => some (some (n ≠ 0))
  | integerBoolean, .number 1 => some (some true)
  | integerBoolean, .number 0 => some (some false)
  | ynBoolean, .text ['Y'] => some (some true)
  | ynBoolean, .text ['N'] => some (some false)
  | tfBoolean, .text ['T'] => some (some true)
  | tfBoolean, .text ['F'] => some (some false)
  | _, .null => some none
  | _, _ => none

/-- The value that a cast to the type gives for a truth. -/
def spelling : CastType → Bool → SqlValue
  | boolean, b => .truth b
  | ynBoolean, b => .text [if b then 'Y' else 'N']
  | tfBoolean, b => .text [if b then 'T' else 'F']
  | _, b => .number (if b then 1 else 0)

def spelled (t : CastType) : Option Bool → SqlValue
  | none => .null
  | some b => t.spelling b

/-- The types whose values are numbers. -/
def numberTypes : List CastType := [integer, long, integerBoolean]

/-- Does the database's own cast keep the value? -/
def KeepsValue (source target : CastType) : Prop :=
  source = target ∨ source ∈ numberTypes ∧ target ∈ numberTypes

instance (source target : CastType) : Decidable (KeepsValue source target) :=
  inferInstanceAs (Decidable (_ ∨ _))

variable {t source target : CastType} {v : SqlValue} {truth : Option Bool}

theorem truth?_spelled (ht : t ∈ truthTypes) (truth : Option Bool) :
    t.truth? (t.spelled truth) = some truth := by
  simp only [truthTypes, List.mem_cons, List.not_mem_nil, or_false] at ht
  rcases ht with rfl | rfl | rfl | rfl | rfl | rfl <;> rcases truth with _ | _ | _ <;> rfl

/-- A value with a truth is spelled as casts spell it, unless it is an integer. -/
theorem eq_spelled_or_number (h : t.truth? v = some truth) :
    v = t.spelled truth ∨
      ∃ n : Int, t.HoldsIntegers ∧ v = .number n ∧ truth = some (decide (n ≠ 0)) := by
  unfold truth? at h
  split at h <;> cases h
  · exact .inl rfl
  · exact .inr ⟨_, .inl rfl, rfl, rfl⟩
  · exact .inr ⟨_, .inr rfl, rfl, rfl⟩
  all_goals exact .inl rfl

theorem eq_null_iff (h : t.truth? v = some truth) : v = .null ↔ truth = none := by
  unfold truth? at h
  split at h <;> cases h <;> simp

theorem truth?_number (ht : t.HoldsIntegers) (n : Int) :
    t.truth? (.number n) = some (some (decide (n ≠ 0))) := by
  rcases ht with rfl | rfl <;> rfl

/-- Numbers are spelled alike in all types. -/
theorem spelled_of_numberTypes (ht : t ∈ numberTypes) (truth : Option Bool) :
    t.spelled truth = integer.spelled truth := by
  simp only [numberTypes, List.mem_cons, List.not_mem_nil, or_false] at ht
  rcases ht with rfl | rfl | rfl <;> rfl

theorem HoldsIntegers.mem_numberTypes (ht : t.HoldsIntegers) : t ∈ numberTypes := by
  rcases ht with rfl | rfl <;> decide

/-- A number means the same truth as an integer. -/
theorem truth?_of_mem_numberTypes (hsource : source ∈ numberTypes)
    (htarget : target.HoldsIntegers) (h : source.truth? v = some truth) :
    target.truth? v = some truth := by
  rcases eq_spelled_or_number h with rfl | ⟨n, -, rfl, rfl⟩
  · rw [spelled_of_numberTypes hsource, ← spelled_of_numberTypes htarget.mem_numberTypes]
    refine truth?_spelled ?_ truth
    rcases htarget with rfl | rfl <;> decide
  · exact truth?_number htarget n

theorem equal_spelling (t : CastType) (a b : Bool) :
    (t.spelling a).equal (t.spelling b) = some (.truth (a = b)) := by
  cases t <;> cases a <;> cases b <;> rfl

end CastType

namespace CastExpression

open CastType

variable {source target : CastType} {v : SqlValue} {truth : Option Bool}
  {native : SqlValue → Option SqlValue} {e : CastExpression}

/-- The truth of the operand as a case compares it: an integer as zero or one. -/
def test (source : CastType) : CastExpression :=
  if source.HoldsIntegers then .abs (.sign .operand) else .operand

theorem eval_test (h : source.truth? v = some truth) :
    (test source).eval native v = some (source.spelled truth) := by
  rw [test]
  split
  · rename_i hsource
    rcases eq_spelled_or_number h with rfl | ⟨n, -, rfl, rfl⟩
    · rcases hsource with rfl | rfl <;> rcases truth with _ | _ | _ <;> rfl
    · have hunit : ((Int.sign n).natAbs : Int) = if n ≠ 0 then 1 else 0 := by
        rw [Int.natAbs_sign]
        split <;> simp_all
      rcases hsource with rfl | rfl <;>
        simp only [eval, SqlValue.onNumber, Option.bind_some, hunit, spelled, spelling,
          decide_eq_true_eq]
  · rename_i hsource
    rcases eq_spelled_or_number h with rfl | ⟨n, hn, -⟩
    · rfl
    · exact absurd hn hsource

/-- An inequality with the spelling of false. -/
theorem eval_differs (h : source.truth? v = some truth) :
    (differs operand (source.spelling false)).eval native v = some (boolean.spelled truth) := by
  rcases eq_spelled_or_number h with rfl | ⟨n, hsource, rfl, rfl⟩
  · cases truth with
    | none => rfl
    | some b => 
      simp only [eval, spelled, Option.bind_some, equal_spelling, SqlValue.negate]
      cases b <;> rfl
  · rcases hsource with rfl | rfl <;>
      simp [eval, SqlValue.equal, SqlValue.negate, spelled, spelling]

/-- A case that gives each truth the spelling of another type. -/
theorem eval_simpleCase (h : e.eval native v = some (source.spelled truth)) :
    (simpleCase e [(source.spelling true, target.spelling true),
      (source.spelling false, target.spelling false)] .null).eval native v =
      some (target.spelled truth) := by
  rw [eval, h, Option.bind_some]
  cases truth with
  | none => rfl
  | some b =>
    simp only [spelled, SqlValue.choose, equal_spelling, Option.bind_some]
    cases b <;> rfl

/-- The expression that casts between two representations of truths. -/
def conversion (source target : CastType) : CastExpression :=
  if source = target ∨ source.KeepsValue target ∧ target.HoldsIntegers then .cast .operand
  else if target = .boolean then .differs .operand (source.spelling false)
  else if source.HoldsIntegers ∧ target = .integerBoolean then test source
  else .simpleCase (test source) [(source.spelling true, target.spelling true),
    (source.spelling false, target.spelling false)] .null

end CastExpression

namespace CastMatrix

open CastType CastExpression

variable {source target : CastType} {v : SqlValue} {truth : Option Bool}

/-- The generic cast, as far as it is known to keep the value. -/
def nativeCast (source target : CastType) (v : SqlValue) : Option SqlValue :=
  if source.KeepsValue target then some v else none

/-- The value of a cast by the pattern of the matrix. -/
def castValue (m : CastMatrix) (source target : CastType) (v : SqlValue) : Option SqlValue :=
  (ofPattern? (m.pattern source target)).bind (·.eval (nativeCast source target) v)

/-- The value after casts from type to type. -/
def castAlong (m : CastMatrix) : CastType → List CastType → SqlValue → Option SqlValue
  | _, [], v => some v
  | source, target :: rest, v => (m.castValue source target v).bind (m.castAlong target rest)

theorem ofPattern?_standard (hsource : source ∈ truthTypes) (htarget : target ∈ truthTypes) :
    ofPattern? (standard.pattern source target) = some (conversion source target) := by
  simp only [truthTypes, List.mem_cons, List.not_mem_nil, or_false] at hsource htarget
  -- the characters of each pattern are found by unification, which is faster than decoding it
  rcases hsource with rfl | rfl | rfl | rfl | rfl | rfl <;>
    rcases htarget with rfl | rfl | rfl | rfl | rfl | rfl <;>
    exact (ofPattern?_ofList _).trans (by decide +kernel)

/-- One cast keeps the truth of a value. -/
theorem castValue_truth (hsource : source ∈ truthTypes) (htarget : target ∈ truthTypes)
    (h : source.truth? v = some truth) :
    ∃ w, standard.castValue source target v = some w ∧ target.truth? w = some truth := by
  rw [castValue, ofPattern?_standard hsource htarget, Option.bind_some, conversion]
  split_ifs with hkeeps hboolean hunit
  · have hnative : source.KeepsValue target := hkeeps.elim .inl And.left
    refine ⟨v, if_pos hnative, ?_⟩
    rcases hkeeps with rfl | ⟨rfl | ⟨hnumber, -⟩, hintegers⟩
    · exact h
    · exact h
    · exact truth?_of_mem_numberTypes hnumber hintegers h
  · subst hboolean
    exact ⟨_, eval_differs h, truth?_spelled htarget truth⟩
  · obtain ⟨hintegers, rfl⟩ := hunit
    have hspelled : source.spelled truth = integerBoolean.spelled truth :=
      (spelled_of_numberTypes hintegers.mem_numberTypes truth).trans
        (spelled_of_numberTypes (by decide) truth).symm
    refine ⟨_, eval_test h, ?_⟩
    rw [hspelled]
    exact truth?_spelled htarget truth
  · exact ⟨_, eval_simpleCase (eval_test h), truth?_spelled htarget truth⟩

theorem castAlong_truth (hsource : source ∈ truthTypes) {chain : List CastType}
    (hchain : ∀ t ∈ chain, t ∈ truthTypes) (h : source.truth? v = some truth) :
    ∃ w, standard.castAlong source chain v = some w ∧
      ((source :: chain).getLast (List.cons_ne_nil _ _)).truth? w = some truth := by
  induction chain generalizing source v with
  | nil => exact ⟨v, rfl, h⟩
  | cons target rest ih =>
    obtain ⟨htarget, hrest⟩ := List.forall_mem_cons.1 hchain
    obtain ⟨u, hcast, hu⟩ := castValue_truth hsource htarget h
    obtain ⟨w, halong, hw⟩ := ih htarget hrest hu
    refine ⟨w, ?_, ?_⟩
    · rw [castAlong, hcast, Option.bind_some, halong]
    · rwa [List.getLast_cons_cons]

end CastMatrix

/-- A chain of casts between representations of truths that begins with an integer ends with a
value of the last type. Its truth says whether the integer was zero, and it is null exactly
if there was no integer. -/
theorem cast_chain_keeps_truth (start : CastType) (chain : List CastType) (n : Option Int)
    (hstart : start.HoldsIntegers) (hchain : ∀ t ∈ chain, t ∈ CastType.truthTypes) :
    ∃ v, CastMatrix.standard.castAlong start chain (n.elim .null .number) = some v ∧
      ((start :: chain).getLast (List.cons_ne_nil _ _)).truth? v =
        some (n.map fun k => decide (k ≠ 0)) ∧
      (v = .null ↔ n = none) := by
  have hmem : start ∈ CastType.truthTypes := by rcases hstart with rfl | rfl <;> decide
  have htruth : start.truth? (n.elim .null .number) = some (n.map fun k => decide (k ≠ 0)) := by
    cases n with
    | none => rcases hstart with rfl | rfl <;> rfl
    | some k => exact CastType.truth?_number hstart k
  obtain ⟨v, halong, hv⟩ := CastMatrix.castAlong_truth hmem hchain htruth
  refine ⟨v, halong, hv, ?_⟩
  rw [CastType.eq_null_iff hv, Option.map_eq_none_iff]

/-- A negative number through letters and back, by way of a native truth. -/
theorem negative_number_through_letters :
    ∃ v, CastMatrix.standard.castAlong .long
        [.tfBoolean, .boolean, .ynBoolean, .integerBoolean, .integer] (.number (-7)) = some v ∧
      CastType.integer.truth? v = some (some true) ∧ v ≠ .null := by
  have hchain : ∀ t ∈ [CastType.tfBoolean, .boolean, .ynBoolean, .integerBoolean, .integer],
      t ∈ CastType.truthTypes := by decide
  obtain ⟨v, halong, htruth, hnull⟩ :=
    cast_chain_keeps_truth .long _ (some (-7)) (.inr rfl) hchain
  exact ⟨v, halong, htruth, fun h => absurd (hnull.1 h) (by decide)⟩

end PortableSql
