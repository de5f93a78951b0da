import PortableSql.ColumnType.NameTable

/-! Look-ups in a table of type names. What a request is answered with is said of any
collection of names: the pattern of the smallest ceiling that holds the capacity, else
the pattern without a ceiling, else nothing. A look-up gives such an answer for the
names in the table, and where a code has at most one pattern for each ceiling there is
no other. -/

namespace PortableSql

/-- The name has a ceiling that holds what is asked for, the length or else the precision. -/
def TypeName.Holds (n : TypeName) (size : Size) : Prop :=
  ∃ capacity ∈ (size.length <|> size.precision), ∃ ceiling ∈ n.ceiling, capacity ≤ ceiling

namespace TypeNameTable

/-- The pattern that answers a request for a code when just the names of a collection are
registered. -/
inductive Answer (present : TypeName → Prop) (code : TypeCode) (size : Size) : Option String → Prop
  | tightest {ceiling : Nat} {pattern : String} (h : present ⟨code, some ceiling, pattern⟩)
      (holds : TypeName.Holds ⟨code, some ceiling, pattern⟩ size)
      (least : ∀ c p, present ⟨code, some c, p⟩ → TypeName.Holds ⟨code, some c, p⟩ size →
        ceiling ≤ c) : Answer present code size (some pattern)
  | unbounded {pattern : String} (h : present ⟨code, none, pattern⟩)
      (short : ∀ c p, present ⟨code, some c, p⟩ → ¬ TypeName.Holds ⟨code, some c, p⟩ size) :
      Answer present code size (some pattern)
  | nothing (absent : ∀ p, ¬ present ⟨code, none, p⟩)
      (short : ∀ c p, present ⟨code, some c, p⟩ → ¬ TypeName.Holds ⟨code, some c, p⟩ size) :
      Answer present code size none

/-- At most one pattern for each code and ceiling. -/
def Unambiguous (present : TypeName → Prop) : Prop :=
  ∀ m n, present m → present n → m.code = n.code → m.ceiling = n.ceiling → m = n

variable {t : TypeNameTable} {code : TypeCode} {size : Size} {present : TypeName → Prop}

theorem Answer.unique (hu : Unambiguous present) {p q : Option String}
    (hp : Answer present code size p) (hq : Answer present code size q) : p = q := by
  cases hp with
  | tightest h holds least =>
    cases hq with
    | tightest h' holds' least' =>
      obtain rfl := Nat.le_antisymm (least _ _ h' holds') (least' _ _ h holds)
      cases hu _ _ h h' rfl rfl
      rfl
    | unbounded h' short => exact absurd holds (short _ _ h)
    | nothing absent short => exact absurd holds (short _ _ h)
  | unbounded h short =>
    cases hq with
    | tightest h' holds' least' => exact absurd holds' (short _ _ h')
    | unbounded h' short' =>
      cases hu _ _ h h' rfl rfl
      rfl
    | nothing absent short' => exact absurd h (absent _)
  | nothing absent short =>
    cases hq with
    | tightest h' holds' least' => exact absurd holds' (short _ _ h')
    | unbounded h' short' => exact absurd h' (absent _)
    | nothing => rfl

section Smallest

variable {l : List (Nat × String)} {x y : Nat × String}

/-- The smallest entry is the first one or the smallest of the others. -/
theorem smallest?_cons_eq_some (h : smallest? (x :: l) = some y) :
    (y = x ∧ ∀ z ∈ smallest? l, x.1 ≤ z.1) ∨ (smallest? l = some y ∧ y.1 < x.1) := by
  rw [smallest?] at h
  cases hrest : smallest? l with
  | none =>
    rw [hrest] at h
    exact .inl ⟨(Option.some.inj h).symm, by simp⟩
  | some z =>
    simp only [hrest] at h
    by_cases hlt : z.1 < x.1
    · rw [if_pos hlt] at h
      obtain rfl := Option.some.inj h
      exact .inr ⟨rfl, hlt⟩
    · rw [if_neg hlt] at h
      exact .inl ⟨(Option.some.inj h).symm, by simpa using hlt⟩

theorem smallest?_eq_none : smallest? l = none ↔ l = [] := by
  cases l with
  | nil => simp [smallest?]
  | cons x rest =>
    simp only [smallest?, reduceCtorEq, iff_false]
    split
    · split <;> simp
    · simp

theorem smallest?_mem (h : smallest? l = some y) : y ∈ l := by
  induction l with
  | nil => simp [smallest?] at h
  | cons x rest ih =>
    rcases smallest?_cons_eq_some h with ⟨rfl, -⟩ | ⟨hrest, -⟩
    · exact List.mem_cons_self
    · exact List.mem_cons_of_mem _ (ih hrest)

theorem smallest?_le (h : smallest? l = some y) : ∀ z ∈ l, y.1 ≤ z.1 := by
  induction l generalizing y with
  | nil => simp
  | cons x rest ih =>
    rcases smallest?_cons_eq_some h with ⟨rfl, hbelow⟩ | ⟨hrest, hlt⟩
    · refine List.forall_mem_cons.2 ⟨Nat.le_refl _, fun z hz => ?_⟩
      cases hs : smallest? rest with
      | none =>
        rw [smallest?_eq_none.1 hs] at hz
        exact absurd hz List.not_mem_nil
      | some w => exact Nat.le_trans (hbelow w hs) (ih hs z hz)
    · exact List.forall_mem_cons.2 ⟨Nat.le_of_lt hlt, ih hrest⟩

end Smallest

theorem mem_sufficient {capacity ceiling : Nat} {pattern : String} :
    (ceiling, pattern) ∈ t.sufficient code capacity ↔
      ⟨code, some ceiling, pattern⟩ ∈ t.registered ∧ capacity ≤ ceiling := by
  rw [sufficient, List.mem_filterMap]
  constructor
  · rintro ⟨⟨c, bound, p⟩, hmem, h⟩
    cases bound with
    | none => simp at h
    | some bound =>
      simp only [Option.ite_none_right_eq_some, Option.some.injEq, Prod.mk.injEq] at h
      obtain ⟨⟨rfl, hle⟩, rfl, rfl⟩ := h
      exact ⟨hmem, hle⟩
  · rintro ⟨hmem, hle⟩
    exact ⟨_, hmem, by simp [hle]⟩

theorem unbounded?_eq_some {pattern : String} (h : t.unbounded? code = some pattern) :
    ⟨code, none, pattern⟩ ∈ t.registered := by
  simp only [unbounded?, Option.map_eq_some_iff] at h
  obtain ⟨⟨c, bound, p⟩, hfind, rfl⟩ := h
  have hn := List.find?_some hfind
  simp only [Bool.and_eq_true, decide_eq_true_eq] at hn
  obtain ⟨rfl, rfl⟩ := hn
  exact List.mem_of_find?_eq_some hfind

theorem unbounded?_eq_none (h : t.unbounded? code = none) (pattern : String) :
    ⟨code, none, pattern⟩ ∉ t.registered := by
  simp only [unbounded?, Option.map_eq_none_iff, List.find?_eq_none] at h
  intro hmem
  simpa using h _ hmem

/-- What a look-up without a sufficient ceiling comes to. -/
theorem answer_unbounded?
    (short : ∀ c p, ⟨code, some c, p⟩ ∈ t.registered →
      ¬ TypeName.Holds ⟨code, some c, p⟩ size) :
    Answer (· ∈ t.registered) code size (t.unbounded? code) := by
  cases h : t.unbounded? code with
  | none => exact .nothing (unbounded?_eq_none h) short
  | some pattern => exact .unbounded (unbounded?_eq_some h) short

theorem answer_pattern? (t : TypeNameTable) (code : TypeCode) (size : Size) :
    Answer (· ∈ t.registered) code size (t.pattern? code size) := by
  rw [pattern?, Size.capacity]
  cases hcap : (size.length <|> size.precision) with
  | none => exact answer_unbounded? fun c p _ => by simp [TypeName.Holds, hcap]
  | some capacity =>
    have hholds : ∀ c p, TypeName.Holds ⟨code, some c, p⟩ size ↔ capacity ≤ c := by
      simp [TypeName.Holds, hcap]
    cases hs : smallest? (t.sufficient code capacity) with
    | none =>
      simp only [Option.bind_some, hs, Option.map_none]
      refine answer_unbounded? fun c p hmem hle => ?_
      have := mem_sufficient.2 ⟨hmem, (hholds c p).1 hle⟩
      rw [smallest?_eq_none.1 hs] at this
      exact List.not_mem_nil this
    | some x =>
      obtain ⟨hmem, hle⟩ := mem_sufficient.1 (smallest?_mem hs)
      simp only [Option.bind_some, hs, Option.map_some]
      refine .tightest hmem ((hholds _ _).2 hle) fun c p hc hcle => ?_
      exact smallest?_le hs _ (mem_sufficient.2 ⟨hc, (hholds c p).1 hcle⟩)

end TypeNameTable

end PortableSql
