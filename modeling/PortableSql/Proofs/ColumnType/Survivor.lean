import Mathlib.Data.Set.Card
import PortableSql.Proofs.ColumnType.NameTable

/-! What a history of changes leaves registered. A registration survives when no later
change registers another pattern for its code and ceiling or drops its code. A table
built from nothing holds just the survivors, never two for one code and ceiling, so its
look-ups, the codes it knows and its size can be read off the history. -/

namespace PortableSql.TypeNameTable

namespace Change

/-- The name that a change registers. -/
def registration? : Change → Option TypeName
  | register code pattern => some ⟨code, none, pattern⟩
  | registerUpTo code ceiling pattern => some ⟨code, some ceiling, pattern⟩
  | unregister _ => none

/-- The change takes a name registered before it out of the table. -/
def Removes : Change → TypeName → Prop
  | register code _, n => n.code = code ∧ n.ceiling = none
  | registerUpTo code ceiling _, n => n.code = code ∧ n.ceiling = some ceiling
  | unregister code, n => n.code = code

end Change

/-- The name is registered by the history and not removed afterwards. -/
def Survives (changes : List Change) (n : TypeName) : Prop :=
  ∃ before change after, changes = before ++ change :: after ∧
    change.registration? = some n ∧ ∀ later ∈ after, ¬ later.Removes n

variable {t : TypeNameTable} {c : Change} {changes : List Change} {n : TypeName}

theorem not_survives_nil : ¬ Survives [] n := by
  rintro ⟨before, change, after, h, -⟩
  exact List.append_ne_nil_of_right_ne_nil before (List.cons_ne_nil change after) h.symm

theorem survives_cons :
    Survives (c :: changes) n ↔
      (c.registration? = some n ∧ ∀ later ∈ changes, ¬ later.Removes n) ∨ Survives changes n := by
  constructor
  · rintro ⟨before, change, after, h, hreg, hlater⟩
    cases before with
    | nil =>
      obtain ⟨rfl, rfl⟩ := List.cons.inj h
      exact .inl ⟨hreg, hlater⟩
    | cons b before =>
      obtain ⟨rfl, rfl⟩ := List.cons.inj h
      exact .inr ⟨before, change, after, rfl, hreg, hlater⟩
  · rintro (⟨hreg, hlater⟩ | ⟨before, change, after, rfl, hreg, hlater⟩)
    · exact ⟨[], c, changes, rfl, hreg, hlater⟩
    · exact ⟨c :: before, change, after, rfl, hreg, hlater⟩

/-- One change keeps what it does not remove, and adds what it registers. -/
theorem mem_apply :
    n ∈ (c.apply t).registered ↔
      c.registration? = some n ∨ (n ∈ t.registered ∧ ¬ c.Removes n) := by
  cases c with
  | register code pattern =>
    simp [Change.apply, insert, Change.registration?, Change.Removes, eq_comm (a := n),
      imp_iff_not_or]
  | registerUpTo code ceiling pattern =>
    simp [Change.apply, insert, Change.registration?, Change.Removes, eq_comm (a := n),
      imp_iff_not_or]
  | unregister code => simp [Change.apply, erase, Change.registration?, Change.Removes]

theorem mem_run :
    n ∈ (t.run changes).registered ↔
      Survives changes n ∨ (n ∈ t.registered ∧ ∀ c ∈ changes, ¬ c.Removes n) := by
  induction changes generalizing t with
  | nil => simp [not_survives_nil]
  | cons c changes ih =>
    rw [run_cons, ih, mem_apply, survives_cons, List.forall_mem_cons]
    tauto

/-- What holds of all names of a table and of all that are registered holds afterwards. -/
theorem forall_registered_run {P : TypeName → Prop} (htable : ∀ n ∈ t.registered, P n)
    (hchanges : ∀ c ∈ changes, ∀ n ∈ c.registration?, P n) :
    ∀ n ∈ (t.run changes).registered, P n := by
  intro n hn
  rcases mem_run.1 hn with ⟨before, c, after, rfl, hreg, -⟩ | ⟨hmem, -⟩
  · exact hchanges c (by simp) n hreg
  · exact htable n hmem

theorem mem_run_empty : n ∈ (empty.run changes).registered ↔ Survives changes n := by
  simp [mem_run, empty]

/-- No two registered names share code and ceiling. -/
def Distinct (t : TypeNameTable) : Prop :=
  t.registered.Pairwise fun m n => ¬ (m.code = n.code ∧ m.ceiling = n.ceiling)

theorem Distinct.insert (h : t.Distinct) (n : TypeName) : (t.insert n).Distinct := by
  refine List.pairwise_cons.2 ⟨fun m hm => ?_, h.filter _⟩
  have hkey := (List.mem_filter.1 hm).2
  simp only [Bool.not_eq_true', Bool.and_eq_false_iff, decide_eq_false_iff_not] at hkey
  rintro ⟨hcode, hceiling⟩
  exact hkey.elim (· hcode.symm) (· hceiling.symm)

theorem Distinct.apply (h : t.Distinct) (c : Change) : (c.apply t).Distinct := by
  cases c with
  | register code pattern => exact h.insert _
  | registerUpTo code ceiling pattern => exact h.insert _
  | unregister code => exact h.filter _

theorem Distinct.run (h : t.Distinct) (changes : List Change) : (t.run changes).Distinct := by
  induction changes generalizing t with
  | nil => exact h
  | cons c changes ih => exact ih (h.apply c)

theorem distinct_empty : empty.Distinct := List.Pairwise.nil

theorem Distinct.nodup (h : t.Distinct) : t.registered.Nodup :=
  h.imp fun hkey heq => hkey ⟨congrArg _ heq, congrArg _ heq⟩

theorem Distinct.unambiguous (h : t.Distinct) : Unambiguous (· ∈ t.registered) := by
  intro m n hm hn hcode hceiling
  by_contra hne
  have hsymm : Std.Symm fun m n : TypeName => ¬ (m.code = n.code ∧ m.ceiling = n.ceiling) :=
    ⟨fun _ _ hkey heq => hkey ⟨heq.1.symm, heq.2.symm⟩⟩
  exact h.forall hm hn hne ⟨hcode, hceiling⟩

theorem size_eq_encard (h : t.Distinct) : (t.size : ℕ∞) = {n | n ∈ t.registered}.encard := by
  rw [size, ← List.toFinset_card_of_nodup h.nodup, ← Set.encard_coe_eq_coe_finsetCard]
  simp

/-- A look-up is answered by what survives, a code is known when something survives for it,
and the size is the number of survivors. -/
theorem run_empty_reads_history (changes : List Change) (code : TypeCode) (size : Size) :
    (∀ answer, (empty.run changes).get? code size = answer ↔
      ∃ pattern, Answer (Survives changes) code size pattern ∧ answer = pattern.map size.fill) ∧
    ((empty.run changes).containsCode code = true ↔ ∃ n, Survives changes n ∧ n.code = code) ∧
    ((empty.run changes).size : ℕ∞) = {n | Survives changes n}.encard := by
  have hdistinct : (empty.run changes).Distinct := distinct_empty.run changes
  have hmem : (· ∈ (empty.run changes).registered) = Survives changes :=
    funext fun n => propext mem_run_empty
  have hanswer := answer_pattern? (empty.run changes) code size
  have hunique := hdistinct.unambiguous
  rw [hmem] at hanswer hunique
  refine ⟨fun answer => ⟨?_, ?_⟩, ?_, ?_⟩
  · rintro rfl
    exact ⟨_, hanswer, rfl⟩
  · rintro ⟨pattern, hp, rfl⟩
    rw [get?, hanswer.unique hunique hp]
  · simp [containsCode, mem_run_empty]
  · simp only [size_eq_encard hdistinct, mem_run_empty]

end PortableSql.TypeNameTable
