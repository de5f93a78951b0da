import Mathlib.Data.List.Forall2
import PortableSql.Dialect.Basic

/-! Outcomes of steps that may fail. A sequence of steps succeeds when every step does, and a
list is worked through successfully when every member is. A demand on a dialect is a step
without a result. -/

namespace PortableSql

namespace Outcome

variable {α β ε : Type}

theorem bind_eq_ok_iff {x : Except ε α} {f : α → Except ε β} {b : β} :
    (x >>= f) = .ok b ↔ ∃ a, x = .ok a ∧ f a = .ok b := by
  cases x with
  | error e => simp [bind, Except.bind]
  | ok a => simp [bind, Except.bind]

theorem return_eq_ok_iff {a b : α} : (return a : Except ε α) = .ok b ↔ b = a := by
  simp [pure, Except.pure, eq_comm]

theorem mapM_eq_ok_iff {f : α → Except ε β} {as : List α} {bs : List β} :
    as.mapM f = .ok bs ↔ List.Forall₂ (fun a b => f a = .ok b) as bs := by
  induction as generalizing bs with
  | nil => simp [pure, Except.pure, eq_comm]
  | cons a as ih =>
    rw [List.mapM_cons, bind_eq_ok_iff, List.forall₂_cons_left_iff]
    simp only [bind_eq_ok_iff, return_eq_ok_iff, ih]
    constructor
    · rintro ⟨b, hb, rest, hrest, rfl⟩
      exact ⟨b, rest, hb, hrest, rfl⟩
    · rintro ⟨b, rest, hb, hrest, rfl⟩
      exact ⟨b, hb, rest, hrest, rfl⟩

/-- The results are those of the members. -/
theorem mem_iff_of_mapM {f : α → Except ε β} {as : List α} {bs : List β} {b : β}
    (h : as.mapM f = .ok bs) : b ∈ bs ↔ ∃ a ∈ as, f a = .ok b := by
  induction mapM_eq_ok_iff.1 h with
  | nil => simp
  | @cons a₀ b₀ as bs hhead hrest ih =>
    have hown : f a₀ = .ok b ↔ b = b₀ := by rw [hhead, Except.ok.injEq, eq_comm]
    rw [List.mem_cons, List.exists_mem_cons_iff, ih (mapM_eq_ok_iff.2 hrest), hown]

theorem exists_of_mapM {f : α → Except ε β} {as : List α} {bs : List β} {a : α}
    (h : as.mapM f = .ok bs) (ha : a ∈ as) : ∃ b ∈ bs, f a = .ok b := by
  induction mapM_eq_ok_iff.1 h with
  | nil => cases ha
  | @cons a₀ b₀ as bs hhead hrest ih =>
    rcases List.mem_cons.1 ha with rfl | hmem
    · exact ⟨b₀, List.mem_cons_self, hhead⟩
    · obtain ⟨b, hb, hf⟩ := ih (mapM_eq_ok_iff.2 hrest) hmem
      exact ⟨b, List.mem_cons_of_mem _ hb, hf⟩

end Outcome

theorem Dialect.demand_bind_eq_ok_iff {β : Type} {d : Dialect} {condition : Bool}
    {feature : Feature} {rest : Unit → Except Failure β} {b : β} :
    (d.demand condition feature >>= rest) = .ok b ↔ condition = true ∧ rest () = .ok b := by
  rw [Outcome.bind_eq_ok_iff]
  constructor
  · rintro ⟨_, hdemand, h⟩
    exact ⟨demand_eq_ok_iff.1 hdemand, h⟩
  · rintro ⟨hcondition, h⟩
    exact ⟨(), demand_eq_ok_iff.2 hcondition, h⟩

end PortableSql
