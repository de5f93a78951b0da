import Mathlib.Tactic.SplitIfs
import PortableSql.Locking.Clauses

/-! Lock requests that coexist in one statement. The mode that decides is the first of the
strongest ones, where the mode of the statement stands before those of the aliases. All modes
of the strength of a write or more take a clause, but for the write itself, which shares its
strength with the upgrades. So the clause is missing only where a write decides. -/

namespace PortableSql

namespace LockMode

/-- The mode is as strong as every other in the list, and stronger than those before it. -/
def FirstStrongest (modes : List LockMode) (m : LockMode) : Prop :=
  ∃ before after, modes = before ++ m :: after ∧ (∀ x ∈ before, x.level < m.level) ∧
    ∀ x ∈ after, x.level ≤ m.level

namespace FirstStrongest

variable {modes : List LockMode} {a m w : LockMode}

theorem level_le (h : FirstStrongest modes w) (hm : m ∈ modes) : m.level ≤ w.level := by
  obtain ⟨before, after, rfl, hbefore, hafter⟩ := h
  rcases List.mem_append.1 hm with hm | hm
  · exact Nat.le_of_lt (hbefore m hm)
  · rcases List.mem_cons.1 hm with rfl | hm
    · exact Nat.le_refl _
    · exact hafter m hm

/-- The one mode cannot stand before the other, or it would be weaker and yet as strong. -/
theorem eq_of_split {between after after' : List LockMode}
    (heq : m :: after = between ++ w :: after') (hafter : ∀ x ∈ after, x.level ≤ m.level)
    (hbetween : ∀ x ∈ between, x.level < w.level) : m = w := by
  cases between with
  | nil => exact (List.cons.inj heq).1
  | cons x between =>
    obtain ⟨rfl, rfl⟩ := List.cons.inj heq
    have hlt := hbetween m (by simp)
    have hle := hafter w (by simp)
    omega

theorem unique (hm : FirstStrongest modes m) (hw : FirstStrongest modes w) : m = w := by
  obtain ⟨before, after, rfl, hbefore, hafter⟩ := hm
  obtain ⟨before', after', heq, hbefore', hafter'⟩ := hw
  rcases List.append_eq_append_iff.1 heq with ⟨between, rfl, hrest⟩ | ⟨between, rfl, hrest⟩
  · exact eq_of_split hrest hafter fun x hx => hbefore' x (List.mem_append_right _ hx)
  · exact (eq_of_split hrest hafter' fun x hx => hbefore x (List.mem_append_right _ hx)).symm

/-- Two leading modes may be replaced by the stronger of them. -/
theorem of_stronger (h : FirstStrongest (m.stronger a :: modes) w) :
    FirstStrongest (m :: a :: modes) w := by
  have hlevel := level_stronger m a
  obtain ⟨before, after, heq, hbefore, hafter⟩ := h
  cases before with
  | nil =>
    obtain ⟨rfl, rfl⟩ := List.cons.inj heq
    by_cases hlt : m.level < a.level
    · have hw : m.stronger a = a := if_pos hlt
      rw [hw] at hafter ⊢
      exact ⟨[m], modes, rfl, by simpa using hlt, hafter⟩
    · have hw : m.stronger a = m := if_neg hlt
      rw [hw] at hafter ⊢
      exact ⟨[], a :: modes, rfl, by simp, List.forall_mem_cons.2 ⟨by omega, hafter⟩⟩
  | cons x before =>
    obtain ⟨rfl, rfl⟩ := List.cons.inj heq
    obtain ⟨hstronger, hbefore⟩ := List.forall_mem_cons.1 hbefore
    refine ⟨m :: a :: before, after, rfl, ?_, hafter⟩
    exact List.forall_mem_cons.2 ⟨by omega, List.forall_mem_cons.2 ⟨by omega, hbefore⟩⟩

end FirstStrongest

theorem firstStrongest_foldl (m : LockMode) (modes : List LockMode) :
    FirstStrongest (m :: modes) (modes.foldl stronger m) := by
  induction modes generalizing m with
  | nil => exact ⟨[], [], rfl, by simp, by simp⟩
  | cons a modes ih => exact (ih (m.stronger a)).of_stronger

end LockMode

namespace LockRequest

/-- All modes asked for, that of the statement first and the others by their aliases. -/
def requested (r : LockRequest) : List LockMode := r.mode :: r.aliases.toList.map Prod.snd

theorem mem_requested {r : LockRequest} {m : LockMode} :
    m ∈ r.requested ↔ r.mode = m ∨ ∃ name : String, r.aliases[name]? = some m := by
  simp [requested, Std.TreeMap.mem_toList_iff_getElem?_eq_some, eq_comm]

theorem effectiveMode_eq_iff {r : LockRequest} {m : LockMode} :
    r.effectiveMode = m ↔ LockMode.FirstStrongest r.requested m := by
  have hfold : r.effectiveMode = (r.aliases.toList.map Prod.snd).foldl LockMode.stronger r.mode :=
    List.foldl_map.symm
  have hfirst := LockMode.firstStrongest_foldl r.mode (r.aliases.toList.map Prod.snd)
  rw [← hfold] at hfirst
  exact ⟨fun h => h ▸ hfirst, hfirst.unique⟩

end LockRequest

namespace LockClauses

variable {c : LockClauses} {clause : String} {timeout : LockTimeout}

/-- The text is the clause with something behind it, or empty where the clause is. -/
def Continues (clause text : String) : Prop :=
  ∃ rest, text = clause ++ rest ∧ (clause = "" → rest = "")

theorem continues_self (clause : String) : Continues clause clause := ⟨"", by simp, fun _ => rfl⟩

theorem continues_append (hclause : clause ≠ "") (rest : String) :
    Continues clause (clause ++ rest) := ⟨rest, rfl, fun h => absurd h hclause⟩

theorem continues_suffixed (clause : String) (suffix : Option String) :
    Continues clause (suffixed clause suffix) := by
  rw [suffixed]
  split_ifs with hclause
  · rw [hclause]
    exact continues_self ""
  · exact continues_append hclause _

theorem continues_timed (c : LockClauses) (clause : String) (timeout : LockTimeout) :
    Continues clause (c.timed clause timeout) := by
  rw [timed]
  split_ifs with hclause
  · rw [hclause]
    exact continues_self ""
  · exact continues_suffixed _ _
  · exact continues_suffixed _ _
  · cases c.wait with
    | none => exact continues_self clause
    | some wait =>
      change Continues clause (clause ++ wait ++ toString (secondsOfMillis timeout))
      rw [String.append_assoc]
      exact continues_append hclause _
  · exact continues_self clause

theorem Continues.ne_empty {text : String} (h : Continues clause text) (hclause : clause ≠ "") :
    text ≠ "" := by
  obtain ⟨rest, rfl, -⟩ := h
  simp [hclause]

/-- The clauses that lock rows are there. -/
structure Present (c : LockClauses) : Prop where
  forUpdate : c.forUpdate ≠ ""
  forShare : ∀ share ∈ c.forShare, share ≠ ""

theorem present_standard : standard.Present := ⟨by decide, by decide⟩

theorem Present.shareClause (h : c.Present) : c.shareClause ≠ "" := by
  rw [LockClauses.shareClause]
  cases hshare : c.forShare with
  | none => exact h.forUpdate
  | some share => exact h.forShare share hshare

/-- A mode takes a clause if it is as strong as a write without being one. -/
theorem Present.fragment_ne_empty_iff (h : c.Present) {m : LockMode} :
    c.fragment m timeout ≠ "" ↔ LockMode.write.level ≤ m.level ∧ m ≠ .write := by
  cases m with
  | none | read | optimistic | optimisticForceIncrement | write =>
    exact iff_of_false (fun hne => hne rfl) (by decide)
  | upgrade => exact iff_of_true h.forUpdate (by decide)
  | upgradeNowait | upgradeSkipLocked | force | pessimisticForceIncrement =>
    exact iff_of_true ((continues_suffixed _ _).ne_empty h.forUpdate) (by decide)
  | pessimisticRead =>
    exact iff_of_true ((continues_timed _ _ _).ne_empty h.shareClause) (by decide)
  | pessimisticWrite =>
    exact iff_of_true ((continues_timed _ _ _).ne_empty h.forUpdate) (by decide)

end LockClauses

/-- Where a request asks for a mode that takes a clause, the clause for the whole request is
there, unless a write is the first of the strongest modes asked for. -/
theorem fragmentFor_ne_empty_iff (c : LockClauses) (r : LockRequest) (hclauses : c.Present)
    (hlocks : c.fragment r.mode r.timeout ≠ "" ∨
      ∃ (name : String) (mode : LockMode), r.aliases[name]? = some mode ∧
        c.fragment mode r.timeout ≠ "") :
    c.fragmentFor r ≠ "" ↔ ¬ LockMode.FirstStrongest r.requested .write := by
  obtain ⟨mode, hmode, hfragment⟩ :
      ∃ mode ∈ r.requested, c.fragment mode r.timeout ≠ "" := by
    rcases hlocks with h | ⟨name, mode, hname, h⟩
    · exact ⟨r.mode, LockRequest.mem_requested.2 (.inl rfl), h⟩
    · exact ⟨mode, LockRequest.mem_requested.2 (.inr ⟨name, hname⟩), h⟩
  have hstrong := (hclauses.fragment_ne_empty_iff.1 hfragment).1
  have hle : mode.level ≤ r.effectiveMode.level :=
    (LockRequest.effectiveMode_eq_iff.1 rfl).level_le hmode
  rw [LockClauses.fragmentFor, hclauses.fragment_ne_empty_iff,
    ← LockRequest.effectiveMode_eq_iff]
  exact and_iff_right (Nat.le_trans hstrong hle)

/-- A shared lock on one alias is stronger than a write, whatever stands before it. -/
theorem shared_lock_passes_write :
    let r := (LockRequest.withAlias { mode := .write } "a" .upgrade).withAlias "b" .pessimisticRead
    LockClauses.standard.Present ∧
      LockClauses.standard.fragment .pessimisticRead r.timeout = " for update" ∧
      (LockClauses.standard.fragmentFor r ≠ "" ↔
        ¬ LockMode.FirstStrongest r.requested .write) := by
  intro r
  have halias : r.aliases["b"]? = some .pessimisticRead := by decide +kernel
  have hfragment : LockClauses.standard.fragment .pessimisticRead r.timeout = " for update" := by
    decide +kernel
  refine ⟨LockClauses.present_standard, hfragment, ?_⟩
  exact fragmentFor_ne_empty_iff _ r LockClauses.present_standard
    (.inr ⟨"b", .pessimisticRead, halias, by rw [hfragment]; decide⟩)

/-- A statement that writes and upgrades one alias takes no clause. -/
theorem upgrade_lost_behind_write :
    let r := LockRequest.withAlias { mode := .write } "b" .upgrade
    LockClauses.standard.Present ∧ r.aliases["b"]? = some .upgrade ∧
      LockClauses.standard.fragment .upgrade r.timeout = " for update" ∧
      LockClauses.standard.fragmentFor r = "" := by
  intro r
  exact ⟨LockClauses.present_standard, by decide +kernel, rfl, by decide +kernel⟩

end PortableSql
