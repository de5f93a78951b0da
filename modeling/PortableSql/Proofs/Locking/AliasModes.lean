import Mathlib.Data.String.Basic
import Mathlib.Order.Bounds.Basic
import PortableSql.Proofs.Locking.Coexistence

/-! Which of the requested modes decides, and that the order of the requests does not. The mode
of the statement decides if no alias asks for a stronger one, and otherwise the mode of the
smallest alias among those with the strongest modes. This says nothing of how the request was
put together: an alias has the mode that was asked for last, so requests for different aliases
may be made in any order, and one that is made again replaces the earlier one. -/

namespace PortableSql

namespace LockRequest

/-- Ask for modes on aliases, one after the other. -/
def withAliases (r : LockRequest) (asked : List (String × LockMode)) : LockRequest :=
  asked.foldl (fun r entry => r.withAlias entry.1 entry.2) r

/-- The mode that decides a request: that of the statement if none is stronger, or else that of
the first alias, in the order of names, with the strongest mode. -/
inductive Decides (r : LockRequest) : LockMode → Prop
  | statement (strongest : ∀ (other : String) (m : LockMode), r.aliases[other]? = some m →
      m.level ≤ r.mode.level) : Decides r r.mode
  | named {name : String} {mode : LockMode} (asked : r.aliases[name]? = some mode)
      (rises : r.mode.level < mode.level)
      (strongest : ∀ (other : String) (m : LockMode), r.aliases[other]? = some m →
        m.level ≤ mode.level)
      (smallest : ∀ (other : String) (m : LockMode), r.aliases[other]? = some m →
        m.level = mode.level → name ≤ other) : Decides r mode

variable {r s : LockRequest} {asked later : List (String × LockMode)} {name : String}
  {m w : LockMode}

section Decision

theorem Decides.unique (hm : r.Decides m) (hw : r.Decides w) : m = w := by
  cases hm with
  | statement strongest =>
    cases hw with
    | statement => rfl
    | named asked rises => exact absurd (strongest _ _ asked) (Nat.not_le_of_lt rises)
  | @named name m asked rises strongest smallest =>
    cases hw with
    | statement strongest' => exact absurd (strongest' _ _ asked) (Nat.not_le_of_lt rises)
    | @named name' w asked' rises' strongest' smallest' =>
      have hlevel : m.level = w.level :=
        Nat.le_antisymm (strongest' _ _ asked) (strongest _ _ asked')
      have hname : name = name' :=
        le_antisymm (smallest _ _ asked' hlevel.symm) (smallest' _ _ asked hlevel)
      rw [hname] at asked
      exact Option.some.inj (asked.symm.trans asked')

/-- The entries stand in the order of their names. -/
theorem toList_pairwise (r : LockRequest) :
    r.aliases.toList.Pairwise fun a b => a.1 < b.1 :=
  Std.TreeMap.ordered_keys_toList.imp compare_lt_iff_lt.1

theorem mem_toList : (name, m) ∈ r.aliases.toList ↔ r.aliases[name]? = some m :=
  Std.TreeMap.mem_toList_iff_getElem?_eq_some

/-- An entry that does not stand in front of another one has no smaller name. -/
theorem mem_front_or_le {front rest : List (String × LockMode)} {other : String}
    (hlist : r.aliases.toList = front ++ (name, m) :: rest) (h : r.aliases[other]? = some w) :
    (other, w) ∈ front ∨ name ≤ other := by
  have hordered := r.toList_pairwise
  have hmem := mem_toList.2 h
  rw [hlist, List.pairwise_append, List.pairwise_cons] at hordered
  rw [hlist, List.mem_append, List.mem_cons] at hmem
  rcases hmem with hfront | heq | hrest
  · exact .inl hfront
  · exact .inr (le_of_eq (Prod.mk.inj heq).1.symm)
  · exact .inr (le_of_lt (hordered.2.1.1 _ hrest))

theorem decides_effectiveMode (r : LockRequest) : r.Decides r.effectiveMode := by
  have hfirst := effectiveMode_eq_iff.1 (Eq.refl r.effectiveMode)
  have hstrongest : ∀ (other : String) (m : LockMode), r.aliases[other]? = some m →
      m.level ≤ r.effectiveMode.level := fun other m h =>
    hfirst.level_le (mem_requested.2 (.inr ⟨other, h⟩))
  obtain ⟨before, after, hsplit, hbefore, -⟩ := hfirst
  cases before with
  | nil =>
    have hmode : r.mode = r.effectiveMode := (List.cons.inj hsplit).1
    rw [← hmode] at hstrongest ⊢
    exact .statement hstrongest
  | cons first before =>
    obtain ⟨hmode, hmodes⟩ := List.cons.inj hsplit
    -- the modes in front of the one that decides belong to the entries in front of its entry
    obtain ⟨front, back, hlist, hfront, hback⟩ := List.map_eq_append_iff.1 hmodes
    obtain ⟨⟨name, _⟩, rest, rfl, rfl, -⟩ := List.map_eq_cons_iff.1 hback
    have hasked : r.aliases[name]? = some r.effectiveMode := mem_toList.1 (by simp [hlist])
    have hrises : r.mode.level < r.effectiveMode.level := hbefore _ (by simp [hmode])
    refine .named hasked hrises hstrongest fun other m hm hlevel => ?_
    rcases mem_front_or_le hlist hm with hmem | hle
    · have hlt := hbefore m (List.mem_cons_of_mem _ (hfront ▸ List.mem_map_of_mem hmem))
      omega
    · exact hle

theorem decides_iff : r.effectiveMode = m ↔ r.Decides m :=
  ⟨fun h => h ▸ r.decides_effectiveMode, r.decides_effectiveMode.unique⟩

theorem isGreatest_level (r : LockRequest) :
    IsGreatest {level | ∃ m ∈ r.requested, m.level = level} r.effectiveMode.level := by
  have hfirst := effectiveMode_eq_iff.1 (Eq.refl r.effectiveMode)
  refine ⟨⟨r.effectiveMode, ?_, rfl⟩, ?_⟩
  · obtain ⟨before, after, hsplit, -, -⟩ := hfirst
    rw [hsplit]
    simp
  · rintro _ ⟨m, hm, rfl⟩
    exact hfirst.level_le hm

end Decision

section Requests

@[simp] theorem withAliases_nil (r : LockRequest) : r.withAliases [] = r := rfl

@[simp] theorem withAliases_cons (r : LockRequest) (name : String) (m : LockMode) :
    r.withAliases ((name, m) :: asked) = (r.withAlias name m).withAliases asked := rfl

theorem getElem?_withAlias (r : LockRequest) (name other : String) (m : LockMode) :
    (r.withAlias name m).aliases[other]? = if name = other then some m else r.aliases[other]? := by
  rw [withAlias, Std.TreeMap.getElem?_insert]
  simp only [Std.LawfulEqCmp.compare_eq_iff_eq]

theorem lookup_pair (name other : String) (m : LockMode) :
    [(name, m)].lookup other = if name = other then some m else none := by
  by_cases h : name = other
  · simp [h]
  · have hbeq : (other == name) = false := beq_false_of_ne (Ne.symm h)
    simp [List.lookup_cons, h, hbeq]

/-- An alias has the mode that was asked for last. -/
theorem getElem?_withAliases (r : LockRequest) (asked : List (String × LockMode)) (name : String) :
    (r.withAliases asked).aliases[name]? = (asked.reverse.lookup name).or r.aliases[name]? := by
  induction asked generalizing r with
  | nil => rfl
  | cons entry asked ih =>
    obtain ⟨first, m⟩ := entry
    rw [withAliases_cons, ih, getElem?_withAlias, List.reverse_cons, List.lookup_append,
      Option.or_assoc, lookup_pair]
    split_ifs with h
    · simp
    · simp

/-- The requests ask for the same modes and wait alike. -/
structure SameAs (r s : LockRequest) : Prop where
  mode : r.mode = s.mode
  timeout : r.timeout = s.timeout
  aliases : ∀ name : String, r.aliases[name]? = s.aliases[name]?

theorem SameAs.effectiveMode_eq (h : r.SameAs s) : r.effectiveMode = s.effectiveMode := by
  have hlist : r.aliases.toList = s.aliases.toList :=
    (Std.TreeMap.Equiv.of_forall_constGet?_eq h.aliases).toList_eq
  rw [effectiveMode, effectiveMode, h.mode, hlist]

theorem SameAs.fragmentFor_eq (h : r.SameAs s) (c : LockClauses) :
    c.fragmentFor r = c.fragmentFor s := by
  rw [LockClauses.fragmentFor, LockClauses.fragmentFor, h.effectiveMode_eq, h.timeout]

theorem mode_withAliases (r : LockRequest) : (r.withAliases asked).mode = r.mode := by
  induction asked generalizing r with
  | nil => rfl
  | cons entry asked ih => exact ih _

theorem timeout_withAliases (r : LockRequest) : (r.withAliases asked).timeout = r.timeout := by
  induction asked generalizing r with
  | nil => rfl
  | cons entry asked ih => exact ih _

/-- What counts in a list of requests is the last one for each alias. -/
theorem sameAs_withAliases (r : LockRequest)
    (h : ∀ name, asked.reverse.lookup name = later.reverse.lookup name) :
    (r.withAliases asked).SameAs (r.withAliases later) where
  mode := by rw [mode_withAliases, mode_withAliases]
  timeout := by rw [timeout_withAliases, timeout_withAliases]
  aliases name := by rw [getElem?_withAliases, getElem?_withAliases, h name]

theorem lookup_eq_some_iff_mem (hdistinct : (asked.map Prod.fst).Nodup) :
    asked.lookup name = some m ↔ (name, m) ∈ asked := by
  rw [List.lookup_eq_some_iff]
  constructor
  · rintro ⟨before, after, rfl, -⟩
    simp
  · intro hmem
    obtain ⟨before, after, rfl⟩ := List.append_of_mem hmem
    refine ⟨before, after, rfl, fun entry hentry => ?_⟩
    rw [List.map_append, List.map_cons, List.nodup_append] at hdistinct
    have hne : entry.1 ≠ name :=
      hdistinct.2.2 _ (List.mem_map_of_mem hentry) _ List.mem_cons_self
    simpa using hne.symm

theorem lookup_eq_of_perm (hperm : asked.Perm later) (hdistinct : (asked.map Prod.fst).Nodup)
    (name : String) : asked.lookup name = later.lookup name := by
  have hlater : (later.map Prod.fst).Nodup := (hperm.map Prod.fst).nodup_iff.1 hdistinct
  ext m
  rw [lookup_eq_some_iff_mem hdistinct, lookup_eq_some_iff_mem hlater, hperm.mem_iff]

/-- Requests for different aliases may change places. -/
theorem sameAs_of_perm (r : LockRequest) (hperm : asked.Perm later)
    (hdistinct : (asked.map Prod.fst).Nodup) :
    (r.withAliases asked).SameAs (r.withAliases later) := by
  have hlast : asked.reverse.Perm asked := List.reverse_perm asked
  have hreverse : asked.reverse.Perm later.reverse :=
    hlast.trans (hperm.trans (List.reverse_perm later).symm)
  exact r.sameAs_withAliases
    (lookup_eq_of_perm hreverse ((hlast.map Prod.fst).nodup_iff.2 hdistinct))

/-- A request for an alias replaces an earlier one. -/
theorem sameAs_of_repeated (r : LockRequest) (before between after : List (String × LockMode))
    (name : String) (m w : LockMode) :
    (r.withAliases (before ++ (name, m) :: between ++ (name, w) :: after)).SameAs
      (r.withAliases (before ++ between ++ (name, w) :: after)) := by
  refine r.sameAs_withAliases fun other => ?_
  simp only [List.reverse_append, List.reverse_cons, List.lookup_append, lookup_pair]
  by_cases h : name = other
  · simp [h]
  · simp [h]

theorem mem_requested_withAlias (hnew : r.aliases[name]? = none) :
    w ∈ (r.withAlias name m).requested ↔ m = w ∨ w ∈ r.requested := by
  have hmode : (r.withAlias name m).mode = r.mode := rfl
  simp only [mem_requested, getElem?_withAlias, hmode]
  constructor
  · rintro (h | ⟨other, h⟩)
    · exact .inr (.inl h)
    · split_ifs at h
      · exact .inl (Option.some.inj h)
      · exact .inr (.inr ⟨other, h⟩)
  · rintro (h | h | ⟨other, h⟩)
    · exact .inr ⟨name, by rw [if_pos rfl, h]⟩
    · exact .inl h
    · have hne : name ≠ other := fun heq => by rw [← heq, hnew] at h; cases h
      exact .inr ⟨other, by rwa [if_neg hne]⟩

theorem level_withAlias (hnew : r.aliases[name]? = none) (m : LockMode) :
    (r.withAlias name m).effectiveMode.level = max m.level r.effectiveMode.level := by
  have hlevels : {level | ∃ w ∈ (r.withAlias name m).requested, w.level = level} =
      insert m.level {level | ∃ w ∈ r.requested, w.level = level} := by
    ext level
    simp [mem_requested_withAlias hnew, or_and_right, exists_or, eq_comm]
  have hgreatest := (r.withAlias name m).isGreatest_level
  rw [hlevels] at hgreatest
  exact hgreatest.unique (r.isGreatest_level.insert m.level)

end Requests

end LockRequest

/-- The strongest mode decides a request: that of the statement if it is one of the strongest,
and otherwise that of the smallest alias with such a mode. Requests for different aliases may be
made in any order, of two requests for an alias the last one counts, and a request for a new
alias makes the mode stronger or leaves it. -/
theorem strongest_request_decides (r : LockRequest) :
    IsGreatest {level | ∃ m ∈ r.requested, m.level = level} r.effectiveMode.level ∧
      (∀ m, r.effectiveMode = m ↔ r.Decides m) ∧
      (∀ asked later : List (String × LockMode), asked.Perm later → (asked.map Prod.fst).Nodup →
        (r.withAliases asked).effectiveMode = (r.withAliases later).effectiveMode ∧
          ∀ c : LockClauses,
            c.fragmentFor (r.withAliases asked) = c.fragmentFor (r.withAliases later)) ∧
      (∀ (before between after : List (String × LockMode)) (name : String) (m w : LockMode),
        let twice := r.withAliases (before ++ (name, m) :: between ++ (name, w) :: after)
        let once := r.withAliases (before ++ between ++ (name, w) :: after)
        twice.effectiveMode = once.effectiveMode ∧
          ∀ c : LockClauses, c.fragmentFor twice = c.fragmentFor once) ∧
      ∀ (name : String) (m : LockMode), r.aliases[name]? = none →
        (r.withAlias name m).effectiveMode.level = max m.level r.effectiveMode.level := by
  refine ⟨r.isGreatest_level, fun m => LockRequest.decides_iff,
    fun asked later hperm hdistinct => ?_, fun before between after name m w => ?_,
    fun name m hnew => LockRequest.level_withAlias hnew m⟩
  · have hsame := r.sameAs_of_perm hperm hdistinct
    exact ⟨hsame.effectiveMode_eq, hsame.fragmentFor_eq⟩
  · have hsame := r.sameAs_of_repeated before between after name m w
    exact ⟨hsame.effectiveMode_eq, hsame.fragmentFor_eq⟩

/-- Of two aliases with modes of one strength the smaller one decides, whichever is first. -/
theorem smaller_alias_decides_tie :
    let asked : List (String × LockMode) := [("b", .upgrade), ("a", .write)]
    let later : List (String × LockMode) := [("a", .write), ("b", .upgrade)]
    let r : LockRequest := {}
    asked.Perm later ∧ (asked.map Prod.fst).Nodup ∧ (r.withAliases asked).effectiveMode = .write ∧
      (r.withAliases later).effectiveMode = .write := by
  intro asked later r
  have hperm : asked.Perm later := .swap _ _ _
  have hdistinct : (asked.map Prod.fst).Nodup := by decide
  have hmode : (r.withAliases asked).effectiveMode = .write := by decide +kernel
  have hsame := ((strongest_request_decides r).2.2.1 asked later hperm hdistinct).1
  exact ⟨hperm, hdistinct, hmode, hsame ▸ hmode⟩

end PortableSql
