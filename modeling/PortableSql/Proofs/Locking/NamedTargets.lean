import PortableSql.Proofs.Locking.Coexistence

/-! Where the targets of a lock are named. The fragment of a mode is one of the two lock clauses
with something behind it, and the targets belong between the two. The clause is not handed on
but found again as what the fragment begins with. It is found rightly if neither clause begins
with the other one, for a text that begins with two clauses makes the shorter one begin the
longer one. -/

namespace PortableSql.LockClauses

/-- The clause that a mode takes, without a waiting policy. -/
def clauseOf (c : LockClauses) (mode : LockMode) : String :=
  if mode = .pessimisticRead then c.forShare.getD c.forUpdate else c.forUpdate

/-- The clause is there and stands at the front of the fragment. -/
def Begins (clause fragment : String) : Prop := clause ≠ "" ∧ clause.toList <+: fragment.toList

/-- Neither lock clause begins with the other one, unless they are the same. -/
def Distinguishable (c : LockClauses) : Prop :=
  ∀ share ∈ c.forShare, share = c.forUpdate ∨
    ¬ share.toList <+: c.forUpdate.toList ∧ ¬ c.forUpdate.toList <+: share.toList

instance : DecidablePred Distinguishable := fun c =>
  inferInstanceAs (Decidable (∀ share ∈ c.forShare, _))

variable {c : LockClauses} {mode : LockMode} {timeout : LockTimeout}
  {clause fragment rest targets : String} {more : List String}

/-- A fragment that is not empty is the clause of its mode with something behind it. -/
theorem exists_fragment_eq (h : c.fragment mode timeout ≠ "") :
    c.clauseOf mode ≠ "" ∧ ∃ rest, c.fragment mode timeout = c.clauseOf mode ++ rest := by
  have hcontinues : Continues (c.clauseOf mode) (c.fragment mode timeout) := by
    cases mode with
    | none | read | optimistic | optimisticForceIncrement | write => exact absurd rfl h
    | upgrade => exact continues_self _
    | upgradeNowait | upgradeSkipLocked | force | pessimisticForceIncrement =>
      exact continues_suffixed _ _
    | pessimisticRead | pessimisticWrite => exact continues_timed _ _ _
  obtain ⟨rest, hfragment, hempty⟩ := hcontinues
  refine ⟨fun hclause => h ?_, rest, hfragment⟩
  rw [hfragment, hclause, hempty hclause]
  rfl

theorem nameTargets_append (hclause : clause ≠ "") :
    nameTargets (clause ++ rest) targets (clause :: more) =
      clause ++ " of " ++ targets ++ rest := by
  have hprefix : clause.toList.isPrefixOf (clause ++ rest).toList = true := by simp
  have hdrop : (clause ++ rest).toList.drop clause.length = rest.toList := by
    rw [String.toList_append]
    exact List.drop_left' String.length_toList
  rw [nameTargets, if_pos ⟨hclause, hprefix⟩, hdrop, String.ofList_toList]

theorem nameTargets_of_not_begins (h : ¬ Begins clause fragment) :
    nameTargets fragment targets (clause :: more) = nameTargets fragment targets more := by
  rw [nameTargets, if_neg]
  rwa [List.isPrefixOf_iff_prefix]

/-- The clause of a mode is the first one that is looked for, or the second one where a fragment
with the clause of the mode does not begin with the first one. -/
theorem Distinguishable.first_or_second (h : c.Distinguishable) (mode : LockMode) (rest : String) :
    c.forShare.getD "" = c.clauseOf mode ∨
      c.forUpdate = c.clauseOf mode ∧
        ¬ Begins (c.forShare.getD "") (c.clauseOf mode ++ rest) := by
  cases hshare : c.forShare with
  | none =>
    have hclause : c.forUpdate = c.clauseOf mode := by simp [clauseOf, hshare]
    exact .inr ⟨hclause, fun hbegins => hbegins.1 rfl⟩
  | some share =>
    by_cases hmode : mode = .pessimisticRead
    · exact .inl (by simp [clauseOf, hmode, hshare])
    · have hclause : c.forUpdate = c.clauseOf mode := by simp [clauseOf, hmode]
      rcases h share hshare with hsame | ⟨hshort, hlong⟩
      · exact .inl (hsame.trans hclause)
      · refine .inr ⟨hclause, fun hbegins => ?_⟩
        have hupdate : c.forUpdate.toList <+: (c.clauseOf mode ++ rest).toList := by
          simp [hclause]
        exact (List.prefix_or_prefix_of_prefix hbegins.2 hupdate).elim hshort hlong

theorem Distinguishable.nameTargets_eq (h : c.Distinguishable) (hclause : c.clauseOf mode ≠ "") :
    nameTargets (c.clauseOf mode ++ rest) targets [c.forShare.getD "", c.forUpdate] =
      c.clauseOf mode ++ " of " ++ targets ++ rest := by
  rcases h.first_or_second mode rest with hfirst | ⟨hsecond, hnot⟩
  · rw [hfirst]
    exact nameTargets_append hclause
  · rw [nameTargets_of_not_begins hnot, hsecond]
    exact nameTargets_append hclause

theorem clauseOf_mem (c : LockClauses) (mode : LockMode) :
    c.clauseOf mode ∈ [c.forShare.getD "", c.forUpdate] := by
  rw [clauseOf]
  cases c.forShare with
  | none => simp
  | some share => split_ifs <;> simp

/-- Where nothing can be named the fragment is left as it is. Otherwise the targets stand behind
the clause of the deciding mode and in front of its waiting policy, and one of the clauses that
are looked for is found. -/
theorem fragmentOf_names_targets (c : LockClauses) (h : c.Distinguishable) (r : LockRequest)
    (targets : List String) :
    let fragment := c.fragmentFor r
    let clause := c.clauseOf r.effectiveMode
    (fragment = "" ∨ targets = [] ∨ c.target = .none → c.fragmentOf r targets = fragment) ∧
      (fragment ≠ "" → targets ≠ [] → c.target ≠ .none →
        (∃ found ∈ [c.forShare.getD "", c.forUpdate], Begins found fragment) ∧
          ∃ rest, fragment = clause ++ rest ∧
            c.fragmentOf r targets = clause ++ " of " ++ ", ".intercalate targets ++ rest) := by
  intro fragment clause
  refine ⟨fun hplain => if_pos hplain, fun hfragment htargets htarget => ?_⟩
  obtain ⟨hclause, rest, hsplit⟩ : clause ≠ "" ∧ ∃ rest, fragment = clause ++ rest :=
    exists_fragment_eq hfragment
  have hfound : Begins clause fragment := ⟨hclause, rest.toList, by simp [hsplit]⟩
  have hnamed : c.fragmentOf r targets = nameTargets fragment (", ".intercalate targets)
      [c.forShare.getD "", c.forUpdate] :=
    if_neg fun hplain => hplain.elim hfragment (Or.elim · htargets htarget)
  refine ⟨⟨clause, c.clauseOf_mem _, hfound⟩, rest, hsplit, ?_⟩
  rw [hnamed, hsplit]
  exact h.nameTargets_eq hclause

/-- A shared lock that fails at once names its rows in front of `nowait`. -/
theorem shared_lock_names_targets :
    let c : LockClauses :=
      { standard with forShare := some " for share", nowait := some " nowait", target := .table }
    let r : LockRequest := { mode := .pessimisticRead, timeout := LockTimeout.noWait }
    c.Distinguishable ∧ c.fragmentFor r = " for share nowait" ∧
      c.fragmentOf r ["p", "c"] = " for share of p, c nowait" := by
  intro c r
  have hclauses : c.Distinguishable := by decide
  have hfragment : c.fragmentFor r = " for share nowait" := by decide +kernel
  have hclause : c.clauseOf r.effectiveMode = " for share" := by decide +kernel
  have hne : c.fragmentFor r ≠ "" := by rw [hfragment]; decide
  obtain ⟨-, rest, heq, hnamed⟩ :=
    (fragmentOf_names_targets c hclauses r ["p", "c"]).2 hne (by decide) (by decide)
  rw [hfragment, hclause] at heq
  have hrest : " nowait" = rest := (String.append_right_inj " for share").1 heq
  rw [hclause, ← hrest] at hnamed
  exact ⟨hclauses, hfragment, hnamed⟩

end PortableSql.LockClauses
