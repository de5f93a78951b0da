/-! Cutting a text at every occurrence of a separator. -/

namespace PortableSql.Text

/-- The pieces between separators, always one more than there are separators. -/
def splitOn (separator : Char) : List Char → List (List Char)
  | [] => [[]]
  | c :: rest =>
    match splitOn separator rest with
    | piece :: more => if c = separator then [] :: piece :: more else (c :: piece) :: more
    | [] => [[c]]

theorem splitOn_ne_nil (separator : Char) (s : List Char) : splitOn separator s ≠ [] := by
  induction s with
  | nil => simp [splitOn]
  | cons c rest ih =>
    rw [splitOn]
    split
    · split <;> simp
    · simp

/-- The pieces hold no separator. -/
theorem not_mem_of_mem_splitOn {separator : Char} {s piece : List Char}
    (h : piece ∈ splitOn separator s) : separator ∉ piece := by
  induction s generalizing piece with
  | nil => simp_all [splitOn]
  | cons c rest ih =>
    rw [splitOn] at h
    split at h
    · rename_i first more heq
      have hfirst : separator ∉ first := ih (by simp [heq])
      have hmore : ∀ p ∈ more, separator ∉ p := fun p hp => ih (by simp [heq, hp])
      split at h
      · rcases List.mem_cons.1 h with rfl | h
        · simp
        · rcases List.mem_cons.1 h with rfl | h
          · exact hfirst
          · exact hmore _ h
      · rename_i hc
        rcases List.mem_cons.1 h with rfl | h
        · simp [hfirst, Ne.symm hc]
        · exact hmore _ h
    · rename_i heq
      exact absurd heq (splitOn_ne_nil separator rest)

end PortableSql.Text
