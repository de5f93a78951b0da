/-! Texts in which a mark is written twice, up to the mark that ends them. Reading takes two
marks as one and a lone mark as the end, so it gives back what was written and leaves what
stands behind, as long as that does not begin with the mark again. -/

namespace PortableSql.Text

variable {mark : Char} {s text rest : List Char}

/-- Read up to a lone mark, two marks as one. The result is what was read and what is left. -/
def readDoubled (mark : Char) : List Char → Option (List Char × List Char)
  | [] => none
  | [c] => if c = mark then some ([], []) else none
  | c :: d :: rest =>
    if c = mark then
      if d = mark then (readDoubled mark rest).map (Prod.map (mark :: ·) id)
      else some ([], d :: rest)
    else (readDoubled mark (d :: rest)).map (Prod.map (c :: ·) id)

theorem readDoubled_mark (h : rest.head? ≠ some mark) :
    readDoubled mark (mark :: rest) = some ([], rest) := by
  cases rest with
  | nil => simp [readDoubled]
  | cons d rest =>
    have hd : d ≠ mark := by simpa using h
    simp [readDoubled, hd]

theorem readDoubled_two_marks (s : List Char) :
    readDoubled mark (mark :: mark :: s) =
      (readDoubled mark s).map (Prod.map (mark :: ·) id) := by
  simp [readDoubled]

theorem readDoubled_cons {c : Char} (hc : c ≠ mark) (s : List Char) :
    readDoubled mark (c :: s) = (readDoubled mark s).map (Prod.map (c :: ·) id) := by
  cases s with
  | nil => simp [readDoubled, hc]
  | cons d rest => simp [readDoubled, hc]

theorem readDoubled_double (text : List Char) (h : rest.head? ≠ some mark) :
    readDoubled mark (text.flatMap (fun c => if c = mark then [c, c] else [c]) ++ mark :: rest) =
      some (text, rest) := by
  induction text with
  | nil => exact readDoubled_mark h
  | cons c text ih =>
    rw [List.flatMap_cons, List.append_assoc]
    by_cases hc : c = mark
    · subst hc
      rw [if_pos rfl, List.cons_append, List.cons_append, List.nil_append, readDoubled_two_marks,
        ih]
      rfl
    · rw [if_neg hc, List.cons_append, List.nil_append, readDoubled_cons hc, ih]
      rfl

/-- Nothing else reads as the text. -/
theorem eq_of_readDoubled (h : readDoubled mark s = some (text, rest)) :
    s = text.flatMap (fun c => if c = mark then [c, c] else [c]) ++ mark :: rest := by
  fun_induction readDoubled mark s generalizing text with
  | case1 | case3 => cases h
  | case2 | case5 =>
    cases h
    simp_all
  | case4 _ ih | case6 _ _ _ _ ih =>
    obtain ⟨⟨_, _⟩, hread, heq⟩ := Option.map_eq_some_iff.1 h
    cases heq
    rw [ih hread]
    simp_all

/-- Reading takes the ending mark away, if nothing else. -/
theorem length_lt_of_readDoubled (h : readDoubled mark s = some (text, rest)) :
    rest.length < s.length := by
  fun_induction readDoubled mark s generalizing text with
  | case1 => cases h
  | case2 => simp_all
  | case3 => cases h
  | case4 _ ih | case6 _ _ _ _ ih =>
    obtain ⟨⟨_, _⟩, hread, heq⟩ := Option.map_eq_some_iff.1 h
    cases heq
    have hlt := ih hread
    simp only [List.length_cons] at hlt ⊢
    omega
  | case5 => simp_all

end PortableSql.Text
