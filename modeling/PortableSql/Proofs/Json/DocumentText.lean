import PortableSql.Proofs.Json.TokenText

/-! The two ways to write a document, in one line and with every item on a line of its own. They
differ in blanks only: either text spells the tokens of the document, in their order. What is
written behind a document begins with a mark or a blank, so no number or word of the one goes on in
the other. -/

namespace PortableSql.Json

/-- The tokens of a document in their order. -/
def tokens : Json → List Token
  | null => [.null]
  | bool b => [.bool b]
  | int n => [.int n]
  | real spelling => [.real spelling]
  | string s => [.string s]
  | array items => .beginArray :: ([.comma].intercalate (itemTokens items) ++ [.endArray])
  | object fields => .beginObject :: ([.comma].intercalate (fieldTokens fields) ++ [.endObject])
where
  itemTokens : List Json → List (List Token)
    | [] => []
    | item :: rest => tokens item :: itemTokens rest
  fieldTokens : List (JsonString × Json) → List (List Token)
    | [] => []
    | (key, value) :: rest => (.string key :: .colon :: tokens value) :: fieldTokens rest

/-- A document without values that are kept as they are spelled. -/
inductive Plain : Json → Prop
  | null : Plain .null
  | bool (b : Bool) : Plain (.bool b)
  | int (n : Int) : Plain (.int n)
  | text (s : String) : Plain (.text s)
  | array {items : List Json} (h : ∀ item ∈ items, Plain item) : Plain (.array items)
  | record {fields : List (String × Json)} (h : ∀ field ∈ fields, Plain field.2) :
    Plain (.record fields)

section Lists

theorem itemTokens_eq_map (items : List Json) : tokens.itemTokens items = items.map tokens := by
  induction items with
  | nil => rfl
  | cons item rest ih => rw [tokens.itemTokens, ih, List.map_cons]

theorem compactItems_eq_map (items : List Json) :
    compact.compactItems items = items.map compact := by
  induction items with
  | nil => rfl
  | cons item rest ih => rw [compact.compactItems, ih, List.map_cons]

theorem prettyItems_eq_map (indent : String) (items : List Json) :
    prettyAt.prettyItems indent items = items.map (prettyAt indent) := by
  induction items with
  | nil => rfl
  | cons item rest ih => rw [prettyAt.prettyItems, ih, List.map_cons]

variable (fields : List (String × Json))

/-- The tokens of a field. -/
def fieldTokens (field : String × Json) : List Token :=
  .string (.text field.1) :: .colon :: field.2.tokens

theorem tokens_record :
    (record fields).tokens =
      .beginObject :: ([.comma].intercalate (fields.map fieldTokens) ++ [.endObject]) := by
  have hfields : tokens.fieldTokens (fields.map fun f => (.text f.1, f.2)) =
      fields.map fieldTokens := by
    induction fields with
    | nil => rfl
    | cons field rest ih =>
      rw [List.map_cons, tokens.fieldTokens, ih, List.map_cons]
      rfl
  rw [record, tokens, hfields]

theorem compactFields_eq_map :
    compact.compactFields (fields.map fun f => (.text f.1, f.2)) =
      fields.map fun f => (JsonString.text f.1).render ++ ":" ++ f.2.compact := by
  induction fields with
  | nil => rfl
  | cons field rest ih => rw [List.map_cons, compact.compactFields, ih, List.map_cons]

theorem prettyFields_eq_map (indent : String) :
    prettyAt.prettyFields indent (fields.map fun f => (.text f.1, f.2)) =
      fields.map fun f => (JsonString.text f.1).render ++ ": " ++ f.2.prettyAt indent := by
  induction fields with
  | nil => rfl
  | cons field rest ih => rw [List.map_cons, prettyAt.prettyFields, ih, List.map_cons]

end Lists

/-! ### What may follow -/

variable {c : Char} {token : Token} {s rest : List Char} {found more : List Token}

theorem breaks_nil : Breaks [] := by
  intro c hc
  cases hc

theorem Mark.breaks (h : Mark c token) (rest : List Char) : Breaks (c :: rest) := by
  rintro _ ⟨⟩
  cases h <;> decide

theorem breaks_of_blank (h : c ∈ blanks) (rest : List Char) : Breaks (c :: rest) := by
  rintro _ ⟨⟩
  simp only [blanks, List.mem_cons, List.not_mem_nil, or_false] at h
  rcases h with rfl | rfl | rfl | rfl <;> decide

theorem breaks_append (hs : ∀ c ∈ s, c ∈ blanks) (hrest : Breaks rest) : Breaks (s ++ rest) := by
  cases s with
  | nil => exact hrest
  | cons c s => exact breaks_of_blank (hs c List.mem_cons_self) _

theorem Spells.blanks_append (hs : ∀ c ∈ s, c ∈ blanks) (hrest : Spells rest more) :
    Spells (s ++ rest) more := by
  induction s with
  | nil => exact hrest
  | cons c s ih =>
    obtain ⟨hc, hs⟩ := List.forall_mem_cons.1 hs
    exact .blank hc (ih hs)

/-- The text spells the tokens in front of every text in which nothing of it can go on. -/
def Carries (s : List Char) (tokens : List Token) : Prop :=
  ∀ ⦃rest more⦄, Breaks rest → Spells rest more → Spells (s ++ rest) (tokens ++ more)

theorem Carries.spells (h : Carries s found) : Spells s found := by
  have hself := h breaks_nil .nil
  rwa [List.append_nil, List.append_nil] at hself

theorem Word.carries (h : Word s token) : Carries s [token] := fun _ _ => .word h

theorem carries_int (n : Int) : Carries (toString n).toList [.int n] := fun _ _ => .number n

theorem carries_text (value : String) :
    Carries (JsonString.text value).render.toList [.string (.text value)] :=
  fun _ _ _ => .text value

/-- A key with its value, and blanks between the colon and the value. -/
theorem Carries.field {gap : List Char} (h : Carries s found) (hgap : ∀ c ∈ gap, c ∈ blanks)
    (key : String) :
    Carries ((JsonString.text key).render.toList ++ ':' :: (gap ++ s))
      (.string (.text key) :: .colon :: found) := by
  intro rest more hbreaks hrest
  rw [List.append_assoc, List.cons_append, List.append_assoc]
  exact .text key (.mark .colon (.blanks_append hgap (h hbreaks hrest)))

/-- Two marks with blanks behind the first and before the second. -/
theorem Carries.enclosed {o : Char} {opening closing : Token} {before behind : List Char}
    (h : Carries s found) (ho : Mark o opening) (hc : Mark c closing)
    (hbefore : ∀ c ∈ before, c ∈ blanks) (hbehind : ∀ c ∈ behind, c ∈ blanks) :
    Carries (o :: (before ++ (s ++ (behind ++ [c])))) (opening :: (found ++ [closing])) := by
  intro rest more hbreaks hrest
  have hclosing : Spells (behind ++ (c :: rest)) (closing :: more) :=
    .blanks_append hbehind (.mark hc hrest)
  have hinner := h (breaks_append hbehind (hc.breaks rest)) hclosing
  have hall : Spells (o :: (before ++ (s ++ (behind ++ (c :: rest)))))
      (opening :: (found ++ closing :: more)) := .mark ho (.blanks_append hbefore hinner)
  simpa using hall

/-- Members with commas between them, and blanks behind the commas. -/
theorem carries_intercalate {α : Type} {text : α → List Char} {tokens : α → List Token}
    {gap : List Char} (hgap : ∀ c ∈ gap, c ∈ blanks) {members : List α}
    (h : ∀ a ∈ members, Carries (text a) (tokens a)) :
    Carries ((',' :: gap).intercalate (members.map text))
      ([Token.comma].intercalate (members.map tokens)) := by
  induction members with
  | nil => exact fun _ _ _ hrest => hrest
  | cons a members ih =>
    obtain ⟨ha, hmembers⟩ := List.forall_mem_cons.1 h
    cases members with
    | nil => simpa using ha
    | cons b members =>
      intro rest more hbreaks hrest
      have hfollowing := Spells.mark .comma (.blanks_append hgap (ih hmembers hbreaks hrest))
      have hall := ha (Mark.comma.breaks _) hfollowing
      simpa [List.intercalate_cons_cons] using hall

/-! ### The two ways to write a document -/

section Written

variable {α : Type} {text : α → String} {tokensOf : α → List Token} {members : List α}
  {indent left right : String} {opening closing : Token} {o : Char}

/-- Members in one line. -/
theorem carries_line (hleft : left.toList = [o]) (ho : Mark o opening) (hright : right.toList = [c])
    (hc : Mark c closing) (h : ∀ a ∈ members, Carries (text a).toList (tokensOf a)) :
    Carries (left ++ ",".intercalate (members.map text) ++ right).toList
      (opening :: ([.comma].intercalate (members.map tokensOf) ++ [closing])) := by
  have hgap : ∀ c ∈ ([] : List Char), c ∈ blanks := by simp
  have hmembers := (carries_intercalate hgap h).enclosed ho hc hgap hgap
  simpa [hleft, hright, String.toList_intercalate, Function.comp_def] using hmembers

/-- Members on lines of their own. Without members there are no lines. -/
theorem carries_block (hindent : ∀ c ∈ indent.toList, c ∈ blanks) (hleft : left.toList = [o])
    (ho : Mark o opening) (hright : right.toList = [c]) (hc : Mark c closing)
    (h : ∀ a ∈ members, Carries (text a).toList (tokensOf a)) :
    Carries (block indent left right (members.map text)).toList
      (opening :: ([.comma].intercalate (members.map tokensOf) ++ [closing])) := by
  by_cases hnil : members = []
  · subst hnil
    have hline := carries_line hleft ho hright hc h
    simpa [block] using hline
  · have hbefore : ∀ c ∈ ("\n  " ++ indent).toList, c ∈ blanks := by
      rw [String.toList_append, List.forall_mem_append]
      exact ⟨by simp [blanks], hindent⟩
    have hbehind : ∀ c ∈ ("\n" ++ indent).toList, c ∈ blanks := by
      rw [String.toList_append, List.forall_mem_append]
      exact ⟨by simp [blanks], hindent⟩
    have hmembers := (carries_intercalate hbefore h).enclosed ho hc hbefore hbehind
    simpa [block, hnil, hleft, hright, String.toList_intercalate, Function.comp_def] using hmembers

variable {j : Json}

theorem Plain.carries_compact (h : Plain j) : Carries j.compact.toList j.tokens := by
  induction h with
  | null => exact Word.null.carries
  | bool b => exact (Word.bool b).carries
  | int n => exact carries_int n
  | text s => exact carries_text s
  | array h ih =>
    rw [tokens, itemTokens_eq_map, compact, compactItems_eq_map]
    exact carries_line rfl .beginArray rfl .endArray ih
  | record h ih =>
    have hgap : ∀ c ∈ ([] : List Char), c ∈ blanks := by simp
    rw [tokens_record, Json.record, compact, compactFields_eq_map]
    refine carries_line rfl .beginObject rfl .endObject fun field hfield => ?_
    simpa [fieldTokens] using (ih field hfield).field hgap field.1

theorem Plain.carries_prettyAt (h : Plain j) (hindent : ∀ c ∈ indent.toList, c ∈ blanks) :
    Carries (j.prettyAt indent).toList j.tokens := by
  have hdeeper {indent : String} (hindent : ∀ c ∈ indent.toList, c ∈ blanks) :
      ∀ c ∈ (indent ++ "  ").toList, c ∈ blanks := by
    rw [String.toList_append, List.forall_mem_append]
    exact ⟨hindent, by simp [blanks]⟩
  induction h generalizing indent with
  | null => exact Word.null.carries
  | bool b => exact (Word.bool b).carries
  | int n => exact carries_int n
  | text s => exact carries_text s
  | array h ih =>
    rw [tokens, itemTokens_eq_map, prettyAt, prettyItems_eq_map]
    exact carries_block hindent rfl .beginArray rfl .endArray fun item hitem =>
      ih item hitem (hdeeper hindent)
  | record h ih =>
    have hgap : ∀ c ∈ [' '], c ∈ blanks := by simp [blanks]
    rw [tokens_record, Json.record, prettyAt, prettyFields_eq_map]
    refine carries_block hindent rfl .beginObject rfl .endObject fun field hfield => ?_
    simpa [fieldTokens] using (ih field hfield (hdeeper hindent)).field hgap field.1

theorem Plain.spells_compact (h : Plain j) : Spells j.compact.toList j.tokens :=
  h.carries_compact.spells

theorem Plain.spells_pretty (h : Plain j) : Spells j.pretty.toList j.tokens :=
  (h.carries_prettyAt (by simp)).spells

end Written

end PortableSql.Json
