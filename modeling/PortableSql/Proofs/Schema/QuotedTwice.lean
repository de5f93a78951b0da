import PortableSql.Proofs.Schema.QualifiedName

/-! Quoted names that are rendered again. A name in the quotes of a dialect is written as it is,
and so it still denotes what was quoted. Only the style of backticks is also the portable one:
there the text between the quotes, in which each backtick is doubled already, is taken for a name
and quoted once more. -/

namespace PortableSql

namespace QuoteStyle

variable {q : QuoteStyle} {name other : String}

theorem quote_inj : q.quote name = q.quote other ↔ name = other := by
  constructor
  · intro h
    have hname := q.readQuoted_quote name [] (by simp)
    rw [h, q.readQuoted_quote other [] (by simp)] at hname
    exact (String.toList_inj.1 (Prod.mk.inj (Option.some.inj hname)).1).symm
  · rintro rfl
    rfl

/-- Each closing character adds one more. -/
theorem length_escape (q : QuoteStyle) (s : List Char) :
    (q.escape s).length = s.length + s.count q.closing := by
  induction s with
  | nil => rfl
  | cons c s ih =>
    have hcons : q.escape (c :: s) =
        (if c = q.closing then [c, c] else [c]) ++ q.escape s := List.flatMap_cons
    rw [hcons, List.length_append, ih, List.length_cons, List.count_cons]
    by_cases hc : c = q.closing
    · simp [hc]
      omega
    · simp [hc]
      omega

theorem escape_eq_self_iff {s : List Char} : q.escape s = s ↔ q.closing ∉ s := by
  constructor
  · intro h
    have hlength := q.length_escape s
    rw [h] at hlength
    exact List.count_eq_zero.1 (by omega)
  · intro h
    have hsingle : ∀ c ∈ s, (if c = q.closing then [c, c] else [c]) = [c] := by
      intro c hc
      refine if_neg ?_
      rintro rfl
      exact h hc
    rw [escape, List.flatMap_congr hsingle, List.flatMap_singleton']

/-- The quotes of another style are not the portable ones. -/
theorem requote_quote_of_ne (h : q ≠ backticks) : q.requote (q.quote name) = q.quote name := by
  refine requote_of_not_wrapped fun inner hinner => h ?_
  exact eq_of_encloses (q.encloses_quote name) ⟨inner, hinner⟩

/-- In the style of backticks the text between the quotes is quoted as it stands. -/
theorem requote_quote_backticks (name : String) :
    backticks.requote (backticks.quote name) =
      backticks.quote (String.ofList (backticks.escape name.toList)) := by
  have hquote : backticks.quote name =
      "\x60" ++ String.ofList (backticks.escape name.toList) ++ "\x60" := by
    simp [← String.toList_inj, quote, backticks, backtick]
  rw [hquote, requote_wrapped]

theorem requote_quote_eq_iff :
    q.requote (q.quote name) = q.quote name ↔ ¬ (q = backticks ∧ backtick ∈ name.toList) := by
  by_cases h : q = backticks
  · subst h
    rw [requote_quote_backticks, quote_inj, ← String.toList_inj, String.toList_ofList,
      escape_eq_self_iff]
    simp [backticks]
  · simp [requote_quote_of_ne h, h]

/-- What a quoted name denotes when it has been rendered. -/
theorem readQuoted_requote_quote (q : QuoteStyle) (name : String) :
    q.readQuoted (q.requote (q.quote name)).toList =
      some (if q = backticks then q.escape name.toList else name.toList, []) := by
  have hread : ∀ n : String, q.readQuoted (q.quote n).toList = some (n.toList, []) := by
    intro n
    have h := q.readQuoted_quote n [] (by simp)
    rwa [List.append_nil] at h
  by_cases h : q = backticks
  · subst h
    rw [requote_quote_backticks, hread, if_pos rfl, String.toList_ofList]
  · rw [requote_quote_of_ne h, hread, if_neg h]

end QuoteStyle

/-- A name in the quotes of a dialect, given because it is reserved or anyway, is rendered as it
is and denotes the same name, exactly if the quotes are not backticks or the name has none.
Otherwise each backtick of the name is doubled in what is denoted. -/
theorem quoted_name_survives_iff (d : Dialect) (name : String) :
    (d.renderIdentifier (d.quote name) = d.quote name ↔
      ¬ (d.config.quote = .backticks ∧ backtick ∈ name.toList)) ∧
    (d.config.quote.readQuoted (d.renderIdentifier (d.quote name)).toList =
        some (name.toList, []) ↔
      ¬ (d.config.quote = .backticks ∧ backtick ∈ name.toList)) ∧
    (d.isKeyword name = true →
      d.renderIdentifier (d.quoteIfReserved name) = d.renderIdentifier (d.quote name)) ∧
    (d.config.quote = .backticks →
      d.config.quote.readQuoted (d.renderIdentifier (d.quote name)).toList =
        some (name.toList.flatMap fun c => if c = backtick then [c, c] else [c], [])) := by
  have hread := d.config.quote.readQuoted_requote_quote name
  refine ⟨QuoteStyle.requote_quote_eq_iff, ?_, fun hkeyword => ?_, fun hstyle => ?_⟩
  · rw [Dialect.renderIdentifier, Dialect.quote, hread]
    by_cases h : d.config.quote = .backticks
    · simp [h, QuoteStyle.escape_eq_self_iff, QuoteStyle.backticks]
    · simp [h]
  · rw [Dialect.quoteIfReserved, if_pos hkeyword]
  · rw [Dialect.renderIdentifier, Dialect.quote, hread, if_pos hstyle, hstyle]
    rfl

/-- A reserved word in the style of MySQL, quoted and rendered. -/
theorem reserved_word_survives :
    let config := Backend.mysql.profile.config ⟨8, 0⟩
    let d := ((Draft.blank config).register [.keyword (.register "order")]).build
    d.isKeyword "order" = true ∧ d.config.quote = .backticks ∧
      d.renderIdentifier (d.quoteIfReserved "order") = d.renderIdentifier "\x60order\x60" ∧
      d.config.quote.readQuoted (d.renderIdentifier "\x60order\x60").toList =
        some ("order".toList, []) := by
  intro config d
  have hkeyword : d.isKeyword "order" = true := by decide +kernel
  have hstyle : d.config.quote = .backticks := by decide +kernel
  have hquote : d.quote "order" = "\x60order\x60" := by decide +kernel
  obtain ⟨-, -, hreserved, hread⟩ := quoted_name_survives_iff d "order"
  have hdenotes := hread hstyle
  have htext := hreserved hkeyword
  rw [hquote] at hdenotes htext
  refine ⟨hkeyword, hstyle, htext, hdenotes.trans (by decide)⟩

/-- A backtick within a name of MySQL is doubled twice. -/
theorem quoted_backtick_doubled_twice :
    let d := Backend.mysql.dialect { version := ⟨8, 0⟩ }
    d.quote "a\x60b" = "\x60a\x60\x60b\x60" ∧
      d.renderIdentifier (d.quote "a\x60b") = "\x60a\x60\x60\x60\x60b\x60" ∧
      d.renderIdentifier (d.quote "a\x60b") ≠ d.quote "a\x60b" := by
  intro d
  have hquote : d.quote "a\x60b" = "\x60a\x60\x60b\x60" := by decide +kernel
  have hrender : d.renderIdentifier (d.quote "a\x60b") =
      "\x60a\x60\x60\x60\x60b\x60" := by decide +kernel
  refine ⟨hquote, hrender, ?_⟩
  rw [hrender, hquote]
  decide

end PortableSql
