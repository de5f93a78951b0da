import PortableSql.Backend
import PortableSql.Proofs.Lexical.StringLiteral
import PortableSql.Proofs.Schema.QuotedTwice
import PortableSql.Proofs.Text.Backtick
import PortableSql.Proofs.Text.Digraph
import PortableSql.Schema.Sequence

/-! The next value of a sequence, where its name is the string argument of a function. The name is
put between the quotes of the template as it is rendered, without doubling the quotes that it may
hold itself. So the argument is a literal of the rendered name exactly if that has no quote. The
expression is then put into the selecting statement as it is, for every variable of the template
and for nothing else: variables that the name spells are not looked at again. -/

namespace PortableSql

open Literal

/-- A template is cut by its variable into pieces, which are joined by what the variable is. -/
theorem exists_instantiate (place : Text.Digraph) (template : String) :
    ∃ pieces : List String, (∀ piece ∈ pieces, ¬ place.toList <:+: piece.toList) ∧
      template = (String.ofList place.toList).intercalate pieces ∧
      ∀ text, instantiate template place text = text.intercalate pieces := by
  have hpieces : ((place.cut template.toList).map String.ofList).map String.toList =
      place.cut template.toList := by
    simp [Function.comp_def]
  refine ⟨(place.cut template.toList).map String.ofList, ?_, ?_, fun text => ?_⟩
  · intro piece hpiece
    obtain ⟨chars, hchars, rfl⟩ := List.mem_map.1 hpiece
    rw [String.toList_ofList]
    exact Text.Digraph.count_eq_zero_iff.1 (Text.Digraph.count_of_mem_cut hchars)
  · rw [← String.toList_inj, String.toList_intercalate, hpieces, String.toList_ofList,
      Text.Digraph.intercalate_cut, Text.Digraph.replaceAll_toList]
  · rw [← String.toList_inj, String.toList_intercalate, hpieces, Text.Digraph.intercalate_cut,
      instantiate, String.toList_ofList]

theorem instantiate_nextval (name : String) :
    instantiate "nextval('$n')" nameVariable name = "nextval('" ++ name ++ "')" := by
  simp [← String.toList_inj, instantiate, Text.Digraph.replaceAll, nameVariable]

/-- A text between quotes is a literal of itself exactly if it has no quote. -/
theorem readString_between_iff {value rest : List Char} (hrest : rest.head? ≠ some quoteMark) :
    readString (quoteMark :: (value ++ quoteMark :: rest)) = some (value, rest) ↔
      quoteMark ∉ value := by
  have hread : readString (quoteMark :: (value ++ quoteMark :: rest)) =
      Text.readDoubled quoteMark (value ++ quoteMark :: rest) := by
    rw [readString, QuoteStyle.readQuoted]
    exact if_pos rfl
  have hescape : marks.escape value = value ↔ quoteMark ∉ value := QuoteStyle.escape_eq_self_iff
  rw [hread, ← hescape]
  constructor
  · intro h
    have htext := Text.eq_of_readDoubled h
    exact (List.append_cancel_right htext).symm
  · intro h
    have hdouble : Text.readDoubled quoteMark (marks.escape value ++ quoteMark :: rest) =
        some (value, rest) := Text.readDoubled_double value hrest
    rwa [h] at hdouble

/-- Rendering takes no character away but backticks, and adds none but quotes. -/
theorem QuoteStyle.mem_requote_iff {q : QuoteStyle} {c : Char} (hopening : c ≠ q.opening)
    (hclosing : c ≠ q.closing) (hbacktick : c ≠ backtick) (name : String) :
    c ∈ (q.requote name).toList ↔ c ∈ name.toList := by
  rw [requote]
  cases hunwrap : unwrap? name.toList with
  | none => rfl
  | some inner =>
    have hescape : c ∈ q.escape inner ↔ c ∈ inner := mem_flatMap_double
    rw [unwrap?_eq_some_iff.1 hunwrap]
    simp [quote, hescape, hopening, hclosing, hbacktick]

namespace Dialect

variable {d : Dialect} {name expression : String}

theorem nextValue_of_not_supported (h : d.config.sequences.supported = false) (name : String) :
    d.nextValue name = .error (d.unsupported .sequences) := by
  simp [nextValue, demandSequences, demand, h, bind, Except.bind]

theorem nextValue_of_supported (h : d.config.sequences.supported = true) (name : String) :
    d.nextValue name =
      .ok (instantiate d.config.sequences.nextValue nameVariable (d.renderIdentifier name)) := by
  simp [nextValue, demandSequences, demand, h, bind, Except.bind, pure, Except.pure]

theorem selectNextValue_of_nextValue (h : d.nextValue name = .ok expression) :
    d.selectNextValue name =
      .ok (instantiate d.config.sequences.selectNextValue valueVariable expression) := by
  simp [selectNextValue, h, bind, Except.bind, pure, Except.pure]

theorem selectNextValue_of_error {failure : Failure} (h : d.nextValue name = .error failure) :
    d.selectNextValue name = .error failure := by
  simp [selectNextValue, h, bind, Except.bind]

end Dialect

/-- The databases that take the name of a sequence as a string, and what their templates are. -/
theorem Backend.sequences_of_nextval {b : Backend} (h : b ∈ [postgresql, duckdb])
    (info : ResolutionInfo) :
    (b.dialect info).config.sequences = ⟨true, true, "nextval('$n')", "select $v"⟩ ∧
      (b.dialect info).config.quote = .doubleQuotes := by
  simp only [List.mem_cons, List.not_mem_nil, or_false] at h
  rcases h with rfl | rfl
  · exact ⟨rfl, rfl⟩
  · exact ⟨rfl, rfl⟩

/-- Where the name of a sequence is put between quotes, the expression for its next value is there
unless sequences are not supported, and its argument is read back as the rendered name exactly if
that has no quote. The selecting statement has the expression for every variable of its template
and is the template otherwise. PostgreSQL and DuckDB are of this kind, with the variable behind the
word that selects, and a rendered name has a quote there exactly if the name has one. -/
theorem next_value_reads_back_iff (name : String) :
    (∀ d : Dialect, d.config.sequences.nextValue = "nextval('$n')" →
      (d.config.sequences.supported = false →
        d.nextValue name = .error (d.unsupported .sequences) ∧
          d.selectNextValue name = .error (d.unsupported .sequences)) ∧
      (d.config.sequences.supported = true → ∃ expression argument,
        d.nextValue name = .ok expression ∧
        expression.toList = "nextval(".toList ++ argument ∧
        (readString argument = some ((d.renderIdentifier name).toList, [')']) ↔
          quoteMark ∉ (d.renderIdentifier name).toList) ∧
        ∃ pieces, (∀ piece ∈ pieces, ¬ valueVariable.toList <:+: piece.toList) ∧
          d.config.sequences.selectNextValue = "$v".intercalate pieces ∧
          d.selectNextValue name = .ok (expression.intercalate pieces))) ∧
    ∀ b ∈ [Backend.postgresql, .duckdb], ∀ info,
      (b.dialect info).config.sequences = ⟨true, true, "nextval('$n')", "select $v"⟩ ∧
      (quoteMark ∈ ((b.dialect info).renderIdentifier name).toList ↔
        quoteMark ∈ name.toList) := by
  refine ⟨fun d htemplate => ⟨fun hsupported => ?_, fun hsupported => ?_⟩, fun b hb info => ?_⟩
  · have hrefused := d.nextValue_of_not_supported hsupported name
    exact ⟨hrefused, d.selectNextValue_of_error hrefused⟩
  · have hnext := d.nextValue_of_supported hsupported name
    rw [htemplate, instantiate_nextval] at hnext
    obtain ⟨pieces, hfree, htext, hjoined⟩ :=
      exists_instantiate valueVariable d.config.sequences.selectNextValue
    have hselect := d.selectNextValue_of_nextValue hnext
    rw [hjoined] at hselect
    refine ⟨_, quoteMark :: ((d.renderIdentifier name).toList ++ [quoteMark, ')']), hnext, ?_,
      readString_between_iff (by simp [quoteMark]), pieces, hfree, htext, hselect⟩
    simp [quoteMark]
  · obtain ⟨hsequences, hquote⟩ := Backend.sequences_of_nextval hb info
    refine ⟨hsequences, ?_⟩
    rw [Dialect.renderIdentifier, hquote]
    exact QuoteStyle.mem_requote_iff (by decide) (by decide) (by decide) name

/-- A name on DuckDB that spells the variables of both templates. -/
theorem spelled_variables_stay :
    let d := Backend.duckdb.dialect { version := ⟨1, 0⟩ }
    let name := "\x60$n$v\x60"
    (d.config.sequences.nextValue = "nextval('$n')" ∧ d.config.sequences.supported = true ∧
      quoteMark ∉ name.toList ∧ quoteMark ∉ (d.renderIdentifier name).toList) ∧
      d.nextValue name = .ok "nextval('\"$n$v\"')" ∧
      d.selectNextValue name = .ok "select nextval('\"$n$v\"')" ∧
      ∃ expression argument, d.nextValue name = .ok expression ∧
        expression.toList = "nextval(".toList ++ argument ∧
        readString argument = some ((d.renderIdentifier name).toList, [')']) := by
  intro d name
  obtain ⟨hdialects, hbackends⟩ := next_value_reads_back_iff name
  obtain ⟨hsequences, hquote⟩ :=
    hbackends .duckdb (by decide) { version := ⟨1, 0⟩ }
  have htemplate : d.config.sequences.nextValue = "nextval('$n')" := by rw [hsequences]
  have hsupported : d.config.sequences.supported = true := by rw [hsequences]
  have hname : quoteMark ∉ name.toList := by decide
  have hrendered : quoteMark ∉ (d.renderIdentifier name).toList := fun h => hname (hquote.1 h)
  obtain ⟨expression, argument, hnext, htext, hread, -⟩ := (hdialects d htemplate).2 hsupported
  exact ⟨⟨htemplate, hsupported, hname, hrendered⟩, by decide +kernel, by decide +kernel,
    expression, argument, hnext, htext, hread.2 hrendered⟩

/-- A quote within the name ends the argument on PostgreSQL. -/
theorem quote_in_name_ends_argument :
    let d := Backend.postgresql.dialect { version := ⟨16, 0⟩ }
    d.renderIdentifier "\x60o'brien\x60" = "\"o'brien\"" ∧
      d.nextValue "\x60o'brien\x60" = .ok ("nextval(" ++ "'\"o'brien\"')") ∧
      readString "'\"o'brien\"')".toList = some ("\"o".toList, "brien\"')".toList) ∧
      readString "'\"o'brien\"')".toList ≠ some ("\"o'brien\"".toList, [')']) := by
  intro d
  refine ⟨by decide +kernel, by decide +kernel, by decide, by decide⟩

end PortableSql
