import PortableSql.Json.Reader
import PortableSql.Proofs.Json.DocumentText

/-! Documents read back. The pass over the tokens of a document finishes a value and leaves what was
open around it as it was, so the value of an item or of a field is read as if it stood alone. A
document that is written in either way is therefore read as itself. -/

namespace PortableSql.Json

open Reading (State)

variable {j : Json} {frames : List Frame}

/-- Only what the first token does tells two states apart. -/
theorem foldlM_step_congr {s t : State} {token : Token} (h : s.step token = t.step token)
    (rest : List Token) :
    (token :: rest).foldlM State.step s = (token :: rest).foldlM State.step t := by
  rw [List.foldlM_cons, List.foldlM_cons, h]

/-- Members with commas between them begin with what the first one begins with. -/
theorem exists_intercalate_eq_cons {α : Type} {tokensOf : α → List Token} {a : α} {token : Token}
    {rest : List Token} (h : tokensOf a = token :: rest) (members : List α) (closing : Token) :
    ∃ others, [Token.comma].intercalate ((a :: members).map tokensOf) ++ [closing] =
      token :: others := by
  cases members with
  | nil => exact ⟨rest ++ [closing], by simp [h]⟩
  | cons b members =>
    rw [List.map_cons, List.map_cons, List.intercalate_cons_cons, h]
    exact ⟨_, rfl⟩

/-- Members with commas between them, behind those that have been read and up to the closing
token. What is read of arrays and of objects differs in the states between the tokens only. -/
theorem foldlM_members {α : Type} (tokensOf : α → List Token) (closing : Token)
    (before : List α → State) (behind : List α → α → State) (finished : List α → State)
    {members : List α} (hmember : ∀ a ∈ members, ∀ done,
      (tokensOf a).foldlM State.step (before done) = some (behind done a))
    (hcomma : ∀ done a, (behind done a).step .comma = some (before (a :: done)))
    (hclosing : ∀ done a, (behind done a).step closing = some (finished (a :: done)))
    (hne : members ≠ []) (done : List α) :
    ([Token.comma].intercalate (members.map tokensOf) ++ [closing]).foldlM State.step
        (before done) =
      some (finished (members.reverse ++ done)) := by
  induction members generalizing done with
  | nil => exact absurd rfl hne
  | cons a members ih =>
    obtain ⟨ha, hmembers⟩ := List.forall_mem_cons.1 hmember
    cases members with
    | nil =>
      rw [List.map_singleton, List.intercalate_singleton, foldlM_append_of_eq_some (ha done),
        foldlM_cons_of_eq_some (hclosing done a)]
      rfl
    | cons b members =>
      have hrest := ih hmembers (List.cons_ne_nil _ _) (a :: done)
      rw [List.map_cons, List.map_cons, List.intercalate_cons_cons, List.append_assoc,
        List.append_assoc, foldlM_append_of_eq_some (ha done), List.singleton_append,
        foldlM_cons_of_eq_some (hcomma done a), ← List.map_cons, hrest]
      simp

/-- The tokens of the document are read as the document, whatever is open around it. -/
def ReadsBack (j : Json) : Prop :=
  ∀ frames, j.tokens.foldlM State.step ⟨frames, .value⟩ = some ⟨frames, .separator j⟩

/-- A value begins with a token that ends no array. -/
theorem exists_tokens_eq_cons (j : Json) :
    ∃ token rest, j.tokens = token :: rest ∧ token ≠ .endArray := by
  cases j <;> exact ⟨_, _, rfl, nofun⟩

/-- The first item of an array is read like one behind a comma. -/
theorem step_firstItem {token : Token} (h : token ≠ .endArray) :
    State.step ⟨frames, .firstItem⟩ token = State.step ⟨.array [] :: frames, .value⟩ token := by
  cases token <;> first | rfl | exact absurd rfl h

theorem readsBack_array {items : List Json} (h : ∀ item ∈ items, ReadsBack item) :
    ReadsBack (.array items) := by
  intro frames
  rw [tokens, itemTokens_eq_map]
  cases items with
  | nil => rfl
  | cons item items =>
    have hbegin : State.step ⟨frames, .value⟩ .beginArray = some ⟨frames, .firstItem⟩ := rfl
    obtain ⟨token, rest, htokens, hne⟩ := exists_tokens_eq_cons item
    obtain ⟨others, hothers⟩ := exists_intercalate_eq_cons htokens items .endArray
    have hitems := foldlM_members tokens .endArray
      (fun done => ⟨.array done :: frames, .value⟩)
      (fun done item => ⟨.array done :: frames, .separator item⟩)
      (fun done => ⟨frames, .separator (.array done.reverse)⟩)
      (fun item hitem _ => h item hitem _) (fun _ _ => rfl) (fun _ _ => rfl)
      (List.cons_ne_nil item items) []
    rw [foldlM_cons_of_eq_some hbegin, hothers, foldlM_step_congr (step_firstItem hne),
      ← hothers, hitems]
    simp

/-- A field is read behind the fields before it, up to its value. -/
theorem foldlM_fieldTokens {field : String × Json} (h : ReadsBack field.2)
    (done : List (JsonString × Json)) :
    (fieldTokens field).foldlM State.step ⟨frames, .key done⟩ =
      some ⟨.object done (.text field.1) :: frames, .separator field.2⟩ := by
  have hkey : State.step ⟨frames, .key done⟩ (.string (.text field.1)) =
      some ⟨frames, .colon done (.text field.1)⟩ := rfl
  have hcolon : State.step ⟨frames, .colon done (.text field.1)⟩ .colon =
      some ⟨.object done (.text field.1) :: frames, .value⟩ := rfl
  rw [fieldTokens, foldlM_cons_of_eq_some hkey, foldlM_cons_of_eq_some hcolon, h]

theorem readsBack_record {fields : List (String × Json)}
    (h : ∀ field ∈ fields, ReadsBack field.2) : ReadsBack (.record fields) := by
  intro frames
  rw [tokens_record]
  cases fields with
  | nil => rfl
  | cons field fields =>
    have hbegin : State.step ⟨frames, .value⟩ .beginObject = some ⟨frames, .firstKey⟩ := rfl
    have hfirst : State.step ⟨frames, .firstKey⟩ (.string (.text field.1)) =
        State.step ⟨frames, .key []⟩ (.string (.text field.1)) := rfl
    have htokens : fieldTokens field =
        .string (.text field.1) :: .colon :: field.2.tokens := rfl
    obtain ⟨others, hothers⟩ := exists_intercalate_eq_cons htokens fields .endObject
    let keyed (field : String × Json) : JsonString × Json := (.text field.1, field.2)
    have hfields := foldlM_members fieldTokens .endObject
      (fun done => ⟨frames, .key (done.map keyed)⟩)
      (fun done field => ⟨.object (done.map keyed) (.text field.1) :: frames, .separator field.2⟩)
      (fun done => ⟨frames, .separator (.object (done.map keyed).reverse)⟩)
      (fun field hfield done => foldlM_fieldTokens (h field hfield) (done.map keyed))
      (fun _ _ => rfl) (fun _ _ => rfl) (List.cons_ne_nil field fields) []
    rw [foldlM_cons_of_eq_some hbegin, hothers, foldlM_step_congr hfirst, ← hothers]
    refine hfields.trans ?_
    simp [Json.record, keyed]

theorem Plain.readsBack (h : Plain j) : ReadsBack j := by
  induction h with
  | null | bool | int | text => exact fun _ => rfl
  | array h ih => exact readsBack_array ih
  | record h ih => exact readsBack_record ih

theorem Plain.ofTokens?_tokens (h : Plain j) : ofTokens? j.tokens = some j := by
  rw [ofTokens?, State.start, h.readsBack]
  rfl

theorem Plain.parse?_eq_some {text : String} (h : Plain j) (htext : Spells text.toList j.tokens) :
    parse? text = some j := by
  rw [parse?, htext.tokens?_eq, Option.bind_some, h.ofTokens?_tokens]

/-- A document that is written in one line is read back. -/
theorem Plain.parse?_compact (h : Plain j) : parse? j.compact = some j :=
  h.parse?_eq_some h.spells_compact

/-- A document with every item on a line of its own is read back. -/
theorem Plain.parse?_pretty (h : Plain j) : parse? j.pretty = some j :=
  h.parse?_eq_some h.spells_pretty

end PortableSql.Json
