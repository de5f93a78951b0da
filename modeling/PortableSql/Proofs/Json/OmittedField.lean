import PortableSql.Dialect.ResolutionInfo
import PortableSql.Proofs.Json.DocumentReading

/-! Documents without some of their fields. A field that is left out has no value, and every other
field keeps its own. What is left of a document is written and read back like the whole. -/

namespace PortableSql.Json

variable {fields : List (JsonString × Json)} {dropped names : List String} {name : String}
  {j : Json}

/-- The fields of other names. -/
def otherFields (dropped : List String) (fields : List (JsonString × Json)) :
    List (JsonString × Json) :=
  fields.filter fun field => field.1 ∉ dropped.map JsonString.text

/-- The document without the named fields. -/
def without (dropped : List String) : Json → Json
  | .object fields => .object (otherFields dropped fields)
  | j => j

/-- The value that stands under a name. -/
def valueOf? (name : String) : Json → Option Json
  | .object fields => fields.lookup (.text name)
  | _ => none

theorem without_nil (j : Json) : j.without [] = j := by
  cases j <;> simp [without, otherFields]

theorem text_mem_map_iff : JsonString.text name ∈ dropped.map JsonString.text ↔ name ∈ dropped := by
  simp

theorem without_record (dropped : List String) (fields : List (String × Json)) :
    (record fields).without dropped = record (fields.filter fun field => field.1 ∉ dropped) := by
  have hkept (field : String × Json) :
      decide (JsonString.text field.1 ∉ dropped.map JsonString.text) =
        decide (field.1 ∉ dropped) := decide_eq_decide.2 (not_congr text_mem_map_iff)
  simp only [record, without, otherFields, List.filter_map, Function.comp_def, hkept]

theorem Plain.without (h : Plain j) (dropped : List String) : Plain (j.without dropped) := by
  cases h with
  | null => exact .null
  | bool b => exact .bool b
  | int n => exact .int n
  | text s => exact .text s
  | array h => exact .array h
  | record h =>
    rw [without_record]
    exact .record fun field hfield => h field (List.mem_filter.1 hfield).1

/-! ### The values of named fields -/

/-- The value of a field, unless it stands twice. -/
def soleField? (fields : List (JsonString × Json)) (name : String) : Option (Option Json) :=
  match fields.filter (·.1 = .text name) with
  | [] => some none
  | [field] => some (some field.2)
  | _ => none

theorem fields?_object (fields : List (JsonString × Json)) (names : List String) :
    (object fields).fields? names =
      if fields.any (fun f => f.1 matches .unpaired _) then none
      else names.mapM (soleField? fields) := rfl

theorem soleField?_of_mem (h : name ∈ dropped) (fields : List (JsonString × Json)) :
    soleField? (otherFields dropped fields) name = some none := by
  have hnone : (otherFields dropped fields).filter (·.1 = .text name) = [] := by
    refine List.filter_eq_nil_iff.2 fun field hfield hname => ?_
    have hkept : field.1 ∉ dropped.map JsonString.text :=
      of_decide_eq_true (List.mem_filter.1 hfield).2
    rw [of_decide_eq_true hname] at hkept
    exact hkept (text_mem_map_iff.2 h)
  rw [soleField?, hnone]

theorem soleField?_of_notMem (h : name ∉ dropped) (fields : List (JsonString × Json)) :
    soleField? (otherFields dropped fields) name = soleField? fields name := by
  have hall : (otherFields dropped fields).filter (·.1 = .text name) =
      fields.filter (·.1 = .text name) := by
    rw [otherFields, List.filter_filter]
    refine List.filter_congr fun field _ => ?_
    by_cases hfield : field.1 = .text name
    · have hkept : field.1 ∉ dropped.map JsonString.text := by
        rwa [hfield, text_mem_map_iff]
      rw [decide_eq_true hkept, Bool.and_true]
    · rw [decide_eq_false hfield, Bool.false_and]
  rw [soleField?, soleField?, hall]

theorem mapM_soleField?_otherFields {values : List (Option Json)}
    (h : names.mapM (soleField? fields) = some values) (dropped : List String) :
    names.mapM (soleField? (otherFields dropped fields)) =
      some (List.zipWith (fun name value => if name ∈ dropped then none else value)
        names values) := by
  induction names generalizing values with
  | nil => rfl
  | cons name names ih =>
    simp only [List.mapM_cons, Option.bind_eq_bind, Option.bind_eq_some_iff] at h
    obtain ⟨value, hvalue, others, hothers, heq⟩ := h
    cases heq
    have hfirst : soleField? (otherFields dropped fields) name =
        some (if name ∈ dropped then none else value) := by
      split_ifs with hname
      · exact soleField?_of_mem hname fields
      · rw [soleField?_of_notMem hname, hvalue]
    rw [List.mapM_cons, hfirst, ih hothers]
    rfl

/-- The fields that are left out have no value, and the others keep theirs. -/
theorem fields?_without {values : List (Option Json)}
    (h : (object fields).fields? names = some values) (dropped : List String) :
    ((object fields).without dropped).fields? names =
      some (List.zipWith (fun name value => if name ∈ dropped then none else value)
        names values) := by
  rw [fields?_object] at h
  split_ifs at h with hunpaired
  have hpaired : ¬ (otherFields dropped fields).any (fun f => f.1 matches .unpaired _) = true := by
    intro hany
    obtain ⟨field, hfield, hspelled⟩ := List.any_eq_true.1 hany
    exact hunpaired (List.any_eq_true.2 ⟨field, (List.mem_filter.1 hfield).1, hspelled⟩)
  rw [without, fields?_object, if_neg hpaired, mapM_soleField?_otherFields h]

end PortableSql.Json
