import PortableSql.Proofs.Json.OmittedField

/-! Reports read back from the documents they are stored as. Every field is written as a value that
is read as what it was written for, and so is its default. So a field that holds its default is
read alike whether it is there or left out, and the whole report is read back, unless its ceiling
is below zero, which only the reading of a document refuses. -/

namespace PortableSql

namespace Json

theorem nat32?_nat {n : Nat} (h : n ≤ 4294967295) : nat32? (nat n) = some n := by
  have hfits : (0 : Int) ≤ n ∧ (n : Int) ≤ 4294967295 := by omega
  exact if_pos hfits

theorem text?_text (s : String) : text? (Json.text s) = some s := rfl

theorem option?_option_int {ceiling : Option Int}
    (h : ∀ n ∈ ceiling, -2147483648 ≤ n ∧ n ≤ 2147483647) :
    option? int32? (option .int ceiling) = some ceiling := by
  cases ceiling with
  | none => rfl
  | some n =>
    have hread : int32? (.int n) = some n := if_pos (h n rfl)
    exact congrArg (Option.map some) hread

end Json

open Json

namespace ResolutionInfo

variable {r : ResolutionInfo} {dropped : List String} {text : String}

/-- The numbers of the report fit: versions have 32 bits without a sign, the ceiling with one. -/
structure Storable (r : ResolutionInfo) : Prop where
  major_le : r.version.major ≤ 4294967295
  minor_le : r.version.minor ≤ 4294967295
  ceiling_fits : ∀ ceiling ∈ r.inListCeiling, -2147483648 ≤ ceiling ∧ ceiling ≤ 2147483647

/-- The field is written as it is for a report in which nothing has been set. -/
def HoldsDefault (r : ResolutionInfo) (name : String) : Prop :=
  r.dump.valueOf? name = ({} : ResolutionInfo).dump.valueOf? name

theorem plain_dump (r : ResolutionInfo) : Plain r.dump := by
  refine .record fun field hfield => ?_
  simp only [List.mem_cons, List.not_mem_nil, or_false] at hfield
  rcases hfield with rfl | rfl | rfl | rfl
  · exact .int _
  · exact .int _
  · exact .text _
  · cases r.inListCeiling with
    | none => exact .null
    | some ceiling => exact .int ceiling

theorem fields?_dump (r : ResolutionInfo) :
    r.dump.fields? fieldNames =
      some [some (.nat r.version.major), some (.nat r.version.minor), some (.text r.keywords),
        some (.option .int r.inListCeiling)] := rfl

/-- A field is read as its value, also where it is left out since it holds its default. -/
theorem field?_ite {α : Type} (name : String) (write : α → Json) (default : α)
    {read : Json → Option α} {value : α} (hvalue : read (write value) = some value)
    (hdefault : read (write default) = some default)
    (hwritten : r.dump.valueOf? name = some (write value))
    (hunset : ({} : ResolutionInfo).dump.valueOf? name = some (write default))
    (hdropped : name ∈ dropped → r.HoldsDefault name) :
    field? read default (if name ∈ dropped then none else some (write value)) = some value := by
  split_ifs with h
  · have hwrite : write value = write default :=
      Option.some.inj (hwritten.symm.trans ((hdropped h).trans hunset))
    calc some default = read (write default) := hdefault.symm
      _ = some value := by rw [← hwrite, hvalue]
  · exact hvalue

theorem ofJson?_dump_without (hr : r.Storable) (hdropped : ∀ name ∈ dropped, r.HoldsDefault name) :
    ofJson? (r.dump.without dropped) = some r := by
  have hfields : (r.dump.without dropped).fields? fieldNames =
      some [if "major_version" ∈ dropped then none else some (nat r.version.major),
        if "minor_version" ∈ dropped then none else some (nat r.version.minor),
        if "keywords" ∈ dropped then none else some (Json.text r.keywords),
        if "in_list_ceiling" ∈ dropped then none else some (option .int r.inListCeiling)] :=
    fields?_without r.fields?_dump dropped
  have hmajor := field?_ite "major_version" nat 0 (nat32?_nat hr.major_le)
    (nat32?_nat (Nat.zero_le _)) rfl rfl (hdropped _)
  have hminor := field?_ite "minor_version" nat 0 (nat32?_nat hr.minor_le)
    (nat32?_nat (Nat.zero_le _)) rfl rfl (hdropped _)
  have hkeywords := field?_ite "keywords" Json.text "" (text?_text r.keywords) (text?_text "")
    rfl rfl (hdropped _)
  have hceiling := field?_ite "in_list_ceiling" (option .int) none
    (option?_option_int hr.ceiling_fits) rfl rfl rfl (hdropped _)
  rw [ofJson?, hfields]
  simp only [Option.bind_eq_bind, Option.bind_some, hmajor, hminor, hkeywords, hceiling]
  rfl

/-- The text is read as the report, or refused for its ceiling if that is below zero. -/
structure ReadFrom (r : ResolutionInfo) (text : String) : Prop where
  accepted : (∀ ceiling ∈ r.inListCeiling, 0 ≤ ceiling) → parse text = .ok r
  refused : ∀ ceiling ∈ r.inListCeiling,
    ceiling < 0 → parse text = .error (.negativeCeiling ceiling)

theorem parse_congr {other : String}
    (h : (Json.parse? text).bind ofJson? = (Json.parse? other).bind ofJson?) :
    parse text = parse other := by
  simp only [parse, h]

theorem readFrom_of_read (h : (Json.parse? text).bind ofJson? = some r) : r.ReadFrom text := by
  constructor
  · intro hnonneg
    simp only [parse, h]
    split
    next ceiling hceiling =>
      have hle : 0 ≤ ceiling := hnonneg ceiling hceiling
      exact if_neg (by omega)
    next => rfl
  · intro ceiling hceiling hneg
    have hsome : r.inListCeiling = some ceiling := hceiling
    simp only [parse, h, hsome]
    exact if_pos hneg

end ResolutionInfo

/-- A report is read back from its document, written in one line or in several, unless its ceiling
is below zero, which is refused. Leaving out fields that hold their defaults changes nothing. -/
theorem stored_report_reads_back {r : ResolutionInfo} (hr : r.Storable) :
    r.ReadFrom r.dump.compact ∧ r.ReadFrom r.dump.pretty ∧
      ∀ dropped : List String, (∀ name ∈ dropped, r.HoldsDefault name) →
        ResolutionInfo.parse (r.dump.without dropped).compact =
          ResolutionInfo.parse r.dump.compact ∧
        ResolutionInfo.parse (r.dump.without dropped).pretty =
          ResolutionInfo.parse r.dump.pretty := by
  have hpartial (dropped : List String) (hdropped : ∀ name ∈ dropped, r.HoldsDefault name) :
      (Json.parse? (r.dump.without dropped).compact).bind ResolutionInfo.ofJson? = some r ∧
        (Json.parse? (r.dump.without dropped).pretty).bind ResolutionInfo.ofJson? = some r := by
    have hplain := r.plain_dump.without dropped
    have hread := ResolutionInfo.ofJson?_dump_without hr hdropped
    exact ⟨by rw [hplain.parse?_compact, Option.bind_some, hread],
      by rw [hplain.parse?_pretty, Option.bind_some, hread]⟩
  have hwhole := hpartial [] (List.forall_mem_nil _)
  rw [without_nil] at hwhole
  refine ⟨ResolutionInfo.readFrom_of_read hwhole.1, ResolutionInfo.readFrom_of_read hwhole.2,
    fun dropped hdropped => ?_⟩
  obtain ⟨hcompact, hpretty⟩ := hpartial dropped hdropped
  exact ⟨ResolutionInfo.parse_congr (hcompact.trans hwhole.1.symm),
    ResolutionInfo.parse_congr (hpretty.trans hwhole.2.symm)⟩

/-- Words with a quote, a backslash, control characters and letters beyond ASCII, the greatest
version and the greatest ceiling, and the least ceiling instead. -/
theorem report_of_odd_words_reads_back :
    let r : ResolutionInfo :=
      { version := ⟨4294967295, 0⟩, keywords := "a\x22b\\c\n\x01é😀",
        inListCeiling := some 2147483647 }
    let s : ResolutionInfo := { r with inListCeiling := some (-2147483648) }
    (r.Storable ∧ s.Storable ∧ (∀ name ∈ ["minor_version"], r.HoldsDefault name)) ∧
      (r.dump.without ["minor_version"]).compact =
        "\x7b\"major_version\":4294967295,\"keywords\":\"a\\\"b\\\\c\\n\\u0001é😀\"," ++
          "\"in_list_ceiling\":2147483647\x7d" ∧
      ResolutionInfo.parse (r.dump.without ["minor_version"]).compact = .ok r ∧
      ResolutionInfo.parse s.dump.pretty = .error (.negativeCeiling (-2147483648)) := by
  intro r s
  have hr : r.Storable :=
    ⟨by decide, by decide, fun _ h => by cases h; decide⟩
  have hs : s.Storable :=
    ⟨by decide, by decide, fun _ h => by cases h; decide⟩
  have hdropped : ∀ name ∈ ["minor_version"], r.HoldsDefault name := by
    intro name hname
    rw [List.mem_singleton.1 hname]
    rfl
  obtain ⟨hcompact, -, hwithout⟩ := stored_report_reads_back hr
  obtain ⟨-, hpretty, -⟩ := stored_report_reads_back hs
  refine ⟨⟨hr, hs, hdropped⟩, by decide +kernel, ?_, hpretty.refused _ rfl (by decide)⟩
  rw [(hwithout _ hdropped).1]
  exact hcompact.accepted fun _ h => by cases h; decide

end PortableSql
