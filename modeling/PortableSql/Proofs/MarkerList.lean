import Mathlib.Algebra.Ring.Nat
import Mathlib.Tactic.SplitIfs
import PortableSql.Dialect.Phrase
import PortableSql.Proofs.BatchSize
import PortableSql.Proofs.Text.Joined

/-! Lists of bind markers hold every key. The number of markers is padded only below a
ceiling, so it passes the ceiling only when the keys do, and then there is one marker
for each key. A list within its ceiling is one group; a longer one is cut into full
groups and a last one for what is left. The markers of a text are counted beside those
that the text of the column holds. -/

namespace PortableSql

namespace InList

/-- The number of markers for some keys: no key is lost, and there are as many markers as keys
without padding and above a positive ceiling. -/
structure Covers (keys : Nat) (padded : Bool) (ceiling : Int) (count : Nat) : Prop where
  all_bound : keys ≤ count
  unpadded : padded = false → count = keys
  above : 0 < ceiling → ceiling < count → ceiling < keys ∧ count = keys

/-- The groups of a list that is cut at a ceiling: all but the last one full, and none empty. -/
structure Cut (count ceiling : Nat) (sizes : List Nat) : Prop where
  length : sizes.length = Number.ceilDiv count ceiling
  bounds : ∀ n ∈ sizes, 1 ≤ n ∧ n ≤ ceiling
  full : ∀ n ∈ sizes.dropLast, n = ceiling
  sum : sizes.sum = count

/-- The text of a list of markers under a ceiling. -/
structure Writes (column : String) (count : Nat) (ceiling : Int) (text : String) : Prop where
  single : ceiling ≤ 0 ∨ count ≤ ceiling →
    text = column ++ " in(" ++ ",".intercalate (List.replicate count "?") ++ ")"
  split : 0 < ceiling → ceiling < count → ∃ sizes, Cut count ceiling.toNat sizes ∧
    text = "(" ++ " or ".intercalate (sizes.map fun n =>
      column ++ " in(" ++ ",".intercalate (List.replicate n "?") ++ ")") ++ ")"
  /-- The text has the markers of the list and those of the column in each group. -/
  markers : text.toList.count '?' = count + column.toList.count '?' *
    if 0 < ceiling ∧ ceiling < count then Number.ceilDiv count ceiling.toNat else 1

theorem ceilDiv_sub_add_one {count ceiling : Nat} (hcount : 0 < count) (h : 0 < ceiling) :
    Number.ceilDiv (count - ceiling) ceiling + 1 = Number.ceilDiv count ceiling := by
  rw [Number.ceilDiv, Number.ceilDiv, ← Nat.add_div_right _ h]
  rcases Nat.le_total ceiling count with hle | hle
  · congr 1
    omega
  · rw [Nat.div_eq_of_lt_le (k := 1) (by omega) (by omega),
      Nat.div_eq_of_lt_le (k := 1) (by omega) (by omega)]

theorem Cut.nil {ceiling : Nat} (h : 0 < ceiling) : Cut 0 ceiling [] where
  length := (Nat.div_eq_of_lt (by omega)).symm
  bounds := by simp
  full := by simp
  sum := rfl

/-- Only the last group is not full: where markers are left behind a group, it had the ceiling. -/
theorem Cut.cons {count ceiling : Nat} {sizes : List Nat} (hcount : 0 < count) (h : 0 < ceiling)
    (rest : Cut (count - ceiling) ceiling sizes) :
    Cut count ceiling (min ceiling count :: sizes) where
  length := by rw [List.length_cons, rest.length, ceilDiv_sub_add_one hcount h]
  bounds := List.forall_mem_cons.2 ⟨by omega, rest.bounds⟩
  full := by
    cases sizes with
    | nil => simp
    | cons n others =>
      have hn := (rest.bounds n List.mem_cons_self).1
      have hsum := rest.sum
      rw [List.sum_cons] at hsum
      rw [List.dropLast_cons_cons]
      exact List.forall_mem_cons.2 ⟨by omega, rest.full⟩
  sum := by
    rw [List.sum_cons, rest.sum]
    omega

theorem cut_groupSizes {count ceiling : Nat} (h : 0 < ceiling) :
    Cut count ceiling (groupSizes count ceiling) := by
  fun_induction groupSizes count ceiling with
  | case1 count hpos ih => exact ih.cons hpos.1 h
  | case2 count hzero =>
    obtain rfl : count = 0 := by omega
    exact .nil h

theorem count_group (column : String) (n : Nat) :
    (group column n).toList.count '?' = column.toList.count '?' + n := by
  simp only [group, String.toList_append, List.count_append,
    Text.count_intercalate (show '?' ∉ ",".toList by decide)]
  simp

theorem count_groups (column : String) (sizes : List Nat) :
    ((" or ".intercalate (sizes.map (group column))).toList).count '?' =
      column.toList.count '?' * sizes.length + sizes.sum := by
  rw [Text.count_intercalate (by decide)]
  induction sizes with
  | nil => simp
  | cons n rest ih =>
    simp only [List.map_cons, List.sum_cons, List.length_cons, count_group, ih, Nat.mul_succ]
    omega

theorem render_writes (column : String) (count : Nat) (ceiling : Int) :
    Writes column count ceiling (render column count ceiling) where
  single h := by
    rw [render, if_neg (by omega)]
    rfl
  split hpos hlt := by
    refine ⟨groupSizes count ceiling.toNat, cut_groupSizes (by omega), ?_⟩
    rw [render, if_pos ⟨hpos, hlt⟩]
    rfl
  markers := by
    rw [render]
    split_ifs with h
    · have hcut : Cut count ceiling.toNat (groupSizes count ceiling.toNat) :=
        cut_groupSizes (by omega)
      simp only [String.toList_append, List.count_append, count_groups, hcut.length, hcut.sum]
      simp [Nat.add_comm]
    · rw [count_group]
      omega

end InList

/-- Where padding passes a ceiling, the batch is no larger than the keys. -/
theorem Dialect.markerCount_covers (d : Dialect) (keys : Nat) (settings : Settings) :
    InList.Covers keys settings.padInLists d.inListCeiling (d.markerCount keys settings) := by
  rw [markerCount, paddingBatch?]
  split_ifs with h
  · have hle : 0 < d.inListCeiling →
        (BatchSize.choose 1 keys d.inListCeiling).size ≤ d.inListCeiling.toNat :=
      BatchSize.size_choose_le keys
    simp only [batchSize]
    exact ⟨by omega, by simp [h.1], fun hpos hlt => by have := hle hpos; omega⟩
  · exact ⟨le_rfl, fun _ => rfl, fun _ hlt => ⟨hlt, rfl⟩⟩

/-- A list for some keys has a marker for each key, and its text has the markers of that count
and no others, under any ceiling and with or without padding. -/
theorem inList_covers_and_writes (d : Dialect) (column : String) (settings : Settings) {keys : Nat}
    (h : 1 ≤ keys) :
    InList.Covers keys settings.padInLists d.inListCeiling (d.markerCount keys settings) ∧
      InList.Writes column (d.markerCount keys settings) d.inListCeiling
        (d.inList column keys settings) := by
  refine ⟨d.markerCount_covers keys settings, ?_⟩
  rw [Dialect.inList, if_neg (by omega)]
  exact InList.render_writes _ _ _

/-- Ten keys under a ceiling of eight fill one group and begin another. -/
theorem inList_ten_keys_under_eight :
    let d := { Dialect.standard with inListCeiling := 8 }
    let settings : Settings := ⟨true, false⟩
    1 ≤ 10 ∧ d.markerCount 10 settings = 10 ∧
      d.inList "id" 10 settings = "(id in(?,?,?,?,?,?,?,?) or id in(?,?))" ∧
      InList.Covers 10 settings.padInLists d.inListCeiling (d.markerCount 10 settings) ∧
      InList.Writes "id" (d.markerCount 10 settings) d.inListCeiling
        (d.inList "id" 10 settings) := by
  intro d settings
  have hkeys : 1 ≤ 10 := by decide
  have hcount : d.markerCount 10 settings = 10 := by decide +kernel
  have htext : d.inList "id" 10 settings = "(id in(?,?,?,?,?,?,?,?) or id in(?,?))" := by
    decide +kernel
  exact ⟨hkeys, hcount, htext, inList_covers_and_writes d "id" settings hkeys⟩

end PortableSql
