import Mathlib.Algebra.Ring.Nat
import Mathlib.Order.Bounds.Basic
import Mathlib.Tactic.SplitIfs
import PortableSql.InList

/-! The sizes of batches. Without a ceiling a batch has the least power of two that holds its
keys; under a ceiling the power gives way to the number of keys, and that to the ceiling. The
size as a function of the number of keys is monotone and idempotent across these regimes: a
power that stays below the ceiling is below every number of keys whose own power does not. A
batch of some keys is never empty, so one batch after the other takes all of them. -/

namespace PortableSql

/-- The powers of two from a number on. -/
def powersFrom (n : Nat) : Set Nat := {p | p.isPowerOfTwo ∧ n ≤ p}

section Powers

variable {m n p : Nat}

theorem isLeast_ceilingPowerOfTwo (n : Nat) :
    IsLeast (powersFrom (max n 1)) (ceilingPowerOfTwo n) := by
  rw [ceilingPowerOfTwo]
  split_ifs with hn
  · refine ⟨⟨⟨0, rfl⟩, by omega⟩, fun p hp => ?_⟩
    exact (le_max_right n 1).trans hp.2
  · have hlt : n - 1 < 2 ^ ((n - 1).log2 + 1) := Nat.lt_log2_self
    refine ⟨⟨⟨_, rfl⟩, ?_⟩, ?_⟩
    · change max n 1 ≤ 2 ^ ((n - 1).log2 + 1)
      omega
    · rintro p ⟨⟨e, rfl⟩, hp⟩
      have hlog : (n - 1).log2 < e := (Nat.log2_lt (by omega)).2 (by omega)
      exact Nat.pow_le_pow_right (by decide) hlog

theorem le_ceilingPowerOfTwo (n : Nat) : n ≤ ceilingPowerOfTwo n :=
  (le_max_left n 1).trans (isLeast_ceilingPowerOfTwo n).1.2

theorem one_le_ceilingPowerOfTwo (n : Nat) : 1 ≤ ceilingPowerOfTwo n :=
  (le_max_right n 1).trans (isLeast_ceilingPowerOfTwo n).1.2

/-- A power of two that holds some keys holds the power for those keys. -/
theorem ceilingPowerOfTwo_le (hp : p.isPowerOfTwo) (h : n ≤ p) : ceilingPowerOfTwo n ≤ p :=
  (isLeast_ceilingPowerOfTwo n).2 ⟨hp, max_le h (Nat.pos_of_isPowerOfTwo hp)⟩

theorem isPowerOfTwo_ceilingPowerOfTwo (n : Nat) : (ceilingPowerOfTwo n).isPowerOfTwo :=
  (isLeast_ceilingPowerOfTwo n).1.1

theorem ceilingPowerOfTwo_mono (h : m ≤ n) : ceilingPowerOfTwo m ≤ ceilingPowerOfTwo n :=
  ceilingPowerOfTwo_le (isPowerOfTwo_ceilingPowerOfTwo n) (h.trans (le_ceilingPowerOfTwo n))

theorem ceilingPowerOfTwo_idem (n : Nat) :
    ceilingPowerOfTwo (ceilingPowerOfTwo n) = ceilingPowerOfTwo n :=
  Nat.le_antisymm (ceilingPowerOfTwo_le (isPowerOfTwo_ceilingPowerOfTwo n) le_rfl)
    (le_ceilingPowerOfTwo _)

end Powers

section Capped

variable {ceiling m n : Nat}

/-- The size under a ceiling: the power of two below it, or else the keys that fit. -/
def cappedSize (ceiling n : Nat) : Nat :=
  if ceilingPowerOfTwo n < ceiling then ceilingPowerOfTwo n else min n ceiling

theorem cappedSize_of_lt (h : ceilingPowerOfTwo n < ceiling) :
    cappedSize ceiling n = ceilingPowerOfTwo n := if_pos h

theorem cappedSize_of_le (h : ceiling ≤ ceilingPowerOfTwo n) :
    cappedSize ceiling n = min n ceiling := if_neg (Nat.not_lt.2 h)

theorem min_le_cappedSize (ceiling n : Nat) : min n ceiling ≤ cappedSize ceiling n := by
  have hle := le_ceilingPowerOfTwo n
  rw [cappedSize]
  split_ifs
  · omega
  · exact le_rfl

theorem cappedSize_le (ceiling n : Nat) : cappedSize ceiling n ≤ ceiling := by
  rw [cappedSize]
  split_ifs
  · omega
  · exact min_le_right n ceiling

theorem cappedSize_mono (h : m ≤ n) : cappedSize ceiling m ≤ cappedSize ceiling n := by
  have hpower := ceilingPowerOfTwo_mono h
  rcases Nat.lt_or_ge (ceilingPowerOfTwo n) ceiling with hn | hn
  · rwa [cappedSize_of_lt hn, cappedSize_of_lt (hpower.trans_lt hn)]
  · rcases Nat.lt_or_ge (ceilingPowerOfTwo m) ceiling with hm | hm
    · -- the power for `m` holds fewer than `n` keys, or it would be the power for `n` too
      have hfewer : ceilingPowerOfTwo m < n := by
        by_contra hnot
        have hsame := ceilingPowerOfTwo_le (isPowerOfTwo_ceilingPowerOfTwo m) (Nat.not_lt.1 hnot)
        omega
      rw [cappedSize_of_lt hm, cappedSize_of_le hn]
      omega
    · rw [cappedSize_of_le hm, cappedSize_of_le hn]
      omega

theorem cappedSize_idem (ceiling n : Nat) :
    cappedSize ceiling (cappedSize ceiling n) = cappedSize ceiling n := by
  rcases Nat.lt_or_ge (ceilingPowerOfTwo n) ceiling with hn | hn
  · rw [cappedSize_of_lt hn, cappedSize_of_lt (by rwa [ceilingPowerOfTwo_idem]),
      ceilingPowerOfTwo_idem]
  · rw [cappedSize_of_le hn]
    rcases Nat.le_total n ceiling with hfits | hfits
    · rw [Nat.min_eq_left hfits, cappedSize_of_le hn, Nat.min_eq_left hfits]
    · rw [Nat.min_eq_right hfits, cappedSize_of_le (le_ceilingPowerOfTwo ceiling), Nat.min_self]

end Capped

namespace BatchSize

variable {columns keys : Nat} {ceiling : Int}

/-- The size of a batch as a function of the number of keys. -/
def sizeFor (columns : Nat) (ceiling : Int) (keys : Nat) : Nat := (choose columns keys ceiling).size

theorem sizeFor_of_unbounded (h : 1 < columns ∨ ceiling ≤ 0) (keys : Nat) :
    sizeFor columns ceiling keys = ceilingPowerOfTwo keys := by
  rw [sizeFor, choose, if_pos h]
  rfl

theorem sizeFor_of_bounded (h : ¬ (1 < columns ∨ ceiling ≤ 0)) (keys : Nat) :
    sizeFor columns ceiling keys = cappedSize ceiling.toNat keys := by
  rw [sizeFor, choose, if_neg h, cappedSize]
  dsimp only
  split_ifs with hpadded hkeys hfull
  · rfl
  all_goals
    simp only [size]
    omega

/-- Under a ceiling a size is padded only if the power of two is below the ceiling. -/
theorem choose_eq_padded_iff (h : ¬ (1 < columns ∨ ceiling ≤ 0)) (keys : Nat) :
    choose columns keys ceiling = .padded (ceilingPowerOfTwo keys) ↔
      ceilingPowerOfTwo keys < ceiling.toNat := by
  rw [choose, if_neg h]
  dsimp only
  split_ifs with hpadded <;> simp [hpadded]

/-- A batch of single columns stays within a positive ceiling. -/
theorem size_choose_le (keys : Nat) (h : 0 < ceiling) :
    (choose 1 keys ceiling).size ≤ ceiling.toNat := by
  rw [← sizeFor, sizeFor_of_bounded (by omega)]
  exact cappedSize_le _ _

theorem sizeFor_mono (columns : Nat) (ceiling : Int) : Monotone (sizeFor columns ceiling) := by
  intro m n h
  by_cases hbound : 1 < columns ∨ ceiling ≤ 0
  · rw [sizeFor_of_unbounded hbound, sizeFor_of_unbounded hbound]
    exact ceilingPowerOfTwo_mono h
  · rw [sizeFor_of_bounded hbound, sizeFor_of_bounded hbound]
    exact cappedSize_mono h

theorem sizeFor_idem (columns : Nat) (ceiling : Int) (keys : Nat) :
    sizeFor columns ceiling (sizeFor columns ceiling keys) = sizeFor columns ceiling keys := by
  by_cases hbound : 1 < columns ∨ ceiling ≤ 0
  · rw [sizeFor_of_unbounded hbound, sizeFor_of_unbounded hbound, ceilingPowerOfTwo_idem]
  · rw [sizeFor_of_bounded hbound, sizeFor_of_bounded hbound, cappedSize_idem]

/-- A batch of some keys is not empty. -/
theorem one_le_sizeFor (columns : Nat) (ceiling : Int) (h : 1 ≤ keys) :
    1 ≤ sizeFor columns ceiling keys := by
  by_cases hbound : 1 < columns ∨ ceiling ≤ 0
  · rw [sizeFor_of_unbounded hbound]
    exact one_le_ceilingPowerOfTwo keys
  · have hmin := min_le_cappedSize ceiling.toNat keys
    rw [sizeFor_of_bounded hbound]
    omega

/-- The keys that a batch leaves for the next ones. -/
def left (columns : Nat) (ceiling : Int) (keys : Nat) : Nat := keys - sizeFor columns ceiling keys

/-- Each batch takes a key at least, so there are no more batches than keys. -/
theorem exists_iterate_left (columns : Nat) (ceiling : Int) (keys : Nat) :
    ∃ batches ≤ keys, (left columns ceiling)^[batches] keys = 0 := by
  induction keys using Nat.strong_induction_on with
  | _ keys ih =>
    rcases Nat.eq_zero_or_pos keys with rfl | hkeys
    · exact ⟨0, le_rfl, rfl⟩
    · have hlt : left columns ceiling keys < keys :=
        Nat.sub_lt hkeys (one_le_sizeFor columns ceiling hkeys)
      obtain ⟨batches, hle, hdone⟩ := ih _ hlt
      exact ⟨batches + 1, by omega, by rwa [Function.iterate_succ_apply]⟩

/-- The size of a batch is a monotone and idempotent function of the number of keys. It is the
least power of two that holds the keys, unless single columns are under a ceiling that the power
reaches: then it is the number of keys, or the ceiling if there are more. Batches of these sizes
take any number of keys. -/
theorem sizes_are_least_powers_or_capped (columns : Nat) (ceiling : Int) :
    Monotone (sizeFor columns ceiling) ∧
      (∀ k, sizeFor columns ceiling (sizeFor columns ceiling k) = sizeFor columns ceiling k) ∧
      (1 < columns ∨ ceiling ≤ 0 →
        ∀ k, IsLeast (powersFrom (max k 1)) (sizeFor columns ceiling k)) ∧
      (∀ c : Nat, columns ≤ 1 → ceiling = c → 0 < c → ∀ k,
        min k c ≤ sizeFor columns ceiling k ∧ sizeFor columns ceiling k ≤ c ∧
          (k ≤ sizeFor columns ceiling k ↔ k ≤ c) ∧
          ∃ p, IsLeast (powersFrom (max k 1)) p ∧
            (choose columns k ceiling = .padded p ↔ p < c) ∧
            sizeFor columns ceiling k = if p < c then p else min k c) ∧
      ∀ k, (1 ≤ k → 1 ≤ sizeFor columns ceiling k) ∧
        ∃ batches ≤ k, (left columns ceiling)^[batches] k = 0 := by
  refine ⟨sizeFor_mono columns ceiling, sizeFor_idem columns ceiling, fun hbound k => ?_,
    fun c hcolumns hc hpos k => ?_, fun k => ?_⟩
  · rw [sizeFor_of_unbounded hbound]
    exact isLeast_ceilingPowerOfTwo k
  · have hbound : ¬ (1 < columns ∨ ceiling ≤ 0) := by omega
    have htoNat : ceiling.toNat = c := by omega
    have hmin := min_le_cappedSize c k
    have hmax := cappedSize_le c k
    rw [sizeFor_of_bounded hbound, htoNat]
    refine ⟨hmin, hmax, by omega, ceilingPowerOfTwo k, isLeast_ceilingPowerOfTwo k, ?_, rfl⟩
    rw [choose_eq_padded_iff hbound, htoNat]
  · exact ⟨one_le_sizeFor columns ceiling, exists_iterate_left columns ceiling k⟩

end BatchSize

end PortableSql
