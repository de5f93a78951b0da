import Mathlib.Data.Prod.Lex
import PortableSql.Backend

/-! What later versions keep. Versions are in order by their major and then by their minor
number, and a profile asks of a version only whether it comes at or after a given one. Such a
gate that is open stays open, and behind a gate a profile only ever adds: a capability, a lock
clause, the support of sequences or of identity columns, or room for more bind markers. So the
dialect of a later version has whatever the dialect of an earlier one has. -/

namespace PortableSql

namespace Version

/-- Versions by major number, and by minor number within a major one. -/
instance : Preorder Version := Preorder.lift fun v => toLex (v.major, v.minor)

variable {v w : Version}

theorem atLeast_iff : w.atLeast v = true ↔ v ≤ w := by
  rw [atLeast]
  change _ ↔ toLex (v.major, v.minor) ≤ toLex (w.major, w.minor)
  rw [Prod.Lex.toLex_le_toLex]
  simp [@eq_comm _ v.major]

/-- A gate that is open stays open. -/
theorem atLeast_of_le (h : v ≤ w) {gate : Version} (hv : v.atLeast gate = true) :
    w.atLeast gate = true :=
  atLeast_iff.2 ((atLeast_iff.1 hv).trans h)

end Version

/-- What is on stays on. -/
def Capabilities.Extends (new old : Capabilities) : Prop :=
  ∀ c, old.has c = true → new.has c = true

/-- One configuration has whatever another one has. -/
structure Config.Extends (new old : Config) : Prop where
  capabilities : new.capabilities.Extends old.capabilities
  sequences : old.sequences.supported = true → new.sequences.supported = true
  identity : old.identity.supported = true → new.identity.supported = true
  forShare : old.locking.forShare.isSome = true → new.locking.forShare.isSome = true
  nowait : old.locking.nowait.isSome = true → new.locking.nowait.isSome = true
  skipLocked : old.locking.skipLocked.isSome = true → new.locking.skipLocked.isSome = true
  wait : old.locking.wait.isSome = true → new.locking.wait.isSome = true
  inListCeiling : old.inListCeiling ≤ new.inListCeiling

section Gates

variable {p q : Bool} {new old : Capabilities}

theorem Capabilities.Extends.refl (s : Capabilities) : s.Extends s := fun _ => id

/-- More capabilities come on behind a gate. -/
theorem Capabilities.Extends.enable (h : new.Extends old) (hgate : p = true → q = true)
    (on : List Capability) :
    (new.enable (if q then on else [])).Extends (old.enable (if p then on else [])) := by
  intro c hc
  rw [has_enable, Bool.or_eq_true, decide_eq_true_eq, List.mem_ite_nil_right] at hc ⊢
  exact hc.imp (And.imp_left hgate) (h c)

/-- A clause comes up behind a gate. -/
theorem isSome_of_gate {α : Type} {a : α} (hgate : p = true → q = true)
    (h : (if p then some a else none).isSome = true) :
    (if q then some a else none).isSome = true := by
  rw [Option.isSome_ite] at h ⊢
  exact hgate h

end Gates

section Databases

variable {v w : Version}

theorem Config.Extends.refl (c : Config) : c.Extends c where
  capabilities := .refl _
  sequences := id
  identity := id
  forShare := id
  nowait := id
  skipLocked := id
  wait := id
  inListCeiling := le_rfl

-- The profiles: a field that is not listed stands behind no gate and is the same at both versions.

theorem Postgresql.config_extends (h : v ≤ w) : (config w).Extends (config v) :=
  { Config.Extends.refl (config v) with
    skipLocked := isSome_of_gate (Version.atLeast_of_le h) }

theorem Mysql.config_extends (h : v ≤ w) : (config w).Extends (config v) :=
  { Config.Extends.refl (config v) with
    capabilities := Capabilities.Extends.enable (.refl _) (Version.atLeast_of_le h) _
    nowait := isSome_of_gate (Version.atLeast_of_le h)
    skipLocked := isSome_of_gate (Version.atLeast_of_le h) }

theorem Oracle.config_extends (h : v ≤ w) : (config w).Extends (config v) :=
  { Config.Extends.refl (config v) with
    capabilities :=
      ((Capabilities.Extends.refl _).enable (Version.atLeast_of_le h) _).enable
        (Version.atLeast_of_le h) _
    identity := Version.atLeast_of_le h }

theorem SqlServer.sequences_supported (v : Version) :
    (config v).sequences.supported = v.atLeast ⟨11, 0⟩ := by
  cases h : v.atLeast ⟨11, 0⟩ with
  | true => simp [config, h, SequenceSupport.standard]
  | false => simp [config, h, SequenceSupport.absent]

theorem SqlServer.config_extends (h : v ≤ w) : (config w).Extends (config v) :=
  { Config.Extends.refl (config v) with
    capabilities :=
      ((Capabilities.Extends.refl _).enable (Version.atLeast_of_le h) _).enable
        (Version.atLeast_of_le h) _
    sequences := by
      rw [sequences_supported, sequences_supported]
      exact Version.atLeast_of_le h }

theorem Sqlite.config_extends (h : v ≤ w) : (config w).Extends (config v) :=
  { Config.Extends.refl (config v) with
    capabilities :=
      (((Capabilities.Extends.refl _).enable (Version.atLeast_of_le h) _).enable
        (Version.atLeast_of_le h) _).enable (Version.atLeast_of_le h) _
    inListCeiling := by
      have hroom : legacyMarkerLimit ≤ markerLimit := by decide
      change (if v.atLeast ⟨3, 32⟩ then markerLimit else legacyMarkerLimit) ≤
        if w.atLeast ⟨3, 32⟩ then markerLimit else legacyMarkerLimit
      split_ifs with hv hw
      · exact le_rfl
      · exact absurd (Version.atLeast_of_le h hv) hw
      · exact hroom
      · exact le_rfl }

theorem Backend.config_extends (b : Backend) (h : v ≤ w) :
    (b.profile.config w).Extends (b.profile.config v) := by
  cases b with
  | standard => exact .refl _
  | postgresql => exact Postgresql.config_extends h
  | mysql => exact Mysql.config_extends h
  | oracle => exact Oracle.config_extends h
  | sqlserver => exact SqlServer.config_extends h
  | sqlite => exact Sqlite.config_extends h
  | duckdb => exact .refl _

end Databases

/-- A version comes at or after another exactly if it does so by major and then by minor number,
and the dialect of a database has then whatever the dialect of the earlier version has: its
capabilities, sequences, identity columns and optional lock clauses, and no smaller ceiling
unless a ceiling is reported. -/
theorem later_version_keeps_features (b : Backend) (info : ResolutionInfo) (v w : Version) :
    let old := b.dialect { info with version := v }
    let new := b.dialect { info with version := w }
    (w.atLeast v = true ↔ toLex (v.major, v.minor) ≤ toLex (w.major, w.minor)) ∧
      (toLex (v.major, v.minor) ≤ toLex (w.major, w.minor) →
        new.config.Extends old.config ∧
          (info.inListCeiling = none → old.inListCeiling ≤ new.inListCeiling)) := by
  intro old new
  refine ⟨Version.atLeast_iff, fun h => ?_⟩
  have hextends : new.config.Extends old.config := b.config_extends h
  refine ⟨hextends, fun hnone => ?_⟩
  have hceiling : ∀ v, (b.dialect { info with version := v }).inListCeiling =
      (b.profile.config v).inListCeiling := by
    intro v
    rw [Backend.inListCeiling_dialect]
    simp only [hnone, Option.getD_none]
  rw [hceiling, hceiling]
  exact hextends.inListCeiling

end PortableSql
