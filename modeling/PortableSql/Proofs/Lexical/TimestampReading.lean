import PortableSql.Lexical.Literal
import PortableSql.Proofs.Lexical.MomentReading

/-! Timestamp literals read back. The two styles begin differently, and both put the moment between
quotes, so a literal shows its style and all of the moment. The second sixty is shown only of a leap
second, and a leap second that stands where the calendar puts it follows the last second of a
minute. So the second and the fraction that are shown give back the second and the nanoseconds. -/

namespace PortableSql

/-- The moment is one of the calendar, and a leap second follows the last second of a minute. -/
structure LocalMoment.Regular (m : LocalMoment) : Prop extends m.Valid where
  leap : secondNanos ≤ m.time.nanosecond → m.time.second = 59

/-- The time that a clock shows. Its second sixty is the leap second after the second before. -/
def ClockTime.ofShown (t : ClockTime) : ClockTime :=
  if t.second = 60 then { t with second := 59, nanosecond := secondNanos + t.nanosecond } else t

/-- Read what stands before the moment of a literal. The result is the style and what is left. -/
def readStyle (s : List Char) : Option (MomentStyle × List Char) :=
  match readWord "\x7bts '".toList s with
  | some rest => some (.escaped, rest)
  | none => (readWord "timestamp '".toList s).map (.ansi, ·)

/-- What stands behind the moment of a literal. -/
def MomentStyle.ending : MomentStyle → List Char
  | escaped => ['\'', '\x7d']
  | ansi => ['\'']

/-- Read a timestamp literal, to its end. -/
def readTimestamp (s : List Char) : Option (MomentStyle × LocalMoment) := do
  let (style, s) ← readStyle s
  let (moment, s) ← readMoment s
  if s = style.ending then some (style, ⟨moment.date, moment.time.ofShown⟩) else none

theorem ClockTime.ofShown_shown {t : ClockTime} (h : t.Valid)
    (hleap : secondNanos ≤ t.nanosecond → t.second = 59) : t.shown.ofShown = t := by
  have hsecond := h.second_lt
  have hnanosecond := h.nanosecond_lt
  by_cases hpast : secondNanos ≤ t.nanosecond
  · -- within a leap second the fraction is what goes past the whole second
    have hlast := hleap hpast
    have hshown : t.shownSecond = 60 := by
      simp only [shownSecond, secondNanos] at hpast hnanosecond ⊢
      omega
    have hfraction : secondNanos + t.shownNanosecond = t.nanosecond := by
      simp only [shownNanosecond, secondNanos] at hpast hnanosecond ⊢
      omega
    simp only [ofShown, shown, hshown, if_true, hfraction, ← hlast]
  · have hdiv : t.nanosecond / secondNanos = 0 := Nat.div_eq_of_lt (by omega)
    have hmod : t.nanosecond % secondNanos = t.nanosecond := Nat.mod_eq_of_lt (by omega)
    have hshown : t.shown = t := by
      simp only [shown, shownSecond, shownNanosecond, hdiv, hmod, Nat.add_zero]
    rw [hshown, ofShown, if_neg (by omega)]

theorem readStyle_escaped (rest : List Char) :
    readStyle ("\x7bts '".toList ++ rest) = some (.escaped, rest) := by
  rw [readStyle, readWord_append]

theorem readStyle_ansi (rest : List Char) :
    readStyle ("timestamp '".toList ++ rest) = some (.ansi, rest) := by
  have hother : readWord "\x7bts '".toList ("timestamp '".toList ++ rest) = none := by
    simp [readWord]
  rw [readStyle, hother, readWord_append, Option.map_some]

/-- The three parts of a literal. -/
theorem toList_timestamp (style : MomentStyle) (m : LocalMoment) :
    ∃ beginning, (Literal.timestamp style m).toList = beginning ++ (m.chars ++ style.ending) ∧
      ∀ rest, readStyle (beginning ++ rest) = some (style, rest) := by
  cases style with
  | escaped =>
    exact ⟨_, by simp [Literal.timestamp, Literal.moment, MomentStyle.ending], readStyle_escaped⟩
  | ansi =>
    exact ⟨_, by simp [Literal.timestamp, Literal.moment, MomentStyle.ending], readStyle_ansi⟩

theorem readTimestamp_timestamp (style : MomentStyle) {m : LocalMoment} (h : m.Regular) :
    readTimestamp (Literal.timestamp style m).toList = some (style, m) := by
  obtain ⟨beginning, htext, hstyle⟩ := toList_timestamp style m
  have htime : m.shown.time.ofShown = m.time := ClockTime.ofShown_shown h.time h.leap
  rw [htext, readTimestamp]
  simp only [hstyle, readMoment_chars h.toValid, Option.bind_eq_bind, Option.bind_some, if_true,
    htime]
  rfl

/-- A timestamp literal in either style is read back to its end, as the moment it was written for,
in any year and within leap seconds. So different moments have different literals, and so have
the two styles. -/
theorem timestamps_read_back {m : LocalMoment} (hm : m.Regular) (style : MomentStyle) :
    readTimestamp (Literal.timestamp style m).toList = some (style, m) ∧
      ∀ (other : MomentStyle) (n : LocalMoment), n.Regular →
        (Literal.timestamp style m = Literal.timestamp other n ↔ style = other ∧ m = n) := by
  have hread := readTimestamp_timestamp style hm
  refine ⟨hread, fun other n hn => ?_⟩
  constructor
  · intro h
    rw [h, readTimestamp_timestamp other hn, Option.some_inj, Prod.mk.injEq] at hread
    exact ⟨hread.1.symm, hread.2.symm⟩
  · rintro ⟨rfl, rfl⟩
    rfl

/-- Within the leap second at the end of a year far before the year zero, and the same fraction of
the second before. -/
theorem far_leap_second_reads_back :
    let m : LocalMoment := ⟨⟨-262143, 12, 31⟩, ⟨23, 59, 59, 1500000000⟩⟩
    let n : LocalMoment := ⟨⟨-262143, 12, 31⟩, ⟨23, 59, 59, 500000000⟩⟩
    (m.Regular ∧ n.Regular) ∧
      Literal.timestamp .escaped m = "\x7bts '-262143-12-31 23:59:60.500000000'\x7d" ∧
      readTimestamp (Literal.timestamp .escaped m).toList = some (.escaped, m) ∧
      Literal.timestamp .escaped m ≠ Literal.timestamp .escaped n := by
  intro m n
  have hdate : m.date.Valid := ⟨by decide, by decide, by decide, by decide⟩
  have hm : m.Regular :=
    { date := hdate, time := ⟨by decide, by decide, by decide, by decide⟩, leap := fun _ => rfl }
  have hn : n.Regular :=
    { date := hdate, time := ⟨by decide, by decide, by decide, by decide⟩, leap := fun _ => rfl }
  obtain ⟨hread, hdistinct⟩ := timestamps_read_back hm .escaped
  have hne : m ≠ n := by decide
  exact ⟨⟨hm, hn⟩, by decide +kernel, hread, fun h => hne ((hdistinct .escaped n hn).1 h).2⟩

end PortableSql
