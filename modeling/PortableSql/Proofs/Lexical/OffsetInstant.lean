import PortableSql.Lexical.Literal
import PortableSql.Proofs.Lexical.MomentReading

/-! The instant that a moment with an offset denotes, and the instant that its literal denotes. The
local time is written exactly, and the offset only to the minute. So the literal keeps the instant
of an offset of whole minutes, and it moves any other by what the rounding adds to the offset or
takes from it. -/

namespace PortableSql

open Number

/-- The days of the years before a year, from the year zero on. -/
def daysBeforeYear (year : Int) : Int :=
  365 * year + (year + 3) / 4 - (year + 99) / 100 + (year + 399) / 400

/-- The days of the months before a month of a year. -/
def daysBeforeMonth (year : Int) : Nat → Nat
  | 0 | 1 => 0
  | month + 2 => daysBeforeMonth year (month + 1) + monthDays year (month + 1)

/-- The number of a day, where the first day of the year zero has the number one. -/
def CalendarDate.dayNumber (d : CalendarDate) : Int :=
  daysBeforeYear d.year + daysBeforeMonth d.year d.month + d.day

/-- The nanoseconds of the day before a time. -/
def ClockTime.nanos (t : ClockTime) : Nat :=
  ((t.hour * 60 + t.minute) * 60 + t.second) * secondNanos + t.nanosecond

/-- The nanoseconds before a moment, as clocks of its zone count them. -/
def LocalMoment.nanos (m : LocalMoment) : Int :=
  m.date.dayNumber * (86400 * secondNanos) + m.time.nanos

/-- The nanoseconds before a moment, as clocks of the meridian count them. -/
def OffsetMoment.instant (m : OffsetMoment) : Int :=
  m.moment.nanos - m.offset * secondNanos

/-- The moment is one of the calendar, and its offset is less than a day. -/
structure OffsetMoment.Valid (m : OffsetMoment) : Prop where
  moment : m.moment.Valid
  offset_lt : m.offset.natAbs < 86400

/-- Read a sign, which is needed here. -/
def readSign : List Char → Option (Int × List Char)
  | '-' :: s => some (-1, s)
  | '+' :: s => some (1, s)
  | _ => none

/-- Read an offset in hours and minutes. The result is in seconds. -/
def readOffset (s : List Char) : Option (Int × List Char) := do
  let (sign, s) ← readSign s
  let (hours, s) ← readField 2 s
  let (minutes, s) ← readField 2 (← readWord [':'] s)
  return (sign * ((hours * 60 + minutes) * 60 : Nat), s)

/-- Read the literal of a moment with an offset, to its end. -/
def readOffsetTimestamp (s : List Char) : Option OffsetMoment := do
  let s ← readWord "timestamp with time zone '".toList s
  let (moment, s) ← readMoment s
  let (offset, s) ← readOffset s
  let s ← readWord ['\''] s
  if s = [] then some ⟨moment, offset⟩ else none

/-- The offset in whole minutes, given in seconds. -/
def writtenOffset (seconds : Int) : Int :=
  (if seconds < 0 then -1 else 1) * (((seconds.natAbs + 30) / 60 * 60 : Nat) : Int)

/-- The moment as it is shown, with the offset as it is written. -/
def OffsetMoment.written (m : OffsetMoment) : OffsetMoment :=
  ⟨m.moment.shown, writtenOffset m.offset⟩

theorem sixty_dvd_writtenOffset (seconds : Int) : 60 ∣ writtenOffset seconds := by
  rw [writtenOffset]
  split_ifs <;> omega

theorem writtenOffset_near (seconds : Int) : (writtenOffset seconds - seconds).natAbs ≤ 30 := by
  rw [writtenOffset]
  split_ifs <;> omega

theorem writtenOffset_eq_iff {seconds : Int} : writtenOffset seconds = seconds ↔ 60 ∣ seconds := by
  rw [writtenOffset]
  split_ifs <;> omega

theorem readOffset_offsetChars {seconds : Int} (h : seconds.natAbs < 86400) (rest : List Char) :
    readOffset (offsetChars seconds ++ rest) = some (writtenOffset seconds, rest) := by
  have hhours : (seconds.natAbs + 30) / 60 / 60 < 10 ^ 2 := by omega
  have hminutes : (seconds.natAbs + 30) / 60 % 60 < 10 ^ 2 := by omega
  have hsign : ∀ s : List Char, readSign ((if seconds < 0 then '-' else '+') :: s) =
      some (if seconds < 0 then -1 else 1, s) := by
    intro s
    split_ifs <;> rfl
  have hparts : ((seconds.natAbs + 30) / 60 / 60 * 60 + (seconds.natAbs + 30) / 60 % 60) =
      (seconds.natAbs + 30) / 60 := by omega
  simp only [readOffset, offsetChars, List.append_assoc, List.cons_append, hsign, readWord_cons,
    readField_paddedChars (by decide) hhours, readField_paddedChars (by decide) hminutes,
    Option.bind_eq_bind, Option.bind_some, hparts]
  rfl

theorem readOffsetTimestamp_offsetTimestamp {m : OffsetMoment} (h : m.Valid) :
    readOffsetTimestamp (Literal.offsetTimestamp m).toList = some m.written := by
  have htext : (Literal.offsetTimestamp m).toList = "timestamp with time zone '".toList ++
      (m.moment.chars ++ (offsetChars m.offset ++ ['\''])) := by
    simp [Literal.offsetTimestamp, Literal.moment, OffsetMoment.chars]
  rw [htext, readOffsetTimestamp]
  simp only [readWord_append, readMoment_chars h.moment, readOffset_offsetChars h.offset_lt,
    readWord_cons, Option.bind_eq_bind, Option.bind_some, if_pos]
  rfl

/-- A leap second counts like the second after the one it belongs to. -/
theorem nanos_shown (m : LocalMoment) : m.shown.nanos = m.nanos := by
  have htime : m.time.shown.nanos = m.time.nanos := by
    simp only [ClockTime.nanos, ClockTime.shown, ClockTime.shownSecond,
      ClockTime.shownNanosecond, secondNanos]
    omega
  simp only [LocalMoment.nanos, LocalMoment.shown, htime]

/-- Of the same local time, what is written is the same instant only at the same offset. -/
theorem instant_written_eq_iff {m : OffsetMoment} :
    m.written.instant = m.instant ↔ 60 ∣ m.offset := by
  have hinstant : m.written.instant = m.moment.nanos - writtenOffset m.offset * secondNanos := by
    rw [OffsetMoment.instant, OffsetMoment.written, nanos_shown]
  rw [← writtenOffset_eq_iff, hinstant, OffsetMoment.instant]
  simp only [secondNanos]
  omega

/-- The literal of a moment with an offset is read back to its end. The moment that is read has the
same local time and the nearest offset of whole minutes, so it is the same instant exactly if the
offset is one of whole minutes. Different instants with such offsets never share a literal. -/
theorem offset_literal_keeps_instant_iff {m : OffsetMoment} (hm : m.Valid) :
    (∃ written, readOffsetTimestamp (Literal.offsetTimestamp m).toList = some written ∧
      written.moment.nanos = m.moment.nanos ∧
      60 ∣ written.offset ∧ (written.offset - m.offset).natAbs ≤ 30 ∧
      (written.instant = m.instant ↔ 60 ∣ m.offset)) ∧
    ∀ n : OffsetMoment, n.Valid → 60 ∣ m.offset → 60 ∣ n.offset → m.instant ≠ n.instant →
      Literal.offsetTimestamp m ≠ Literal.offsetTimestamp n := by
  have hread := readOffsetTimestamp_offsetTimestamp hm
  refine ⟨⟨m.written, hread, nanos_shown m.moment, sixty_dvd_writtenOffset m.offset,
    writtenOffset_near m.offset, instant_written_eq_iff⟩, ?_⟩
  intro n hn hmMinutes hnMinutes hne hsame
  rw [hsame, readOffsetTimestamp_offsetTimestamp hn, Option.some_inj] at hread
  refine hne ?_
  calc
    m.instant = m.written.instant := (instant_written_eq_iff.2 hmMinutes).symm
    _ = n.written.instant := by rw [hread]
    _ = n.instant := instant_written_eq_iff.2 hnMinutes

/-- The middle of a leap second, half an hour west of the meridian and half an hour east of it. -/
theorem leap_second_keeps_instant :
    let moment : LocalMoment := ⟨⟨2016, 12, 31⟩, ⟨23, 59, 59, 1500000000⟩⟩
    let m : OffsetMoment := ⟨moment, -1800⟩
    let n : OffsetMoment := ⟨moment, 1800⟩
    (m.Valid ∧ n.Valid ∧ 60 ∣ m.offset ∧ 60 ∣ n.offset ∧ m.instant ≠ n.instant) ∧
      Literal.offsetTimestamp m =
        "timestamp with time zone '2016-12-31 23:59:60.500000000-00:30'" ∧
      (∃ written, readOffsetTimestamp (Literal.offsetTimestamp m).toList = some written ∧
        written.instant = m.instant) ∧
      Literal.offsetTimestamp m ≠ Literal.offsetTimestamp n := by
  intro moment m n
  have hmoment : moment.Valid :=
    ⟨⟨by decide, by decide, by decide, by decide⟩, ⟨by decide, by decide, by decide, by decide⟩⟩
  have hm : m.Valid := ⟨hmoment, by decide⟩
  have hn : n.Valid := ⟨hmoment, by decide⟩
  have hmMinutes : 60 ∣ m.offset := by decide
  have hnMinutes : 60 ∣ n.offset := by decide
  have hne : m.instant ≠ n.instant := by decide
  obtain ⟨⟨written, hread, -, -, -, hinstant⟩, hliterals⟩ := offset_literal_keeps_instant_iff hm
  exact ⟨⟨hm, hn, hmMinutes, hnMinutes, hne⟩, by decide +kernel,
    ⟨written, hread, hinstant.2 hmMinutes⟩, hliterals n hn hmMinutes hnMinutes hne⟩

/-- Half a minute of an offset is written as a whole one. -/
theorem half_minute_shares_literal :
    let moment : LocalMoment := ⟨⟨2024, 1, 31⟩, ⟨13, 5, 9, 0⟩⟩
    let m : OffsetMoment := ⟨moment, 30⟩
    let n : OffsetMoment := ⟨moment, 60⟩
    m.Valid ∧ n.Valid ∧ m.instant ≠ n.instant ∧
      Literal.offsetTimestamp m = Literal.offsetTimestamp n := by
  intro moment m n
  have hmoment : moment.Valid :=
    ⟨⟨by decide, by decide, by decide, by decide⟩, ⟨by decide, by decide, by decide, by decide⟩⟩
  exact ⟨⟨hmoment, by decide⟩, ⟨hmoment, by decide⟩, by decide, by decide +kernel⟩

end PortableSql
