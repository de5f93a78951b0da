import PortableSql.Lexical.Moment
import PortableSql.Proofs.Number.Digits
import PortableSql.Proofs.Text.Joined

/-! Moments read back from the text of a literal. All fields but the year have a fixed width, and
a year with more digits than four has a sign in front, so that each field ends where the next
begins. What is read of a leap second is the second as it is shown, one more than the one it
belongs to, with the fraction of it. -/

namespace PortableSql

open Number

/-- February has a day more in the years that four divides, but not in full centuries unless four
hundred divides them. -/
def IsLeapYear (year : Int) : Prop := year % 4 = 0 ∧ (year % 100 ≠ 0 ∨ year % 400 = 0)

instance : DecidablePred IsLeapYear := fun _ => inferInstanceAs (Decidable (_ ∧ _))

def monthDays (year : Int) (month : Nat) : Nat :=
  if month = 2 then if IsLeapYear year then 29 else 28
  else if month ∈ [4, 6, 9, 11] then 30
  else 31

/-- The date is one of the calendar. -/
structure CalendarDate.Valid (d : CalendarDate) : Prop where
  month_pos : 1 ≤ d.month
  month_le : d.month ≤ 12
  day_pos : 1 ≤ d.day
  day_le : d.day ≤ monthDays d.year d.month

/-- The time is one of a day. -/
structure ClockTime.Valid (t : ClockTime) : Prop where
  hour_lt : t.hour < 24
  minute_lt : t.minute < 60
  second_lt : t.second < 60
  nanosecond_lt : t.nanosecond < 2 * secondNanos

structure LocalMoment.Valid (m : LocalMoment) : Prop where
  date : m.date.Valid
  time : m.time.Valid

theorem monthDays_le (year : Int) (month : Nat) : monthDays year month ≤ 31 := by
  rw [monthDays]
  split_ifs <;> decide

section Reader

variable {width n : Nat} {rest : List Char}

/-- Read a given text. The result is what is left. -/
def readWord (word s : List Char) : Option (List Char) :=
  if word.isPrefixOf s then some (s.drop word.length) else none

/-- Read a number of a given width. The result is the number and what is left. -/
def readField (width : Nat) (s : List Char) : Option (Nat × List Char) :=
  if width ≤ s.length then (readDigits (s.take width)).map (·, s.drop width) else none

/-- Read a number up to the first character that is no digit. -/
def readNumber (s : List Char) : Option (Nat × List Char) :=
  (readDigits (s.takeWhile Char.isDigit)).map (·, s.dropWhile Char.isDigit)

/-- Read a year, of four digits or with a sign. -/
def readYear (s : List Char) : Option (Int × List Char) :=
  if s.head? = some '-' then (readNumber s.tail).map fun (n, rest) => (-(n : Int), rest)
  else if s.head? = some '+' then (readNumber s.tail).map fun (n, rest) => ((n : Int), rest)
  else (readField 4 s).map fun (n, rest) => ((n : Int), rest)

def readDate (s : List Char) : Option (CalendarDate × List Char) := do
  let (year, s) ← readYear s
  let (month, s) ← readField 2 (← readWord ['-'] s)
  let (day, s) ← readField 2 (← readWord ['-'] s)
  return (⟨year, month, day⟩, s)

def readTime (s : List Char) : Option (ClockTime × List Char) := do
  let (hour, s) ← readField 2 s
  let (minute, s) ← readField 2 (← readWord [':'] s)
  let (second, s) ← readField 2 (← readWord [':'] s)
  let (nanosecond, s) ← readField 9 (← readWord ['.'] s)
  return (⟨hour, minute, second, nanosecond⟩, s)

def readMoment (s : List Char) : Option (LocalMoment × List Char) := do
  let (date, s) ← readDate s
  let (time, s) ← readTime (← readWord [' '] s)
  return (⟨date, time⟩, s)

theorem readWord_append (word rest : List Char) : readWord word (word ++ rest) = some rest := by
  simp [readWord]

theorem readWord_cons (c : Char) (rest : List Char) : readWord [c] (c :: rest) = some rest :=
  readWord_append [c] rest

theorem readField_paddedChars (hwidth : 0 < width) (h : n < 10 ^ width) (rest : List Char) :
    readField width (paddedChars width n ++ rest) = some (n, rest) := by
  have hlength := length_paddedChars hwidth h
  rw [readField, if_pos (by rw [List.length_append]; omega), List.take_left' hlength,
    List.drop_left' hlength, readDigits_paddedChars]
  rfl

theorem readNumber_paddedChars (width n : Nat) (hrest : ∀ c ∈ rest.head?, c.isDigit = false) :
    readNumber (paddedChars width n ++ rest) = some (n, rest) := by
  have hdigits : ∀ c ∈ paddedChars width n, c.isDigit = true := fun _ => isDigit_of_mem_paddedChars
  obtain ⟨htake, hdrop⟩ := Text.takeWhile_append_of_stop hdigits hrest
  rw [readNumber, htake, hdrop, readDigits_paddedChars]
  rfl

/-- A year ends before the first character that is no digit. -/
theorem readYear_yearChars (year : Int) (hrest : ∀ c ∈ rest.head?, c.isDigit = false) :
    readYear (yearChars year ++ rest) = some (year, rest) := by
  have hnumber := readNumber_paddedChars 4 year.natAbs hrest
  rw [yearChars]
  by_cases hplain : 0 ≤ year ∧ year ≤ 9999
  · have hsmall : year.natAbs < 10 ^ 4 := by omega
    have hfield := readField_paddedChars (by decide) hsmall rest
    obtain ⟨c, digits, hdigits⟩ := List.exists_cons_of_ne_nil (paddedChars_ne_nil 4 year.natAbs)
    have hdigit : c.isDigit = true := isDigit_of_mem_paddedChars (hdigits ▸ List.mem_cons_self)
    -- A digit is neither sign.
    have hminus : c ≠ '-' := fun h => by simp [h] at hdigit
    have hplus : c ≠ '+' := fun h => by simp [h] at hdigit
    have hhead : (paddedChars 4 year.natAbs ++ rest).head? = some c := by
      rw [hdigits]
      rfl
    have hyear : (year.natAbs : Int) = year := by omega
    rw [if_pos hplain, readYear, hhead, if_neg (by simpa using hminus),
      if_neg (by simpa using hplus), hfield, Option.map_some]
    simp only [hyear]
  · rw [if_neg hplain, List.cons_append]
    by_cases hneg : year < 0
    · have hyear : -(year.natAbs : Int) = year := by omega
      rw [if_pos hneg, readYear, if_pos List.head?_cons, List.tail_cons, hnumber,
        Option.map_some]
      simp only [hyear]
    · have hyear : (year.natAbs : Int) = year := by omega
      rw [if_neg hneg, readYear, if_neg (by simp), if_pos List.head?_cons, List.tail_cons,
        hnumber, Option.map_some]
      simp only [hyear]

end Reader

theorem readDate_chars {d : CalendarDate} (h : d.Valid) (rest : List Char) :
    readDate (d.chars ++ rest) = some (d, rest) := by
  obtain ⟨-, hmonth, -, hday⟩ := h
  have hdays := monthDays_le d.year d.month
  have hmonthSmall : d.month < 10 ^ 2 := by omega
  have hdaySmall : d.day < 10 ^ 2 := by omega
  have hyear : ∀ more : List Char, readYear (yearChars d.year ++ '-' :: more) =
      some (d.year, '-' :: more) := fun more => readYear_yearChars d.year (by simp)
  simp only [readDate, CalendarDate.chars, List.append_assoc, List.cons_append, hyear,
    readWord_cons, readField_paddedChars (by decide) hmonthSmall,
    readField_paddedChars (by decide) hdaySmall, Option.bind_eq_bind, Option.bind_some]
  rfl

namespace ClockTime

/-- The time as it is shown: a leap second is the second after the one it belongs to. -/
def shown (t : ClockTime) : ClockTime :=
  { t with second := t.shownSecond, nanosecond := t.shownNanosecond }

theorem shownSecond_le {t : ClockTime} (h : t.Valid) : t.shownSecond ≤ 60 := by
  have hsecond := h.second_lt
  have hnanosecond := h.nanosecond_lt
  simp only [shownSecond, secondNanos] at hnanosecond ⊢
  omega

theorem shownNanosecond_lt (t : ClockTime) : t.shownNanosecond < 10 ^ 9 :=
  Nat.mod_lt _ (by decide)

end ClockTime

/-- The moment with its time as it is shown. -/
def LocalMoment.shown (m : LocalMoment) : LocalMoment := ⟨m.date, m.time.shown⟩

theorem readTime_chars {t : ClockTime} (h : t.Valid) (rest : List Char) :
    readTime (t.chars ++ '.' :: (paddedChars 9 t.shownNanosecond ++ rest)) =
      some (t.shown, rest) := by
  have hhour : t.hour < 10 ^ 2 := by have := h.hour_lt; omega
  have hminute : t.minute < 10 ^ 2 := by have := h.minute_lt; omega
  have hsecond : t.shownSecond < 10 ^ 2 := by have := ClockTime.shownSecond_le h; omega
  simp only [readTime, ClockTime.chars, List.append_assoc, List.cons_append, readWord_cons,
    readField_paddedChars (by decide) hhour, readField_paddedChars (by decide) hminute,
    readField_paddedChars (by decide) hsecond,
    readField_paddedChars (by decide) t.shownNanosecond_lt, Option.bind_eq_bind,
    Option.bind_some]
  rfl

/-- A moment is read back as it is shown, whatever stands behind it. -/
theorem readMoment_chars {m : LocalMoment} (h : m.Valid) (rest : List Char) :
    readMoment (m.chars ++ rest) = some (m.shown, rest) := by
  simp only [readMoment, LocalMoment.chars, List.append_assoc, List.cons_append,
    readDate_chars h.date, readWord_cons, readTime_chars h.time, Option.bind_eq_bind,
    Option.bind_some]
  rfl

end PortableSql
