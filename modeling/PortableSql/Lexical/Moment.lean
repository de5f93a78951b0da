import PortableSql.Number.Digits

/-! Dates, clock times, offsets and durations as they stand in literals. Years from 0 to
9999 have four digits, all others a sign and at least four. A clock time whose
nanoseconds reach a whole second lies in a leap second, which is written as the next
second. An offset is written in hours and minutes, rounded to the minute. -/

namespace PortableSql

structure CalendarDate where
  year : Int
  month : Nat
  day : Nat
  deriving DecidableEq, Repr

/-- A time of day. In a leap second the nanoseconds run from one to two thousand million. -/
structure ClockTime where
  hour : Nat
  minute : Nat
  second : Nat
  nanosecond : Nat
  deriving DecidableEq, Repr

/-- A date and a time without reference to a zone. -/
structure LocalMoment where
  date : CalendarDate
  time : ClockTime
  deriving DecidableEq, Repr

/-- A local moment and the seconds by which its zone is east of the meridian. -/
structure OffsetMoment where
  moment : LocalMoment
  offset : Int
  deriving DecidableEq, Repr

/-- A length of time, to be read as `seconds + nanoseconds / 10 ^ 9`. -/
structure TimeSpan where
  seconds : Int
  nanoseconds : Nat
  deriving DecidableEq, Repr

/-- The nanoseconds of a second. -/
def secondNanos : Nat := 1000000000

open Number (paddedChars)

def yearChars (year : Int) : List Char :=
  if 0 ≤ year ∧ year ≤ 9999 then paddedChars 4 year.natAbs
  else (if year < 0 then '-' else '+') :: paddedChars 4 year.natAbs

def CalendarDate.chars (d : CalendarDate) : List Char :=
  yearChars d.year ++ '-' :: paddedChars 2 d.month ++ '-' :: paddedChars 2 d.day

/-- The second as written, one more within a leap second. -/
def ClockTime.shownSecond (t : ClockTime) : Nat := t.second + t.nanosecond / secondNanos

/-- The fraction as written. -/
def ClockTime.shownNanosecond (t : ClockTime) : Nat := t.nanosecond % secondNanos

/-- The time to the second. -/
def ClockTime.chars (t : ClockTime) : List Char :=
  paddedChars 2 t.hour ++ ':' :: paddedChars 2 t.minute ++ ':' :: paddedChars 2 t.shownSecond

/-- The moment with nine digits after the second. -/
def LocalMoment.chars (m : LocalMoment) : List Char :=
  m.date.chars ++ ' ' :: m.time.chars ++ '.' :: paddedChars 9 m.time.shownNanosecond

def offsetChars (seconds : Int) : List Char :=
  let minutes := (seconds.natAbs + 30) / 60
  (if seconds < 0 then '-' else '+') ::
    paddedChars 2 (minutes / 60) ++ ':' :: paddedChars 2 (minutes % 60)

def OffsetMoment.chars (m : OffsetMoment) : List Char :=
  m.moment.chars ++ offsetChars m.offset

/-- The whole length in nanoseconds. -/
def TimeSpan.totalNanos (s : TimeSpan) : Int := s.seconds * secondNanos + s.nanoseconds

/-- The whole seconds, rounded toward zero. -/
def TimeSpan.wholeSeconds (s : TimeSpan) : Int := s.totalNanos.tdiv secondNanos

/-- The nanoseconds beside the whole seconds, with the sign of the length. -/
def TimeSpan.subsecondNanos (s : TimeSpan) : Int := s.totalNanos.tmod secondNanos

/-- The length in seconds with nine digits after the point. The whole seconds bring a sign of
their own, unless there are none of them. -/
def TimeSpan.chars (s : TimeSpan) : List Char :=
  (if s.wholeSeconds = 0 ∧ s.subsecondNanos < 0 then ['-'] else []) ++
    (toString s.wholeSeconds).toList ++ '.' :: paddedChars 9 s.subsecondNanos.natAbs

end PortableSql
