import TableGateway.Text.Digits

/-! # Dates and times of day

Dates are of the Gregorian calendar, carried back before its introduction to the year zero.  A time
of day is regular (`Clock.isRegular`) or within a leap second (`Clock.isLeap`), which any minute may
have and which only a time on a date can be in.  `Date.text` and `Clock.text` write what is valid:
parts of a second are left out, and a year of more than four digits has a sign. -/

namespace TableGateway.Database

/-- A date. -/
structure Date where
  year : UInt16
  month : UInt8
  day : UInt8
  deriving DecidableEq, Repr

/-- A time of day, to the second or to the microsecond. -/
structure Clock where
  hour : UInt8 := 0
  minute : UInt8 := 0
  second : UInt8 := 0
  micros : Option UInt32 := none
  deriving DecidableEq, Repr

/-- Whether a year has a 29th of February. -/
def isLeap (year : Nat) : Bool :=
  year % 4 == 0 && (year % 100 != 0 || year % 400 == 0)

/-- The days of a month, none for what is no month. -/
def daysIn (year month : Nat) : Nat :=
  if month = 2 then (if isLeap year then 29 else 28)
  else if month ∈ [4, 6, 9, 11] then 30
  else if 1 ≤ month ∧ month ≤ 12 then 31
  else 0

namespace Date

/-- Whether there is such a day. -/
def isValid (d : Date) : Bool :=
  decide (1 ≤ d.day.toNat) && decide (d.day.toNat ≤ daysIn d.year.toNat d.month.toNat)

/-- Year, month and day. -/
def text (d : Date) : String :=
  let sign := if 9999 < d.year.toNat then ['+'] else []
  String.ofList (sign ++ Text.padded 4 d.year.toNat ++ '-' :: Text.padded 2 d.month.toNat ++
    '-' :: Text.padded 2 d.day.toNat)

end Date

namespace Clock

/-- Whether hour, minute and second are those of a clock. -/
def inRange (c : Clock) : Bool :=
  decide (c.hour.toNat < 24) && decide (c.minute.toNat < 60) && decide (c.second.toNat < 60)

/-- The microseconds since the second began. -/
def microseconds (c : Clock) : Nat := (c.micros.getD 0).toNat

/-- Whether there is such a time, leap seconds apart. -/
def isRegular (c : Clock) : Bool := c.inRange && decide (c.microseconds < 1000000)

/-- Whether it is within a leap second: the microseconds of the last second of a minute count on
through the second after it. -/
def isLeap (c : Clock) : Bool :=
  c.inRange && c.second == 59 && decide (1000000 ≤ c.microseconds) &&
    decide (c.microseconds < 2000000)

/-- Whether it is the first instant of the day. -/
def isMidnight (c : Clock) : Bool :=
  c.hour == 0 && c.minute == 0 && c.second == 0 && c.microseconds == 0

/-- Hour, minute and second, which is the sixtieth in a leap second. -/
def text (c : Clock) : String :=
  String.ofList (Text.padded 2 c.hour.toNat ++ ':' :: Text.padded 2 c.minute.toNat ++
    ':' :: Text.padded 2 (c.second.toNat + c.microseconds / 1000000))

end Clock

example : (⟨0, 2, 29⟩ : Date).isValid ∧ ¬(⟨1900, 2, 29⟩ : Date).isValid := by decide
example : (⟨987, 1, 2⟩ : Date).text = "0987-01-02" := by decide +kernel
example : (⟨10000, 1, 1⟩ : Date).text = "+10000-01-01" := by decide +kernel
example : (⟨12, 30, 59, some 1999999⟩ : Clock).text = "12:30:60" := by decide +kernel

end TableGateway.Database
