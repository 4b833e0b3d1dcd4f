/-! # Civil dates and timestamps

Days of the proleptic Gregorian calendar, with a year zero and negative years, and points in time on
such a day. A minute may have a second 60. -/

namespace GuardedQuery.Calendar

/-- The first year a date may have. -/
def leastYear : Int := -262143

/-- The last year a date may have. -/
def greatestYear : Int := 262142

/-- Every fourth year, but of the years that end a century only every fourth. -/
def isLeapYear (year : Int) : Bool :=
  year % 4 == 0 && (year % 100 != 0 || year % 400 == 0)

/-- The number of days in a month, zero if there is no such month. -/
def daysIn (year : Int) (month : Nat) : Nat :=
  match month with
  | 2 => if isLeapYear year then 29 else 28
  | 4 | 6 | 9 | 11 => 30
  | 1 | 3 | 5 | 7 | 8 | 10 | 12 => 31
  | _ => 0

/-- Year, month and day name a day of a supported year. -/
def IsDay (year : Int) (month day : Nat) : Prop :=
  leastYear ≤ year ∧ year ≤ greatestYear ∧ 1 ≤ day ∧ day ≤ daysIn year month

instance (year : Int) (month day : Nat) : Decidable (IsDay year month day) :=
  inferInstanceAs (Decidable (_ ∧ _ ∧ _ ∧ _))

/-- A calendar date. -/
structure Date where
  year : Int
  month : Nat
  day : Nat
  isDay : IsDay year month day
  deriving DecidableEq

namespace Date

/-- The date of a year, month and day, if there is one. -/
def of? (year : Int) (month day : Nat) : Option Date :=
  if h : IsDay year month day then some ⟨year, month, day, h⟩ else none

@[simp]
theorem of?_fields (d : Date) : of? d.year d.month d.day = some d := by
  simp [of?, d.isDay]

instance : Inhabited Date := ⟨⟨1970, 1, 1, by decide⟩⟩

end Date

/-- Hour, minute, second and nanosecond name a point in a day. -/
def IsTime (hour minute second nanosecond : Nat) : Prop :=
  hour < 24 ∧ minute < 60 ∧ second ≤ 60 ∧ nanosecond < 1000000000

instance (hour minute second nanosecond : Nat) :
    Decidable (IsTime hour minute second nanosecond) :=
  inferInstanceAs (Decidable (_ ∧ _ ∧ _ ∧ _))

/-- A date with a time of day. -/
structure Timestamp where
  date : Date
  hour : Nat
  minute : Nat
  second : Nat
  nanosecond : Nat
  isTime : IsTime hour minute second nanosecond
  deriving DecidableEq

namespace Timestamp

/-- The point in time of a date and a time of day, if there is one. -/
def of? (date : Date) (hour minute second nanosecond : Nat) : Option Timestamp :=
  if h : IsTime hour minute second nanosecond then
    some ⟨date, hour, minute, second, nanosecond, h⟩
  else none

@[simp]
theorem of?_fields (t : Timestamp) :
    of? t.date t.hour t.minute t.second t.nanosecond = some t := by
  simp [of?, t.isTime]

end Timestamp

end GuardedQuery.Calendar
