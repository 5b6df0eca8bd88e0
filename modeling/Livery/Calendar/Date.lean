import Livery.Text.Numeral

/-!
# Calendar dates

A `Date` is a day of the Gregorian calendar, which is extended to all years between -9999 and 9999.
`Date.parse?` reads the form `2026-01-15`, and `Date.weekday` counts days to find the day of the
week.
-/

namespace Livery

namespace Calendar

/-- Whether a year has a leap day. -/
def isLeap (year : Int) : Bool := year % 4 = 0 && (year % 100 ≠ 0 || year % 400 = 0)

/-- The number of days of a month, which is counted from zero. -/
def monthDays (year : Int) (month : Fin 12) : Nat :=
  match month with
  | 1 => if isLeap year then 29 else 28
  | 3 | 5 | 8 | 10 => 30
  | _ => 31

/-- The names of the months. -/
def monthNames : Vector String 12 :=
  #v["January", "February", "March", "April", "May", "June", "July", "August", "September",
     "October", "November", "December"]

/-- The names of the days of the week, from Sunday. -/
def weekdayNames : Vector String 7 :=
  #v["Sunday", "Monday", "Tuesday", "Wednesday", "Thursday", "Friday", "Saturday"]

end Calendar

/-- A day of the calendar. -/
structure Date where
  year : Int
  /-- The month, counted from zero. -/
  month : Fin 12
  /-- The day of the month, counted from one. -/
  day : Nat
  /-- The month has this day. -/
  valid : 1 ≤ day ∧ day ≤ Calendar.monthDays year month
deriving DecidableEq

namespace Date

open Calendar

/-- The date of a year, a month counted from one and a day, if there is one. -/
def ofParts? (year : Int) (month day : Nat) : Option Date :=
  if hm : 1 ≤ month ∧ month ≤ 12 then
    let m : Fin 12 := ⟨month - 1, by omega⟩
    if hd : 1 ≤ day ∧ day ≤ monthDays year m then some ⟨year, m, day, hd⟩ else none
  else none

/-- The date that ASCII digits write as year, month and day. -/
def ofDigits? (negative : Bool) (cs : List Char) : Option Date :=
  match cs with
  | [y₁, y₂, y₃, y₄, '-', m₁, m₂, '-', d₁, d₂] =>
    if [y₁, y₂, y₃, y₄, m₁, m₂, d₁, d₂].all Char.isDigit then
      let y : Int := Text.digitsValue [y₁, y₂, y₃, y₄]
      ofParts? (if negative then -y else y) (Text.digitsValue [m₁, m₂])
        (Text.digitsValue [d₁, d₂])
    else none
  | _ => none

/-- The date that a text writes: an optional sign, then four, two and two digits. -/
def parse? (s : String) : Option Date :=
  match s.toList with
  | '-' :: rest => ofDigits? true rest
  | '+' :: rest => ofDigits? false rest
  | cs => ofDigits? false cs

/-- The number of days in front of a year, counted from the year 1. -/
def daysBeforeYear (year : Int) : Int :=
  let y := year - 1
  365 * y + y.fdiv 4 - y.fdiv 100 + y.fdiv 400

/-- The number of days in front of a month of a year. -/
def daysBeforeMonth (year : Int) (month : Fin 12) : Nat :=
  ((List.finRange 12).filterMap fun m =>
    if m < month then some (monthDays year m) else none).foldr (· + ·) 0

/-- The number of the day, where the first day of the year 1 has number 1. -/
def dayNumber (d : Date) : Int :=
  daysBeforeYear d.year + daysBeforeMonth d.year d.month + d.day

/-- The day of the week, counted from Sunday; the first day of the year 1 was a Monday. -/
def weekday (d : Date) : Fin 7 :=
  ⟨(d.dayNumber % 7).toNat, by omega⟩

end Date

end Livery
