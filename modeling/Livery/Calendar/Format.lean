import Livery.Calendar.Date
import Livery.Json.Field

/-!
# Date formats

A `DateFormat` says which parts of a date are shown, and how, in the order that is usual in the
United States: `Thursday, January 15, 2026` or `01/15/26`. `DateFormat.applyText` formats a text
that is a date and leaves any other text as it is.
-/

namespace Livery

open Json (optional)

/-- How a named part is shown. -/
inductive NameStyle
  | long
  /-- The first three letters. -/
  | short
  /-- The first letter. -/
  | narrow
deriving DecidableEq

/-- How a number is shown. -/
inductive NumberStyle
  | numeric
  /-- With at least two digits; a year by its last two. -/
  | twoDigit
deriving DecidableEq

/-- How the month is shown. -/
inductive MonthStyle
  | number (style : NumberStyle)
  | name (style : NameStyle)
deriving DecidableEq

/-- The parts of a date that are shown. -/
structure DateFormat where
  weekday : Option NameStyle := none
  year : Option NumberStyle := none
  month : Option MonthStyle := none
  day : Option NumberStyle := none
deriving DecidableEq

/-! ## Formats as JSON -/

namespace NameStyle

/-- The names of the styles. -/
def names : List (String × NameStyle) := [("long", .long), ("short", .short), ("narrow", .narrow)]

/-- The name of a style. -/
def toText : NameStyle → String
  | .long => "long"
  | .short => "short"
  | .narrow => "narrow"

end NameStyle

namespace NumberStyle

/-- The names of the styles. -/
def names : List (String × NumberStyle) := [("numeric", .numeric), ("2-digit", .twoDigit)]

/-- The name of a style. -/
def toText : NumberStyle → String
  | .numeric => "numeric"
  | .twoDigit => "2-digit"

end NumberStyle

namespace MonthStyle

/-- The names of the styles. -/
def names : List (String × MonthStyle) :=
  (NumberStyle.names.map fun p => (p.1, .number p.2)) ++
    NameStyle.names.map fun p => (p.1, .name p.2)

/-- The name of a style. -/
def toText : MonthStyle → String
  | .number style => style.toText
  | .name style => style.toText

end MonthStyle

namespace DateFormat

/-- The format that a value describes. -/
def ofJson? : Json → Option DateFormat :=
  Json.decodeRecord ["weekday", "year", "month", "day"] fun fields => do
    let weekday ← optional (Json.decodeCase NameStyle.names) fields "weekday"
    let year ← optional (Json.decodeCase NumberStyle.names) fields "year"
    let month ← optional (Json.decodeCase MonthStyle.names) fields "month"
    let day ← optional (Json.decodeCase NumberStyle.names) fields "day"
    some { weekday, year, month, day }

/-- The value that describes a format. -/
def toJson (f : DateFormat) : Json :=
  Json.record
    [("weekday", f.weekday.map fun s => .str s.toText),
     ("year", f.year.map fun s => .str s.toText),
     ("month", f.month.map fun s => .str s.toText),
     ("day", f.day.map fun s => .str s.toText)]

end DateFormat

/-! ## Formatting -/

/-- A name in a style. -/
def NameStyle.apply (style : NameStyle) (name : String) : String :=
  match style with
  | .long => name
  | .short => String.ofList (name.toList.take 3)
  | .narrow => String.ofList (name.toList.take 1)

/-- A number below one hundred in a style. -/
def NumberStyle.apply (style : NumberStyle) (n : Nat) : String :=
  match style with
  | .numeric => Nat.repr n
  | .twoDigit => if n < 10 then "0" ++ Nat.repr n else Nat.repr n

/-- A year in a style. -/
def NumberStyle.applyYear (style : NumberStyle) (year : Int) : String :=
  match style with
  | .numeric => (if year < 0 then "-" else "") ++ Nat.repr year.natAbs
  | .twoDigit => NumberStyle.twoDigit.apply (year % 100).toNat

namespace DateFormat

/-- The format that stands for one without parts: month, day and year in numbers. -/
def standard : DateFormat :=
  { year := some .numeric, month := some (.number .numeric), day := some .numeric }

/-- The parts without the day of the week. -/
def body (f : DateFormat) (d : Date) : String :=
  let year := f.year.map fun s => s.applyYear d.year
  let day := f.day.map fun s => s.apply d.day
  match f.month with
  | some (.name style) =>
    let month := style.apply (Calendar.monthNames.get d.month)
    match day, year with
    | some day, some year => month ++ " " ++ day ++ ", " ++ year
    | some day, none => month ++ " " ++ day
    | none, some year => month ++ " " ++ year
    | none, none => month
  | some (.number style) =>
    "/".intercalate (style.apply (d.month + 1) :: (day.toList ++ year.toList))
  | none => " ".intercalate (day.toList ++ year.toList)

/-- A date in a format. -/
def apply (f : DateFormat) (d : Date) : String :=
  let f := if f = {} then standard else f
  let body := f.body d
  match f.weekday with
  | some style =>
    let weekday := style.apply (Calendar.weekdayNames.get d.weekday)
    if body = "" then weekday else weekday ++ ", " ++ body
  | none => body

/-- A text in a format, if it is a date. -/
def applyText (f : DateFormat) (s : String) : String :=
  match Date.parse? s with
  | some d => f.apply d
  | none => s

end DateFormat

end Livery
