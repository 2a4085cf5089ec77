/-
Calendar dates.

* `CalendarDate`: a day of the Gregorian calendar;
* `CalendarDate.parse?`: a date, or a date with a time of day, from a text;
* `CalendarDate.yearsSince?`: the whole years between two dates.
-/
import RecordRules.Decimal.Digits
import RecordRules.Text.Blank

namespace RecordRules

/-- A day of the Gregorian calendar. -/
structure CalendarDate where
  year : Int
  month : Nat
  day : Nat
  deriving DecidableEq, Repr

namespace CalendarDate

/-- A year with a 29th of February. -/
def isLeapYear (year : Int) : Bool := year % 4 == 0 && (year % 100 != 0 || year % 400 == 0)

/-- The number of days of a month. -/
def daysInMonth (year : Int) (month : Nat) : Nat :=
  match month with
  | 2 => if isLeapYear year then 29 else 28
  | 4 | 6 | 9 | 11 => 30
  | _ => 31

/-- The least and the greatest year. -/
def yearRange : Int × Int := (-262143, 262142)

/-- The date of a year, a month and a day, if there is one. -/
def ofParts? (year : Int) (month day : Nat) : Option CalendarDate :=
  if yearRange.1 ≤ year ∧ year ≤ yearRange.2 ∧ 1 ≤ month ∧ month ≤ 12 ∧ 1 ≤ day ∧ day ≤ daysInMonth year month then
    some ⟨year, month, day⟩
  else none

/-! ### Reading -/

/-- A number of at least one and at most `width` digits, and what follows it. -/
def takeNumber? (width : Nat) (s : List Char) : Option (Nat × List Char) :=
  let digits := (s.takeWhile Char.isDigit).take width
  if digits = [] then none else some (numberOf digits, s.drop digits.length)

/-- A number of one or two digits after optional white space. -/
def takePart? (s : List Char) : Option (Nat × List Char) := takeNumber? 2 (Text.trimLeft s)

/-- A year after optional white space: up to four digits, or any number of them
after a sign. -/
def takeYear? (s : List Char) : Option (Int × List Char) :=
  match Text.trimLeft s with
  | '-' :: rest => (takeNumber? rest.length rest).map fun (n, after) => (-(n : Int), after)
  | '+' :: rest => (takeNumber? rest.length rest).map fun (n, after) => ((n : Int), after)
  | s => (takeNumber? 4 s).map fun (n, after) => ((n : Int), after)

/-- The text after a character. -/
def skip? (c : Char) : List Char → Option (List Char)
  | [] => none
  | d :: rest => if d = c then some rest else none

/-- Year, month and day, separated by hyphens, and what follows them. -/
def takeDate? (s : List Char) : Option (CalendarDate × List Char) := do
  let (year, s) ← takeYear? s
  let (month, s) ← takePart? (← skip? '-' s)
  let (day, s) ← takePart? (← skip? '-' s)
  some (← ofParts? year month day, s)

/-- Hours, minutes and seconds, separated by colons, are all of the text. A
minute may have 61 seconds. -/
def isTime (s : List Char) : Bool :=
  match (do
    let (hour, s) ← takePart? s
    let (minute, s) ← takePart? (← skip? ':' s)
    let (second, s) ← takePart? (← skip? ':' s)
    some (hour ≤ 23 && minute ≤ 59 && second ≤ 60 && s.isEmpty) : Option Bool) with
  | some ok => ok
  | none => false

/-- The date that a text writes, with or without a time of day after it. White
space around the text, before numbers and before the time is ignored. -/
def parse? (s : List Char) : Option CalendarDate :=
  match takeDate? (Text.trim s) with
  | some (date, rest) => if rest.isEmpty || isTime rest then some date else none
  | none => none

/-! ### Age -/

/-- The whole years from a date to another; `none` if it lies in the future. -/
def yearsSince? (today born : CalendarDate) : Option Nat :=
  let years := today.year - born.year
  let years := if today.month < born.month ∨ (today.month = born.month ∧ today.day < born.day) then years - 1
    else years
  if 0 ≤ years then some years.toNat else none

end CalendarDate

end RecordRules
