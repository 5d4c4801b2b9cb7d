import ComponentFile.Text.Numeral
import ComponentFile.Text.Octets

/-!
# Points of time in writing

A point of time is a number of seconds from the beginning of 1970.  Years have 365 days, and one
more if four divides the year, unless a hundred does and four hundred does not; so 400 years always
have 146097 days.  Days are counted from the first of March of a year that 400 divides, which puts
the day that not all years have at the end.

## Main definitions

* `Moment`, `Moment.ofSeconds`, `Moment.seconds` : points of time as dates.
* `Moment.format` : a point of time as a format shows it.
-/

namespace ComponentFile

open Text

/-- A point of time as a date: the day within the month and the time within the day. -/
structure Moment where
  year : Int
  month : Nat
  day : Nat
  hour : Nat
  minute : Nat
  second : Nat
  deriving DecidableEq, Repr

namespace Moment

/-- The number of days in 400 years. -/
def cycleDays : Int := 146097

/-- The number of days from the first day that is counted up to the beginning of 1970. -/
def firstDay : Int := 719468

/-- The number of days from the beginning of 1970 up to a date. -/
def daysOf (year : Int) (month day : Nat) : Int :=
  let y := if month ≤ 2 then year - 1 else year
  let cycle := y.fdiv 400
  let yearInCycle := y - cycle * 400
  let monthFromMarch : Int := (month + 9) % 12
  let dayInYear := (153 * monthFromMarch + 2) / 5 + day - 1
  cycle * cycleDays + yearInCycle * 365 + yearInCycle / 4 - yearInCycle / 100 + dayInYear - firstDay

/-- The year, the month and the day of a number of days from the beginning of 1970. -/
def dateOf (days : Int) : Int × Nat × Nat :=
  let n := days + firstDay
  let cycle := n.fdiv cycleDays
  let dayInCycle := n - cycle * cycleDays
  let yearInCycle :=
    (dayInCycle - dayInCycle / 1460 + dayInCycle / 36524 - dayInCycle / 146096) / 365
  let dayInYear := dayInCycle - (365 * yearInCycle + yearInCycle / 4 - yearInCycle / 100)
  let monthFromMarch := (5 * dayInYear + 2) / 153
  let day := dayInYear - (153 * monthFromMarch + 2) / 5 + 1
  let month := if monthFromMarch < 10 then monthFromMarch + 3 else monthFromMarch - 9
  let year := yearInCycle + cycle * 400
  (if month ≤ 2 then year + 1 else year, month.toNat, day.toNat)

/-- The date of a number of seconds. -/
def ofSeconds (seconds : Int) : Moment :=
  let days := seconds.fdiv 86400
  let rest := (seconds - days * 86400).toNat
  let (year, month, day) := dateOf days
  ⟨year, month, day, rest / 3600, rest / 60 % 60, rest % 60⟩

/-- The number of days up to a date. -/
def days (m : Moment) : Int :=
  daysOf m.year m.month m.day

/-- The number of seconds up to a point of time. -/
def seconds (m : Moment) : Int :=
  m.days * 86400 + m.hour * 3600 + m.minute * 60 + m.second

/-- The day of the week, counted from Sunday. -/
def weekday (m : Moment) : Nat :=
  ((m.days + 4).fmod 7).toNat

/-- The day of the year, counted from zero. -/
def dayOfYear (m : Moment) : Nat :=
  (m.days - daysOf m.year 1 1).toNat

/-- Whether a date is one that there is. -/
def isDate (year : Int) (month day : Nat) : Bool :=
  dateOf (daysOf year month day) = (year, month, day)

/-! ### Names -/

/-- The names of the days of the week. -/
def weekdayNames : List String :=
  ["Sunday", "Monday", "Tuesday", "Wednesday", "Thursday", "Friday", "Saturday"]

/-- The names of the months. -/
def monthNames : List String :=
  ["January", "February", "March", "April", "May", "June", "July", "August", "September",
    "October", "November", "December"]

/-- The name of the day of the week. -/
def weekdayName (m : Moment) : Text :=
  (weekdayNames.getD m.weekday "").toList

/-- The name of the month. -/
def monthName (m : Moment) : Text :=
  (monthNames.getD (m.month - 1) "").toList

/-! ### Weeks -/

/-- The number of the week when weeks begin on a day of the week; days before the first such day
belong to no week. -/
def weekFrom (m : Moment) (first : Nat) : Nat :=
  (m.dayOfYear + 7 - (m.weekday + 7 - first) % 7) / 7

/-- The year and the number of the week when weeks begin on Monday and belong to the year in which
their Thursday lies. -/
def thursdayWeek (m : Moment) : Int × Nat :=
  let thursday := m.days - ((m.weekday + 6) % 7 : Nat) + 3
  let (year, _, _) := dateOf thursday
  (year, ((thursday - daysOf year 1 1) / 7 + 1).toNat)

/-! ### Formats -/

/-- How a field is filled and written: the character it is filled with unless it is not filled, its
width if it is given, and whether letters are made great or exchanged. -/
structure Field where
  fill : Option (Option Char)
  width : Option Nat
  upper : Bool
  swapped : Bool

/-- A number that has a width and a character to fill it unless the field says otherwise. -/
def Field.number (f : Field) (width : Nat) (fill : Char) (n : Int) : Text :=
  let digits := ofNat n.natAbs
  let sign : Text := if n < 0 then ['-'] else []
  match f.fill.getD (some fill) with
  | none => sign ++ digits
  | some c => sign ++ padLeft (max (f.width.getD 0) width - sign.length) c digits

/-- A text in a field. -/
def Field.text (f : Field) (t : Text) : Text :=
  let t := if f.upper then t.map Char.toUpper else t
  padLeft (f.width.getD 0) (((f.fill.bind fun c => c).getD ' ')) t

/-- The directives that stand for a format. -/
def shorthand? (c : Char) : Option String :=
  match c with
  | 'F' => some "%Y-%m-%d"
  | 'T' => some "%H:%M:%S"
  | 'R' => some "%H:%M"
  | 'D' => some "%m/%d/%y"
  | 'c' => some "%a %b %e %H:%M:%S %Y"
  | 'x' => some "%m/%d/%y"
  | 'X' => some "%H:%M:%S"
  | 'r' => some "%I:%M:%S %p"
  | '+' => some "%a %b %e %H:%M:%S %Z %Y"
  | _ => none

/-- The hour as clocks with twelve hours show it. -/
def clockHour (m : Moment) : Nat :=
  (m.hour + 11) % 12 + 1

/-- What a directive of one letter stands for. -/
def directive? (m : Moment) (f : Field) (c : Char) : Option Text :=
  let two (n : Int) : Option Text := some (f.number 2 '0' n)
  match c with
  | 'Y' => some (f.number 1 '0' m.year)
  | 'C' => two (m.year.fdiv 100)
  | 'y' => two (m.year.fmod 100)
  | 'm' => two m.month
  | 'd' => two m.day
  | 'e' => some (f.number 2 ' ' m.day)
  | 'H' => two m.hour
  | 'I' => two m.clockHour
  | 'k' => some (f.number 2 ' ' m.hour)
  | 'l' => some (f.number 2 ' ' m.clockHour)
  | 'M' => two m.minute
  | 'S' => two m.second
  | 's' => some (f.number 1 '0' m.seconds)
  | 'j' => some (f.number 3 '0' (m.dayOfYear + 1))
  | 'a' => some (f.text (m.weekdayName.take 3))
  | 'A' => some (f.text m.weekdayName)
  | 'b' => some (f.text (m.monthName.take 3))
  | 'h' => some (f.text (m.monthName.take 3))
  | 'B' => some (f.text m.monthName)
  | 'p' =>
    let name := if m.hour < 12 then "AM" else "PM"
    some (if f.swapped then { f with upper := false }.text (lower name.toList)
      else f.text name.toList)
  | 'P' => some (f.text (if m.hour < 12 then "am" else "pm").toList)
  | 'u' => some (f.number 1 '0' ((m.weekday + 6) % 7 + 1 : Nat))
  | 'w' => some (f.number 1 '0' m.weekday)
  | 'U' => two (m.weekFrom 0)
  | 'W' => two (m.weekFrom 1)
  | 'V' => two m.thursdayWeek.2
  | 'G' => some (f.number 1 '0' m.thursdayWeek.1)
  | 'g' => two (m.thursdayWeek.1.fmod 100)
  | 'Z' => some (if f.swapped then { f with upper := false }.text "utc".toList
    else f.text "UTC".toList)
  | 'z' => some "+0000".toList
  | 'n' => some ['\n']
  | 't' => some ['\t']
  | '%' => some ['%']
  | _ => none

/-- A field after the flag or the digit that a character is, if it is one. -/
def Field.flag? (f : Field) (c : Char) : Option Field :=
  match c with
  | '-' => some { f with fill := some none }
  | '_' => some { f with fill := some (some ' ') }
  | '0' => if f.width.isNone then some { f with fill := some (some '0') }
    else some { f with width := f.width.map (10 * ·) }
  | '^' => some { f with upper := true }
  | '#' => some { f with upper := true, swapped := true }
  | c => (digitIn? 10 c).map fun d => { f with width := some (10 * f.width.getD 0 + d) }

/-- A point of time as a format shows it, given the field that has been begun and how it is written.
When `extended`, directives for fractions of seconds and for quarters count as well. -/
def formatFrom (m : Moment) (extended : Bool) : Nat → Option (Field × Text) → Text → Text
  | 0, _, _ => []
  | _ + 1, none, [] => []
  | _ + 1, some (_, written), [] => written.reverse
  | fuel + 1, none, c :: t =>
    if c = '%' then formatFrom m extended fuel (some (⟨none, none, false, false⟩, ['%'])) t
    else c :: formatFrom m extended fuel none t
  | fuel + 1, some (f, written), c :: t =>
    match f.flag? c with
    | some f => formatFrom m extended fuel (some (f, c :: written)) t
    | none =>
      if c = 'E' || c = 'O' then formatFrom m extended fuel (some (f, c :: written)) t
      else if c = ':' && t.head? = some 'z' then
        "+00:00".toList ++ formatFrom m extended fuel none (t.drop 1)
      else if extended && c = 'N' then
        (List.replicate (f.width.getD 9) '0') ++ formatFrom m extended fuel none t
      else if extended && c = 'q' then
        f.number 1 '0' ((m.month + 2) / 3 : Nat) ++ formatFrom m extended fuel none t
      else
        match shorthand? c with
        | some whole =>
          let text := formatFrom m extended fuel none whole.toList
          f.text text ++ formatFrom m extended fuel none t
        | none =>
          match m.directive? f c with
          | some text => text ++ formatFrom m extended fuel none t
          | none => (c :: written).reverse ++ formatFrom m extended fuel none t

/-- A point of time as a format shows it. -/
def format (m : Moment) (extended : Bool) (t : Text) : Text :=
  m.formatFrom extended (t.length + 40) none t

end Moment

end ComponentFile
