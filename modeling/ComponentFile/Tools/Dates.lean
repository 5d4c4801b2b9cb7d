import ComponentFile.Text.Calendar
import ComponentFile.Tools.Files

/-!
# Dates

No time passes while programs run: the present is the beginning of 1970.

## Main definitions

* `Dates.moment?` : the point of time that words describe.
* `Tools.date` : the tool that prints points of time.
-/

namespace ComponentFile

open Text Tool Tools

namespace Dates

/-- The present. -/
def present : Moment := Moment.ofSeconds 0

/-- A date of three numbers. -/
def date? (year month day : Text) : Option Moment := do
  let y ← nat? year
  let m ← nat? month
  let d ← nat? day
  if year.length ≤ 4 && 1 ≤ m && m ≤ 12 && Moment.isDate y m d then
    return { year := y, month := m, day := d, hour := 0, minute := 0, second := 0 }
  else none

/-- The month that a word names. -/
def month? (w : Text) : Option Nat :=
  let w := lower w
  if w.length < 3 then none
  else (Moment.monthNames.findIdx? fun name =>
    let name := lower name.toList
    w == name || w == name.take 3).map (· + 1)

/-- The date that a word is. -/
def dateWord? (w : Text) : Option Moment :=
  match w.splitOn '-' with
  | [a, b, c] => date? a b c
  | _ =>
    match w.splitOn '/' with
    | [a, b, c] => if a.length = 4 then date? a b c else date? c a b
    | _ => if w.length = 8 && w.all Char.isDigit then
        date? (w.take 4) ((w.drop 4).take 2) (w.drop 6) else none

/-- The time of day that a word is. -/
def timeWord? (w : Text) : Option (Nat × Nat × Nat) :=
  let parts := (w.splitOn ':').mapM nat?
  match parts with
  | some [h, m] => if h < 24 && m < 60 then some (h, m, 0) else none
  | some [h, m, s] => if h < 24 && m < 60 && s < 61 then some (h, m, s) else none
  | _ => none

/-- A point of time with another time of day. -/
def atTime (m : Moment) (time : Nat × Nat × Nat) : Moment :=
  { m with hour := time.1, minute := time.2.1, second := time.2.2 }

/-- A point of time some months later.  A day that the month does not have is one of the next. -/
def addMonths (m : Moment) (count : Int) : Moment :=
  let months := m.year * 12 + (m.month - 1 : Nat) + count
  let year := months.fdiv 12
  let month := (months.fmod 12).toNat + 1
  let days := Moment.daysOf year month 1 + (m.day - 1 : Nat)
  Moment.ofSeconds (days * 86400 + m.hour * 3600 + m.minute * 60 + m.second)

/-- A point of time some units later. -/
def later? (m : Moment) (count : Int) (unit : Text) : Option Moment :=
  let unit := lower unit
  let unit := if unit.getLast? = some 's' && unit.length > 3 then unit.dropLast else unit
  let after (seconds : Int) : Option Moment := some (Moment.ofSeconds (m.seconds + count * seconds))
  match String.ofList unit with
  | "sec" => after 1
  | "second" => after 1
  | "min" => after 60
  | "minute" => after 60
  | "hour" => after 3600
  | "day" => after 86400
  | "week" => after 604800
  | "fortnight" => after 1209600
  | "month" => some (addMonths m count)
  | "year" => some (addMonths m (count * 12))
  | _ => none

/-- The number that a word counts with. -/
def count? (w : Text) : Option Int :=
  match String.ofList (lower w) with
  | "next" => some 1
  | "last" => some (-1)
  | "this" => some 0
  | "a" => some 1
  | _ => int? w

/-- The point of time that words describe, at most as many as a number says, after one that the
words before them describe. -/
def after : Nat → Moment → List Text → Option Moment
  | _, m, [] => some m
  | 0, _, _ :: _ => none
  | fuel + 1, m, w :: rest =>
    let name := lower w
    if name = "utc".toList || name = "gmt".toList || name = ['z'] || name = "now".toList ||
        name = "today".toList then after fuel m rest
    else if name = "tomorrow".toList then (later? m 1 "day".toList).bind fun m => after fuel m rest
    else if name = "yesterday".toList then
      (later? m (-1) "day".toList).bind fun m => after fuel m rest
    else
      match dateWord? w with
      | some d => after fuel (atTime d (m.hour, m.minute, m.second)) rest
      | none =>
        match timeWord? w with
        | some time => after fuel (atTime m time) rest
        | none =>
          match month? w, rest with
          | some month, day :: year :: rest =>
            let day := day.filter (· != ',')
            (date? year (ofNat month) day).bind fun d => after fuel d rest
          | _, _ =>
            match rest with
            | [] => none
            | unit :: rest =>
              match count? w, rest with
              | some n, ago :: behind =>
                match month? unit with
                | some month => (date? ago (ofNat month) w).bind fun d => after fuel d behind
                | none =>
                  if lower ago = "ago".toList then
                    (later? m (-n) unit).bind fun m => after fuel m behind
                  else (later? m n unit).bind fun m => after fuel m (ago :: behind)
              | some n, [] => (later? m n unit).bind fun m => after fuel m []
              | none, _ => none

/-- The words of a description.  A letter between a date and a time counts as a space. -/
def descriptionWords (t : Text) : List Text :=
  (words t).flatMap fun w =>
    match cut? ['T'] w with
    | some (date, time) =>
      if (dateWord? date).isSome then
        [date, if time.getLast? = some 'Z' then time.dropLast else time] else [w]
    | none => [w]

/-- The point of time that a text describes. -/
def moment? (t : Text) : Option Moment :=
  match t with
  | '@' :: digits => (int? (digits.takeWhile (· != '.'))).map Moment.ofSeconds
  | t =>
    let ws := descriptionWords t
    after ws.length present ws

/-- The form of a date for machines, up to a unit. -/
def formOf (unit : Text) : Option String :=
  match String.ofList unit with
  | "" => some "%F"
  | "date" => some "%F"
  | "hours" => some "%FT%H%:z"
  | "minutes" => some "%FT%H:%M%:z"
  | "seconds" => some "%FT%T%:z"
  | "ns" => some "%FT%T,%N%:z"
  | _ => none

/-- The form that an option asks for. -/
def formOfOption (o : GivenOption) : Option String :=
  match o.1 with
  | 'R' => some "%a, %d %b %Y %H:%M:%S %z"
  | 'I' => formOf o.2
  | '3' => (formOf o.2).map fun form =>
      String.ofList (form.toList.map fun c => if c = 'T' && o.2 = "date".toList then ' ' else c)
  | _ => none

end Dates

/-- Print points of time. -/
def Tools.date : Tool Nat :=
  withOptions ⟨"d:f:r:s:uRI::", [("date", 'd', .always), ("reference", 'r', .always),
    ("utc", 'u', .never), ("universal", 'u', .never), ("rfc-email", 'R', .never),
    ("iso-8601", 'I', .attached), ("rfc-3339", '3', .always)], true⟩ 1 fun options operands => do
    let description := valueOf? options 'd'
    match (description.map Dates.moment?).getD (some Dates.present) with
    | none => fail ("invalid date ".toList ++ quotedPlain (description.getD [])) 1
    | some moment =>
      match operands with
      | _ :: extra :: _ => extraOperand extra
      | operands =>
        let fixed := (options.filterMap Dates.formOfOption).getLast?
        let print (form : Text) : Tool Nat := do
          say (moment.format true form ++ ['\n'])
          return 0
        match operands.head?, fixed with
        | some ('+' :: form), none => print form
        | some ('+' :: _), some _ => fail "multiple output formats specified".toList 1
        | some t, _ => fail ("invalid date ".toList ++ quotedPlain t) 1
        | none, some "%FT%T%:z" =>
          print (if given options '3' then "%F %T%:z" else "%FT%T%:z").toList
        | none, some form => print form.toList
        | none, none => print "%+".toList

end ComponentFile
