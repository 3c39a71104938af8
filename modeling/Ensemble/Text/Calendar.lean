import Ensemble.Text.Lines

/-!
# Ensemble.Text.Calendar

The **calendar**: days by year, month and day, and times in words. Days are counted from the first of
January 1970, and times are seconds from its beginning, in the zone in which noon is at Greenwich.
-/

namespace Ensemble.Text

/-- A day, or a day that is reckoned from one: a month may be beyond the twelfth, and a day beyond the
last of its month. -/
structure Day where
  year : Int
  month : Int
  day : Int
deriving DecidableEq, Repr

/-- A time of a day. -/
structure Moment where
  date : Day
  hour : Int := 0
  minute : Int := 0
  second : Int := 0
deriving DecidableEq, Repr

namespace Calendar

/-- The number of a day. Years begin in March here, so that a leap day is the last of its year. -/
def dayNumber (d : Day) : Int :=
  let months := d.year * 12 + (d.month - 1) - 2
  let year := months / 12
  let month := months % 12
  year * 365 + year / 4 - year / 100 + year / 400 + (153 * month + 2) / 5 + (d.day - 1) - 719468

/-- The day that has a number. -/
def dayOf (n : Int) : Day :=
  let z := n + 719468
  let era := z / 146097
  let rest := z - era * 146097
  let years := (rest - rest / 1460 + rest / 36524 - rest / 146096) / 365
  let inYear := rest - (365 * years + years / 4 - years / 100)
  let m := (5 * inYear + 2) / 153
  let day := inYear - (153 * m + 2) / 5 + 1
  let month := if m < 10 then m + 3 else m - 9
  ⟨years + era * 400 + (if month ≤ 2 then 1 else 0), month, day⟩

/-- The seconds to a moment. -/
def seconds (m : Moment) : Int :=
  dayNumber m.date * 86400 + m.hour * 3600 + m.minute * 60 + m.second

/-- The moment at which so many seconds have passed. -/
def moment (s : Int) : Moment :=
  let inDay := s % 86400
  ⟨dayOf (s / 86400), inDay / 3600, inDay / 60 % 60, inDay % 60⟩

/-- The day of the week: Sunday is 0. -/
def weekday (n : Int) : Nat :=
  ((n + 4) % 7).toNat

/-- The day of the year: the first is 1. -/
def yearDay (d : Day) : Nat :=
  (dayNumber d - dayNumber ⟨d.year, 1, 1⟩ + 1).toNat

def weekdays : List String :=
  ["Sunday", "Monday", "Tuesday", "Wednesday", "Thursday", "Friday", "Saturday"]

def months : List String :=
  ["January", "February", "March", "April", "May", "June", "July", "August", "September", "October",
    "November", "December"]

/-- The first three letters of a name. -/
def short (name : String) : String :=
  .ofList (name.toList.take 3)

/-- A number in a column, behind the given character. -/
def column (width : Nat) (fill : Char) (n : Int) : String :=
  let digits := toString n.natAbs
  (if n < 0 then "-" else "") ++ .ofList (List.replicate (width - digits.length) fill) ++ digits

/-- The first day. -/
theorem dayNumber_first : dayNumber ⟨1970, 1, 1⟩ = 0 := by decide

theorem dayOf_first : dayOf 0 = ⟨1970, 1, 1⟩ := by decide

/-- The weeks of a year, if they begin on the given weekday, and days before the first week are in
week 0. -/
def weekFrom (start : Nat) (n : Int) : Nat :=
  let day := yearDay (dayOf n) - 1
  let weekday := (weekday n + 7 - start) % 7
  (day + 7 - weekday) / 7

/-- The year and the week that a day is in, if weeks begin on Monday and a week is in the year that
most of it is in. -/
def isoWeek (n : Int) : Int × Nat :=
  let thursday := n - ((weekday n + 6) % 7 : Nat) + 3
  let d := dayOf thursday
  (d.year, (yearDay d - 1) / 7 + 1)

/-- A part of a time, by the letter that stands for it. `micros` is the part of a second. -/
def part? (s : Int) (micros : Nat) (letter : Char) : Option String :=
  let m := moment s
  let n := dayNumber m.date
  let month := m.date.month.toNat
  let hour12 := if m.hour % 12 = 0 then 12 else m.hour % 12
  let two := column 2 '0'
  match letter with
  | 'Y' => some (toString m.date.year)
  | 'C' => some (two (m.date.year / 100))
  | 'y' => some (two (m.date.year % 100))
  | 'm' => some (two m.date.month)
  | 'd' => some (two m.date.day)
  | 'e' => some (column 2 ' ' m.date.day)
  | 'H' => some (two m.hour)
  | 'k' => some (column 2 ' ' m.hour)
  | 'I' => some (two hour12)
  | 'l' => some (column 2 ' ' hour12)
  | 'M' => some (two m.minute)
  | 'S' => some (two m.second)
  | 's' => some (toString s)
  | 'N' => some (column 9 '0' (micros * 1000 : Nat))
  | 'p' => some (if m.hour < 12 then "AM" else "PM")
  | 'P' => some (if m.hour < 12 then "am" else "pm")
  | 'j' => some (column 3 '0' (yearDay m.date))
  | 'a' => some (short (weekdays.getD (weekday n) ""))
  | 'A' => some (weekdays.getD (weekday n) "")
  | 'b' | 'h' => some (short (months.getD (month - 1) ""))
  | 'B' => some (months.getD (month - 1) "")
  | 'u' => some (toString ((weekday n + 6) % 7 + 1))
  | 'w' => some (toString (weekday n))
  | 'q' => some (toString ((month + 2) / 3))
  | 'U' => some (two (weekFrom 0 n))
  | 'W' => some (two (weekFrom 1 n))
  | 'V' => some (two (isoWeek n).2)
  | 'G' => some (toString (isoWeek n).1)
  | 'g' => some (two ((isoWeek n).1 % 100))
  | 'z' => some "+0000"
  | 'Z' => some "UTC"
  | 'n' => some "\n"
  | 't' => some "\t"
  | '%' => some "%"
  | _ => none

/-- What letters stand for that stand for several parts. -/
def parts? : Char → Option String
  | 'F' => some "%Y-%m-%d"
  | 'D' | 'x' => some "%m/%d/%y"
  | 'T' | 'X' => some "%H:%M:%S"
  | 'R' => some "%H:%M"
  | 'r' => some "%I:%M:%S %p"
  | 'c' => some "%a %b %e %H:%M:%S %Y"
  | _ => none

/-- The shape of a part in a text. -/
structure PartShape where
  flags : List Char := []
  width : Option Nat := none
  colons : Nat := 0

/-- A part in its shape: a dash takes the zeros and blanks off a number, an underscore and a zero put
blanks and zeros in their place, and a caret makes letters great. -/
def PartShape.shaped (p : PartShape) (text : String) : String :=
  let cs := text.toList
  let isNumber := !cs.isEmpty && cs.all fun c => c.isDigit || c == ' '
  let lead := cs.takeWhile fun c => isNumber && (c == '0' || c == ' ')
  let lead := lead.take (cs.length - 1)
  let body := cs.drop lead.length
  let usual := if isNumber && lead.head? != some ' ' then '0' else ' '
  let fill := (p.flags.reverse.find? fun c => c == '_' || c == '0' || c == '-').getD usual
  let fill := if fill == '_' then ' ' else fill
  let lead :=
    if fill == '-' then []
    else List.replicate (max lead.length ((p.width.getD 0) - body.length)) fill
  let text := String.ofList (lead ++ body)
  if p.flags.contains '^' then text.toUpper else text

/-- Put the parts of a time into a text. -/
def format (s : Int) (micros : Nat) : Nat → List Char → String
  | 0, _ => ""
  | _, [] => ""
  | fuel + 1, '%' :: cs =>
    let flags := cs.takeWhile (['-', '_', '0', '^', '#'].contains ·)
    let digits := (cs.drop flags.length).takeWhile Char.isDigit
    let colons := (cs.drop (flags.length + digits.length)).takeWhile (· == ':')
    let width := if digits.isEmpty then none else some (Nat.ofDigitChars 10 digits 0)
    let shape : PartShape := ⟨flags, width, colons.length⟩
    let front := flags ++ digits ++ colons
    match cs.drop front.length with
    | [] => "%" ++ .ofList front
    | c :: rest =>
      let found : Option String :=
        match parts? c, c with
        | some text, _ => some (format s micros fuel text.toList)
        | none, 'N' => (part? s micros c).map fun text => .ofList (text.toList.take (width.getD 9))
        | none, 'z' =>
          match shape.colons with
          | 0 => part? s micros c
          | 1 => some "+00:00"
          | 2 => some "+00:00:00"
          | _ => some "+00"
        | none, c => if shape.colons = 0 then part? s micros c else none
      (match found with
        | some text => if flags.isEmpty && width.isNone || c == 'N' then text else shape.shaped text
        | none => "%" ++ .ofList front ++ c.toString) ++ format s micros fuel rest
  | fuel + 1, c :: cs => c.toString ++ format s micros fuel cs

/-- Put the parts of a time into a text. -/
def formatted (s : Int) (micros : Nat) (text : String) : String :=
  format s micros (text.length + 20) text.toList

end Calendar

end Ensemble.Text
