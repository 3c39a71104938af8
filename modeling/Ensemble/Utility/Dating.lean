import Ensemble.Text.Calendar
import Ensemble.Utility.Input
import Ensemble.Utility.Options
import Ensemble.Utility.Quotation

/-!
# Ensemble.Utility.Dating

**Times in words**: a day, a time of day, and steps from there, as people write them; and `date`, which
tells a time. Times are microseconds.
-/

namespace Ensemble.Utility

open Text (Day Moment Calendar.dayNumber Calendar.seconds Calendar.moment Calendar.months
  Calendar.weekdays Calendar.weekday Calendar.formatted)

/-- A time as far as words have told it. -/
structure Dating where
  day : Option Day := none
  /-- Seconds from the beginning of the day, and microseconds. -/
  clock : Option (Int × Nat) := none
  /-- The whole time, if a number told it. -/
  whole : Option Int := none
  /-- Seconds by which the zone is ahead. -/
  zone : Int := 0
  /-- Steps from there. -/
  years : Int := 0
  months : Int := 0
  days : Int := 0
  seconds : Int := 0

namespace Dating

def number? (cs : List Char) : Option Nat :=
  if cs.isEmpty || !cs.all Char.isDigit then none else some (Nat.ofDigitChars 10 cs 0)

/-- The pieces of a word between characters. -/
def cut (sep : Char) (cs : List Char) : List (List Char) :=
  let (first, more) := Text.cutBetween sep cs
  first :: more

/-- The number of a month with this name. -/
def monthOf? (word : String) : Option Nat :=
  let fits (name : String) : Bool :=
    let name := name.toLower
    word == name || word == Text.Calendar.short name || word == Text.Calendar.short name ++ "."
  (Calendar.months.findIdx? fits).map (· + 1)

/-- Microseconds of the digits behind a point. -/
def microseconds (cs : List Char) : Nat :=
  let six := (cs ++ List.replicate 6 '0').take 6
  Nat.ofDigitChars 10 six 0

/-- A time of day. -/
def clockOf? (cs : List Char) : Option (Int × Nat) := do
  match cut ':' cs with
  | [h, m] => do
    let h ← number? h
    let m ← number? m
    if 23 < h || 59 < m then none else return ((h * 3600 + m * 60 : Nat), 0)
  | [h, m, s] => do
    let h ← number? h
    let m ← number? m
    let (s, part) :=
      match cut '.' s with
      | [s] => (number? s, some 0)
      | [s, part] => (number? s, if part.all Char.isDigit then some (microseconds part) else none)
      | _ => (none, none)
    let s ← s
    if 23 < h || 59 < m || 60 < s then none else return ((h * 3600 + m * 60 + s : Nat), ← part)
  | _ => none

/-- The number of days of a month. -/
def monthLength (year : Int) (month : Nat) : Int :=
  Calendar.dayNumber ⟨year, month + 1, 1⟩ - Calendar.dayNumber ⟨year, month, 1⟩

/-- A day that there is. -/
def dayOf? (year : Int) (month day : Nat) : Option Day :=
  if month = 0 || 12 < month || day = 0 || monthLength year month < day then none
  else some ⟨year, month, day⟩

/-- A year of two digits is one near our time. -/
def yearOf (cs : List Char) (n : Nat) : Nat :=
  if cs.length = 2 then (if n < 69 then 2000 + n else 1900 + n) else n

/-- A day in digits. -/
def dateOf? (year : Int) (cs : List Char) : Option Day := do
  match cut '-' cs, cut '/' cs with
  | [y, m, d], _ => dayOf? (yearOf y (← number? y)) (← number? m) (← number? d)
  | _, [a, b, c] =>
    if 4 ≤ a.length then dayOf? (← number? a) (← number? b) (← number? c)
    else dayOf? (yearOf c (← number? c)) (← number? a) (← number? b)
  | _, [m, d] => dayOf? year (← number? m) (← number? d)
  | _, _ =>
    if cs.length = 8 then
      dayOf? (← number? (cs.take 4)) (← number? ((cs.drop 4).take 2)) (← number? (cs.drop 6))
    else none

/-- Go on by so many units. -/
def step (d : Dating) (n : Int) (unit : String) : Option Dating :=
  let unit := if unit.length > 1 && unit.toList.getLast? == some 's' then
      String.ofList unit.toList.dropLast else unit
  match unit with
  | "year" => some { d with years := d.years + n }
  | "month" => some { d with months := d.months + n }
  | "fortnight" => some { d with days := d.days + 14 * n }
  | "week" => some { d with days := d.days + 7 * n }
  | "day" => some { d with days := d.days + n }
  | "hour" => some { d with seconds := d.seconds + 3600 * n }
  | "minute" | "min" => some { d with seconds := d.seconds + 60 * n }
  | "second" | "sec" => some { d with seconds := d.seconds + n }
  | _ => none

/-- The seconds by which a zone is ahead. -/
def zoneOf? (cs : List Char) : Option Int := do
  let hours (ds : List Char) : Option Int := do
    let ds := ds.filter (· != ':')
    let n ← number? ds
    if ds.length ≤ 2 then return n * 3600 else return ((n / 100 * 3600 + n % 100 * 60 : Nat) : Int)
  match cs with
  | '+' :: ds => hours ds
  | '-' :: ds => (hours ds).map (- ·)
  | _ => none

/-- Take words one by one. -/
def words (year : Int) : Nat → Dating → List String → Option Dating
  | 0, _, _ => none
  | _, d, [] => some d
  | fuel + 1, d, w :: ws =>
    let cs := w.toList
    let go := words year fuel
    let signed? : Option (Int × List Char) :=
      let (negative, ds) :=
        match cs with | '-' :: ds => (true, ds) | '+' :: ds => (false, ds) | ds => (false, ds)
      let digits := ds.takeWhile Char.isDigit
      (number? digits).map fun n => (if negative then -(n : Int) else n, ds.drop digits.length)
    let onDay (v : Int) (m n : Nat) (rest : List String) : Option Dating :=
      (dayOf? v m n).bind fun day => go { d with day := some day } rest
    let weekday? := (Calendar.weekdays.findIdx? fun name =>
      w == name.toLower || w == (Text.Calendar.short name).toLower)
    match cs with
    | '@' :: ds =>
      let (negative, ds) := match ds with | '-' :: ds => (true, ds) | ds => (false, ds)
      let (n, part) :=
        match cut '.' ds with
        | [n] => (number? n, 0)
        | [n, part] => (number? n, microseconds part)
        | _ => (none, 0)
      match n, ws with
      | some n, [] => some { d with whole := some ((if negative then -(n : Int) else n) * 1000000 + part) }
      | _, _ => none
    | _ =>
      if ["now", "today", "utc", "z", "gmt", "ut", "and", "this"].contains w then go d ws
      else if w == "tomorrow" then go { d with days := d.days + 1 } ws
      else if w == "yesterday" then go { d with days := d.days - 1 } ws
      else if w == "midnight" then go { d with clock := some (0, 0) } ws
      else if w == "noon" then go { d with clock := some (43200, 0) } ws
      else if w == "next" || w == "last" then
        match ws with
        | unit :: ws => do go (← step d (if w == "next" then 1 else -1) unit) ws
        | [] => none
      else if weekday?.isSome then go d ws
      else
        match monthOf? w with
        | some m =>
          match ws with
          | day :: ws => do
            let n ← number? day.toList
            match ws with
            | y :: more =>
              match number? y.toList with
              | some v => if 4 ≤ y.length then onDay v m n more else onDay year m n ws
              | none => onDay year m n ws
            | [] => onDay year m n []
          | [] => none
        | none =>
          match dateOf? year cs with
          | some day => go { d with day := some day } ws
          | none =>
            let (dayPart, timePart) :=
              match Text.splitFirst 't' cs with
              | some (a, b) => (a, b)
              | none => ([], cs)
            let timePart := if timePart.getLast? == some 'z' then timePart.dropLast else timePart
            let zone := timePart.dropWhile fun c => c != '+' && c != '-'
            let bare := timePart.take (timePart.length - zone.length)
            match clockOf? bare, (if dayPart.isEmpty then some d.day else (dateOf? year dayPart).map some),
                (if zone.isEmpty then some d.zone else zoneOf? zone) with
            | some clock, some day, some zone =>
              match ws with
              | "am" :: more =>
                go { d with day, zone, clock := some (clock.1 % 43200, clock.2) } more
              | "pm" :: more =>
                go { d with day, zone, clock := some (clock.1 % 43200 + 43200, clock.2) } more
              | _ => go { d with day, zone, clock := some clock } ws
            | _, _, _ =>
              match signed? with
              | none => none
              | some (n, []) =>
                let isUnit := ws.head?.any fun unit =>
                  (step d n unit).isSome || (monthOf? unit).isSome
                match isUnit, ws with
                | false, ws =>
                  if d.clock.isSome && (cs.head? == some '+' || cs.head? == some '-') then
                    (zoneOf? cs).bind fun zone => go { d with zone } ws
                  else
                    match d.day with
                    | some day =>
                      if d.clock.isSome && cs.length == 4 then
                        go { d with day := some { day with year := n } } ws
                      else none
                    | none => none
                | true, [] => none
                | true, unit :: more =>
                  match monthOf? unit with
                  | some m =>
                    match more with
                    | y :: rest =>
                      match number? y.toList with
                      | some v => onDay v m n.toNat rest
                      | none => onDay year m n.toNat more
                    | [] => onDay year m n.toNat []
                  | none =>
                    match more with
                    | "ago" :: rest => do go (← step d (-n) unit) rest
                    | _ => do go (← step d n unit) more
              | some (n, unit) =>
                match ws with
                | "ago" :: rest => do go (← step d (-n) (.ofList unit)) rest
                | _ => do go (← step d n (.ofList unit)) ws

/-- The time that words tell, at a time. -/
def time? (now : Int) (text : String) : Option Int := do
  let blanks := text.toLower.toList.map fun c => if c == ',' || c == '\t' || c == '\n' then ' ' else c
  let given := ((cut ' ' blanks).filter (!·.isEmpty)).map String.ofList
  let today := Calendar.moment (now / 1000000)
  let d ← words today.date.year (given.length + 1) {} given
  match d.whole with
  | some t => return t
  | none =>
    let day := d.day.getD today.date
    let (clock, micros) :=
      match d.clock with
      | some (s, part) => (s, (part : Int))
      | none =>
        if d.day.isSome || given.isEmpty then (0, 0)
        else (today.hour * 3600 + today.minute * 60 + today.second, now % 1000000)
    let day : Day := ⟨day.year + d.years, day.month + d.months, day.day + d.days⟩
    let s := Calendar.seconds ⟨day, 0, 0, clock⟩ + d.seconds - d.zone
    return s * 1000000 + micros

/-- The time in digits: month, day, hour and minute, with the year before or behind them, and with
seconds behind a point. -/
def ofDigits? (now : Int) (yearBehind : Bool) (text : String) : Option Int := do
  let (digits, second) ←
    match cut '.' text.toList with
    | [digits] => some (digits, 0)
    | [digits, s] => if s.length = 2 then (number? s).map fun s => (digits, s) else none
    | _ => none
  if !digits.all Char.isDigit then none
  let n := digits.length
  let (yearDigits, rest) ←
    if n = 8 then some ([], digits)
    else if n = 10 || n = 12 then
      if yearBehind then some (digits.drop 8, digits.take 8)
      else some (digits.take (n - 8), digits.drop (n - 8))
    else none
  let at' (k : Nat) : Nat := Nat.ofDigitChars 10 ((rest.drop k).take 2) 0
  let year : Int :=
    if yearDigits.isEmpty then (Calendar.moment (now / 1000000)).date.year
    else (yearOf yearDigits (Nat.ofDigitChars 10 yearDigits 0) : Nat)
  let day ← dayOf? year (at' 0) (at' 2)
  if 23 < at' 4 || 59 < at' 6 || 60 < second then none
  return Calendar.seconds ⟨day, (at' 4 : Nat), (at' 6 : Nat), (second : Nat)⟩ * 1000000

end Dating

/-- The time of a file. -/
def timeOf (path : String) : Tool (Except MachineFault Int) := do
  match ← ask (.status path true) with
  | .ok s => return .ok s.time
  | .error e => return .error e

/-- Tell a time. -/
def sayTime (told : String) (t : Int) : Tool Unit :=
  sayLine (Calendar.formatted (t / 1000000) (t % 1000000).toNat told)

def date (args : List String) : Tool Nat := do
  let (chosen, operands) ← ({
    letters := "d:f:I::r:Rs:u"
    words := [("date:", "d"), ("file:", "f"), ("iso-8601::", "I"), ("reference:", "r"),
      ("rfc-email", "R"), ("rfc-3339:", "3"), ("set:", "s"), ("universal", "u"), ("utc", "u")] } :
    Choices).given args
  let now ← ask .clock
  let told ←
    match operands with
    | [] =>
      if chosen.has "R" then pure "%a, %d %b %Y %H:%M:%S %z"
      else
        match chosen.value? "I", chosen.value? "3" with
        | some "seconds", _ | some "s", _ => pure "%Y-%m-%dT%H:%M:%S+00:00"
        | some "minutes", _ => pure "%Y-%m-%dT%H:%M+00:00"
        | some "hours", _ => pure "%Y-%m-%dT%H+00:00"
        | some _, _ => pure "%Y-%m-%d"
        | none, some "date" => pure "%Y-%m-%d"
        | none, some _ => pure "%Y-%m-%d %H:%M:%S+00:00"
        | none, none => pure "%a %b %e %H:%M:%S %Z %Y"
    | [a] =>
      match a.toList with
      | '+' :: text =>
        if chosen.has "R" || chosen.has "I" || chosen.has "3" then
          giveUp 1 "multiple output formats specified"
        else pure (String.ofList text)
      | _ =>
        match Dating.ofDigits? now true a with
        | some _ => giveUp 1 "cannot set date: Operation not permitted"
        | none => giveUp 1 ("invalid date " ++ quoted a)
    | _ :: b :: _ => misused ("extra operand " ++ quoted b)
  match chosen.value? "d", chosen.value? "r" with
  | some text, _ =>
    match Dating.time? now text with
    | some t => sayTime told t
    | none => giveUp 1 ("invalid date " ++ quoted text)
  | none, some path =>
    match ← timeOf path with
    | .ok t => sayTime told t
    | .error e => giveUp 1 (nameOf path ++ ": " ++ e.message)
  | none, none => sayTime told now
  return 0

end Ensemble.Utility
