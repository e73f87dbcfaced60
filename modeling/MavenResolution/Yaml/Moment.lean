import MavenResolution.Text.Numeral

/-! Days and times of the day in configuration documents: how they are written, which of them there are, and
how `repr` shows them. -/
namespace MavenResolution.Yaml

open Text

/-- A time of the day. -/
structure Clock where
  hour : Nat
  minute : Nat
  second : Nat
  /-- Millionths of a second. -/
  fraction : Nat
  /-- Minutes east of Greenwich, if that is told. -/
  zone : Option Int
  deriving DecidableEq, Repr

/-- A day, or a time of a day. -/
structure Moment where
  year : Nat
  month : Nat
  day : Nat
  clock : Option Clock
  deriving DecidableEq, Repr

namespace Moment

inductive Fault where
  | zone (minutes : Int)
  | year
  | month
  | day
  | hour
  | minute
  | second
  deriving DecidableEq, Repr

/-- A length of time as `repr` shows it: days, of which there may be less than none, and seconds. -/
def spanShown (minutes : Int) : String :=
  let days := minutes.fdiv 1440
  let seconds := 60 * minutes.fmod 1440
  let parts := (if days = 0 then [] else ["days=" ++ toString days]) ++
    (if seconds = 0 then [] else ["seconds=" ++ toString seconds])
  "datetime.timedelta(" ++ (if parts.isEmpty then "0" else ", ".intercalate parts) ++ ")"

def Fault.message : Fault → String
  | .zone minutes =>
    "offset must be a timedelta strictly between -timedelta(hours=24) and timedelta(hours=24), not " ++
      spanShown minutes ++ "."
  | .year => "year 0 is out of range"
  | .month => "month must be in 1..12"
  | .day => "day is out of range for month"
  | .hour => "hour must be in 0..23"
  | .minute => "minute must be in 0..59"
  | .second => "second must be in 0..59"

/-! Which moments there are. -/

def isLeap (year : Nat) : Bool := year % 4 == 0 && (year % 100 != 0 || year % 400 == 0)

def daysIn (year month : Nat) : Nat :=
  if month = 2 then (if isLeap year then 29 else 28)
  else if [4, 6, 9, 11].contains month then 30 else 31

def checkZone (moment : Moment) : Except Fault Unit :=
  match moment.clock.bind Clock.zone with
  | some minutes => if minutes.natAbs < 1440 then .ok () else .error (.zone minutes)
  | none => .ok ()

def checkDay (moment : Moment) : Except Fault Unit :=
  if moment.year = 0 then .error .year
  else if moment.month = 0 ∨ 12 < moment.month then .error .month
  else if moment.day = 0 ∨ daysIn moment.year moment.month < moment.day then .error .day
  else .ok ()

def checkClock (moment : Moment) : Except Fault Unit :=
  match moment.clock with
  | none => .ok ()
  | some clock =>
    if 24 ≤ clock.hour then .error .hour
    else if 60 ≤ clock.minute then .error .minute
    else if 60 ≤ clock.second then .error .second
    else .ok ()

def check (moment : Moment) : Except Fault Moment := do
  moment.checkZone
  moment.checkDay
  moment.checkClock
  return moment

/-! How moments are written. -/

/-- A number of so many digits, and what follows it. -/
def number? (least most : Nat) (text : List Char) : Option (Nat × List Char) :=
  let digits := text.takeWhile Char.isDigit
  if least ≤ digits.length ∧ digits.length ≤ most then
    some (digitsValue 0 digits, text.drop digits.length)
  else none

/-- What follows a mark. -/
def behind? (mark : Char) : List Char → Option (List Char)
  | c :: rest => if c == mark then some rest else none
  | [] => none

def isGap (c : Char) : Bool := c == ' ' || c == '\t'

/-- Minutes east of Greenwich, with a sign and the hours first. -/
def offset? : List Char → Option Int
  | ['Z'] => some 0
  | sign :: rest => do
    guard (sign == '+' || sign == '-')
    let (hours, rest) ← number? 1 2 rest
    let (minutes, rest) ← if rest.isEmpty then some (0, []) else behind? ':' rest >>= number? 2 2
    guard rest.isEmpty
    let size : Int := 60 * hours + minutes
    return if sign == '-' then -size else size
  | [] => none

/-- The digits behind a point as millionths. Further ones do not count. -/
def fractionOf (digits : List Char) : Nat :=
  let counted := digits.take 6
  digitsValue 0 counted * Nat.pow 10 (6 - counted.length)

def clock? (text : List Char) : Option Clock := do
  let (hour, rest) ← number? 1 2 text
  let (minute, rest) ← behind? ':' rest >>= number? 2 2
  let (second, rest) ← behind? ':' rest >>= number? 2 2
  let (fraction, rest) := match behind? '.' rest with
    | some rest => rest.span Char.isDigit
    | none => ([], rest)
  let zone ← if rest.isEmpty then some none else (offset? (rest.dropWhile isGap)).map some
  return { hour, minute, second, fraction := fractionOf fraction, zone }

/-- What stands between a day and a time of the day: a letter, or blanks. -/
def behindDay? : List Char → Option (List Char)
  | c :: rest => if c == 'T' || c == 't' then some rest
    else if isGap c then some (rest.dropWhile isGap) else none
  | [] => none

/-- The moment that a text writes. A day alone has two digits for its month, and two for itself. -/
def ofText? (text : List Char) : Option Moment := do
  let (year, rest) ← number? 4 4 text
  let (month, rest) ← behind? '-' rest >>= number? 1 2
  let (day, rest) ← behind? '-' rest >>= number? 1 2
  if rest.isEmpty then
    guard (text.length == 10)
    return { year, month, day, clock := none }
  let clock ← behindDay? rest >>= clock?
  return { year, month, day, clock := some clock }

/-! How moments are shown. -/

/-- A number with zeros in front of it. -/
def padded (width n : Nat) : String :=
  let digits := (toString n).toList
  String.ofList (List.replicate (width - digits.length) '0' ++ digits)

def dayText (moment : Moment) : String :=
  padded 4 moment.year ++ "-" ++ padded 2 moment.month ++ "-" ++ padded 2 moment.day

def zoneText (minutes : Int) : String :=
  (if minutes < 0 then "-" else "+") ++ padded 2 (minutes.natAbs / 60) ++ ":" ++ padded 2 (minutes.natAbs % 60)

def clockText (clock : Clock) : String :=
  padded 2 clock.hour ++ ":" ++ padded 2 clock.minute ++ ":" ++ padded 2 clock.second ++
    (if clock.fraction = 0 then "" else "." ++ padded 6 clock.fraction) ++ (clock.zone.map zoneText).getD ""

/-- The moment as a text. -/
def text (moment : Moment) : String :=
  match moment.clock with
  | none => moment.dayText
  | some clock => moment.dayText ++ " " ++ clockText clock

def zoneShown (minutes : Int) : String :=
  if minutes = 0 then "datetime.timezone.utc" else "datetime.timezone(" ++ spanShown minutes ++ ")"

/-- The parts of a time of the day, without seconds at the end that are none. -/
def clockParts (clock : Clock) : List Nat :=
  [clock.hour, clock.minute] ++
    (if clock.fraction ≠ 0 then [clock.second, clock.fraction]
    else if clock.second ≠ 0 then [clock.second] else [])

/-- The moment as `repr` shows it. -/
def shown (moment : Moment) : String :=
  let day := [moment.year, moment.month, moment.day]
  match moment.clock with
  | none => "datetime.date(" ++ ", ".intercalate (day.map toString) ++ ")"
  | some clock =>
    let zone := clock.zone.map fun minutes => "tzinfo=" ++ zoneShown minutes
    "datetime.datetime(" ++
      ", ".intercalate ((day ++ clockParts clock).map toString ++ zone.toList) ++ ")"

end Moment
end MavenResolution.Yaml
