import RealmAuth.Clock.Instant

namespace RealmAuth

/-!
The calendar.  Days are counted in years that begin in March, so that a leap day
is the last day of its year: four hundred such years have 146097 days, each
century of them 36524 days and each group of four years 1461, but for the last.
-/

/-- A day of the calendar. -/
structure Date where
  year : Int
  month : Nat
  day : Nat
  deriving DecidableEq

/-- A second of the calendar, with the microseconds after it. -/
structure Stamp where
  date : Date
  hour : Nat
  minute : Nat
  second : Nat
  micros : Nat
  deriving DecidableEq

namespace Calendar

/-- The first of March of the year 0, in days from the start of 1970. -/
def epochShift : Int := 719468

/-- The year that begins in March, and the day in it, of a day counted from March of the year 0. -/
def marchYear (days : Int) : Int × Nat :=
  let cycle := days / 146097
  let inCycle := (days % 146097).toNat
  let century := min 3 (inCycle / 36524)
  let inCentury := inCycle - century * 36524
  let group := min 24 (inCentury / 1461)
  let inGroup := inCentury - group * 1461
  let year := min 3 (inGroup / 365)
  (cycle * 400 + century * 100 + group * 4 + year, inGroup - year * 365)

/-- The date of a day counted from the start of 1970. -/
def date (days : Int) : Date :=
  let (year, dayOfYear) := marchYear (days + epochShift)
  let month := (5 * dayOfYear + 2) / 153
  let day := dayOfYear - (153 * month + 2) / 5 + 1
  if month < 10 then ⟨year, month + 3, day⟩ else ⟨year + 1, month - 9, day⟩

def secondsPerDay : Int := 86400

def stamp (instant : Instant) : Stamp :=
  let seconds := instant.seconds
  let ofDay := (seconds % secondsPerDay).toNat
  { date := date (seconds / secondsPerDay)
    hour := ofDay / 3600
    minute := ofDay / 60 % 60
    second := ofDay % 60
    micros := instant.microsOfSecond }

def firstSecond : Int := -62135596800

def lastSecond : Int := 253402300799

/-- The seconds that have a date with a year of 32 bits, counted from 1900. -/
def dateable (seconds : Int) : Bool :=
  -67768040609740800 ≤ seconds && seconds ≤ 67768036191676799

def wrapYear (year : Int) : Int :=
  (year + 2 ^ 31) % 2 ^ 32 - 2 ^ 31

/-- The instant of a second, or why it is none: only the years 1 to 9999 have instants. -/
def instant (seconds : Int) : Except String Instant :=
  if firstSecond ≤ seconds ∧ seconds ≤ lastSecond then .ok (.ofUnix seconds 0)
  else if dateable seconds then
    let year := wrapYear (date (seconds / secondsPerDay)).year
    .error ("year " ++ toString year ++ " is out of range")
  else .error "[Errno 75] Value too large for defined data type"

/-- A number in decimal, filled with zeros to `width` digits. -/
def padded (width n : Nat) : String :=
  let digits := Nat.toDigits 10 n
  String.ofList (List.replicate (width - digits.length) '0' ++ digits)

/-- The text of a stamp; microseconds are written if there are any. -/
def text (stamp : Stamp) : String :=
  let fraction := if stamp.micros = 0 then "" else "." ++ padded 6 stamp.micros
  padded 4 stamp.date.year.toNat ++ "-" ++ padded 2 stamp.date.month ++ "-" ++
    padded 2 stamp.date.day ++ "T" ++ padded 2 stamp.hour ++ ":" ++ padded 2 stamp.minute ++ ":" ++
    padded 2 stamp.second ++ fraction ++ "+00:00"

end Calendar
end RealmAuth
