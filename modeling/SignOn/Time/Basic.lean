import SignOn.Rounding

/-!
# Instants and spans of time

An instant is a count of microseconds since the start of 1970 in universal time. Whole seconds of a
span are taken from its length in seconds as a floating-point number. A date is counted in the
Gregorian calendar, from 1 March on, so that the leap day ends a year.
-/

namespace SignOn

structure Instant where
  micros : Int
  deriving DecidableEq, Repr, Inhabited

namespace Time

def microsPerSecond : Nat := 1000000

/-- The length of a span in seconds, without its sign. -/
def seconds (micros : Int) : Rounding.BinaryFraction :=
  Rounding.nearestDouble micros.natAbs microsPerSecond

def wholeSeconds (micros : Int) : Int :=
  if micros < 0 then -((seconds micros).ceil : Int) else (seconds micros).floor

def truncatedSeconds (micros : Int) : Int :=
  if micros < 0 then -((seconds micros).floor : Int) else (seconds micros).floor

end Time

namespace Instant

def since (now past : Instant) : Int :=
  now.micros - past.micros

def advance (t : Instant) (micros : Int) : Instant :=
  ⟨t.micros + micros⟩

/-- The count of seconds since the start of 1970 that names an instant. -/
def epochSeconds (t : Instant) : Int :=
  Time.truncatedSeconds t.micros

end Instant

namespace Time

structure Date where
  year : Int
  month : Nat
  day : Nat
  deriving DecidableEq, Repr

/-- The date a number of days after 1 January 1970. Four centuries have 146097 days. -/
def dateOfDays (days : Int) : Date :=
  let fromMarch := days + 719468
  let era := fromMarch.fdiv 146097
  let dayOfEra := (fromMarch - era * 146097).toNat
  let yearOfEra :=
    (dayOfEra - dayOfEra / 1460 + dayOfEra / 36524 - dayOfEra / 146096) / 365
  let dayOfYear := dayOfEra - (365 * yearOfEra + yearOfEra / 4 - yearOfEra / 100)
  let monthFromMarch := (5 * dayOfYear + 2) / 153
  let day := dayOfYear - (153 * monthFromMarch + 2) / 5 + 1
  let month := if monthFromMarch < 10 then monthFromMarch + 3 else monthFromMarch - 9
  ⟨yearOfEra + era * 400 + (if month ≤ 2 then 1 else 0), month, day⟩

def padded (width n : Nat) : String :=
  let digits := Nat.toDigits 10 n
  String.ofList (List.replicate (width - digits.length) '0' ++ digits)

/-- An instant as `YYYY-MM-DDTHH:MM:SS`, with six more digits when it is not a whole second. -/
def isoText (t : Instant) : String :=
  let microsPerDay : Int := 86400 * microsPerSecond
  let date := dateOfDays (t.micros.fdiv microsPerDay)
  let micros := (t.micros.fmod microsPerDay).toNat
  let second := micros / microsPerSecond
  let fraction := micros % microsPerSecond
  padded 4 date.year.toNat ++ "-" ++ padded 2 date.month ++ "-" ++ padded 2 date.day ++ "T" ++
    padded 2 (second / 3600) ++ ":" ++ padded 2 (second / 60 % 60) ++ ":" ++
    padded 2 (second % 60) ++ (if fraction = 0 then "" else "." ++ padded 6 fraction)

end Time

end SignOn
