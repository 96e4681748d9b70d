import RunnerFleet.Failure

/-!
# Timestamps

A time is a number of seconds since the start of 1970, in UTC.  It is shown as
a date and a time of day in the proleptic Gregorian calendar: in statuses by the
extended ISO form, to the microsecond, and in logs to the second.
-/

namespace RunnerFleet.Timestamp

/-- A date of the proleptic Gregorian calendar. -/
structure Date where
  year : Int
  month : Nat
  day : Nat
  deriving DecidableEq, Repr

/-- The date that lies a number of days after the start of 1970.  Years are
counted from March, so that a leap day ends one; 400 of them have 146097 days. -/
def Date.ofDays (days : Int) : Date :=
  let shifted := days + 719468
  let era := shifted.fdiv 146097
  let dayOfEra := (shifted - era * 146097).toNat
  let yearOfEra :=
    (dayOfEra - dayOfEra / 1460 + dayOfEra / 36524 - dayOfEra / 146096) / 365
  let dayOfYear := dayOfEra - (365 * yearOfEra + yearOfEra / 4 - yearOfEra / 100)
  let monthIndex := (5 * dayOfYear + 2) / 153
  let day := dayOfYear - (153 * monthIndex + 2) / 5 + 1
  let month := if monthIndex < 10 then monthIndex + 3 else monthIndex - 9
  let year := (yearOfEra : Int) + era * 400
  ⟨if month ≤ 2 then year + 1 else year, month, day⟩

example : Date.ofDays 0 = ⟨1970, 1, 1⟩ := by decide
example : Date.ofDays 19782 = ⟨2024, 2, 29⟩ := by decide
example : Date.ofDays (-1) = ⟨1969, 12, 31⟩ := by decide

/-- A natural number padded with zeros to a width. -/
def padded (width number : Nat) : String :=
  let digits := Nat.toDigits 10 number
  String.ofList (List.replicate (width - digits.length) '0' ++ digits)

/-- The time of day at a number of seconds after midnight. -/
def clockText (second : Nat) : String :=
  padded 2 (second / 3600) ++ ":" ++ padded 2 (second / 60 % 60) ++ ":"
    ++ padded 2 (second % 60)

/-- Month and day of a date. -/
def monthDayText (date : Date) : String :=
  padded 2 date.month ++ "-" ++ padded 2 date.day

/-- Whole seconds and microseconds of a time.  The fraction of a second is scaled
in double precision and rounded to the nearest whole number, a half going to
the even one. -/
def split? (time : Float) : Option (Int × Int) := do
  let seconds ← Number.truncate? time
  let micros ← Number.nearest? ((time - Float.ofInt seconds) * 1000000.0)
  if 1000000 ≤ micros then pure (seconds + 1, micros - 1000000)
  else if micros < 0 then pure (seconds - 1, micros + 1000000)
  else pure (seconds, micros)

/-- Whether an integer fits into a signed word of the given number of bits. -/
def fitsWord (bits : Nat) (value : Int) : Bool :=
  let bound : Int := Nat.pow 2 (bits - 1)
  0 ≤ value + bound && value < bound

example : fitsWord 8 127 = true ∧ fitsWord 8 128 = false := by decide
example : fitsWord 8 (-128) = true ∧ fitsWord 8 (-129) = false := by decide

/-- The most seconds on either side of the start of 1970 that are counted: the
magnitude of the least word of 64 bits. -/
def secondsLimit : Nat := Nat.pow 2 63

/-- The date that holds a second after the start of 1970.  The seconds must be
among those that are counted, and the year must fit into a word of 32 bits as it
is counted from 1900. -/
def dateAt (seconds : Int) : Except DateFault Date :=
  let date := Date.ofDays (seconds.fdiv 86400)
  if secondsLimit < seconds.natAbs then .error .beyondPlatform
  else if !fitsWord 32 (date.year - 1900) then .error .beyondCalendar
  else .ok date

/-- The second of its day that a second after the start of 1970 is. -/
def secondOfDay (seconds : Int) : Nat :=
  (seconds.fmod 86400).toNat

/-- Refuse a time that is no finite number. -/
def requireFinite (time : Float) : Except DateFault Unit :=
  match Number.Exact.ofFloat time with
  | .notANumber => .error .notANumber
  | .infinite _ => .error .beyondPlatform
  | .finite _ _ _ => .ok ()

/-- A time in the extended ISO form.  Only times in the years 1 to 9999 have
one; any other year is reported as a number of 32 bits. -/
def isoText (time : Float) : Except DateFault String := do
  requireFinite time
  let (seconds, micros) ← (split? time).elim (.error .beyondPlatform) .ok
  let date ← dateAt seconds
  if date.year < 1 || 9999 < date.year then
    throw (.yearOutOfRange (date.year.bmod (Nat.pow 2 32)))
  let fraction := if micros = 0 then "" else "." ++ padded 6 micros.toNat
  pure
    (padded 4 date.year.toNat ++ "-" ++ monthDayText date ++ "T"
      ++ clockText (secondOfDay seconds) ++ fraction ++ "+00:00")

/-- A time as logs show it, cut off to the second below.  The year itself must fit
into a word of 32 bits. -/
def logText (time : Float) : Except DateFault String := do
  requireFinite time
  let seconds ← (Number.floor? time).elim (.error .beyondPlatform) .ok
  let date ← dateAt seconds
  if !fitsWord 32 date.year then
    throw .beyondStamp
  pure
    (toString date.year ++ "-" ++ monthDayText date ++ " " ++ clockText (secondOfDay seconds))

end RunnerFleet.Timestamp
