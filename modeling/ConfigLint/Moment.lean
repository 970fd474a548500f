import ConfigLint.Text
/-!
Calendar dates and times of day, the order of days, and the texts that dates are written as.
-/
namespace ConfigLint

/-- A time zone: how many minutes it is ahead of universal time, and its name. -/
structure Zone where
  minutes : Int
  name : Text
deriving Repr, DecidableEq

/-- A time of day, in a zone if one is known. -/
structure TimeOfDay where
  hour : Nat
  minute : Nat
  second : Nat
  microsecond : Nat
  zone : Option Zone := none
deriving Repr, DecidableEq

/-- A calendar date, with a time of day if one was given. -/
structure Moment where
  year : Nat
  month : Nat
  day : Nat
  time : Option TimeOfDay := none
deriving Repr, DecidableEq

def isLeap (year : Nat) : Bool := year % 4 == 0 && (year % 100 != 0 || year % 400 == 0)

def daysIn (year month : Nat) : Nat :=
  if month = 2 then (if isLeap year then 29 else 28)
  else if month = 4 ∨ month = 6 ∨ month = 9 ∨ month = 11 then 30
  else 31

/-- The number of days of the years before `year`, counted from the year 1. -/
def daysBeforeYear (year : Nat) : Nat :=
  let y := year - 1
  365 * y + y / 4 - y / 100 + y / 400

/-- The number of days before a date, counted from the first day of the year 1. -/
def dayNumber (year month day : Nat) : Nat :=
  daysBeforeYear year + (List.range (month - 1)).foldl (fun n m => n + daysIn year (m + 1)) 0 +
    (day - 1)

namespace Zone

def padded (width n : Nat) : Text :=
  let t := Text.ofNat n
  List.replicate (width - t.length) '0' ++ t

/-- How far a zone is ahead, as hours and minutes behind a sign. -/
def offsetText (z : Zone) : Text :=
  let n := z.minutes.natAbs
  (if z.minutes < 0 then '-' else '+') :: padded 2 (n / 60) ++ ':' :: padded 2 (n % 60)

/-- A length of time in full: whole days, which may be negative, and the seconds of the last day.
    Parts that are zero are left out. -/
def spanText (minutes : Int) : Text :=
  let days := minutes / 1440
  let seconds := minutes % 1440 * 60
  let parts :=
    (if days ≠ 0 then ["days=".toList ++ Text.ofInt days] else []) ++
      if seconds ≠ 0 then ["seconds=".toList ++ Text.ofInt seconds] else []
  "datetime.timedelta(".toList ++
    (if parts = [] then ['0'] else Text.join ", ".toList parts) ++ [')']

/-- A zone in full, its name in quotes. -/
def nestedText (z : Zone) : Text :=
  "datetime.timezone(".toList ++ spanText z.minutes ++ ", '".toList ++ z.name ++ "')".toList

end Zone

namespace TimeOfDay

/-- Hours, minutes and seconds; then the fraction if there is one, and how far the zone is
    ahead. -/
def text (t : TimeOfDay) : Text :=
  Zone.padded 2 t.hour ++ ':' :: Zone.padded 2 t.minute ++ ':' :: Zone.padded 2 t.second ++
    (if t.microsecond = 0 then [] else '.' :: Zone.padded 6 t.microsecond) ++
    (t.zone.map Zone.offsetText).getD []

/-- The parts of a time that are not zero at its end. -/
def parts (t : TimeOfDay) : List Nat :=
  [t.hour, t.minute] ++
    (if t.microsecond ≠ 0 then [t.second, t.microsecond]
      else if t.second ≠ 0 then [t.second] else [])

/-- The microseconds since the start of the day, by universal time if the zone is known. -/
def count (t : TimeOfDay) : Int :=
  let zone := (t.zone.map Zone.minutes).getD 0
  (((t.hour * 60 + t.minute : Nat) - zone) * 60 + t.second) * 1000000 + t.microsecond

end TimeOfDay

namespace Moment

/-- A date as year, month and day; then the time. -/
def text (m : Moment) : Text :=
  let date := Zone.padded 4 m.year ++ '-' :: Zone.padded 2 m.month ++ '-' :: Zone.padded 2 m.day
  match m.time with
  | none => date
  | some t => date ++ ' ' :: t.text

/-- A date inside a list or mapping: its parts in full, trailing zeros of the time left out. -/
def nestedText (m : Moment) : Text :=
  let date := [m.year, m.month, m.day]
  let (name, parts) := match m.time with
    | none => ("datetime.date(", date.map Text.ofNat)
    | some t =>
      ("datetime.datetime(", (date ++ t.parts).map Text.ofNat ++
        (t.zone.map fun z : Zone => "tzinfo=".toList ++ z.nestedText).toList)
  name.toList ++ Text.join ", ".toList parts ++ [')']

/-- Whether two dates are the same: times of known zones are the same if they are by universal
    time. -/
def same (a b : Moment) : Bool :=
  match a.time, b.time with
  | some s, some t =>
    let day : Int := (dayNumber a.year a.month a.day : Int) - dayNumber b.year b.month b.day
    s.zone.isSome == t.zone.isSome && day * 86400000000 + s.count == t.count
  | none, none => a == b
  | _, _ => false

end Moment
end ConfigLint
