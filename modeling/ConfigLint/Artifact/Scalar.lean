import ConfigLint.Artifact.Fault
import ConfigLint.Artifact.Shape
import ConfigLint.Decimal.Numeral
import ConfigLint.Text.LowerCase
/-!
The values of scalars. A scalar whose tag asks for a number, a truth value or a date is read as
one; that it looks like one does not mean that it denotes one.
-/
namespace ConfigLint
namespace Artifact

abbrev ScalarReading (α : Type) := Except ScalarFault α

/-- The characters of a text. A question mark, which is in no number, stands for a surrogate. -/
def numberText (t : CodeText) : Text := t.map fun c => c.char?.getD '?'

def digitIn? (base : Nat) (c : Char) : Option Nat :=
  ((digitValue? c).or (hexDigit? c)).filter (· < base)

/-- The letter behind a zero that stands for a base. -/
def baseLetter (base : Nat) : Option Char :=
  [(2, 'b'), (8, 'o'), (16, 'x')].lookup base

/-- Digits without the zero and the letter of their base. -/
def dropBase (base : Nat) (t : Text) : Text :=
  match t with
  | z :: c :: rest =>
    if digitValue? z = some 0 ∧ (baseLetter base).any (Binary64.lowerAscii c == ·) then rest else t
  | t => t

/-- The integer of digits in a base, which may have a sign and white space around them. Only
    decimal digits are limited in number. -/
def readInt (base : Nat) (t : CodeText) : ScalarReading Int :=
  let (negative, body) := Numeral.sign (Text.trim (numberText t))
  let body := dropBase base body
  let run := body.takeWhile fun c => (digitIn? base c).isSome
  if base = 10 ∧ maxDigits < run.length then .error (.digits (.read run.length))
  else if run = [] ∨ run ≠ body then .error (.integer base t)
  else
    let n := (run.filterMap (digitIn? base)).foldl (fun high d => base * high + d) 0
    .ok (if negative then -(n : Int) else n)

/-- Whether there is a minus sign at the front, and what follows a sign or the absence of one. -/
def codeSign : CodeText → Bool × CodeText
  | .char '-' :: rest => (true, rest)
  | .char '+' :: rest => (false, rest)
  | t => (false, t)

/-- The integer of a scalar: underscores do not count, and letters behind a zero set the base. -/
def intValue (t : CodeText) : ScalarReading Int :=
  let plain := t.filter (· ≠ .char '_')
  if plain = [] then .error .noNumber
  else
    let (negative, digits) := codeSign plain
    let n := match digits with
      | .char '0' :: .char 'b' :: rest => readInt 2 rest
      | .char '0' :: .char 'x' :: rest => readInt 16 rest
      | .char '0' :: .char 'o' :: rest => readInt 8 rest
      | digits => readInt 10 digits
    n.map fun n => if negative then -n else n

def negateIf (negative : Bool) : Binary64 → Binary64
  | .finite sign units => .finite (sign != negative) units
  | .infinity sign => .infinity (sign != negative)
  | .nan => .nan

/-- The ASCII digit for a decimal digit of any script. -/
def asciiDigit (c : Char) : Char := ((digitValue? c).map fun n => Char.ofNat (48 + n)).getD c

def floatValue (t : CodeText) : ScalarReading Binary64 :=
  let plain := CodeText.lower (t.filter (· ≠ .char '_'))
  if plain = [] then .error .noNumber
  else
    let (negative, body) := codeSign plain
    if body = CodeText.ofText ".inf".toList then .ok (.infinity negative)
    else if body = CodeText.ofText ".nan".toList then .ok .nan
    else
      match Binary64.ofText? ((numberText body).map asciiDigit) with
      | some x => .ok (negateIf negative x)
      | none => .error (.float body)

def truthValue (t : CodeText) : ScalarReading Bool :=
  let words := [("yes", true), ("no", false), ("y", true), ("n", false), ("true", true),
    ("false", false), ("on", true), ("off", false)].map fun e => (CodeText.ofText e.1.toList, e.2)
  match words.lookup t.lower with
  | some b => .ok b
  | none => .error (.truth t.lower)

def decimalOf (t : Text) : Nat := digitsValue 0 (t.filterMap digitValue?)

/-- Microseconds from the digits of a fraction, rounded at the seventh digit; a full second is
    possible. -/
def microseconds (fraction : Text) : Nat :=
  let six := (fraction ++ List.replicate 6 '0').take 6
  let next := ((fraction.drop 6).head?.bind digitValue?).getD 0
  decimalOf six + if 4 < next then 1 else 0

/-- The zone that a text names. It lies within a day of universal time. -/
def zoneValue (z : ZoneText) : ScalarReading Zone :=
  let ahead : Int := (decimalOf z.hours * 60 + decimalOf z.minutes : Nat)
  let minutes := if z.negative then -ahead else ahead
  if minutes ≤ -1440 ∨ 1440 ≤ minutes then .error (.zone minutes) else .ok ⟨minutes, z.name⟩

def oneSecondLater (m : Moment) (t : TimeOfDay) : ScalarReading Moment :=
  if t.second < 59 then .ok { m with time := some { t with second := t.second + 1 } }
  else if t.minute < 59 then
    .ok { m with time := some { t with minute := t.minute + 1, second := 0 } }
  else if t.hour < 23 then
    .ok { m with time := some { t with hour := t.hour + 1, minute := 0, second := 0 } }
  else
    let midnight := { t with hour := 0, minute := 0, second := 0 }
    if m.day < daysIn m.year m.month then .ok { m with day := m.day + 1, time := some midnight }
    else if m.month < 12 then
      .ok { m with month := m.month + 1, day := 1, time := some midnight }
    else if m.year < 9999 then .ok ⟨m.year + 1, 1, 1, some midnight⟩
    else .error .dateRange

/-- The moment of a written date, which the calendar has to have. A fraction that was rounded up
    to a full second counts as one. -/
def momentValue (m : MomentText) : ScalarReading Moment := do
  let date : Moment := ⟨decimalOf m.year, decimalOf m.month, decimalOf m.day, none⟩
  let zone ← (m.time.bind TimeText.zone).mapM zoneValue
  if date.year = 0 then throw .year
  if date.month = 0 ∨ 12 < date.month then throw .month
  if date.day = 0 ∨ daysIn date.year date.month < date.day then throw .day
  match m.time with
  | none => return date
  | some t =>
    let us := microseconds t.fraction
    let carry := 999999 < us
    let time : TimeOfDay :=
      { hour := decimalOf t.hour
        minute := decimalOf t.minute
        second := decimalOf t.second
        microsecond := if carry then 0 else us
        zone := zone }
    if 23 < time.hour then throw .hour
    if 59 < time.minute then throw .minute
    if 59 < time.second then throw .second
    if carry then oneSecondLater date time else return { date with time := some time }

/-- The value of a scalar under a tag that scalars can have. -/
def scalarValue (tag : Tag) (t : CodeText) : Reading Data :=
  match tag with
  | .text => .ok (.str t)
  | .null => .ok .null
  | .bool => ((truthValue t).map Data.bool).mapError .scalar
  | .int => ((intValue t).map Data.int).mapError .scalar
  | .float => ((floatValue t).map Data.float).mapError .scalar
  | .moment =>
    match t.text?.bind momentText? with
    | none => .malformed
    | some m => ((momentValue m).map Data.moment).mapError .scalar
  | _ => .malformed

end Artifact
end ConfigLint
