import ConfigLint.Artifact.Quoted
/-!
How a scalar is meant. A tag may be written; otherwise a plain scalar is meant as what it looks
like: a truth value, a number, a date, or a text.
-/
namespace ConfigLint
namespace Artifact

inductive Tag where
  | null | bool | int | float | moment | text | list | map
  | merge
  | equals
  | unknown
deriving Repr, DecidableEq

namespace Tag

def written : List (Text × Tag) :=
  [("null", null), ("bool", bool), ("int", int), ("float", float), ("timestamp", moment),
   ("str", text), ("seq", list), ("map", map), ("merge", merge), ("value", equals)].map
    fun e => ("tag:yaml.org,2002:".toList ++ e.1.toList, e.2)

def ofName (t : Text) : Tag := (written.lookup t).getD unknown

end Tag

def unsigned (t : Text) : Text :=
  match t with
  | '+' :: rest => rest
  | '-' :: rest => rest
  | t => t

/-- Whether a text has characters, all of which satisfy `p` or are underscores. -/
def allOrUnderscore (p : Char → Bool) (t : Text) : Bool :=
  !t.isEmpty && t.all fun c => p c || c == '_'

/-- Whether a text looks like an integer: binary, octal, decimal or hexadecimal digits. -/
def looksInt (t : Text) : Bool :=
  match unsigned t with
  | '0' :: 'b' :: rest => allOrUnderscore (fun c => c == '0' || c == '1') rest
  | '0' :: 'o' :: rest => allOrUnderscore (fun c => '0' ≤ c && c ≤ '7') rest
  | '0' :: 'x' :: rest => allOrUnderscore (fun c => (hexDigit? c).isSome) rest
  | digits => allOrUnderscore Char.isDigit digits

/-- Whether a text is an exponent, or nothing if one is not needed; the sign may be needed. -/
def looksExponent (signNeeded : Bool) (t : Text) : Bool :=
  match t with
  | [] => true
  | e :: rest =>
    let digits := unsigned rest
    (e == 'e' || e == 'E') && !digits.isEmpty && digits.all Char.isDigit &&
      (!signNeeded || digits.length < rest.length)

def looksFloat (t : Text) : Bool :=
  let digitOrUnderscore (c : Char) : Bool := c.isDigit || c == '_'
  let body := unsigned t
  if [".inf".toList, ".Inf".toList, ".INF".toList].contains body then true
  else if [".nan".toList, ".NaN".toList, ".NAN".toList].contains t then true
  else
    match body with
    | '.' :: rest =>
      let fraction := rest.takeWhile digitOrUnderscore
      !fraction.isEmpty && looksExponent true (rest.drop fraction.length)
    | c :: _ =>
      let whole := body.takeWhile digitOrUnderscore
      match body.drop whole.length with
      | '.' :: rest => c.isDigit && looksExponent false (rest.dropWhile digitOrUnderscore)
      | [] => false
      | rest => c.isDigit && looksExponent false rest
    | [] => false

/-- One or two digits at the front of a text, and what follows. -/
def shortDigits? (t : Text) : Option (Text × Text) :=
  let digits := (t.take 2).takeWhile Char.isDigit
  if digits.isEmpty then none else some (digits, t.drop digits.length)

/-- Exactly `n` digits at the front of a text, and what follows. -/
def fixedDigits? (n : Nat) (t : Text) : Option (Text × Text) :=
  let digits := (t.take n).takeWhile Char.isDigit
  if digits.length = n then some (digits, t.drop n) else none

def after? (c : Char) (t : Text) : Option Text :=
  match t with
  | d :: rest => if c = d then some rest else none
  | [] => none

/-- The parts of a written time zone: the text as a whole, its sign, its hours and its
    minutes. -/
structure ZoneText where
  name : Text
  negative : Bool
  hours : Text
  minutes : Text
deriving Repr, DecidableEq

structure TimeText where
  hour : Text
  minute : Text
  second : Text
  fraction : Text
  zone : Option ZoneText
deriving Repr, DecidableEq

structure MomentText where
  year : Text
  month : Text
  day : Text
  time : Option TimeText
deriving Repr, DecidableEq

/-- The time zone at the end of a time, which may be missing. -/
def zone? (t : Text) : Option (Option ZoneText) :=
  let name := t.dropWhile isGap
  match name with
  | [] => if t = [] then some none else none
  | ['Z'] => some (some ⟨name, false, [], []⟩)
  | sign :: rest => do
    if sign ≠ '+' ∧ sign ≠ '-' then none
    let (hours, rest) ← shortDigits? rest
    if rest = [] then return some ⟨name, sign == '-', hours, []⟩
    let (minutes, rest) ← fixedDigits? 2 (← after? ':' rest)
    if rest = [] then return some ⟨name, sign == '-', hours, minutes⟩ else none

def time? (t : Text) : Option TimeText := do
  let (hour, t) ← shortDigits? t
  let (minute, t) ← fixedDigits? 2 (← after? ':' t)
  let (second, t) ← fixedDigits? 2 (← after? ':' t)
  let (fraction, t) := match t with
    | '.' :: rest => (rest.takeWhile Char.isDigit, rest.dropWhile Char.isDigit)
    | t => ([], t)
  return ⟨hour, minute, second, fraction, ← zone? t⟩

def dropLineFeed (t : Text) : Text := if t.getLast? = some '\n' then t.dropLast else t

/-- The date that a text looks like. The month and the day may have one digit. -/
def momentText? (t : Text) : Option MomentText := do
  let (year, t) ← fixedDigits? 4 (dropLineFeed t)
  let (month, t) ← shortDigits? (← after? '-' t)
  let (day, t) ← shortDigits? (← after? '-' t)
  match t with
  | [] => return ⟨year, month, day, none⟩
  | c :: rest =>
    if c = 'T' ∨ c = 't' then return ⟨year, month, day, some (← time? rest)⟩
    else if isGap c then return ⟨year, month, day, some (← time? (rest.dropWhile isGap))⟩
    else none

/-- Whether a plain scalar looks like a date: without a time, month and day need two digits. -/
def looksMoment (t : Text) : Bool :=
  match momentText? t with
  | none => false
  | some m => m.time.isSome || (m.month.length == 2 && m.day.length == 2)

/-- What a text looks like. A line feed at the end does not count, unless it is all there is. -/
def shapeOf (t : Text) : Tag :=
  let t := if t = ['\n'] then t else dropLineFeed t
  if ["true", "True", "TRUE", "false", "False", "FALSE"].any fun w => w.toList == t then .bool
  else if looksFloat t then .float
  else if t.head? != some '_' && looksInt t then .int
  else if t = "<<".toList then .merge
  else if ["~", "null", "Null", "NULL", ""].any fun w => w.toList == t then .null
  else if looksMoment t then .moment
  else if t = ['='] then .equals
  else .text

def plainTag (t : CodeText) : Tag := (t.text?.map shapeOf).getD .text

end Artifact
end ConfigLint
