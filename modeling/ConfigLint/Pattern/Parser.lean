import ConfigLint.Pattern.Alternatives
import ConfigLint.Pattern.Escape
import ConfigLint.Text.Identifier
/-!
Reading a pattern from its text.
-/
namespace ConfigLint
namespace Pattern

open Reader

/-- What a unit inside a set stands for. -/
def setUnit : Token → Reader SetItem
  | .plain c => return .code c.toNat
  | .escaped c => setEscape c
  | .surrogate n | .escapedSurrogate n => return .code (CodePoint.surrogate n).toNat
  | .stray => malformed

/-- The items of a set up to its closing bracket; `done` holds those read so far, last first. A
    bracket that comes first stands for itself. -/
def setItems : Nat → List SetItem → Reader (List SetItem)
  | 0, _ => malformed
  | fuel + 1, done => do
    match ← take with
    | none => malformed
    | some t =>
      if t = .plain ']' ∧ done ≠ [] then return done.reverse
      let item ← setUnit t
      if !(← accept '-') then setItems fuel (item :: done)
      else
        match ← take with
        | none => malformed
        | some u =>
          if u = .plain ']' then return (.code '-'.toNat :: item :: done).reverse
          match item, ← setUnit u with
          | .code a, .code b =>
            if b < a then malformed else setItems fuel (.range a b :: done)
          | _, _ => malformed

/-- The part that a set stands for. A set of one code point is that code point. -/
def ofSet (m : Modes) (negated : Bool) (items : List SetItem) : Pattern :=
  match items.eraseDups with
  | [.code n] => single m (.code negated n)
  | items => single m (.set negated items)

/-- The characters at the front that are digits, and what follows them. -/
def spanDigits (rest : List Token) : Text × List Token :=
  let digits := rest.takeWhile (Token.isPlain Char.isDigit)
  (digits.filterMap Token.char?, rest.drop digits.length)

/-- The two limits in braces, without the opening brace, and what follows; `none` when the text
    is not of that form. -/
def braces? (rest : List Token) : Option (Text × Text × List Token) :=
  let (least, rest) := spanDigits rest
  match rest with
  | .plain '\x7d' :: rest => if least = [] then none else some (least, least, rest)
  | .plain ',' :: rest =>
    let (most, rest) := spanDigits rest
    match rest with
    | .plain '\x7d' :: rest => some (least, most, rest)
    | _ => none
  | _ => none

/-- A limit of a repetition as a number; none is written for the empty text. -/
def limit? (digits : Text) : Reader (Option Nat) := do
  if digits = [] then return none
  if maxDigits < digits.length then throw (.repeatDigits (.read digits.length))
  let n := valueIn 10 digits
  if repeatLimit ≤ n then throw .repeatTooLarge
  return some n

/-- The limits of a repetition that starts with `c`, which has been taken; `none` when `c` is an
    opening brace that stands for itself. -/
def limits? (c : Char) : Reader (Option (Nat × Option Nat)) := do
  match c with
  | '?' => return some (0, some 1)
  | '*' => return some (0, none)
  | '+' => return some (1, none)
  | _ =>
    match braces? (← get).rest with
    | none => return none
    | some (least, most, rest) =>
      goTo rest
      let low := (← limit? least).getD 0
      let high ← limit? most
      if high.any (· < low) then malformed else return some (low, high)

/-- How greedy a repetition is, from the mark behind its limits. -/
def greed : Reader Greed := do
  if ← accept '?' then return .lazy
  if ← accept '+' then return .possessive
  return .greedy

/-- Repeats the last of the parts read so far. -/
def repeatLast (least : Nat) (most : Option Nat) : List Part → Reader (List Part)
  | [] => malformed
  | p :: done => do
    if !p.mayRepeat then malformed
    else return .whole (.loop (← greed) least most (ofList p.parts)) :: done

def modeLetters : Text := "aiLmstux".toList

/-- A mode letter's effect. The letter `u` undoes `a`, and `t` has none by itself. -/
def switch (m : Modes) (on : Bool) : Char → Modes
  | 'i' => { m with ignoreCase := on }
  | 'm' => { m with multiline := on }
  | 's' => { m with dotAll := on }
  | 'x' => { m with verbose := on }
  | 'a' => { m with ascii := on }
  | 'u' => { m with ascii := !on }
  | _ => m

def switchAll (m : Modes) (on : Bool) (letters : Text) : Modes :=
  letters.foldl (fun m c => switch m on c) m

/-- The mode letters at the front of a text, the character behind them, and the rest. -/
def letters? (rest : List Token) : Option (Text × Char × List Token) :=
  let letters := rest.takeWhile (Token.isPlain modeLetters.contains)
  match rest.drop letters.length with
  | .plain c :: rest => some (letters.filterMap Token.char?, c, rest)
  | _ => none

/-- Whether letters may be switched on together. -/
def compatible (on : Text) : Bool := !on.contains 'L' && !(on.contains 'a' && on.contains 'u')

/-- Mode letters for the whole pattern, as in `(?i)`, without the opening; and what follows. -/
def globalLetters? (rest : List Token) : Option (Text × List Token) :=
  match letters? rest with
  | some (on, ')', rest) => if on ≠ [] && compatible on then some (on, rest) else none
  | _ => none

/-- Mode letters for one group, as in `(?i-s:`, without the opening: the letters switched on, the
    letters switched off, and what follows. -/
def scopedLetters? (rest : List Token) : Option (Text × Text × List Token) :=
  match letters? rest with
  | some (on, ':', rest) =>
    if on ≠ [] && compatible on && !on.contains 't' then some (on, [], rest) else none
  | some (on, '-', rest) =>
    match letters? rest with
    | some (off, ':', rest) =>
      if compatible on && !on.contains 't' && off ≠ [] &&
          !off.any "aLut".toList.contains && !on.any off.contains
      then some (on, off, rest) else none
    | _ => none
  | _ => none

/-- The whole number that the name of a condition spells: white space around it, one sign and
    single underscores between the digits are allowed. -/
def conditionNumber? (name : Text) : Option Nat :=
  let t := Text.trim name
  let digits := match t with | '+' :: rest => rest | t => t
  let groups := digits.splitOn '_'
  let values := digits.filterMap digitValue?
  if groups.all (fun g => g ≠ [] && g.all isDecimalDigit) ∧ values.length ≤ maxDigits then
    some (digitsValue 0 values)
  else none

/-- The group that a condition asks for. -/
def conditionGroup (name : Text) : Reader Nat := do
  let s ← get
  let n ←
    if name.isIdentifier then
      match s.names.lookup name with
      | some n => pure n
      | none => malformed
    else
      match conditionNumber? name with
      | some n =>
        if n = 0 then malformed
        modify fun s => { s with asked := n :: s.asked }
        pure n
      | none => malformed
  if s.behind.isSome then checkGroup n
  return n

/-- Opens the next group, under a name that no other group has. -/
def openGroup (name : Option Text) : Reader Nat := do
  let s ← get
  match name with
  | none => pure ()
  | some name =>
    if (s.names.lookup name).isSome then malformed
    modify fun s => { s with names := (name, s.nextGroup) :: s.names }
  modify fun s => { s with nextGroup := s.nextGroup + 1 }
  return s.nextGroup

/-- Closes a group: from here on it can be referred to. -/
def closeGroup (n : Nat) (parts : List Pattern) : Reader Part := do
  let body := ofList parts
  modify fun s => { s with widths := (n, (body.width s.widths).cap) :: s.widths }
  return .whole (.group n body)

/-- Closes a look-behind. That its width is not fixed is a fault once the pattern is complete. -/
def closeBehind (negated : Bool) (parts : List Pattern) : Reader Part := do
  let body := ofList parts
  let width := (body.width (← get).widths).cap
  if width.least ≠ width.most then modify fun s => { s with vague := true }
  return .whole (.look negated width.least body)

/-- Whether a unit is white space that a verbose pattern skips. -/
def isVerboseBlank : Token → Bool := Token.isPlain " \t\n\r\x0b\x0c".toList.contains

inductive Opening where
  | comment
  | part (p : Pattern)
  | body (modes : Modes) (close : List Pattern → Reader Part)
  | lookBehind (negated : Bool)
  | condition (number : Nat)

def namedOpening (m : Modes) : Reader Opening := do
  if ← accept '<' then
    let name ← takeName '>'
    if !name.isIdentifier then malformed
    let n ← openGroup (some name)
    return .body m (closeGroup n)
  else if ← accept '=' then
    let name ← takeName ')'
    match (← get).names.lookup name with
    | none => malformed
    | some n =>
      checkGroup n
      return .part (.again m n)
  else malformed

/-- Reads what stands behind `(?`, up to the body of the group if it has one. -/
def opening (m : Modes) : Reader Opening := do
  let here := (← get).rest
  match ← take with
  | some (.plain 'P') => namedOpening m
  | some (.plain ':') => return .body m fun ps => pure (.bare ps)
  | some (.plain '#') =>
    skipComment ')' false
    return .comment
  | some (.plain '=') => return .body m fun ps => pure (.whole (.look false 0 (ofList ps)))
  | some (.plain '!') => return .body m fun ps => pure (.whole (.look true 0 (ofList ps)))
  | some (.plain '<') =>
    if ← accept '=' then return .lookBehind false
    else if ← accept '!' then return .lookBehind true
    else malformed
  | some (.plain '(') => return .condition (← conditionGroup (← takeName ')'))
  | some (.plain '>') => return .body m fun ps => pure (.whole (.atomic (ofList ps)))
  | _ =>
    match scopedLetters? here with
    | none => malformed
    | some (on, off, rest) =>
      goTo rest
      return .body (switchAll (switchAll m true on) false off) fun ps =>
        pure (.whole (.scope (ofList ps)))

mutual

/-- Reads alternatives up to a closing parenthesis or the end of the text; `done` holds those
    read so far, last first. -/
def alternatives : Nat → Modes → List (List Pattern) → Reader (List Pattern)
  | 0, _, _ => malformed
  | fuel + 1, m, done => do
    let next ← sequence fuel m []
    if ← accept '|' then alternatives fuel m (next :: done)
    else return choice m (next :: done).reverse

/-- Reads parts up to a bar, a closing parenthesis or the end of the text; `done` holds those
    read so far, last first. -/
def sequence : Nat → Modes → List Part → Reader (List Pattern)
  | 0, _, _ => malformed
  | fuel + 1, m, done => do
    match ← peek with
    | none | some (.plain '|') | some (.plain ')') => return done.reverse.flatMap Part.parts
    | some t =>
      let _ ← take
      if m.verbose && isVerboseBlank t then sequence fuel m done
      else if m.verbose && t = .plain '#' then
        skipComment '\n' true
        sequence fuel m done
      else
        match t with
        | .stray => malformed
        | .surrogate n | .escapedSurrogate n =>
          sequence fuel m (.whole (code m (CodePoint.surrogate n).toNat) :: done)
        | .escaped c => do sequence fuel m (.whole (← escape m c) :: done)
        | .plain '[' => do
          let negated ← accept '^'
          let items ← setItems (← get).rest.length.succ []
          sequence fuel m (.whole (ofSet m negated items) :: done)
        | .plain '.' => sequence fuel m (.whole (single m .any) :: done)
        | .plain '^' => sequence fuel m (.whole (.anchor (.lineStart m.multiline)) :: done)
        | .plain '$' => sequence fuel m (.whole (.anchor (.lineEnd m.multiline)) :: done)
        | .plain '(' => do sequence fuel m ((← parenthesis fuel m).toList ++ done)
        | .plain c =>
          if "?*+\x7b".toList.contains c then do
            match ← limits? c with
            | some (least, most) => do sequence fuel m (← repeatLast least most done)
            | none => sequence fuel m (.whole (code m c.toNat) :: done)
          else sequence fuel m (.whole (code m c.toNat) :: done)

/-- Reads what stands behind an opening parenthesis, its closing one included; `none` for a
    comment. -/
def parenthesis : Nat → Modes → Reader (Option Part)
  | 0, _ => malformed
  | fuel + 1, m => do
    if !(← accept '?') then
      let n ← openGroup none
      let parts ← alternatives fuel m []
      expect ')'
      return some (← closeGroup n parts)
    match ← opening m with
    | .comment => return none
    | .part p => return some (.whole p)
    | .body inner close => do
      let parts ← alternatives fuel inner []
      expect ')'
      return some (← close parts)
    | .lookBehind negated => do
      let outer := (← get).behind
      modify fun s => { s with behind := outer.or (some s.nextGroup) }
      let parts ← alternatives fuel m []
      modify fun s => { s with behind := outer }
      expect ')'
      return some (← closeBehind negated parts)
    | .condition n => do
      let yes ← sequence fuel m []
      let no ←
        if ← accept '|' then
          let no ← sequence fuel m []
          if (← peek) = some (.plain '|') then malformed
          pure no
        else pure []
      expect ')'
      return some (.whole (.ifGroup n (ofList yes) (ofList no)))

end

/-- Takes the switches for the whole pattern that stand at its front, comments between them
    included, and answers their letters. -/
def frontLetters : Nat → Modes → Reader Text
  | 0, _ => return []
  | fuel + 1, m => do
    match (← get).rest with
    | .plain '(' :: .plain '?' :: .plain '#' :: rest =>
      goTo rest
      skipComment ')' false
      frontLetters fuel m
    | .plain '(' :: .plain '?' :: rest =>
      match globalLetters? rest with
      | some (on, rest) =>
        goTo rest
        return on ++ (← frontLetters fuel (switchAll m true on))
      | none => return []
    | t :: rest =>
      if m.verbose && isVerboseBlank t then
        goTo rest
        frontLetters fuel m
      else if m.verbose && t = .plain '#' then
        skipComment '\n' true
        frontLetters fuel m
      else return []
    | [] => return []

def hasLoop : Pattern → Bool
  | loop .. => true
  | seq a b | either a b | ifGroup _ a b => a.hasLoop || b.hasLoop
  | scope a | group _ a | atomic a | look _ _ a => a.hasLoop
  | _ => false

def readAll : Reader TextPattern := do
  let fuel := 4 * (← get).rest.length + 8
  goTo (← get).rest
  let letters ← frontLetters fuel {}
  let p := ofList (← alternatives fuel (switchAll {} true letters) [])
  if letters.contains 'a' && letters.contains 'u' then throw .clashingModes
  let s ← get
  if s.rest ≠ [] || s.asked.any (s.nextGroup ≤ ·) || s.vague ||
      (letters.contains 't' && p.hasLoop)
  then malformed
  return ⟨p, (p.width s.widths).cap.least⟩

/-- The pattern that a text stands for. -/
def ofText (t : CodeText) : Except PatternFault TextPattern :=
  readAll.run' { rest := Token.ofText t }

end Pattern
end ConfigLint
