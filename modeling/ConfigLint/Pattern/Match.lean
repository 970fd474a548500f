import ConfigLint.Pattern.Basic
/-!
Trying a pattern on a text. A pattern is run from a place with a continuation: the run tries its
ways through the text in order of preference, hands each place it reaches to the continuation,
and the first success of the continuation is the answer. The whole text has to be taken.

A run that fails leaves traces behind. Group marks that it has set are taken back only inside of
repetitions, and a repetition that never goes back takes up the text where the last trial left
the pointer. So a run answers with its memory also when it fails.
-/
namespace ConfigLint
namespace Pattern

/-- What a run keeps in mind beside its place: a pointer into the text, and for the groups up to
    the last one met, where they were entered and where they were left. -/
structure Memory where
  pointer : Nat
  marks : List (Option Nat)
deriving Repr, DecidableEq

namespace Memory

/-- Sets the mark with a number. Marks before it that were never set count as unset. -/
def mark (m : Memory) (number place : Nat) : Memory :=
  if number < m.marks.length then { m with marks := m.marks.set number (some place) }
  else
    { m with
      marks := m.marks ++ List.replicate (number - m.marks.length) none ++ [some place] }

def pointAt (m : Memory) (place : Nat) : Memory := { m with pointer := place }

/-- The memory after a failed trial that started from `m` and ended with `failed`. Marks of
    groups that the trial met first are dropped; others are put back only with `back`. -/
def restore (m : Memory) (back : Bool) (failed : Memory) : Memory :=
  { failed with marks := if back then m.marks else failed.marks.take m.marks.length }

def span? (m : Memory) (number : Nat) : Option (Nat × Nat) :=
  match m.marks[2 * number - 2]?.join, m.marks[2 * number - 1]?.join with
  | some a, some b => if a ≤ b then some (a, b) else none
  | _, _ => none

/-- Whether a group was left before the place where it was entered last. -/
def hasReversed (m : Memory) : Bool :=
  (List.range m.marks.length).any fun i =>
    match m.marks[2 * i]?.join, m.marks[2 * i + 1]?.join with
    | some a, some b => b < a
    | _, _ => false

end Memory

structure Outcome where
  taken : Bool
  memory : Memory
deriving Repr, DecidableEq

/-- What follows: it takes the place reached and answers how the rest ended. -/
abbrev Next := Nat → Memory → Outcome

def failed (m : Memory) : Outcome := ⟨false, m⟩

def finish : Next := fun place m => ⟨true, m.pointAt place⟩

namespace Outcome

/-- The outcome, or that of another trial if it failed. -/
@[inline] def orElse (o : Outcome) (other : Memory → Outcome) : Outcome :=
  if o.taken then o else other o.memory

/-- The outcome; the pointer goes back to `place` if it failed. -/
@[inline] def orBack (o : Outcome) (place : Nat) : Outcome :=
  o.orElse fun m => failed (m.pointAt place)

end Outcome

/-- Whether exactly one of the characters next to a place is a word character. -/
def atBoundary (t : Array Char) (ascii : Bool) (place : Nat) : Bool :=
  let isWordAt (i : Nat) : Bool := t[i]?.any fun c => CharKind.word.holds ascii c
  (place != 0 && isWordAt (place - 1)) != isWordAt place

/-- Whether an anchor holds at a place. Neither kind of boundary exists in the empty text. -/
def anchorHolds (t : Array Char) (place : Nat) : Anchor → Bool
  | .textStart | .lineStart false => place == 0
  | .textEnd => place == t.size
  | .lineStart true => place == 0 || t[place - 1]? == some '\n'
  | .lineEnd true => place == t.size || t[place]? == some '\n'
  | .lineEnd false => place == t.size || (place + 1 == t.size && t[place]? == some '\n')
  | .boundary ascii => !t.isEmpty && atBoundary t ascii place
  | .noBoundary ascii => !t.isEmpty && !atBoundary t ascii place

/-- Whether a part takes the character at a place. -/
def takesAt (t : Array Char) (l : Letter) (place : Nat) : Bool := t[place]?.any l.takes

/-- The place behind a repetition of the text from `start` to `stop`, characters compared under
    the switches. -/
def repeated? (t : Array Char) (m : Modes) (start stop place : Nat) : Option Nat :=
  let form (n : Nat) : Nat := if m.ignoreCase then m.lower n else n
  let same (i : Nat) : Bool :=
    t[start + i]?.any fun c => t[place + i]?.any fun d => form c.toNat == form d.toNat
  if (List.range (stop - start)).all same then some (place + (stop - start)) else none

/-- Whether one more round is allowed after `count` rounds; a round that took nothing is the
    last. -/
def mayGoOn (most : Option Nat) (count : Nat) (last : Option Nat) (place : Nat) : Bool :=
  (most.all fun m => count < m) && last != some place

/-- Rounds of a body, as many as possible first. -/
def runGreedy (body : Nat → Memory → Next → Outcome) (least : Nat) (most : Option Nat)
    (next : Next) : Nat → Nat → Option Nat → Nat → Memory → Outcome
  | 0, _, _, _, m => failed m
  | fuel + 1, count, last, place, m =>
    let here := m.pointAt place
    if count < least then
      (body place here (runGreedy body least most next fuel (count + 1) last)).orBack place
    else if mayGoOn most count last place then
      (body place here
        (runGreedy body least most next fuel (count + 1) (some place))).orElse fun after =>
          (next place ((here.restore true after).pointAt place)).orBack place
    else (next place here).orBack place

/-- Rounds of a body, as few as possible first. Marks are put back with `inLoop`. -/
def runLazy (body : Nat → Memory → Next → Outcome) (inLoop : Bool) (least : Nat)
    (most : Option Nat) (next : Next) : Nat → Nat → Option Nat → Nat → Memory → Outcome
  | 0, _, _, _, m => failed m
  | fuel + 1, count, last, place, m =>
    let here := m.pointAt place
    if count < least then
      (body place here
        (runLazy body inLoop least most next fuel (count + 1) last)).orBack place
    else
      (next place here).orElse fun after =>
        let again := (here.restore inLoop after).pointAt place
        if mayGoOn most count last place then
          (body place again
            (runLazy body inLoop least most next fuel (count + 1) (some place))).orBack place
        else failed again

/-- Rounds of a body, each one final, from the place of the pointer on. An optional round that
    fails leaves the pointer where it was last, and what follows starts there. -/
def runPossessive (body : Nat → Memory → Outcome) (least : Nat) (most : Option Nat)
    (start : Nat) : Nat → Nat → Option Nat → Memory → Outcome
  | 0, _, _, m => failed m
  | fuel + 1, count, last, m =>
    if count < least then
      let round := body m.pointer m
      if round.taken then runPossessive body least most start fuel (count + 1) last round.memory
      else failed (round.memory.pointAt start)
    else if mayGoOn most count last m.pointer then
      let round := body m.pointer m
      if round.taken then
        runPossessive body least most start fuel (count + 1) (some m.pointer) round.memory
      else ⟨true, m.restore true round.memory⟩
    else ⟨true, m⟩

/-- Enough rounds for a loop over a text of `size` characters. -/
def rounds (least size : Nat) : Nat := least + (size + 2) * (size + 2)

/-- The number of characters from a place on that a part takes, at most `bound`. -/
def countTaken (t : Array Char) (l : Letter) : Nat → Nat → Nat
  | 0, _ => 0
  | bound + 1, place => if takesAt t l place then countTaken t l bound (place + 1) + 1 else 0

/-- Tries what follows behind `count` characters, then behind one less, down to `least`. Places
    where the following part cannot start are left out. -/
def retreat (inLoop : Bool) (skip : Nat → Bool) (next : Next) (start : Memory)
    (least place : Nat) : Nat → Memory → Outcome
  | 0, m =>
    if 0 < least || skip place then failed m
    else (next place (m.pointAt place)).orElse fun after => failed (start.restore inLoop after)
  | count + 1, m =>
    let here := place + count + 1
    if count + 1 < least then failed m
    else if skip here then retreat inLoop skip next start least place count m
    else
      (next here (m.pointAt here)).orElse fun after =>
        retreat inLoop skip next start least place count (start.restore inLoop after)

/-- Tries what follows at a place, then behind one more character that the part takes, for at
    most `left` characters more. -/
def advance (t : Array Char) (inLoop : Bool) (l : Letter) (next : Next) (start : Memory) :
    Nat → Nat → Memory → Outcome
  | left, here, m =>
    (next here (m.pointAt here)).orElse fun after =>
      let again := (start.restore inLoop after).pointAt here
      if takesAt t l here then
        let moved := if l.movesPointer then again.pointAt (here + 1) else again
        match left with
        | 0 => failed moved
        | left + 1 => advance t inLoop l next start left (here + 1) moved
      else failed again

/-- A repetition of a part for one character. `follow` is the part that stands behind it. -/
def runLetters (t : Array Char) (l : Letter) (inLoop : Bool) (follow : Option Letter)
    (greed : Greed) (least : Nat) (most : Option Nat) (place : Nat) (m : Memory) (next : Next) :
    Outcome :=
  let available := t.size - place
  if available < least then failed m
  else
    let bound := match greed with
      | .lazy => least
      | _ => min available (most.getD available)
    let count := countTaken t l bound place
    let start := m.pointAt (if l.movesPointer then place + count else place)
    if count < least then failed start
    else
      match greed with
      | .greedy =>
        let skip (here : Nat) : Bool :=
          (follow.bind Letter.only?).any fun n => (t[here]?.map Char.toNat) != some n
        retreat inLoop skip next start least place count start
      | .lazy =>
        let left := min available (most.getD available) - least
        advance t inLoop l next start left (place + count) start
      | .possessive => next (place + count) start

/-- Runs a pattern from a place. Inside of a repetition `inLoop` holds; `follow` is the part for
    one character that stands behind the pattern, if one does. -/
def run (t : Array Char) : Pattern → Bool → Option Letter → Nat → Memory → Next → Outcome
  | nothing, _, _, place, m, next => next place m
  | never, _, _, _, m, _ => failed m
  | letter l, _, _, place, m, next => if takesAt t l place then next (place + 1) m else failed m
  | anchor a, _, _, place, m, next => if anchorHolds t place a then next place m else failed m
  | seq a b, inLoop, follow, place, m, next =>
    run t a inLoop (b.lead? follow) place m fun place m => run t b inLoop follow place m next
  | either a b, inLoop, _, place, m, next =>
    if (a.lead? none).any fun l => l.skips && !takesAt t l place then
      run t b inLoop none place m next
    else
      (run t a inLoop none place (m.pointAt place) next).orElse fun after =>
        run t b inLoop none place (m.restore inLoop after) next
  | scope a, inLoop, follow, place, m, next => run t a inLoop follow place m next
  | group n a, inLoop, _, place, m, next =>
    run t a inLoop none place (m.mark (2 * n - 2) place) fun place m =>
      next place (m.mark (2 * n - 1) place)
  | again modes n, _, _, place, m, next =>
    match (m.span? n).bind fun s => repeated? t modes s.1 s.2 place with
    | some place => next place m
    | none => failed m
  | loop greed least most a, inLoop, follow, place, m, next =>
    match a.single? with
    | some l => runLetters t l inLoop follow greed least most place m next
    | none =>
      let fuel := rounds least t.size
      match greed with
      | .greedy => runGreedy (run t a true none) least most next fuel 0 none place m
      | .lazy => runLazy (run t a true none) inLoop least most next fuel 0 none place m
      | .possessive =>
        let done := runPossessive (fun place m => run t a inLoop none place m finish) least most
          place fuel 0 none (m.pointAt place)
        if done.taken then next done.memory.pointer done.memory else done
  | atomic a, inLoop, _, place, m, next =>
    let inner := run t a inLoop none place (m.pointAt place) finish
    if inner.taken then next inner.memory.pointer inner.memory
    else failed (inner.memory.pointAt place)
  | look negated back a, inLoop, _, place, m, next =>
    if place < back then (if negated then next place m else failed m)
    else
      let inner := run t a inLoop none (place - back) (m.pointAt (place - back)) finish
      match negated with
      | false => if inner.taken then next place inner.memory else failed inner.memory
      | true =>
        if inner.taken then failed inner.memory
        else next place (m.restore inLoop inner.memory)
  | ifGroup n yes no, inLoop, follow, place, m, next =>
    if (m.span? n).isSome then
      run t yes inLoop (match no with | nothing => follow | _ => none) place m next
    else run t no inLoop follow place m next

end Pattern

/-- How a trial on a whole text ended. A group may come to end before its start, by way of a part
    that looks back; a trial that takes the text with such a group has no answer. -/
inductive Trial where
  | taken | notTaken | reversedGroup
deriving Repr, DecidableEq

namespace TextPattern

/-- Tries a pattern on the whole of a text. -/
def tryAll (p : TextPattern) (t : Text) : Trial :=
  let chars := t.toArray
  if chars.size < p.least then .notTaken
  else
    let outcome := p.body.run chars false none 0 ⟨0, []⟩ fun place m =>
      if place = chars.size then ⟨true, m.pointAt place⟩ else ⟨false, m⟩
    if !outcome.taken then .notTaken
    else if outcome.memory.hasReversed then .reversedGroup
    else .taken

end TextPattern
end ConfigLint
