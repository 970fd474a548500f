import ConfigLint.Artifact.Block
import ConfigLint.Artifact.Plain
import ConfigLint.Artifact.Quoted
/-!
Tokens of an artifact: the marks that give a text its structure, and its scalars. Indentation
turns into tokens that open and close blocks. A key is known as such only when its colon is met,
so places where a key may have started are kept until then.
-/
namespace ConfigLint
namespace Artifact

/-- A token. The text may break off with a fault; `broken` stands in its place. -/
inductive Token where
  | documentStart | documentEnd
  | blockListStart | blockMapStart | blockEnd
  | listStart | listEnd | mapStart | mapEnd
  | blockEntry | flowEntry | key | value
  | alias (name : Text)
  | anchor (name : Text)
  | tag (handle : Option Text) (suffix : Text)
  | scalar (text : CodeText) (plain : Bool)
  | textEnd
  | broken (fault : ArtifactFault)
deriving Repr, DecidableEq

/-- A place where a key may have started: the number of its first token, and whether the block
    has to go on with a key there. -/
structure KeyStart where
  token : Nat
  required : Bool
  index : Nat
  line : Nat
  column : Nat
deriving Repr, DecidableEq

/-- What is known while a text is cut into tokens: the place, the tokens so far (last one first)
    and their number, the open brackets (innermost first), the indentations of the open blocks
    (innermost first), whether a key may start here, and the key starts by the number of open
    brackets. -/
structure TokenState where
  cursor : Cursor
  tokens : List Token := []
  count : Nat := 0
  brackets : List Char := []
  indents : List Int := []
  keyAllowed : Bool := true
  keys : List (Nat × KeyStart) := []

namespace TokenState

def depth (s : TokenState) : Nat := s.brackets.length

def inFlow (s : TokenState) : Bool := !s.brackets.isEmpty

def indent (s : TokenState) : Int := s.indents.headD (-1)

def column (s : TokenState) : Int := s.cursor.column

def push (t : Token) (s : TokenState) : TokenState :=
  { s with tokens := t :: s.tokens, count := s.count + 1 }

/-- Adds a token that stands for the next `n` characters. -/
def pushAt (t : Token) (n : Nat) (s : TokenState) : TokenState :=
  { s.push t with cursor := s.cursor.steps n }

/-- Adds tokens in front of the token with a number. -/
def insertAt (number : Nat) (ts : List Token) (s : TokenState) : TokenState :=
  let after := s.count - number
  { s with
    tokens := s.tokens.take after ++ ts.reverse ++ s.tokens.drop after
    count := s.count + ts.length }

/-- Whether a key start is too far back: a key lies within one line and 1024 characters. -/
def isStale (s : TokenState) (k : KeyStart) : Bool :=
  k.line != s.cursor.line || s.cursor.index - k.index > 1024

/-- Forgets the key starts that are too far back, none of which may be required. -/
def dropStale (s : TokenState) : Reading TokenState :=
  if s.keys.any fun e => s.isStale e.2 && e.2.required then .malformed
  else .ok { s with keys := s.keys.filter fun e => !s.isStale e.2 }

/-- Forgets the key start at the current depth, which may not be required. -/
def dropKey (s : TokenState) : Reading TokenState :=
  match s.keys.lookup s.depth with
  | none => .ok s
  | some k =>
    if k.required then .malformed
    else .ok { s with keys := s.keys.filter fun e => e.1 != s.depth }

/-- Notes that a key may start here, if one is allowed. -/
def saveKey (s : TokenState) : Reading TokenState :=
  if !s.keyAllowed then .ok s
  else do
    let s ← s.dropKey
    let k : KeyStart :=
      { token := s.count
        required := !s.inFlow && s.indent == s.column
        index := s.cursor.index
        line := s.cursor.line
        column := s.cursor.column }
    return { s with keys := (s.depth, k) :: s.keys }

/-- Closes the blocks that are indented more than `column`; inside brackets none is closed. -/
def closeBlocks (column : Int) (s : TokenState) : TokenState :=
  if s.inFlow then s
  else
    let closed := s.indents.takeWhile fun i => column < i
    { s with
      indents := s.indents.drop closed.length
      tokens := List.replicate closed.length .blockEnd ++ s.tokens
      count := s.count + closed.length }

/-- Opens a block at a column unless one is open there: the state, and whether it was opened. -/
def openBlock (column : Int) (s : TokenState) : TokenState × Bool :=
  if s.indent < column then ({ s with indents := column :: s.indents }, true) else (s, false)

def finish (s : TokenState) : Reading TokenState := do
  let s ← (s.closeBlocks (-1)).dropKey
  return { s.push .textEnd with keyAllowed := false, keys := [] }

def documentMark (t : Token) (s : TokenState) : Reading TokenState := do
  let s ← (s.closeBlocks (-1)).dropKey
  return { s.pushAt t 3 with keyAllowed := false }

/-- An opening bracket, which may start a key. -/
def openBracket (bracket : Char) (t : Token) (s : TokenState) : Reading TokenState := do
  let s ← s.saveKey
  return { s.pushAt t 1 with brackets := bracket :: s.brackets, keyAllowed := true }

def closeBracket (t : Token) (s : TokenState) : Reading TokenState := do
  let s ← s.dropKey
  return { s.pushAt t 1 with brackets := s.brackets.tail, keyAllowed := false }

def comma (s : TokenState) : Reading TokenState := do
  let s ← s.dropKey
  return { s.pushAt .flowEntry 1 with keyAllowed := true }

/-- The mark of a block list entry or of a written-out key; `start` opens the block. -/
def blockMark (t start : Token) (allowed : Bool) (s : TokenState) : Reading TokenState :=
  if !s.inFlow && !s.keyAllowed then .malformed
  else do
    let s := if s.inFlow then s
      else
        let (s, opened) := s.openBlock s.column
        if opened then s.push start else s
    let s ← s.dropKey
    return { s.pushAt t 1 with keyAllowed := allowed }

/-- A colon. With a key start at this depth, that is where the key was; without one, the value
    has an empty or a written-out key. -/
def colon (s : TokenState) : Reading TokenState :=
  match s.keys.lookup s.depth with
  | some k =>
    let s := { s with keys := s.keys.filter fun e => e.1 != s.depth }
    -- the mapping opens where its first key stands, which may be many tokens back
    let (s, opened) := if s.inFlow then (s, false) else s.openBlock k.column
    let s := s.insertAt k.token (if opened then [.blockMapStart, .key] else [.key])
    .ok { s.pushAt .value 1 with keyAllowed := false }
  | none => s.blockMark .value .blockMapStart !s.inFlow

def isAnchorChar (c : Char) : Bool :=
  let n := c.toNat
  !isFlowMark c &&
    ((0x21 ≤ n && n ≤ 0x7E) || (0xA0 ≤ n && n ≤ 0xFFFD && n != 0xFEFF) || 0x10000 ≤ n)

def anchorName (c : Cursor) : Reading (Text × Cursor) :=
  let (name, next) := c.step.takeWhile isAnchorChar
  if name = [] ∨ !(isEndOrGap next.peek || next.peek.any isFlowMark) then .malformed
  else .ok (name, next)

/-- An anchor or an alias, which may start a key. -/
def named (make : Text → Token) (s : TokenState) : Reading TokenState := do
  let s ← s.saveKey
  let (name, next) ← anchorName s.cursor
  return { s.push (make name) with cursor := next, keyAllowed := false }

def isTagChar (c : Char) : Bool :=
  c.isAlphanum || "-;/?:@&=+$,_.!~*'()[]#".toList.contains c

def isHandleChar (c : Char) : Bool := c.isAlphanum || c == '-' || c == '_'

/-- The bytes at the front of a text that are written with percent signs, each in two hexadecimal
    digits; `none` if digits are missing. -/
def percentBytes? : Text → Option (List Nat)
  | '%' :: a :: b :: rest => do
    let high ← hexDigit? a
    let low ← hexDigit? b
    return (16 * high + low) :: (← percentBytes? rest)
  | '%' :: _ => none
  | _ => some []

/-- The suffix of a tag, which is not empty. Bytes that are written with percent signs have to be
    text in UTF-8 as far as they stand together, and each one stands for a character. -/
def tagSuffix : Nat → Cursor → Reading (Text × Cursor)
  | 0, _ => .malformed
  | fuel + 1, c =>
    let (part, next) := c.takeWhile isTagChar
    if next.peek ≠ some '%' then if part = [] then .malformed else .ok (part, next)
    else
      match percentBytes? next.rest with
      | none => .malformed
      | some bytes =>
        if !(ByteArray.mk (bytes.map Nat.toUInt8).toArray).validateUTF8 then .malformed
        else
          let behind := next.steps (3 * bytes.length)
          let done := part ++ bytes.map Char.ofNat
          if behind.peek.any isTagChar then
            (tagSuffix fuel behind).map fun r => (done ++ r.1, r.2)
          else .ok (done, behind)

/-- Whether nothing but a space or a line end follows. -/
def atTagEnd (c : Cursor) : Bool := c.peek == some ' ' || isEnd c.peek

/-- The handle of a tag at its last exclamation mark so far. If another one follows in the same
    word the handle goes up to there; otherwise it is `short`. -/
def tagHandle (short : Text) (c : Cursor) : Reading (Text × Cursor) :=
  let word := c.rest.takeWhile fun ch => !(ch == ' ' || isBreak ch)
  if !word.tail.contains '!' then .ok (short, c.step)
  else
    let (handle, next) := c.step.takeWhile isHandleChar
    if next.peek = some '!' then .ok ('!' :: handle ++ ['!'], next.step) else .malformed

/-- The tag that follows. It starts with one exclamation mark or with two. -/
def tagToken (c : Cursor) : Reading (Token × Cursor) := do
  let (short, c) := if c.step.peek = some '!' then (['!', '!'], c.step) else (['!'], c)
  let (t, next) ←
    if c.step.peek = some '<' then do
      let (suffix, next) ← tagSuffix c.rest.length c.step.step
      if next.peek = some '>' then .ok (Token.tag none suffix, next.step) else .malformed
    else if isEndOrGap c.step.peek then .ok (Token.tag none short, c.step)
    else do
      let (handle, next) ← tagHandle short c
      let (suffix, next) ← tagSuffix (c.rest.length + 1) next
      .ok (Token.tag (some handle) suffix, next)
  if atTagEnd next then return (t, next) else .malformed

/-- A tag, which may start a key. -/
def tagged (s : TokenState) : Reading TokenState := do
  let s ← s.saveKey
  let (t, next) ← tagToken s.cursor
  return { s.push t with cursor := next, keyAllowed := false }

/-- A block scalar; a key may start behind it. -/
def blockScalar (fuel : Nat) (folded : Bool) (s : TokenState) : Reading TokenState := do
  let s ← s.dropKey
  let (text, next) ← readBlock fuel folded s.indent s.cursor
  return { s.push (.scalar (CodeText.ofText text) false) with cursor := next, keyAllowed := true }

/-- A quoted scalar, which may start a key. -/
def quotedScalar (fuel : Nat) (double : Bool) (s : TokenState) : Reading TokenState := do
  let s ← s.saveKey
  let (text, next) ← readQuoted fuel double s.cursor
  return { s.push (.scalar text false) with cursor := next, keyAllowed := false }

/-- A plain scalar, which may start a key. -/
def plainScalar (fuel : Nat) (s : TokenState) : Reading TokenState := do
  let s ← s.saveKey
  let p := readPlain fuel s.inFlow s.indent s.cursor
  let token := Token.scalar (CodeText.ofText p.text) true
  return { s.push token with cursor := p.next, keyAllowed := p.lineEnded }

/-- Whether a colon here stands before a value. `pending` says that a key start is kept. -/
def isColon (pending : Bool) (s : TokenState) : Bool :=
  let gap := isEndOrGap s.cursor.step.peek
  -- in a list the gap is needed too; in braces only right behind another colon
  match s.brackets with
  | [] => gap
  | bracket :: _ =>
    if bracket = '[' ∨ (pending && s.tokens.head? == some .value) then gap else true

/-- Adds the next token; fewer than `fuel` characters are left. Directives are not part of the
    format read here. -/
def next (fuel : Nat) (s : TokenState) : Reading TokenState := do
  let s ← s.dropStale
  let pending := !s.keys.isEmpty
  let start :=
    if s.cursor.index = 0 ∧ s.cursor.peek = some '\ufeff' then s.cursor.step else s.cursor
  let (cursor, ended) := start.skipToToken s.inFlow fuel false
  let s := { s with cursor := cursor, keyAllowed := s.keyAllowed || (ended && !s.inFlow) }
  -- the line may have ended, so key starts are looked at once more
  let s := (← s.dropStale).closeBlocks s.column
  let follows := isEndOrGap cursor.step.peek
  match cursor.peek with
  | none => s.finish
  | some ch =>
    let atStart := cursor.column = 0
    if atStart ∧ ch = '%' then .malformed
    else if atStart ∧ cursor.atMark '-' then s.documentMark .documentStart
    else if atStart ∧ cursor.atMark '.' then s.documentMark .documentEnd
    else if ch = '[' then s.openBracket '[' .listStart
    else if ch = '\x7b' then s.openBracket '\x7b' .mapStart
    else if ch = ']' then s.closeBracket .listEnd
    else if ch = '\x7d' then s.closeBracket .mapEnd
    else if ch = ',' then s.comma
    else if ch = '-' ∧ follows then s.blockMark .blockEntry .blockListStart true
    else if ch = '?' ∧ (s.inFlow ∨ follows) then s.blockMark .key .blockMapStart !s.inFlow
    else if ch = ':' ∧ s.isColon pending then s.colon
    else if ch = '*' then s.named .alias
    else if ch = '&' then s.named .anchor
    else if ch = '!' then s.tagged
    else if ch = '|' ∧ !s.inFlow then s.blockScalar fuel false
    else if ch = '>' ∧ !s.inFlow then s.blockScalar fuel true
    else if ch = '\'' then s.quotedScalar fuel false
    else if ch = '"' then s.quotedScalar fuel true
    else if startsPlain s.inFlow cursor then s.plainScalar fuel
    else .malformed

/-- The tokens that are settled when a fault ends the text: those before every key start that is
    not too far back. -/
def settled (s : TokenState) : List Token :=
  let near := s.keys.filter fun e => !s.isStale e.2
  s.tokens.reverse.take ((near.map fun e => e.2.token).foldl min s.count)

def run : Nat → TokenState → List Token
  | 0, s => s.settled ++ [.broken .malformed]
  | fuel + 1, s =>
    if s.tokens.head? = some .textEnd then s.tokens.reverse
    else
      match s.next (fuel + 1) with
      | .ok s => run fuel s
      | .error fault => s.settled ++ [.broken fault]

end TokenState

def tokens (t : Text) : List Token := TokenState.run (t.length + 2) { cursor := { rest := t } }

end Artifact
end ConfigLint
