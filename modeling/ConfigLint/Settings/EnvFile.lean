import ConfigLint.Table
import ConfigLint.Text.Blank
/-!
Files of assignments to variables. A line `NAME=value` gives a variable a value, and a name alone
leaves it without one; `export` may stand in front, white space around the equals sign does not
count, and a value may be quoted. A line that is none of this is skipped. References to other
variables are left as they stand.
-/
namespace ConfigLint
namespace EnvFile

/-- White space within a line. -/
def isGap (c : Char) : Bool := isBlank c && c != '\n' && c != '\r'

def endsLine (c : Char) : Bool := c == '\n' || c == '\r'

/-- A text without the white space in front of it in its line. -/
def skipGap (t : Text) : Text := t.dropWhile isGap

/-- The rest after the line that a text starts with. -/
def skipLine (t : Text) : Text := (t.dropWhile fun c => !endsLine c).drop 1

/-- A text without an `export` in front of it. -/
def skipExport (t : Text) : Text :=
  let rest := t.dropLead "export".toList
  if rest.length < t.length ∧ rest.head?.any isGap then skipGap rest else t

/-- What was read and the rest of the text; on failure, the text from the place where reading
    stopped. -/
abbrev Scan (α : Type) := Except Text (α × Text)

/-- The name at the front of a text: in single quotes, or up to white space, an equals sign or a
    comment. -/
def name : Text → Scan Text
  | '\'' :: t =>
    let name := t.takeWhile (· != '\'')
    match t.dropWhile (· != '\'') with
    | _ :: rest => if name = [] then .error ('\'' :: t) else .ok (name, rest)
    | [] => .error ('\'' :: t)
  | t =>
    let inName (c : Char) := !isBlank c && c != '=' && c != '#'
    let name := t.takeWhile inName
    if name = [] then .error t else .ok (name, t.dropWhile inName)

/-- The content of a quoted value up to the first quote that no backslash precedes, and the
    rest. -/
def untilQuote (quote : Char) : Text → Option (Text × Text)
  | [] => none
  | '\\' :: c :: rest =>
    if c = quote then (untilQuote quote rest).map fun r => ('\\' :: c :: r.1, r.2)
    else (untilQuote quote (c :: rest)).map fun r => ('\\' :: r.1, r.2)
  | c :: rest =>
    if c = quote then some ([], rest)
    else (untilQuote quote rest).map fun r => (c :: r.1, r.2)

/-- The content up to the last quote, and the rest. -/
def untilLastQuote (quote : Char) : Text → Option (Text × Text)
  | [] => none
  | c :: rest =>
    match untilLastQuote quote rest with
    | some r => some (c :: r.1, r.2)
    | none => if c = quote then some ([], rest) else none

/-- A quoted value and the rest. Where every quote has a backslash in front of it, the last one
    closes the value. -/
def quoted? (quote : Char) (t : Text) : Option (Text × Text) :=
  (untilQuote quote t).or (untilLastQuote quote t)

/-- What a character means after a backslash, in single quotes. -/
def plainEscape? (c : Char) : Option Char := if c = '\\' ∨ c = '\'' then some c else none

/-- What a character means after a backslash, in double quotes. -/
def richEscape? (c : Char) : Option Char :=
  if c = '\\' ∨ c = '\'' ∨ c = '"' then some c
  else
    [('a', '\x07'), ('b', '\x08'), ('f', '\x0c'), ('n', '\n'), ('r', '\r'), ('t', '\t'),
      ('v', '\x0b')].lookup c

/-- A text with its escapes replaced by what they mean. -/
def unescape (meaning? : Char → Option Char) : Text → Text
  | '\\' :: c :: rest =>
    match meaning? c with
    | some d => d :: unescape meaning? rest
    | none => '\\' :: unescape meaning? (c :: rest)
  | c :: rest => c :: unescape meaning? rest
  | [] => []

/-- A text up to a comment, which white space precedes. The flag says whether white space was
    last. -/
def beforeComment (gap : Bool) : Text → Text
  | [] => []
  | c :: rest => if gap && c == '#' then [] else c :: beforeComment (isBlank c) rest

def quotedValue (quote : Char) (meaning? : Char → Option Char) (t : Text) : Scan Text :=
  match quoted? quote t with
  | some (value, rest) => .ok (unescape meaning? value, rest)
  | none => .error (quote :: t)

def value : Text → Scan Text
  | '\'' :: t => quotedValue '\'' plainEscape? t
  | '"' :: t => quotedValue '"' richEscape? t
  | t =>
    let inLine (c : Char) := !endsLine c
    .ok (Text.trimEnd (beforeComment false (t.takeWhile inLine)), t.dropWhile inLine)

/-- The value that an equals sign gives, if there is one. -/
def assigned (t : Text) : Scan (Option Text) :=
  match skipGap t with
  | '=' :: rest => (value (skipGap rest)).map fun r => (some r.1, r.2)
  | rest => .ok (none, rest)

/-- The end of a line, before which nothing but a comment may stand. -/
def lineEnd (t : Text) : Scan Unit :=
  let line := skipGap t
  match if line.head? = some '#' then line.dropWhile (fun c => !endsLine c) else line with
  | [] => .ok ((), [])
  | c :: rest => if endsLine c then .ok ((), rest) else .error t

def binding (t : Text) : Except Text ((Text × Option Text) × Text) := do
  let (name, t) ← name (skipExport t)
  let (value, t) ← assigned t
  let (_, t) ← lineEnd t
  return ((name, value), t)

/-- The variables of a text, of which at most `count` bindings are read. After a failure, reading
    goes on at the next line. -/
def bindings : Nat → Text → List (Text × Option Text)
  | 0, _ => []
  | count + 1, t =>
    match t.dropWhile isBlank with
    | [] => []
    | t =>
      match binding t with
      | .ok (b, rest) => b :: bindings count rest
      | .error rest => bindings count (skipLine rest)

def read (t : Text) : Table Text (Option Text) := .ofList (bindings (t.length + 1) t)

end EnvFile
end ConfigLint
