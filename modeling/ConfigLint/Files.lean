import ConfigLint.Path
import ConfigLint.Table
import ConfigLint.Text.Encoding
import ConfigLint.Text.Lines
/-!
A tree of files. A path that starts with a slash is walked from the root of the tree, every other
one from the working directory. Reading a file gives its text with line feeds for line ends, or says
why there is none.
-/
namespace ConfigLint

/-- Why a file cannot be read as text. -/
inductive FileFault where
  | missing | isDirectory | notDirectory | notText
deriving Repr, DecidableEq

namespace FileFault

def message : FileFault → Text
  | missing => "No such file or directory".toList
  | isDirectory => "Is a directory".toList
  | notDirectory => "Not a directory".toList
  | notText => "artifact is not valid UTF-8".toList

end FileFault

/-- What a file holds: a text, or bytes that encode none. -/
inductive Content where
  | text (t : Text)
  | binary (fault : EncodingFault)
deriving Repr, DecidableEq

namespace Content

def ofBytes (bytes : ByteArray) : Content :=
  match String.fromUTF8? bytes with
  | some s => text s.toList
  | none => binary (.ofBytes bytes)

end Content

/-- What a name in a directory stands for. -/
inductive FileEntry where
  | file (content : Content)
  | directory
deriving Repr, DecidableEq

/-- A place in the tree: the names that lead there from the root, the nearest one first. -/
abbrev Place := List Text

namespace Place

/-- Where a step leads. The root is its own parent. -/
def next (place : Place) (name : Text) : Place :=
  if name = Path.parentStep then place.tail else name :: place

end Place

/-- What stands at the places of a tree, and its working directory. -/
structure Files where
  entries : Table Place FileEntry := .empty
  base : Place := ["work".toList]

namespace Files

/-- What is at a place. The working directory is there, and the directories that lead to it. -/
def at? (fs : Files) (place : Place) : Option FileEntry :=
  if place.isSuffixOf fs.base then some .directory else fs.entries.get? place

/-- The place where the walk along a path starts. -/
def start (fs : Files) (p : Path) : Place := if p.slashes = 0 then fs.base else []

/-- The place that a path names, whatever is there. -/
def placeOf (fs : Files) (p : Path) : Place := p.steps.foldl Place.next (fs.start p)

/-- One step of a walk, which only a directory allows. -/
def step (fs : Files) (place : Place) (name : Text) : Except FileFault Place :=
  match fs.at? place with
  | none => .error .missing
  | some (.file _) => .error .notDirectory
  | some .directory => .ok (place.next name)

def find (fs : Files) (p : Path) : Except FileFault FileEntry := do
  match fs.at? (← p.steps.foldlM fs.step (fs.start p)) with
  | some entry => return entry
  | none => .error .missing

def readText (fs : Files) (p : Path) : Except FileFault Text := do
  match ← fs.find p with
  | .file (.text t) => return t.unifyLineEnds
  | .file (.binary _) => .error .notText
  | .directory => .error .isDirectory

/-- Enters something at a place, with the directories that lead there. A directory stays what it is;
    a file gives way. -/
def enter (entry : FileEntry) : Place → Files → Files
  | [], fs => fs
  | name :: rest, fs =>
    let fs := enter .directory rest fs
    match fs.at? (name :: rest) with
    | some .directory => fs
    | _ => { fs with entries := fs.entries.insert (name :: rest) entry }

/-- Writes a file. What it held before is lost. -/
def write (fs : Files) (p : Path) (content : Content) : Files :=
  enter (.file content) (fs.placeOf p) fs

def makeDirectory (fs : Files) (p : Path) : Files := enter .directory (fs.placeOf p) fs

/-- Removes a file, if there is one. -/
def remove (fs : Files) (p : Path) : Files :=
  match fs.at? (fs.placeOf p) with
  | some (.file _) => { fs with entries := fs.entries.erase (fs.placeOf p) }
  | _ => fs

end Files
end ConfigLint
