import ConfigLint.Artifact.Key
import ConfigLint.Artifact.Merge
import ConfigLint.Artifact.Scalar
import ConfigLint.Artifact.Store
/-!
The data of an artifact. A list or mapping is there before it is filled, and those that wait are
filled level by level; so among several faults the outermost one counts, and among faults at one
depth the first. A key has to be known at once, with all that it holds.
-/
namespace ConfigLint
namespace Artifact

/-- What is known while data is built: the nodes, the boxes, the item of each node that has one,
    the nodes whose item is being made, the nodes that wait to be filled with their boxes (last
    one first), and whether nothing may wait. -/
structure BuildState where
  graph : MergeState
  store : Store := #[]
  items : Array (Option Item)
  making : List Nat := []
  waiting : List (Nat × Nat) := []
  atOnce : Bool := false

abbrev Building := StateT BuildState (Except ArtifactFault)

def building {α : Type} (r : Reading α) : Building α := fun s => r.map fun a => (a, s)

/-- The entries of a mapping when its merge keys are resolved, and whether it has taken some of
    them from others. -/
def mergedEntries (n : Nat) : Building (EntryNodes × Bool) := fun s => do
  let (merged, graph) ← s.graph.merged n
  return (merged, { s with graph := graph })

/-- The text of a node under a tag of scalars. A mapping stands for the value under its equals
    sign. -/
def scalarText? (s : MergeState) : Nat → Nat → Option CodeText
  | 0, _ => none
  | fuel + 1, n =>
    match s.content n with
    | .scalar t => some t
    | .list _ => none
    | .map entries =>
      (entries.find? fun e => s.tag e.1 = .equals).bind fun e => scalarText? s fuel e.2

/-- The value of a node under a tag other than those of lists and mappings. -/
def leafOf (s : MergeState) (n : Nat) : Reading Data :=
  match s.tag n, s.content n with
  | .moment, .scalar t => scalarValue .moment t
  | .moment, _ => .malformed
  | tag, _ =>
    match scalarText? s (s.nodes.size + 1) n with
    | some t => scalarValue tag t
    | none => .malformed

/-- An item as a key. A mapping cannot be one. A list can, but that it holds a list or a mapping
    only shows when the key is used. -/
def keyOf (s : Store) : Item → Reading (ScalarReading Data)
  | .leaf d => .ok (.ok d)
  | .box b =>
    match s.box b with
    | .map _ => .malformed
    | .list items => .ok do
      let parts ← items.mapM fun item => match item with
        | .leaf d => .ok d
        | .box b => .error (.keyHolds (s.box b).isMap)
      return .list parts

/-- What is wrong with a key that was there before. Key and values are written out for it, which
    a long number does not allow. -/
def duplicateFault (s : Store) (key : Data) (value old : Item) : ArtifactFault :=
  let written : Except DigitFault Unit := do
    let _ ← key.displayKey
    let _ ← (s.data 0 value).display
    let _ ← (s.data 0 old).display
  match written with
  | .ok () => .malformed
  | .error fault => .scalar (.digits fault)

/-- Adds an entry. Where a mapping has taken nothing from others, no key is there twice. -/
def addEntry (merged : Bool) (entries : List (Data × Item)) (key : Data) (value : Item) :
    Building (List (Data × Item)) := do
  match if merged then none else valueUnder? key entries with
  | some old => throw (duplicateFault (← get).store key value old)
  | none => return putEntry entries key value

def newBox (empty : Box) : Building Nat := do
  let b := (← get).store.size
  modify fun s => { s with store := s.store.push empty }
  return b

def fillBox (b : Nat) (content : Box) : Building Unit :=
  modify fun s => { s with store := s.store.set! b content }

mutual

/-- The item of a node. A node that is met again while its own item is being made has none. -/
def build : Nat → Nat → Bool → Building Item
  | 0, _, _ => throw .malformed
  | fuel + 1, n, isKey => do
    let s ← get
    match s.items[n]?.join with
    | some item => return item
    | none =>
      if s.making.contains n then return .leaf .null
      set { s with atOnce := s.atOnce || isKey, making := n :: s.making }
      let item ← make fuel n
      modify fun now =>
        { now with
          items := now.items.set! n (some item)
          atOnce := s.atOnce
          making := s.making }
      return item

def make : Nat → Nat → Building Item
  | 0, _ => throw .malformed
  | fuel + 1, n => do
    let graph := (← get).graph
    match graph.tag n with
    | .list => makeBox fuel n (.list [])
    | .map => makeBox fuel n (.map [])
    | _ => return .leaf (← building (leafOf graph n))

/-- Makes the box of a node, which is filled at once or has to wait. -/
def makeBox : Nat → Nat → Box → Building Item
  | 0, _, _ => throw .malformed
  | fuel + 1, n, empty => do
    let b ← newBox empty
    if (← get).atOnce then fill fuel n b
    else modify fun s => { s with waiting := (n, b) :: s.waiting }
    return .box b

/-- Fills the box of a node, whose content has to be of the kind that its tag says. -/
def fill : Nat → Nat → Nat → Building Unit
  | 0, _, _ => throw .malformed
  | fuel + 1, n, b => do
    let graph := (← get).graph
    match graph.tag n, graph.content n with
    | .list, .list items =>
      let items ← items.mapM fun item => build fuel item false
      fillBox b (.list items)
    | .map, .map _ =>
      let (nodes, merged) ← mergedEntries n
      let entries ← nodes.foldlM (fun entries e => addBuilt fuel merged entries e.1 e.2) []
      fillBox b (.map entries)
    | _, _ => throw .malformed

def addBuilt : Nat → Bool → List (Data × Item) → Nat → Nat → Building (List (Data × Item))
  | 0, _, _, _, _ => throw .malformed
  | fuel + 1, merged, entries, k, v => do
    let item ← build fuel k true
    let key ← building (keyOf (← get).store item)
    let value ← build fuel v false
    addEntry merged entries (← building (key.mapError .scalar)) value

end

/-- Fills what waits, until nothing waits any more: level by level, in `rounds` at most. -/
def fillWaiting (fuel : Nat) : Nat → Building Unit
  | 0 => return ()
  | rounds + 1 => do
    let level := (← get).waiting.reverse
    if level.isEmpty then return ()
    modify fun s => { s with waiting := [] }
    level.forM fun e => fill fuel e.1 e.2
    fillWaiting fuel rounds

/-- Builds the data of a graph. The parts that a schema is made of lie in three levels, and each
    of them is taken for itself. -/
def buildRoot (root size : Nat) : Building Data := do
  let fuel := 5 * size + 5
  let item ← build fuel root false
  fillWaiting fuel (size + 1)
  return (← get).store.data 3 item

def NodeGraph.toData (g : NodeGraph) : Reading Data :=
  (buildRoot g.root g.nodes.size).run'
    { graph := g.mergeState, items := Array.replicate g.nodes.size none }

def isAllowed (c : Char) : Bool :=
  let n := c.toNat
  n == 0x09 || n == 0x0A || n == 0x0D || (0x20 ≤ n && n ≤ 0x7E) || n == 0x85 ||
    (0xA0 ≤ n && n ≤ 0xFFFD) || 0x10000 ≤ n

end Artifact

/-- The data that the text of an artifact stands for. -/
def Data.ofText (t : Text) : Reading Data :=
  if t.all Artifact.isAllowed then do (← Artifact.NodeGraph.ofTokens (Artifact.tokens t)).toData
  else .malformed

end ConfigLint
