import ConfigLint.Artifact.Node
/-!
Merge keys. The value of a merge key is a mapping or a list of mappings, whose entries the mapping
around it takes over; of a list, those of the later mappings come first. The entries of a
resolved mapping are what it has taken, followed by its own ones, which win.
-/
namespace ConfigLint
namespace Artifact

/-- The entries of a mapping, as the numbers of keys and values. -/
abbrev EntryNodes := List (Nat × Nat)

/-- The nodes of a document while merge keys are resolved, a number that bounds how deep merge
    keys lie inside each other, and the entries that resolved mappings have taken from others. -/
structure MergeState where
  nodes : Array Node
  depth : Nat
  taken : List (Nat × EntryNodes) := []

namespace MergeState

def tag (s : MergeState) (n : Nat) : Tag := (s.nodes[n]?.map Node.tag).getD .unknown

def content (s : MergeState) (n : Nat) : NodeContent :=
  (s.nodes[n]?.map Node.content).getD (.list [])

def entries? (s : MergeState) (n : Nat) : Option EntryNodes :=
  match s.content n with
  | .map entries => some entries
  | _ => none

def setEntries (n : Nat) (entries : EntryNodes) (s : MergeState) : MergeState :=
  { s with nodes := s.nodes.modify n fun node => { node with content := .map entries } }

/-- An equals sign as a key is a text. -/
def nameEquals (entries : EntryNodes) (s : MergeState) : MergeState :=
  let signs := entries.filter fun e => s.tag e.1 = .equals
  signs.foldl (fun s e => { s with nodes := s.nodes.modify e.1 ({ · with tag := .text }) }) s

/-- Puts what a mapping has taken in front of its own entries. -/
def take (n : Nat) (taken own : EntryNodes) (s : MergeState) : MergeState :=
  if taken = [] then s
  else { s.setEntries n (taken ++ own) with taken := (n, taken) :: s.taken }

end MergeState

/-- A step that resolves merge keys. -/
abbrev Merging := StateT MergeState (Except ArtifactFault)

/-- The entries in front of the first merge key, its value, and the entries behind it. -/
def cutMerge? (s : MergeState) (entries : EntryNodes) : Option (EntryNodes × Nat × EntryNodes) :=
  let before := entries.takeWhile fun e => s.tag e.1 != .merge
  match entries.drop before.length with
  | [] => none
  | e :: after => some (before, e.2, after)

mutual

/-- Resolves the merge keys of a mapping and gives its entries. -/
def resolve : Nat → Nat → Merging EntryNodes
  | 0, _ => throw .malformed
  | fuel + 1, n => do
    match (← get).entries? n with
    | none => throw .malformed
    | some entries =>
      modify (MergeState.nameEquals entries)
      takeMerged fuel n []
      return ((← get).entries? n).getD []

/-- Goes on with the first merge key that is left. A second one is wrong once the first has
    brought in something. -/
def takeMerged : Nat → Nat → EntryNodes → Merging Unit
  | 0, _, _ => throw .malformed
  | fuel + 1, n, taken => do
    let s ← get
    let entries := (s.entries? n).getD []
    match cutMerge? s entries with
    | none => set (s.take n taken entries)
    | some (before, value, after) =>
      if taken ≠ [] then throw .malformed
      set (s.setEntries n (before ++ after))
      let taken ← match s.content value with
        | .scalar _ => throw .malformed
        | .map _ => resolve fuel value
        | .list items => do
          let offers ← items.mapM (resolve fuel)
          pure offers.reverse.flatten
      takeMerged fuel n taken

end

/-- Resolves the merge keys of a mapping: its entries, and whether it has taken some of them from
    others. -/
def MergeState.merged (s : MergeState) (n : Nat) : Reading ((EntryNodes × Bool) × MergeState) := do
  let (entries, s) ← (resolve s.depth n).run s
  return ((entries, (s.taken.lookup n).isSome), s)

/-- The nodes of a document before any merge key is resolved. Each step inwards takes a merge key
    away. -/
def NodeGraph.mergeState (g : NodeGraph) : MergeState :=
  let entries := g.nodes.foldl (fun n node => match node.content with
    | .map entries => n + entries.length
    | _ => n) 0
  { nodes := g.nodes, depth := 2 * entries + 3 }

end Artifact
end ConfigLint
