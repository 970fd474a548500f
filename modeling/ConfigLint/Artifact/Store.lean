import ConfigLint.Data
/-!
Lists and mappings while they are built. A list or mapping may come to contain itself, so each
one lies in a box with a number, and others refer to the number. When all is built the boxes are
turned into data.
-/
namespace ConfigLint
namespace Artifact

/-- A value: data without parts, or what lies in a box. -/
inductive Item where
  | leaf (data : Data)
  | box (number : Nat)
deriving Repr

inductive Box where
  | list (items : List Item)
  | map (entries : List (Data × Item))
deriving Repr

def Box.isMap : Box → Bool
  | list _ => false
  | map _ => true

abbrev Store := Array Box

namespace Store

def box (s : Store) (b : Nat) : Box := s[b]?.getD (.list [])

/-- The data of boxes that do not contain themselves, as far as it is known. -/
abbrev Known := Array (Option Data)

/-- The data of an item that lies inside the boxes of `path`, and whether a part of it is one of
    the boxes around that part. -/
def closed (s : Store) : Nat → List Nat → Item → StateM Known (Data × Bool)
  | _, _, .leaf d => return (d, false)
  | 0, _, .box b => return (.again (s.box b).isMap, true)
  | fuel + 1, path, .box b => do
    match (← get)[b]?.join with
    | some d => return (d, false)
    | none =>
      if path.contains b then return (.again (s.box b).isMap, true)
      let (d, loops) ← match s.box b with
        | .list items => do
          let parts ← items.mapM (closed s fuel (b :: path))
          pure (Data.list (parts.map Prod.fst), parts.any Prod.snd)
        | .map entries => do
          let parts ← entries.mapM fun e => do return (e.1, ← closed s fuel (b :: path) e.2)
          pure (Data.map (parts.map fun p => (p.1, p.2.1)), parts.any fun p => p.2.2)
      if !loops then modify fun known => known.set! b (some d)
      return (d, loops)

/-- The data of an item whose outermost levels are laid open: what lies below them is taken for
    itself, as if nothing was around it. -/
def opened (s : Store) : Nat → Item → StateM Known Data
  | _, .leaf d => return d
  | 0, item => do return (← closed s (s.size + 1) [] item).1
  | level + 1, .box b =>
    match s.box b with
    | .list items => do return .list (← items.mapM (opened s level))
    | .map entries => do
      return .map (← entries.mapM fun e => do return (e.1, ← opened s level e.2))

/-- The data of an item with a number of outermost levels laid open. -/
def data (s : Store) (levels : Nat) (item : Item) : Data :=
  ((opened s levels item).run (Array.replicate s.size none)).1

end Store
end Artifact
end ConfigLint
