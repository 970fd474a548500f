import ConfigLint.Artifact.Shape
import ConfigLint.Artifact.Token
/-!
The structure of an artifact: scalars, lists and mappings, each with a tag that says how it is
meant. A node that has been given a name may stand in several places, also inside of itself, so
nodes refer to each other by numbers.
-/
namespace ConfigLint
namespace Artifact

inductive NodeContent where
  | scalar (text : CodeText)
  | list (items : List Nat)
  | map (entries : List (Nat × Nat))
deriving Repr, DecidableEq

/-- A node: how it is meant and what it holds. -/
structure Node where
  tag : Tag
  content : NodeContent
deriving Repr, DecidableEq

/-- The nodes of a document, and the number of the outermost one. -/
structure NodeGraph where
  nodes : Array Node
  root : Nat
deriving Repr, DecidableEq

/-- What is left of the tokens, the nodes so far, and the numbers of those with a name. -/
structure NodeState where
  tokens : List Token
  nodes : Array Node := #[]
  anchors : List (Text × Nat) := []

abbrev NodeReader := StateT NodeState (Except ArtifactFault)

namespace NodeReader

def malformed {α : Type} : NodeReader α := throw .malformed

def peek : NodeReader Token := do
  match (← get).tokens with
  | [] => malformed
  | .broken fault :: _ => throw fault
  | t :: _ => return t

def skip : NodeReader Unit := modify fun s => { s with tokens := s.tokens.tail }

def expect (t : Token) : NodeReader Unit := do
  if (← peek) = t then skip else malformed

def nextIn (ts : List Token) : NodeReader Bool := do return ts.contains (← peek)

end NodeReader

open NodeReader

/-- What may stand in front of a node: a name and a tag. -/
structure Properties where
  anchor : Option Text := none
  tag : Option Text := none

def tagName (handle : Option Text) (suffix : Text) : NodeReader Text :=
  match handle with
  | none => return suffix
  | some ['!'] => return '!' :: suffix
  | some ['!', '!'] => return "tag:yaml.org,2002:".toList ++ suffix
  | some _ => malformed

/-- Reads a name and a tag, in either order, as far as they are there. -/
def properties : NodeReader Properties := do
  match ← peek with
  | .anchor name =>
    skip
    match ← peek with
    | .tag handle suffix =>
      skip
      return ⟨some name, some (← tagName handle suffix)⟩
    | _ => return ⟨some name, none⟩
  | .tag handle suffix =>
    skip
    let anchor ← match ← peek with
      | .anchor name =>
        skip
        pure (some name)
      | _ => pure none
    return ⟨anchor, some (← tagName handle suffix)⟩
  | _ => return {}

/-- The tag of a node: the written one, or `implied` if none is written that says something. -/
def Properties.tagOr (p : Properties) (implied : Tag) : Tag :=
  match p.tag with
  | none | some ['!'] => implied
  | some name => Tag.ofName name

/-- Adds a node, under the name that its properties give. -/
def add (p : Properties) (n : Node) : NodeReader Nat := do
  let number := (← get).nodes.size
  modify fun s =>
    { s with
      nodes := s.nodes.push n
      anchors := (p.anchor.map fun name => (name, number)).toList ++ s.anchors }
  return number

/-- Adds a collection whose content is read afterwards: inside of it, its name is known
    already. -/
def addAround (p : Properties) (tag : Tag) (empty : NodeContent) (read : NodeReader NodeContent) :
    NodeReader Nat := do
  let number ← add p ⟨p.tagOr tag, empty⟩
  let content ← read
  modify fun s => { s with nodes := s.nodes.set! number ⟨p.tagOr tag, content⟩ }
  return number

/-- Adds a scalar. An exclamation mark alone makes a quoted text count as plain. -/
def addScalar (p : Properties) (text : CodeText) (plain : Bool) : NodeReader Nat :=
  add p ⟨p.tagOr (if plain || p.tag.isSome then plainTag text else .text), .scalar text⟩

/-- Adds the node of properties with nothing behind them; there have to be some. -/
def addEmpty (p : Properties) : NodeReader Nat :=
  if p.anchor.isSome || p.tag.isSome then addScalar p [] true else malformed

def addNothing : NodeReader Nat := add {} ⟨.null, .scalar []⟩

mutual

/-- Reads a node. Blocks may be asked for, and among them a list that is not indented. -/
def node : Nat → Bool → Bool → NodeReader Nat
  | 0, _, _ => malformed
  | fuel + 1, block, bareList => do
    match ← peek with
    | .alias name =>
      skip
      match (← get).anchors.lookup name with
      | some n => return n
      | none => malformed
    | _ => content fuel (← properties) block bareList

/-- Reads what stands behind the properties of a node. -/
def content : Nat → Properties → Bool → Bool → NodeReader Nat
  | 0, _, _, _ => malformed
  | fuel + 1, p, block, bareList => do
    match ← peek with
    | .scalar text plain =>
      skip
      addScalar p text plain
    | .listStart =>
      skip
      addAround p .list (.list []) (do return .list (← flowItems fuel true))
    | .mapStart =>
      skip
      addAround p .map (.map []) (do return .map (← flowEntries fuel true))
    | .blockEntry =>
      if bareList then addAround p .list (.list []) (do return .list (← bareItems fuel))
      else addEmpty p
    | .blockListStart =>
      if block then
        skip
        addAround p .list (.list []) (do return .list (← blockItems fuel))
      else addEmpty p
    | .blockMapStart =>
      if block then
        skip
        addAround p .map (.map []) (do return .map (← blockEntries fuel))
      else addEmpty p
    | _ => addEmpty p

/-- A node, or the empty one if one of `stops` is next. -/
def nodeUnless : Nat → List Token → Bool → Bool → NodeReader Nat
  | 0, _, _, _ => malformed
  | fuel + 1, stops, block, bareList => do
    if ← nextIn stops then addNothing else node fuel block bareList

def blockItems : Nat → NodeReader (List Nat)
  | 0 => malformed
  | fuel + 1 => do
    match ← peek with
    | .blockEntry =>
      skip
      let n ← nodeUnless fuel [.blockEntry, .blockEnd] true false
      return n :: (← blockItems fuel)
    | .blockEnd =>
      skip
      return []
    | _ => malformed

/-- The items of a block list that is not indented; what follows them belongs to the mapping
    around it. -/
def bareItems : Nat → NodeReader (List Nat)
  | 0 => malformed
  | fuel + 1 => do
    match ← peek with
    | .blockEntry =>
      skip
      let n ← nodeUnless fuel [.blockEntry, .key, .value, .blockEnd] true false
      return n :: (← bareItems fuel)
    | _ => return []

def blockEntries : Nat → NodeReader (List (Nat × Nat))
  | 0 => malformed
  | fuel + 1 => do
    let stops := [Token.key, .value, .blockEnd]
    match ← peek with
    | .key =>
      skip
      let k ← nodeUnless fuel stops true true
      let v ← blockValue fuel
      return (k, v) :: (← blockEntries fuel)
    | .value =>
      let k ← addNothing
      let v ← blockValue fuel
      return (k, v) :: (← blockEntries fuel)
    | .blockEnd =>
      skip
      return []
    | _ => malformed

def blockValue : Nat → NodeReader Nat
  | 0 => malformed
  | fuel + 1 => do
    match ← peek with
    | .value =>
      skip
      nodeUnless fuel [.key, .value, .blockEnd] true true
    | _ => addNothing

/-- The items of a list in brackets. An item may be a mapping with one entry. -/
def flowItems : Nat → Bool → NodeReader (List Nat)
  | 0, _ => malformed
  | fuel + 1, first => do
    if (← peek) = .listEnd then
      skip
      return []
    if !first then expect .flowEntry
    match ← peek with
    | .key =>
      skip
      let k ← nodeUnless fuel [.value, .flowEntry, .listEnd] false false
      let v ← flowValue fuel [.flowEntry, .listEnd]
      let pair ← add {} ⟨.map, .map [(k, v)]⟩
      return pair :: (← flowItems fuel false)
    | .listEnd =>
      skip
      return []
    | _ =>
      let n ← node fuel false false
      return n :: (← flowItems fuel false)

def flowValue : Nat → List Token → NodeReader Nat
  | 0, _ => malformed
  | fuel + 1, stops => do
    match ← peek with
    | .value =>
      skip
      nodeUnless fuel stops false false
    | _ => addNothing

def flowEntries : Nat → Bool → NodeReader (List (Nat × Nat))
  | 0, _ => malformed
  | fuel + 1, first => do
    if (← peek) = .mapEnd then
      skip
      return []
    if !first then expect .flowEntry
    match ← peek with
    | .key =>
      skip
      let k ← nodeUnless fuel [.value, .flowEntry, .mapEnd] false false
      let v ← flowValue fuel [.flowEntry, .mapEnd]
      return (k, v) :: (← flowEntries fuel false)
    | .value =>
      let k ← addNothing
      let v ← flowValue fuel [.flowEntry, .mapEnd]
      return (k, v) :: (← flowEntries fuel false)
    | .mapEnd =>
      skip
      return []
    | _ =>
      let k ← node fuel false false
      let v ← addNothing
      return (k, v) :: (← flowEntries fuel false)

end

/-- Reads the one document of a text: a mark may stand before it and another one after it. -/
def document (fuel : Nat) : NodeReader NodeGraph := do
  if (← peek) = .textEnd then
    let n ← addNothing
    return ⟨(← get).nodes, n⟩
  let marked := (← peek) == .documentStart
  if marked then skip
  let stops := if marked then [Token.documentStart, .documentEnd, .textEnd] else []
  let n ← nodeUnless fuel stops true false
  if (← peek) = .documentEnd then skip
  expect .textEnd
  return ⟨(← get).nodes, n⟩

def NodeGraph.ofTokens (ts : List Token) : Reading NodeGraph :=
  (document (4 * ts.length + 8)).run' { tokens := ts }

end Artifact
end ConfigLint
