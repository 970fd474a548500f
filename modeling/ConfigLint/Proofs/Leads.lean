/-!
What a computation with a state leads to that may break off. `Leads` states it with what is known
before and what is known after, `Leads.bind` and the lemmas around it go through the steps that
computations are made of.
-/
namespace ConfigLint

/-- Started where `I` holds, the steps end with a result and a state of which `J` holds, or break
    off with a fault of which `P` holds. -/
def Leads {σ ε α : Type} (P : ε → Prop) (I : σ → Prop) (m : StateT σ (Except ε) α)
    (J : α → σ → Prop) : Prop :=
  ∀ s, I s → match m s with
    | .ok (a, s') => J a s'
    | .error e => P e

namespace Leads
variable {σ ε α β : Type} {P : ε → Prop} {I I' : σ → Prop} {J : α → σ → Prop}
  {K : β → σ → Prop}

theorem pure {a : α} (h : ∀ s, I s → J a s) : Leads P I (Pure.pure a) J := h

theorem throw {e : ε} (h : P e) : Leads P I (MonadExcept.throw e) J := fun _ _ => h

theorem throw_bind {e : ε} {k : α → StateT σ (Except ε) β} (h : P e) :
    Leads P I ((MonadExcept.throw e : StateT σ (Except ε) α) >>= k) K := fun _ _ => h

theorem bind {m : StateT σ (Except ε) α} {k : α → StateT σ (Except ε) β} (h : Leads P I m J)
    (hk : ∀ a, Leads P (J a) (k a) K) : Leads P I (m >>= k) K := by
  intro s hs
  have hrun : (m >>= k) s = m s >>= fun p => k p.1 p.2 := rfl
  have hm := h s hs
  rw [hrun]
  cases hout : m s with
  | error e =>
    rw [hout] at hm
    exact hm
  | ok p =>
    rw [hout] at hm
    exact hk p.1 p.2 hm

/-- What follows a look at the state may count on what holds of it. -/
theorem get_bind {k : σ → StateT σ (Except ε) β}
    (hk : ∀ s₀, I s₀ → Leads P (fun s => s = s₀) (k s₀) K) : Leads P I (get >>= k) K :=
  fun s hs => hk s hs s rfl

theorem ite {c : Prop} [Decidable c] {m m' : StateT σ (Except ε) α} (h : Leads P I m J)
    (h' : Leads P I m' J) : Leads P I (if c then m else m') J := by
  split
  · exact h
  · exact h'

theorem modify {g : σ → σ} {K : Unit → σ → Prop} (h : ∀ s, I s → K () (g s)) :
    Leads P I (modify g) K := h

theorem mono {m : StateT σ (Except ε) α} {J' : α → σ → Prop} (h : Leads P I m J)
    (hI : ∀ s, I' s → I s) (hJ : ∀ a s, J a s → J' a s) : Leads P I' m J' := by
  intro s hs
  have hm := h s (hI s hs)
  cases hout : m s with
  | error e =>
    rw [hout] at hm
    exact hm
  | ok p =>
    rw [hout] at hm
    exact hJ p.1 p.2 hm

theorem of_and {p : Prop} {m : StateT σ (Except ε) α} (h : p → Leads P I m J) :
    Leads P (fun s => I s ∧ p) m J := fun s hs => h hs.2 s hs.1

end Leads

end ConfigLint
