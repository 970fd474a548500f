import Mathlib.Tactic.Common
import ConfigLint.Pattern.Parser
import ConfigLint.Proofs.Leads
/-!
What the text of a pattern is to be blamed for. A text that is no pattern disables its check; three
other faults get through. `Blamed` says what each of them takes: a limit of a repetition that is too
large, one that is too long to be read, or two clashing letters among the switches at the front.

What is proved:
  1. `partsIn_succ`: reading the parts of a pattern breaks off with nothing else, by induction on
     the fuel of the readers, one case for each kind of part.
  2. `leads_frontLetters`: the letters that are taken from the front are switches that stand there.
  3. `blamed_of_ofText`: so the text of a pattern that is not read has its fault in it.
-/
namespace ConfigLint

namespace Pattern

/-- A repetition in the text has these digits for a limit. -/
def HasLimit (ts : List Token) (digits : Text) : Prop :=
  ∃ rest least most after, .plain '\x7b' :: rest <:+ ts ∧
    braces? rest = some (least, most, after) ∧ (digits = least ∨ digits = most)

/-- Switches for the whole pattern stand in the text, this letter among them. -/
def Switches (ts : List Token) (c : Char) : Prop :=
  ∃ rest on after, .plain '(' :: .plain '?' :: rest <:+ ts ∧
    globalLetters? rest = some (on, after) ∧ c ∈ on

/-- What the text of a pattern has in it if reading it breaks off with a fault. Only the first one
    is what it takes to be no pattern. -/
inductive Blamed (ts : List Token) : PatternFault → Prop where
  | malformed : Blamed ts .malformed
  | repeatTooLarge {digits : Text} (limit : HasLimit ts digits)
      (short : digits.length ≤ maxDigits) (large : repeatLimit ≤ valueIn 10 digits) :
      Blamed ts .repeatTooLarge
  | repeatDigits {digits : Text} (limit : HasLimit ts digits)
      (long : maxDigits < digits.length) : Blamed ts (.repeatDigits (.read digits.length))
  | clashingModes (ascii : Switches ts 'a') (unicode : Switches ts 'u') :
      Blamed ts .clashingModes

/-- What is left of the text. -/
def Within (ts : List Token) (s : ReadState) : Prop := s.rest <:+ ts

/-- The steps of a reader pass over the text, and break off only with a fault that the text is to
    be blamed for. -/
abbrev ReadsIn {α : Type} (ts : List Token) (m : Reader α) : Prop :=
  Leads (Blamed ts) (Within ts) m fun _ => Within ts

/-! ## Small pieces of text -/

open Reader

section
variable {ts : List Token} {α β : Type}

theorem readsIn_malformed : ReadsIn ts (malformed : Reader α) := Leads.throw .malformed

theorem readsIn_pure (a : α) : ReadsIn ts (pure a : Reader α) := Leads.pure fun _ hs => hs

theorem ReadsIn.bind {m : Reader α} {k : α → Reader β} (h : ReadsIn ts m)
    (hk : ∀ a, ReadsIn ts (k a)) : ReadsIn ts (m >>= k) := Leads.bind h hk

theorem readsIn_get {k : ReadState → Reader β} {K : β → ReadState → Prop}
    (hk : ∀ s, Within ts s → Leads (Blamed ts) (Within ts) (k s) K) :
    Leads (Blamed ts) (Within ts) (get >>= k) K :=
  Leads.get_bind fun s₀ hs₀ => (hk s₀ hs₀).mono (fun _ hs => hs.symm ▸ hs₀) fun _ _ hs => hs

theorem readsIn_modify {g : ReadState → ReadState} (h : ∀ s, (g s).rest = s.rest) :
    ReadsIn ts (modify g) :=
  Leads.modify fun s hs => by
    rw [Within, h]
    exact hs

theorem leads_goTo (I : ReadState → Prop) (rest : List Token) :
    Leads (Blamed ts) I (goTo rest) fun _ s => s.rest = rest := by
  unfold goTo
  split
  · exact Leads.throw .malformed
  · exact Leads.modify fun _ _ => rfl

theorem readsIn_goTo {rest : List Token} (h : rest <:+ ts) : ReadsIn ts (goTo rest) :=
  (leads_goTo _ rest).mono (fun _ hs => hs) fun _ s hs => by rwa [Within, hs]

theorem leads_peek : Leads (Blamed ts) (Within ts) peek
    fun next s => Within ts s ∧ s.rest.head? = next :=
  Leads.get_bind fun _ hs₀ => Leads.pure fun _ hs => hs.symm ▸ ⟨hs₀, rfl⟩

theorem readsIn_peek : ReadsIn ts peek := readsIn_get fun _ _ => readsIn_pure _

theorem leads_take {t : Token} :
    Leads (Blamed ts) (fun s => Within ts s ∧ s.rest.head? = some t) take
      fun _ s => t :: s.rest <:+ ts := by
  refine Leads.get_bind fun s₀ hs₀ => ?_
  obtain ⟨hwithin, hhead⟩ := hs₀
  obtain ⟨rest, hrest⟩ := List.head?_eq_some_iff.1 hhead
  rw [Within, hrest] at hwithin
  simp only [hrest]
  refine Leads.bind (leads_goTo _ rest) fun _ => Leads.pure fun s hs => ?_
  rwa [hs]

theorem readsIn_take : ReadsIn ts take := by
  refine readsIn_get fun s hs => ?_
  split
  · exact readsIn_pure _
  · next t rest hrest =>
    refine ReadsIn.bind (readsIn_goTo ?_) fun _ => readsIn_pure _
    rw [Within, hrest] at hs
    exact (List.suffix_cons t rest).trans hs

theorem readsIn_accept (c : Char) : ReadsIn ts (accept c) := by
  refine readsIn_peek.bind fun next => ?_
  split
  · exact readsIn_take.bind fun _ => readsIn_pure _
  · exact readsIn_pure _

theorem readsIn_expect (c : Char) : ReadsIn ts (expect c) :=
  (readsIn_accept c).bind fun _ => Leads.ite readsIn_malformed (readsIn_pure _)

theorem readsIn_takeUpTo (p : Char → Bool) (n : Nat) : ReadsIn ts (takeUpTo p n) := by
  induction n with
  | zero => exact readsIn_pure _
  | succ n ih =>
    refine readsIn_peek.bind fun next => ?_
    split
    · split
      · exact readsIn_take.bind fun _ => ih.bind fun _ => readsIn_pure _
      · exact readsIn_pure _
    · exact readsIn_pure _

theorem readsIn_takeName (stop : Char) : ReadsIn ts (takeName stop) := by
  refine readsIn_get fun s hs => ?_
  extract_lets rest name
  split
  · next u after c letters hafter _ =>
    refine ReadsIn.bind (readsIn_goTo ?_) fun _ => readsIn_pure _
    have hdrop : u :: after <:+ rest := hafter ▸ List.drop_suffix _ _
    exact (List.suffix_cons u after).trans (hdrop.trans hs)
  · exact readsIn_malformed

theorem readsIn_skipComment (stop : Char) (endAllowed : Bool) :
    ReadsIn ts (skipComment stop endAllowed) := by
  refine readsIn_get fun s hs => ?_
  extract_lets rest
  have hrest : rest <:+ ts := (List.dropWhile_suffix _).trans hs
  clear_value rest
  split
  · exact readsIn_goTo ((List.suffix_cons _ _).trans hrest)
  · split
    · exact readsIn_goTo hrest
    · exact readsIn_malformed

/-! ## Escapes and sets -/

theorem readsIn_hexEscape (n : Nat) : ReadsIn ts (hexEscape n) :=
  (readsIn_takeUpTo _ _).bind fun _ => Leads.ite readsIn_malformed (readsIn_pure _)

theorem readsIn_namedEscape : ReadsIn ts namedEscape := by
  refine (readsIn_expect _).bind fun _ => (readsIn_takeName _).bind fun name => ?_
  split
  · exact readsIn_pure _
  · exact readsIn_malformed

theorem readsIn_octalValue (digits : Text) : ReadsIn ts (octalValue digits) :=
  Leads.ite readsIn_malformed (readsIn_pure _)

theorem readsIn_spelt (c : Char) : ReadsIn ts (spelt c) := by
  unfold spelt
  split
  · exact readsIn_hexEscape 2
  · exact readsIn_hexEscape 4
  · exact readsIn_hexEscape 8
  · exact readsIn_namedEscape
  · exact Leads.ite readsIn_malformed (readsIn_pure _)

theorem readsIn_setEscape (c : Char) : ReadsIn ts (setEscape c) := by
  unfold setEscape
  split
  · exact readsIn_pure _
  · exact readsIn_pure _
  · refine Leads.ite ?_ ((readsIn_spelt c).bind fun _ => readsIn_pure _)
    exact (readsIn_takeUpTo _ _).bind fun _ => (readsIn_octalValue _).bind fun _ => readsIn_pure _

theorem readsIn_checkGroup (n : Nat) : ReadsIn ts (checkGroup n) :=
  readsIn_get fun _ _ => Leads.ite readsIn_malformed (readsIn_pure _)

theorem readsIn_digitEscape (m : Modes) (c : Char) : ReadsIn ts (digitEscape m c) := by
  refine (readsIn_takeUpTo _ _).bind fun second => ?_
  extract_lets n rest
  have hrest : ∀ third, ReadsIn ts (rest third) := by
    intro third
    refine Leads.ite ((readsIn_octalValue _).bind fun _ => readsIn_pure _) ?_
    exact (readsIn_checkGroup _).bind fun _ => readsIn_pure _
  exact Leads.ite ((readsIn_takeUpTo _ _).bind hrest) ((readsIn_pure _).bind hrest)

theorem readsIn_escape (m : Modes) (c : Char) : ReadsIn ts (escape m c) := by
  unfold escape
  split
  · exact readsIn_pure _
  · exact readsIn_pure _
  · exact readsIn_pure _
  · exact readsIn_pure _
  · exact (readsIn_takeUpTo _ _).bind fun _ => readsIn_pure _
  · split
    · exact readsIn_pure _
    · exact readsIn_pure _
    · exact Leads.ite (readsIn_digitEscape m _) ((readsIn_spelt _).bind fun _ => readsIn_pure _)

theorem readsIn_setUnit (t : Token) : ReadsIn ts (setUnit t) := by
  unfold setUnit
  split
  · exact readsIn_pure _
  · exact readsIn_setEscape _
  · exact readsIn_pure _
  · exact readsIn_pure _
  · exact readsIn_malformed

theorem readsIn_setItems (fuel : Nat) (done : List SetItem) : ReadsIn ts (setItems fuel done) := by
  induction fuel generalizing done with
  | zero => exact readsIn_malformed
  | succ fuel ih =>
    refine readsIn_take.bind fun next => ?_
    split
    · exact readsIn_malformed
    · refine Leads.ite (readsIn_pure _) ?_
      refine (readsIn_setUnit _).bind fun item => (readsIn_accept _).bind fun dash => ?_
      refine Leads.ite (ih _) (readsIn_take.bind fun next => ?_)
      split
      · exact readsIn_malformed
      · refine Leads.ite (readsIn_pure _) ((readsIn_setUnit _).bind fun last => ?_)
        split
        · exact Leads.ite readsIn_malformed (ih _)
        · exact readsIn_malformed

/-! ## Repetitions -/

theorem spanDigits_suffix (rest : List Token) : (spanDigits rest).2 <:+ rest := List.drop_suffix _ _

theorem suffix_of_braces {rest after : List Token} {least most : Text}
    (h : braces? rest = some (least, most, after)) : after <:+ rest := by
  have hfirst := spanDigits_suffix rest
  unfold braces? at h
  split at h
  next digits rest' hdigits =>
  rw [hdigits] at hfirst
  split at h
  · split at h
    · cases h
    · cases h
      exact (List.suffix_cons _ _).trans hfirst
  · next rest'' =>
    have hsecond := spanDigits_suffix rest''
    split at h
    next digits' rest₃ hdigits' =>
    rw [hdigits'] at hsecond
    split at h
    · cases h
      exact (List.suffix_cons _ _).trans (hsecond.trans ((List.suffix_cons _ _).trans hfirst))
    · cases h
  · cases h

/-- A limit is refused only if it is too long or too large. -/
theorem readsIn_limit {digits : Text} (h : HasLimit ts digits) : ReadsIn ts (limit? digits) := by
  unfold limit?
  refine Leads.ite (readsIn_pure _) ?_
  extract_lets n last rest
  split
  · next hlong => exact Leads.throw_bind (.repeatDigits h hlong)
  · next hshort =>
    show ReadsIn ts (if repeatLimit ≤ n then throw .repeatTooLarge >>= last else last ())
    split
    · next hlarge => exact Leads.throw_bind (.repeatTooLarge h (Nat.not_lt.1 hshort) hlarge)
    · exact readsIn_pure _

theorem readsIn_limits {c : Char} (hc : c ∈ "?*+\x7b".toList) :
    Leads (Blamed ts) (fun s => .plain c :: s.rest <:+ ts) (limits? c) fun _ => Within ts := by
  have hwithin : ∀ s : ReadState, .plain c :: s.rest <:+ ts → Within ts s :=
    fun s hs => (List.suffix_cons _ _).trans hs
  unfold limits?
  split
  · exact Leads.pure hwithin
  · exact Leads.pure hwithin
  · exact Leads.pure hwithin
  · next hmany hany hsome =>
    have hbrace : c = '\x7b' := by
      simp at hc
      tauto
    subst hbrace
    refine Leads.get_bind fun s₀ hs₀ => ?_
    split
    · exact Leads.pure fun s hs => hs.symm ▸ hwithin s₀ hs₀
    · next least most after hbraces =>
      have hafter : after <:+ ts := (suffix_of_braces hbraces).trans (hwithin s₀ hs₀)
      have hlimit : ∀ digits, digits = least ∨ digits = most → HasLimit ts digits :=
        fun digits h => ⟨_, _, _, _, hs₀, hbraces, h⟩
      refine Leads.bind ((readsIn_goTo hafter).mono ?_ fun _ _ hs => hs) fun _ => ?_
      · rintro s rfl
        exact hwithin s hs₀
      · refine (readsIn_limit (hlimit least (.inl rfl))).bind fun low => ?_
        refine (readsIn_limit (hlimit most (.inr rfl))).bind fun high => ?_
        exact Leads.ite readsIn_malformed (readsIn_pure _)

theorem readsIn_greed : ReadsIn ts greed :=
  (readsIn_accept _).bind fun _ => Leads.ite (readsIn_pure _)
    ((readsIn_accept _).bind fun _ => Leads.ite (readsIn_pure _) (readsIn_pure _))

theorem readsIn_repeatLast (least : Nat) (most : Option Nat) (done : List Part) :
    ReadsIn ts (repeatLast least most done) := by
  cases done with
  | nil => exact readsIn_malformed
  | cons p done =>
    exact Leads.ite readsIn_malformed (readsIn_greed.bind fun _ => readsIn_pure _)

/-! ## Groups -/

theorem suffix_of_letters {rest after : List Token} {letters : Text} {c : Char}
    (h : letters? rest = some (letters, c, after)) : after <:+ rest := by
  unfold letters? at h
  extract_lets found at h
  split at h
  · next c' after' hdrop =>
    cases h
    have hsuffix : .plain c :: after <:+ rest := hdrop ▸ List.drop_suffix _ _
    exact (List.suffix_cons _ _).trans hsuffix
  · cases h

theorem suffix_of_globalLetters {rest after : List Token} {on : Text}
    (h : globalLetters? rest = some (on, after)) : after <:+ rest := by
  unfold globalLetters? at h
  split at h
  · next hletters =>
    split at h
    · cases h
      exact suffix_of_letters hletters
    · cases h
  · cases h

theorem suffix_of_scopedLetters {rest after : List Token} {on off : Text}
    (h : scopedLetters? rest = some (on, off, after)) : after <:+ rest := by
  unfold scopedLetters? at h
  split at h
  · next hon =>
    split at h
    · cases h
      exact suffix_of_letters hon
    · cases h
  · next hon =>
    split at h
    · next hoff =>
      split at h
      · cases h
        exact (suffix_of_letters hoff).trans (suffix_of_letters hon)
      · cases h
    · cases h
  · cases h

theorem readsIn_conditionGroup (name : Text) : ReadsIn ts (conditionGroup name) := by
  refine readsIn_get fun s _ => ?_
  extract_lets rest
  have hrest : ∀ n, ReadsIn ts (rest n) := fun n =>
    Leads.ite ((readsIn_checkGroup n).bind fun _ => readsIn_pure _) (readsIn_pure _)
  split
  · split
    · exact (readsIn_pure _).bind hrest
    · exact Leads.throw_bind .malformed
  · split
    · refine Leads.ite (Leads.throw_bind .malformed) ?_
      exact ReadsIn.bind (readsIn_modify fun _ => rfl) fun _ => (readsIn_pure _).bind hrest
    · exact Leads.throw_bind .malformed

theorem readsIn_openGroup (name : Option Text) : ReadsIn ts (openGroup name) := by
  refine readsIn_get fun s _ => ?_
  extract_lets rest
  have hrest : ∀ r, ReadsIn ts (rest r) := fun _ =>
    ReadsIn.bind (readsIn_modify fun _ => rfl) fun _ => readsIn_pure _
  split
  · exact hrest ()
  · refine Leads.ite (Leads.throw_bind .malformed) ?_
    exact ReadsIn.bind (readsIn_modify fun _ => rfl) hrest

theorem readsIn_closeGroup (n : Nat) (parts : List Pattern) : ReadsIn ts (closeGroup n parts) :=
  ReadsIn.bind (readsIn_modify fun _ => rfl) fun _ => readsIn_pure _

theorem readsIn_closeBehind (negated : Bool) (parts : List Pattern) :
    ReadsIn ts (closeBehind negated parts) :=
  readsIn_get fun _ _ => Leads.ite
    (ReadsIn.bind (readsIn_modify fun _ => rfl) fun _ => readsIn_pure _) (readsIn_pure _)

/-- The reader that closes the group, if one is opened, passes over the text as well. -/
def Closes (ts : List Token) : Opening → Prop
  | .body _ close => ∀ parts, ReadsIn ts (close parts)
  | _ => True

/-- The steps of a reader of what opens behind a parenthesis. -/
abbrev OpensIn (ts : List Token) (m : Reader Opening) : Prop :=
  Leads (Blamed ts) (Within ts) m fun o s => Within ts s ∧ Closes ts o

theorem opensIn_malformed : OpensIn ts malformed := Leads.throw .malformed

theorem opensIn_pure {o : Opening} (h : Closes ts o) : OpensIn ts (pure o) :=
  Leads.pure fun _ hs => ⟨hs, h⟩

theorem opensIn_namedOpening (m : Modes) : OpensIn ts (namedOpening m) := by
  refine Leads.bind (readsIn_accept _) fun _ => Leads.ite ?_ ?_
  · refine Leads.bind (readsIn_takeName _) fun name => ?_
    refine Leads.ite (Leads.throw_bind .malformed) ?_
    exact Leads.bind (readsIn_openGroup _) fun n => opensIn_pure (readsIn_closeGroup n)
  · refine Leads.bind (readsIn_accept _) fun _ => Leads.ite ?_ opensIn_malformed
    refine Leads.bind (readsIn_takeName _) fun name => ?_
    refine readsIn_get fun s hs => ?_
    split
    · exact opensIn_malformed
    · exact Leads.bind (readsIn_checkGroup _) fun _ => opensIn_pure trivial

theorem opensIn_opening (m : Modes) : OpensIn ts (opening m) := by
  have hwhole : ∀ part : List Pattern → Part, OpensIn ts
      (pure (.body m fun parts => pure (part parts))) :=
    fun part => opensIn_pure fun parts => readsIn_pure (part parts)
  refine readsIn_get fun s hs => ?_
  refine Leads.bind readsIn_take fun next => ?_
  split
  · exact opensIn_namedOpening m
  · exact hwhole _
  · exact Leads.bind (readsIn_skipComment _ _) fun _ => opensIn_pure trivial
  · exact hwhole _
  · exact hwhole _
  · refine Leads.bind (readsIn_accept _) fun _ => Leads.ite (opensIn_pure trivial) ?_
    refine Leads.bind (readsIn_accept _) fun _ => Leads.ite (opensIn_pure trivial) ?_
    exact opensIn_malformed
  · refine Leads.bind (readsIn_takeName _) fun name => ?_
    exact Leads.bind (readsIn_conditionGroup name) fun _ => opensIn_pure trivial
  · exact hwhole _
  · split
    · exact opensIn_malformed
    · next hletters =>
      refine Leads.bind (readsIn_goTo ((suffix_of_scopedLetters hletters).trans hs)) fun _ => ?_
      exact opensIn_pure fun _ => readsIn_pure _

/-! ## Whole patterns -/

/-- What holds of the readers of parts with some fuel. -/
structure PartsIn (ts : List Token) (fuel : Nat) : Prop where
  alternatives : ∀ m done, ReadsIn ts (alternatives fuel m done)
  sequence : ∀ m done, ReadsIn ts (sequence fuel m done)
  parenthesis : ∀ m, ReadsIn ts (parenthesis fuel m)

theorem partsIn_succ {fuel : Nat} (ih : PartsIn ts fuel) : PartsIn ts (fuel + 1) where
  alternatives := by
    intro m done
    unfold Pattern.alternatives
    refine (ih.sequence _ _).bind fun next => (readsIn_accept _).bind fun _ => ?_
    exact Leads.ite (ih.alternatives _ _) (readsIn_pure _)
  sequence := by
    intro m done
    unfold Pattern.sequence
    refine Leads.bind leads_peek fun next => ?_
    split
    · exact Leads.pure fun _ hs => hs.1
    · exact Leads.pure fun _ hs => hs.1
    · exact Leads.pure fun _ hs => hs.1
    · next t _ _ =>
      refine Leads.bind leads_take fun _ => ?_
      have hwithin : ∀ s : ReadState, t :: s.rest <:+ ts → Within ts s :=
        fun s hs => (List.suffix_cons _ _).trans hs
      -- only the limits of a repetition look back at the unit that was taken
      have hgoOn : ∀ {m : Reader (List Pattern)}, ReadsIn ts m →
          Leads (Blamed ts) (fun s => t :: s.rest <:+ ts) m fun _ => Within ts :=
        fun h => h.mono hwithin fun _ _ hs => hs
      refine Leads.ite (hgoOn (ih.sequence _ _)) (Leads.ite (hgoOn ?_) ?_)
      · exact (readsIn_skipComment _ _).bind fun _ => ih.sequence _ _
      · split
        · exact hgoOn readsIn_malformed
        · exact hgoOn (ih.sequence _ _)
        · exact hgoOn (ih.sequence _ _)
        · exact hgoOn ((readsIn_escape _ _).bind fun _ => ih.sequence _ _)
        · refine hgoOn ((readsIn_accept _).bind fun _ => readsIn_get fun s _ => ?_)
          exact (readsIn_setItems _ _).bind fun _ => ih.sequence _ _
        · exact hgoOn (ih.sequence _ _)
        · exact hgoOn (ih.sequence _ _)
        · exact hgoOn (ih.sequence _ _)
        · exact hgoOn ((ih.parenthesis _).bind fun _ => ih.sequence _ _)
        · next c _ _ _ _ _ =>
          split
          · next hrepeats =>
            refine Leads.bind (readsIn_limits (List.contains_iff_mem.1 hrepeats)) fun limits => ?_
            split
            · exact (readsIn_repeatLast _ _ _).bind fun _ => ih.sequence _ _
            · exact ih.sequence _ _
          · exact hgoOn (ih.sequence _ _)
  parenthesis := by
    intro m
    unfold Pattern.parenthesis
    refine (readsIn_accept _).bind fun _ => Leads.ite ?_ ?_
    · refine (readsIn_openGroup _).bind fun n => (ih.alternatives _ _).bind fun parts => ?_
      exact (readsIn_expect _).bind fun _ => (readsIn_closeGroup n parts).bind fun _ =>
        readsIn_pure _
    refine Leads.bind (opensIn_opening m) fun o => Leads.of_and fun hcloses => ?_
    split
    · exact readsIn_pure _
    · exact readsIn_pure _
    · refine (ih.alternatives _ _).bind fun parts => (readsIn_expect _).bind fun _ => ?_
      exact ReadsIn.bind (hcloses parts) fun _ => readsIn_pure _
    · refine readsIn_get fun s _ => ?_
      refine ReadsIn.bind (readsIn_modify fun _ => rfl) fun _ => ?_
      refine (ih.alternatives _ _).bind fun parts => ?_
      refine ReadsIn.bind (readsIn_modify fun _ => rfl) fun _ => ?_
      exact (readsIn_expect _).bind fun _ => (readsIn_closeBehind _ parts).bind fun _ =>
        readsIn_pure _
    · refine (ih.sequence _ _).bind fun yes => (readsIn_accept _).bind fun _ => ?_
      extract_lets rest
      have hrest : ∀ no, ReadsIn ts (rest no) := fun _ =>
        (readsIn_expect _).bind fun _ => readsIn_pure _
      refine Leads.ite ?_ ((readsIn_pure _).bind hrest)
      refine (ih.sequence _ _).bind fun no => readsIn_peek.bind fun _ => ?_
      exact Leads.ite (Leads.throw_bind .malformed) ((readsIn_pure _).bind hrest)

theorem partsIn (ts : List Token) (fuel : Nat) : PartsIn ts fuel := by
  induction fuel with
  | zero => exact ⟨fun _ _ => readsIn_malformed, fun _ _ => readsIn_malformed,
      fun _ => readsIn_malformed⟩
  | succ fuel ih => exact partsIn_succ ih

/-- The letters that are taken from the front of the text are switches that stand in it. -/
theorem leads_frontLetters (fuel : Nat) (m : Modes) :
    Leads (Blamed ts) (Within ts) (frontLetters fuel m)
      fun letters s => Within ts s ∧ ∀ c ∈ letters, Switches ts c := by
  have hnone : Leads (Blamed ts) (Within ts) (pure [])
      fun (letters : Text) s => Within ts s ∧ ∀ c ∈ letters, Switches ts c :=
    Leads.pure fun _ hs => ⟨hs, by simp⟩
  induction fuel generalizing m with
  | zero => exact hnone
  | succ fuel ih =>
    unfold frontLetters
    refine readsIn_get fun s hs => ?_
    split
    · next rest hrest =>
      rw [Within, hrest] at hs
      have hcomment : rest <:+ ts := ((List.suffix_append [_, _, _] rest).trans hs)
      refine Leads.bind (readsIn_goTo hcomment) fun _ => ?_
      exact Leads.bind (readsIn_skipComment _ _) fun _ => ih m
    · next rest _ hrest =>
      rw [Within, hrest] at hs
      split
      · next on after hon =>
        have hafter : after <:+ rest := suffix_of_globalLetters hon
        have hrest : rest <:+ ts := (List.suffix_append [_, _] rest).trans hs
        refine Leads.bind (readsIn_goTo (hafter.trans hrest)) fun _ => ?_
        refine Leads.bind (ih _) fun letters => Leads.pure fun s' hs' => ⟨hs'.1, ?_⟩
        intro c hc
        rcases List.mem_append.1 hc with hc | hc
        · exact ⟨rest, on, after, hs, hon, hc⟩
        · exact hs'.2 c hc
      · exact hnone
    · next t rest _ _ hrest =>
      rw [Within, hrest] at hs
      refine Leads.ite ?_ (Leads.ite ?_ hnone)
      · exact Leads.bind (readsIn_goTo ((List.suffix_cons t rest).trans hs)) fun _ => ih m
      · exact Leads.bind (readsIn_skipComment _ _) fun _ => ih m
    · exact hnone

theorem leads_readAll : Leads (Blamed ts) (Within ts) readAll fun _ => Within ts := by
  refine readsIn_get fun s hs => readsIn_get fun s' hs' => ?_
  refine Leads.bind (readsIn_goTo hs') fun _ => ?_
  refine Leads.bind (leads_frontLetters _ _) fun letters => Leads.of_and fun hletters => ?_
  refine Leads.bind ((partsIn ts _).alternatives _ _) fun parts => ?_
  extract_lets p rest
  split
  · next hboth =>
    rw [Bool.and_eq_true, List.contains_iff_mem, List.contains_iff_mem] at hboth
    exact Leads.throw_bind (.clashingModes (hletters 'a' hboth.1) (hletters 'u' hboth.2))
  · exact readsIn_get fun s _ => Leads.ite (Leads.throw_bind .malformed) (readsIn_pure _)

end

/-- What breaks off the reading of a pattern is to be found in its text. -/
theorem blamed_of_ofText {t : CodeText} {fault : PatternFault} (h : ofText t = .error fault) :
    Blamed (Token.ofText t) fault := by
  have hread := leads_readAll { rest := Token.ofText t } (List.suffix_refl (Token.ofText t))
  unfold ofText StateT.run' at h
  cases hout : readAll { rest := Token.ofText t } with
  | ok p =>
    rw [hout] at h
    cases h
  | error e =>
    rw [hout] at h hread
    rw [← Except.error.inj h]
    exact hread

end Pattern
end ConfigLint
