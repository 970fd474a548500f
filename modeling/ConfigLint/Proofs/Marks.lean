import Mathlib.Tactic.Common
import ConfigLint.Pattern.Match
/-!
The group marks of a trial. Only a group sets marks, so a trial of a pattern without groups ends
with none, whether it takes the text or not, and no group of it comes to end before its start.

What is proved: `unmarked_run`, by induction on the pattern, over one lemma for each kind of
repetition; and `hasGroup_of_reversedGroup` from it.
-/
namespace ConfigLint
namespace Pattern

/-- Whether the pattern has a group with a number. -/
def hasGroup : Pattern → Bool
  | group .. => true
  | seq a b | either a b | ifGroup _ a b => a.hasGroup || b.hasGroup
  | scope a | atomic a | look _ _ a | loop _ _ _ a => a.hasGroup
  | _ => false

/-- No mark is set in the memory. -/
def Memory.Blank (m : Memory) : Prop := m.marks = []

/-- What follows sets no marks. -/
def Unmarking (next : Next) : Prop := ∀ place m, m.Blank → (next place m).memory.Blank

section
variable {m : Memory} {o : Outcome} {next : Next}

theorem Memory.Blank.pointAt (h : m.Blank) (place : Nat) : (m.pointAt place).Blank := h

theorem Memory.Blank.restore (h : m.Blank) (back : Bool) (after : Memory) :
    (m.restore back after).Blank := by
  unfold Blank at h
  cases back <;> simp [Blank, Memory.restore, h]

theorem blank_orElse {other : Memory → Outcome} (h : o.memory.Blank)
    (hother : ∀ m, m.Blank → (other m).memory.Blank) : (o.orElse other).memory.Blank := by
  unfold Outcome.orElse
  split
  · exact h
  · exact hother o.memory h

theorem blank_orBack (h : o.memory.Blank) (place : Nat) : (o.orBack place).memory.Blank :=
  blank_orElse h fun _ hm => hm.pointAt place

theorem blank_onward (hnext : Unmarking next) (h : o.memory.Blank) :
    (if o.taken then next o.memory.pointer o.memory else o).memory.Blank := by
  split
  · exact hnext _ _ h
  · exact h

theorem unmarking_finish : Unmarking finish := fun place _ hm => hm.pointAt place

/-! ## Repetitions -/

section
variable {body : Nat → Memory → Next → Outcome}

/-- A body that is run with something behind it sets no marks of its own. -/
def UnmarkingBody (body : Nat → Memory → Next → Outcome) : Prop :=
  ∀ next, Unmarking next → ∀ place m, m.Blank → (body place m next).memory.Blank

theorem unmarked_runGreedy (hbody : UnmarkingBody body) (hnext : Unmarking next) (least : Nat)
    (most : Option Nat) (fuel count : Nat) (last : Option Nat) :
    Unmarking (runGreedy body least most next fuel count last) := by
  induction fuel generalizing count last with
  | zero => exact fun _ _ hm => hm
  | succ fuel ih =>
    intro place m hm
    have hhere : (m.pointAt place).Blank := hm.pointAt place
    unfold runGreedy
    extract_lets here
    split
    · exact blank_orBack (hbody _ (ih _ _) place here hhere) place
    · split
      · refine blank_orElse (hbody _ (ih _ _) place here hhere) fun after _ => ?_
        exact blank_orBack (hnext _ _ ((hhere.restore _ _).pointAt _)) place
      · exact blank_orBack (hnext _ _ hhere) place

theorem unmarked_runLazy (hbody : UnmarkingBody body) (hnext : Unmarking next) (inLoop : Bool)
    (least : Nat) (most : Option Nat) (fuel count : Nat) (last : Option Nat) :
    Unmarking (runLazy body inLoop least most next fuel count last) := by
  induction fuel generalizing count last with
  | zero => exact fun _ _ hm => hm
  | succ fuel ih =>
    intro place m hm
    have hhere : (m.pointAt place).Blank := hm.pointAt place
    unfold runLazy
    extract_lets here
    split
    · exact blank_orBack (hbody _ (ih _ _) place here hhere) place
    · refine blank_orElse (hnext _ _ hhere) fun after _ => ?_
      have hagain := (hhere.restore inLoop after).pointAt place
      extract_lets again
      split
      · exact blank_orBack (hbody _ (ih _ _) place again hagain) place
      · exact hagain

theorem blank_runPossessive {round : Nat → Memory → Outcome}
    (hround : ∀ place m, m.Blank → (round place m).memory.Blank) (least : Nat)
    (most : Option Nat) (start fuel count : Nat) (last : Option Nat) (hm : m.Blank) :
    (runPossessive round least most start fuel count last m).memory.Blank := by
  induction fuel generalizing count last m with
  | zero => exact hm
  | succ fuel ih =>
    have hdone := hround m.pointer m hm
    unfold runPossessive
    split
    · extract_lets done
      split
      · exact ih _ _ hdone
      · exact hdone.pointAt start
    · split
      · extract_lets done
        split
        · exact ih _ _ hdone
        · exact hm.restore _ _
      · exact hm

end

/-! ## Repetitions of one character -/

section
variable {t : Array Char} {l : Letter} {start : Memory}

theorem blank_retreat (hnext : Unmarking next) (hstart : start.Blank) (inLoop : Bool)
    (skip : Nat → Bool) (least place count : Nat) (hm : m.Blank) :
    (retreat inLoop skip next start least place count m).memory.Blank := by
  induction count generalizing m with
  | zero =>
    unfold retreat
    split
    · exact hm
    · exact blank_orElse (hnext _ _ (hm.pointAt _)) fun _ _ => hstart.restore _ _
  | succ count ih =>
    unfold retreat
    extract_lets here
    split
    · exact hm
    · split
      · exact ih hm
      · exact blank_orElse (hnext _ _ (hm.pointAt _)) fun _ _ => ih (hstart.restore _ _)

theorem blank_advance (hnext : Unmarking next) (hstart : start.Blank) (inLoop : Bool)
    (left here : Nat) (hm : m.Blank) :
    (advance t inLoop l next start left here m).memory.Blank := by
  induction left generalizing here m with
  | zero =>
    unfold advance
    refine blank_orElse (hnext _ _ (hm.pointAt _)) fun after _ => ?_
    have hagain := (hstart.restore inLoop after).pointAt here
    split
    · split
      · exact hagain.pointAt _
      · exact hagain
    · exact hagain
  | succ left ih =>
    unfold advance
    refine blank_orElse (hnext _ _ (hm.pointAt _)) fun after _ => ?_
    have hagain := (hstart.restore inLoop after).pointAt here
    split
    · refine ih _ ?_
      split
      · exact hagain.pointAt _
      · exact hagain
    · exact hagain

theorem unmarked_runLetters (hnext : Unmarking next) (inLoop : Bool) (follow : Option Letter)
    (greed : Greed) (least : Nat) (most : Option Nat) (place : Nat) (hm : m.Blank) :
    (runLetters t l inLoop follow greed least most place m next).memory.Blank := by
  unfold runLetters
  extract_lets available bound count start
  have hstart : start.Blank := hm.pointAt _
  split
  · exact hm
  · split
    · exact hstart
    · split
      · exact blank_retreat hnext hstart _ _ _ _ _ hstart
      · exact blank_advance hnext hstart _ _ _ hstart
      · exact hnext _ _ hstart

end

/-! ## Whole patterns -/

/-- Without groups a pattern sets no marks. -/
theorem unmarked_run (t : Array Char) (p : Pattern) (hp : p.hasGroup = false) (inLoop : Bool)
    (follow : Option Letter) : UnmarkingBody (run t p inLoop follow) := by
  induction p generalizing inLoop follow with
  | nothing => exact fun next hnext place m hm => hnext place m hm
  | never => exact fun next hnext place m hm => hm
  | letter l =>
    intro next hnext place m hm
    show (if takesAt t l place then next (place + 1) m else failed m).memory.Blank
    split
    · exact hnext _ _ hm
    · exact hm
  | anchor a =>
    intro next hnext place m hm
    show (if anchorHolds t place a then next place m else failed m).memory.Blank
    split
    · exact hnext _ _ hm
    · exact hm
  | seq a b iha ihb =>
    intro next hnext place m hm
    rw [hasGroup, Bool.or_eq_false_iff] at hp
    exact iha hp.1 _ _ _ (fun place m hm => ihb hp.2 _ _ next hnext place m hm) place m hm
  | either a b iha ihb =>
    intro next hnext place m hm
    rw [hasGroup, Bool.or_eq_false_iff] at hp
    unfold run
    split
    · exact ihb hp.2 _ _ next hnext place m hm
    · refine blank_orElse (iha hp.1 _ _ next hnext place _ (hm.pointAt place)) fun after _ => ?_
      exact ihb hp.2 _ _ next hnext place _ (hm.restore _ _)
  | scope a ih => exact ih hp inLoop follow
  | group n a => cases hp
  | again modes n =>
    intro next hnext place m hm
    unfold run
    split
    · exact hnext _ _ hm
    · exact hm
  | loop greed least most a ih =>
    intro next hnext place m hm
    unfold run
    split
    · exact unmarked_runLetters hnext _ _ _ _ _ _ hm
    · extract_lets fuel
      split
      · exact unmarked_runGreedy (ih hp _ _) hnext _ _ _ _ _ place m hm
      · exact unmarked_runLazy (ih hp _ _) hnext _ _ _ _ _ _ place m hm
      · refine blank_onward hnext ?_
        exact blank_runPossessive (fun place m hm => ih hp _ _ _ unmarking_finish place m hm) _ _ _
          _ _ _ (hm.pointAt place)
  | atomic a ih =>
    intro next hnext place m hm
    unfold run
    extract_lets inner
    have hinner : inner.memory.Blank := ih hp _ _ _ unmarking_finish place _ (hm.pointAt place)
    split
    · exact hnext _ _ hinner
    · exact hinner.pointAt place
  | look negated back a ih =>
    intro next hnext place m hm
    unfold run
    extract_lets inner
    have hinner : inner.memory.Blank :=
      ih hp _ _ _ unmarking_finish (place - back) _ (hm.pointAt (place - back))
    split
    · split
      · exact hnext _ _ hm
      · exact hm
    · split
      · split
        · exact hnext _ _ hinner
        · exact hinner
      · split
        · exact hinner
        · exact hnext _ _ (hm.restore _ _)
  | ifGroup n yes no ihyes ihno =>
    intro next hnext place m hm
    rw [hasGroup, Bool.or_eq_false_iff] at hp
    unfold run
    split
    · exact ihyes hp.1 _ _ next hnext place m hm
    · exact ihno hp.2 _ _ next hnext place m hm

theorem Memory.Blank.not_reversed (h : m.Blank) : m.hasReversed = false := by
  unfold Blank at h
  simp [hasReversed, h]

end

end Pattern

/-- Only a pattern with a group can come to an end before its start. -/
theorem TextPattern.hasGroup_of_reversedGroup {p : TextPattern} {t : Text}
    (h : p.tryAll t = .reversedGroup) : p.body.hasGroup = true := by
  by_contra hno
  rw [Bool.not_eq_true] at hno
  unfold tryAll at h
  extract_lets chars outcome at h
  have hblank : outcome.memory.Blank := by
    refine Pattern.unmarked_run chars p.body hno false none _ ?_ 0 _ rfl
    intro place m hm
    dsimp only
    split
    · exact hm.pointAt place
    · exact hm
  split at h
  · cases h
  · split at h
    · cases h
    · rw [hblank.not_reversed] at h
      cases h

end ConfigLint
