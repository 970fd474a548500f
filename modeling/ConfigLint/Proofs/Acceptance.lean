import ConfigLint.Value.Check
/-!
Accepted values. A value is accepted when its check has a verdict and finds no problem. The check
trims the value and looks at it twice: `HasType` is what the type of the option asks, `Takes` what
the pattern of the option asks.

What is proved:
  1. `accepts_iff`: a value is accepted exactly when it is of the type and the pattern takes it.
  2. `passes_eq_true`: the empty pattern and a malformed one take every text, as does no pattern;
     any other takes the texts that its trial takes, if it is not too deep to be read.
-/
namespace ConfigLint

/-- A pattern takes a text: the trial of the whole text succeeds, or the pattern cannot be read and
    asks for nothing. -/
inductive PatternTakes (pattern : CodeText) (t : Text) : Prop where
  | malformed (read : Pattern.ofText pattern = .error .malformed) : PatternTakes pattern t
  | trial {p : TextPattern} (read : Pattern.ofText pattern = .ok p) (taken : p.tryAll t = .taken) :
      PatternTakes pattern t

namespace OptionDecl

/-- The pattern of the option, if there is one, can be read with the stack that is left, and takes
    the trimmed value. -/
def Takes [Interpreter] (o : OptionDecl) (value : Text) : Prop :=
  ∀ pattern, o.constraints.pattern = some pattern → pattern ≠ [] →
    Interpreter.exhausts pattern = false ∧ PatternTakes pattern value.trim

/-- The option has no pattern; the empty one counts as none. -/
def HasNoPattern (o : OptionDecl) : Prop :=
  o.constraints.pattern = none ∨ o.constraints.pattern = some []

end OptionDecl

namespace Schema

/-- The trimmed value is what the type of the option asks for. -/
def HasType [Interpreter] (s : Schema) (o : OptionDecl) (value : Text) : Prop :=
  o.checkType (s.types.get? o.type) value.trim = .ok none

/-- The check of a value ends, and finds no problem. -/
def Accepts [Interpreter] (s : Schema) (o : OptionDecl) (value : Text) : Prop :=
  s.checkOption o value = .ok none

end Schema

theorem ValueKind.ofName?_name (k : ValueKind) : ofName? (CodeText.ofText k.name) = some k := by
  cases k <;> rfl

theorem rejectUnless_eq_none {ok : Bool} {problem : ValueProblem} :
    rejectUnless ok problem = none ↔ ok = true := by
  cases ok <;> simp [rejectUnless]

theorem CheckFault.ofPattern_eq_none {fault : PatternFault} :
    ofPattern fault = none ↔ fault = .malformed := by
  cases fault <;> simp [ofPattern]

section
variable [Interpreter] {s : Schema} {o : OptionDecl} {value t : Text}

theorem passes_eq_true {given : Option CodeText} : passes given t = .ok true ↔
    ∀ pattern, given = some pattern → pattern ≠ [] →
      Interpreter.exhausts pattern = false ∧ PatternTakes pattern t := by
  match given with
  | none => simp [passes]
  | some [] => simp [passes]
  | some (c :: rest) =>
    simp only [passes, Option.some.injEq, forall_eq', ne_eq, reduceCtorEq, not_false_eq_true,
      true_implies]
    cases Interpreter.exhausts (c :: rest) with
    | true => simp
    | false =>
      simp only [Bool.false_eq_true, if_false, true_and]
      constructor
      · intro h
        split at h
        · next p hread =>
          split at h
          · next htaken => exact .trial hread htaken
          · cases h
          · cases h
        · next fault hread =>
          split at h
          · next hnone => exact .malformed (by rw [hread, CheckFault.ofPattern_eq_none.1 hnone])
          · cases h
      · intro h
        cases h with
        | malformed read => simp only [read, CheckFault.ofPattern]
        | trial read taken => simp only [read, taken]

theorem OptionDecl.HasNoPattern.takes (h : o.HasNoPattern) (value : Text) : o.Takes value := by
  intro pattern hgiven hne
  rcases h with h | h
  · rw [h] at hgiven
    cases hgiven
  · rw [h, Option.some.injEq] at hgiven
    exact absurd hgiven.symm hne

namespace Schema

theorem accepts_iff : s.Accepts o value ↔ s.HasType o value ∧ o.Takes value := by
  rw [OptionDecl.Takes, ← passes_eq_true, Accepts, checkOption, OptionDecl.check, HasType]
  split
  · next haccepted =>
    rw [haccepted]
    cases passes o.constraints.pattern value.trim with
    | error fault => simp [Except.map]
    | ok passed => simp [Except.map, rejectUnless_eq_none]
  · next hother =>
    constructor
    · intro h
      exact absurd h hother
    · intro h
      exact absurd h.1 hother

theorem checkOption_of_no_pattern (plain : o.HasNoPattern) :
    s.checkOption o value = o.checkType (s.types.get? o.type) value.trim := by
  have hpasses : passes o.constraints.pattern value.trim = .ok true :=
    passes_eq_true.2 (plain.takes value)
  rw [checkOption, OptionDecl.check]
  split
  · next haccepted =>
    rw [haccepted, hpasses]
    rfl
  · rfl

theorem accepts_of_no_pattern (plain : o.HasNoPattern) : s.Accepts o value ↔ s.HasType o value := by
  rw [accepts_iff, and_iff_left (plain.takes value)]

end Schema
end
end ConfigLint
