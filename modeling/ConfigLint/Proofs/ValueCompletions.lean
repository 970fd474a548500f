import ConfigLint.Assist
import ConfigLint.Proofs.Quoting
import ConfigLint.Value.Result
/-!
Completing values. For an option that is limited to listed values, an editor suggests what a check
accepts. The two find the list on their own: the check goes by the kind of the type, the editor by
what is declared. The editor adds the default value to its list, so the two agree where the default
is on the list already.

What is proved:
  1. `suggestedValues_of_isChoice` and `checkType_of_isChoice`: the editor suggests the values of
     the list, and the check asks for one of them.
  2. `completeValues_of_defaultsAmong`: a default that is absent, empty or on the list adds nothing.
  3. `valid_iff_mem_completeValues`: so a value is valid just if what it holds, trimmed and without
     its quotes, can be completed to.
-/
namespace ConfigLint
open Text

/-- The default of an option is absent or empty, or its text is one of these values. -/
inductive OptionDecl.DefaultsAmong (o : OptionDecl) (values : List CodeText) : Prop where
  | absent (default : o.default = .null)
  | empty (default : o.default = .str [])
  | listed {t : CodeText} (text : o.defaultText = .ok (some t)) (mem : t ∈ values)

namespace Schema

/-- The values that an option lists, or else those that its type lists. -/
def choices (s : Schema) (o : OptionDecl) : List CodeText :=
  o.allowedValues (s.types.get? o.type)

/-- The option is limited to listed values: it is an enumeration, or the schema declares its type
    with values. There are values, its own or else those of the type. -/
structure IsChoice (s : Schema) (o : OptionDecl) : Prop where
  kind : o.type = ValueKind.enum.name ∨
    (ValueKind.ofName? o.type = none ∧ ∃ d, s.types.get? o.type = some d ∧ d.values ≠ [])
  listed : s.choices o ≠ []

section
variable {s : Schema} {o : OptionDecl} {key t value : Text}

/-! ## What is suggested -/

theorem IsChoice.not_boolean (h : s.IsChoice o) :
    o.type ≠ CodeText.ofText ValueKind.boolean.name := by
  intro hboolean
  have hkind := h.kind
  rw [hboolean] at hkind
  rcases hkind with henum | hdeclared
  · exact absurd henum (by decide)
  · rw [ValueKind.ofName?_name] at hdeclared
    cases hdeclared.1

theorem suggestedValues_of_isChoice (h : s.IsChoice o) : s.suggestedValues o = s.choices o := by
  have hlisted := h.listed
  rw [choices, OptionDecl.allowedValues] at hlisted ⊢
  rw [suggestedValues, if_neg h.not_boolean]
  by_cases hown : o.values ≠ []
  · rw [if_pos hown, if_pos hown]
  · rw [if_neg hown] at hlisted ⊢
    rw [if_neg hown]
    -- the values of the type are left, so the type is declared and has some
    cases htype : s.types.get? o.type with
    | none =>
      rw [htype] at hlisted
      exact absurd rfl hlisted
    | some d =>
      rw [htype] at hlisted
      exact if_pos hlisted

/-- A default that is among the suggested values, or that is no value, adds none to them. -/
theorem completeValues_of_defaultsAmong (known : s.lookup key = some o)
    (h : o.DefaultsAmong (s.suggestedValues o)) :
    s.completeValues key = .ok (s.suggestedValues o) := by
  have hnone : o.defaultText = .ok none →
      s.completeValues key = .ok (s.suggestedValues o) := by
    intro htext
    simp [completeValues, known, htext, Except.map]
  cases h with
  | absent default => exact hnone (by rw [OptionDecl.defaultText, default])
  | empty default => exact hnone (by rw [OptionDecl.defaultText, default])
  | listed text mem => simp [completeValues, known, text, Except.map, mem]

/-! ## What is accepted -/

theorem checkListed_eq_none {allowed : List CodeText} (hne : allowed ≠ []) :
    checkListed allowed t = none ↔ ∃ u, IsContent t u ∧ CodeText.ofText u ∈ allowed := by
  have hempty : allowed.isEmpty = false := by simpa using hne
  simp only [checkListed, rejectUnless_eq_none, hempty, Bool.false_or, Option.any_eq_true,
    List.contains_iff_mem, unquote_eq_some]

/-- The check of such an option asks for one of the listed values, whatever its kind. -/
theorem checkType_of_isChoice [Interpreter] (h : s.IsChoice o) (t : Text) :
    o.checkType (s.types.get? o.type) t = .ok (checkListed (s.choices o) t) := by
  rcases h.kind with henum | hdeclared
  · simp only [OptionDecl.checkType, henum, ValueKind.ofName?_name, choices]
  · obtain ⟨hkind, d, htype, hvalues⟩ := hdeclared
    simp only [OptionDecl.checkType, hkind, OptionDecl.checkDeclared, htype, if_pos hvalues, choices]

theorem validateValue_of_verdict [Interpreter] {problem : Option ValueProblem}
    (known : s.lookup key = some o) (hverdict : s.checkOption o value = .ok problem) :
    ∃ result, s.validateValue key value = .ok result ∧ (result.valid = true ↔ problem = none) := by
  cases problem with
  | none =>
    refine ⟨.accepted, ?_, by simp [ValueResult.accepted]⟩
    simp only [validateValue, known, hverdict]
  | some problem =>
    refine ⟨.rejected (problem.message value.trim) o.problemSeverity, ?_, ?_⟩
    · simp only [validateValue, known, hverdict]
    · simp [ValueResult.rejected]

/-- An option that is limited to listed values, has no pattern, and has no default beside these
    values, takes what can be completed to and nothing else: checking a value has an outcome, and
    the value is valid just if what it holds is one of the completions. It holds what is between its
    quotes, or all of it if no quote is at either end, and nothing if a quote is at one end only. -/
theorem valid_iff_mem_completeValues [Interpreter] (s : Schema) (key value : Text) (o : OptionDecl)
    (known : s.lookup key = some o) (choice : s.IsChoice o) (plain : o.HasNoPattern)
    (default : o.DefaultsAmong (s.choices o)) :
    ∃ values result, s.completeValues key = .ok values ∧ s.validateValue key value = .ok result ∧
      (result.valid = true ↔ ∃ u, IsContent value.trim u ∧ CodeText.ofText u ∈ values) := by
  have hsuggested : s.suggestedValues o = s.choices o := suggestedValues_of_isChoice choice
  have hcompletions : s.completeValues key = .ok (s.choices o) := by
    rw [← hsuggested] at default ⊢
    exact completeValues_of_defaultsAmong known default
  have hverdict : s.checkOption o value = .ok (checkListed (s.choices o) value.trim) := by
    rw [checkOption_of_no_pattern plain, checkType_of_isChoice choice]
  obtain ⟨result, houtcome, hvalid⟩ := validateValue_of_verdict known hverdict
  refine ⟨s.choices o, result, hcompletions, houtcome, ?_⟩
  rw [hvalid, checkListed_eq_none choice.listed]

end

/-- An option of a type that the schema declares, with a default. -/
def tint : OptionDecl := { type := "shade".toList, default := .str ("dark".toList : Text) }

/-- A schema that lists the values of the type. -/
def shades : Schema :=
  { options := .ofList [("tint".toList, tint)]
    types := .ofList [("shade".toList, { values := ["light grey".toList, "dark".toList] })] }

/-- A listed value with a space in it, in quotes and between white space. -/
theorem valid_iff_mem_completeValues_shade :
    let value : Text := " \"light grey\"\t".toList
    shades.lookup "tint".toList = some tint ∧ shades.IsChoice tint ∧ tint.HasNoPattern ∧
      tint.DefaultsAmong (shades.choices tint) ∧
      shades.completeValues "tint".toList = .ok ["light grey".toList, "dark".toList] ∧
      ∃ result, shades.validateValue "tint".toList value = .ok result ∧ result.valid = true := by
  intro value
  have hknown : shades.lookup "tint".toList = some tint := rfl
  have hchoice : shades.IsChoice tint := by
    refine ⟨.inr ⟨by decide, _, rfl, ?_⟩, ?_⟩
    · exact List.cons_ne_nil _ _
    · exact List.cons_ne_nil _ _
  have hplain : tint.HasNoPattern := .inl rfl
  have hdefault : tint.DefaultsAmong (shades.choices tint) := .listed rfl (by decide)
  have hvalues : shades.completeValues "tint".toList =
      .ok ["light grey".toList, "dark".toList] := by decide +kernel
  obtain ⟨values, result, hcompletions, houtcome, hvalid⟩ :=
    valid_iff_mem_completeValues shades "tint".toList value tint hknown hchoice hplain hdefault
  have hcontent : IsContent value.trim "light grey".toList :=
    unquote_eq_some.1 (by decide +kernel)
  refine ⟨hknown, hchoice, hplain, hdefault, hvalues, result, houtcome, hvalid.2 ⟨_, hcontent, ?_⟩⟩
  rw [hvalues, Except.ok.injEq] at hcompletions
  rw [← hcompletions]
  exact List.mem_cons_self

end Schema
end ConfigLint
