import ConfigLint.Proofs.LineFindings
/-!
What is found about a line, apart from its place. A check looks at the kind of a line, at its key and
at its trimmed value. The number and the spans of the line say where a diagnostic stands, and nothing
else depends on them.

What is proved:
  1. `foundAt_eq_map`: the diagnostics of a line are its findings, each put in its place.
  2. `findings_congr`: a check makes no difference between lines that are alike in what it looks at.
  3. `rel_diagnosticsOf`: so the diagnostics of alike lines go together one by one, and are related as
     the places are that the lines give them.
-/
namespace ConfigLint
open Text

/-- Two lines that differ at most in their numbers, their spans and the white space around their
    values. -/
structure Line.Alike (l l' : Line) : Prop where
  kind : l'.kind = l.kind
  key : l'.key? = l.key?
  value : (l'.value.getD []).trim = (l.value.getD []).trim

/-- A finding about a line, put in its place. -/
def Line.place (l : Line) (f : Finding × Severity) : Diagnostic := f.1.diagnostic f.2 l (f.1.span l)

namespace Schema

/-- What is found about a line that sets a known option, by the verdict on its value. -/
def knownFindings (options : CheckOptions) (key value : Text) (o : OptionDecl)
    (verdict : Option ValueProblem) : List (Finding × Severity) :=
  (if o.deprecated then [(.deprecatedKey key, .hint)] else []) ++
    (platformFinding options key o).toList.map (·, .info) ++
    verdict.toList.map fun p => (.invalidValue value p, o.problemSeverity)

theorem knownReports_eq_map (options : CheckOptions) (line : Line) (key value : Text) (o : OptionDecl)
    (verdict : Option ValueProblem) :
    knownReports options line key o
        (verdict.map fun p => line.place (.invalidValue value p, o.problemSeverity)) =
      (knownFindings options key value o verdict).map line.place := by
  rw [knownReports, knownFindings, List.map_append, List.map_append]
  congr 2
  · cases o.deprecated <;> rfl
  · rw [List.map_map]
    apply List.map_congr_left
    intro f hf
    rw [Function.comp_apply, Line.place, span_of_platformFinding (Option.mem_toList.1 hf)]
  · cases verdict <;> rfl

variable [Interpreter]

/-- The verdict on a trimmed value. There is nothing wrong with a value that is blank. -/
def verdictOn (s : Schema) (o : OptionDecl) (value : Text) : Verdict :=
  if value = [] then .ok none else s.checkOption o value

/-- What is found about a line by itself, and how grave it is. Without a verdict on its value nothing
    is found. -/
def findings (s : Schema) (options : CheckOptions) (line : Line) : List (Finding × Severity) :=
  if line.kind = .invalid then [(.invalidLine, .error)]
  else
    match line.key? with
    | none => []
    | some key =>
      match s.lookup key with
      | none => [(.unknownKey key, options.unknownKeySeverity)]
      | some o =>
        let value := (line.value.getD []).trim
        match s.verdictOn o value with
        | .ok verdict => knownFindings options key value o verdict
        | .error _ => []

section
variable {s : Schema} {options : CheckOptions} {line : Line} {key : Text} {o : OptionDecl}

theorem checkOption_trim (s : Schema) (o : OptionDecl) (value : Text) :
    s.checkOption o value.trim = s.checkOption o value := by
  simp only [checkOption, OptionDecl.check, trim_trim]

theorem checkValue_eq_map (s : Schema) (o : OptionDecl) (line : Line) :
    s.checkValue o line = (s.verdictOn o (line.value.getD []).trim).map fun verdict =>
      verdict.map fun p => line.place (.invalidValue (line.value.getD []).trim p, o.problemSeverity) := by
  simp only [checkValue, verdictOn, checkOption_trim]
  split <;> rfl

/-- The diagnostics of a line are its findings in their places. -/
theorem foundAt_eq_map (s : Schema) (options : CheckOptions) (line : Line) :
    s.foundAt options line = (s.findings options line).map line.place := by
  by_cases hkind : line.kind = .invalid
  · rw [foundAt_of_invalid hkind, findings, if_pos hkind]
    rfl
  cases hkey : line.key? with
  | none =>
    simp only [foundAt_of_no_key hkind hkey, findings, if_neg hkind, hkey, List.map_nil]
  | some key =>
    cases known : s.lookup key with
    | none =>
      simp only [foundAt_of_unknown hkind hkey known, findings, if_neg hkind, hkey, known]
      rfl
    | some o =>
      simp only [foundAt_of_known hkind hkey known, findings, if_neg hkind, hkey, known,
        checkValue_eq_map]
      cases s.verdictOn o (line.value.getD []).trim with
      | error fault => rfl
      | ok verdict => exact knownReports_eq_map options line key _ o verdict

theorem code_of_mem_findings {f : Finding × Severity} (h : f ∈ s.findings options line) :
    f.1.code ≠ .duplicateKey := by
  have hplaced : line.place f ∈ s.foundAt options line := by
    rw [foundAt_eq_map]
    exact List.mem_map_of_mem h
  exact code_of_mem_foundAt hplaced

end

/-! ## Alike lines -/

theorem findings_congr (s : Schema) (options : CheckOptions) {l l' : Line} (h : l.Alike l') :
    s.findings options l' = s.findings options l := by
  simp only [findings, h.kind, h.key, h.value]

/-- Lines that are alike have diagnostics that go together, those of each line by itself and those of
    repeated keys. -/
theorem rel_diagnosticsOf {R : Line → Line → Prop} {S : Diagnostic → Diagnostic → Prop}
    (s : Schema) (options : CheckOptions) (halike : ∀ l l', R l l' → l.Alike l')
    (hfound : ∀ l l' f, R l l' → f.1.code ≠ .duplicateKey → S (l.place f) (l'.place f))
    (hrepeat : ∀ key first first' l l', R first first' → R l l' →
      S (l.place (.duplicateKey key first.number, .warning))
        (l'.place (.duplicateKey key first'.number, .warning)))
    {lines lines' : List Line} (h : List.Forall₂ R lines lines') :
    List.Forall₂ S (s.diagnosticsOf options lines) (s.diagnosticsOf options lines') := by
  refine List.rel_append (List.rel_flatMap h ?_)
    (rel_checkDuplicates s (fun l l' hl => (halike l l' hl).key) hrepeat h)
  intro l l' hl
  rw [foundAt_eq_map, foundAt_eq_map, findings_congr s options (halike l l' hl),
    List.forall₂_map_left_iff, List.forall₂_map_right_iff, List.forall₂_same]
  exact fun f hf => hfound l l' f hl (code_of_mem_findings hf)

end Schema
end ConfigLint
