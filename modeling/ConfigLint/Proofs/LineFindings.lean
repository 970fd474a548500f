import ConfigLint.Diagnostic.Check
import ConfigLint.Proofs.Assignment
import ConfigLint.Proofs.Duplicates
import ConfigLint.Proofs.Severities
/-!
What is found out about the lines of a document, each by itself. `Due` are the rules: which
finding is due about a line, by its text, the schema and the choices of the host. What is proved:

  1. `mem_foundAt`: the check of a line reports exactly what is due about it.
  2. `codes_foundAt`: it reports no code twice.
  3. `lineDiagnostics_exact`: so do the diagnostics of a whole document that stand at the line,
     those of repeated keys aside.

A line whose value check comes to no verdict has nothing due about it: the rules for known keys
ask for a verdict.
-/
namespace ConfigLint
open Text

/-- A line that is no comment sets `key` to `value`. -/
def Assigns (raw key value : Text) : Prop :=
  ¬ IsComment raw ∧ ∃ lead gap, IsAssignment raw lead key gap value

/-- The value of an option gets a verdict: it is blank and not checked at all, or its check comes
    to an end. -/
def HasVerdict [Interpreter] (s : Schema) (o : OptionDecl) (value : Text) : Prop :=
  IsBlankText value ∨ ∃ verdict, s.checkOption o value = .ok verdict

/-- The findings that are due about a line, and how grave they are. -/
inductive Due [Interpreter] (s : Schema) (options : CheckOptions) (raw : Text) :
    Finding → Severity → Prop where
  | invalidLine (visible : ¬ IsBlankText raw) (noComment : ¬ IsComment raw)
      (noKey : ∀ lead key gap value, ¬ IsAssignment raw lead key gap value) :
      Due s options raw .invalidLine .error
  | unknownKey {key value : Text} (sets : Assigns raw key value) (unknown : s.lookup key = none) :
      Due s options raw (.unknownKey key) options.unknownKeySeverity
  | deprecatedKey {key value : Text} {o : OptionDecl} (sets : Assigns raw key value)
      (known : s.lookup key = some o) (verdict : HasVerdict s o value)
      (deprecated : o.deprecated = true) :
      Due s options raw (.deprecatedKey key) .hint
  | platformMismatch {key value : Text} {o : OptionDecl} {current : Platform}
      (sets : Assigns raw key value) (known : s.lookup key = some o)
      (verdict : HasVerdict s o value) (hints : options.platformHints = true)
      (here : options.platform = some current) (limited : o.platforms ≠ [])
      (elsewhere : CodeText.ofText current.name ∉ o.platforms) :
      Due s options raw (.platformMismatch key o.platforms current) .info
  | invalidValue {key value : Text} {o : OptionDecl} {problem : ValueProblem} {severity : Severity}
      (sets : Assigns raw key value) (known : s.lookup key = some o)
      (visible : ¬ IsBlankText value) (wrong : s.checkOption o value = .ok (some problem))
      (grave : Severity.IsChosen .error o.constraints.severity severity) :
      Due s options raw (.invalidValue value.trim problem) severity

/-- The part of a line that a finding is about; without one it is about the whole line. -/
def Finding.span (line : Line) : Finding → Option Span
  | invalidLine => none
  | invalidValue .. => line.valueSpan
  | _ => line.keySpan

/-- The diagnostics of a line by itself; a line without a verdict has none. -/
def Schema.foundAt [Interpreter] (s : Schema) (options : CheckOptions) (line : Line) :
    List Diagnostic :=
  (s.checkLine options line).toOption.getD []

theorem Assigns.unique {raw key value key' value' : Text} (h : Assigns raw key value)
    (h' : Assigns raw key' value') : key = key' ∧ value = value' := by
  obtain ⟨-, lead, gap, h⟩ := h
  obtain ⟨-, lead', gap', h'⟩ := h'
  exact h.unique h'

theorem Due.visible [Interpreter] {s : Schema} {options : CheckOptions} {raw : Text} {f : Finding}
    {severity : Severity} (h : Due s options raw f severity) :
    ¬ IsBlankText raw ∧ ¬ IsComment raw := by
  have of_assigns : ∀ {key value}, Assigns raw key value → ¬ IsBlankText raw ∧ ¬ IsComment raw := by
    rintro key value ⟨noComment, lead, gap, hassign⟩
    exact ⟨hassign.not_blank, noComment⟩
  cases h with
  | invalidLine visible noComment _ => exact ⟨visible, noComment⟩
  | unknownKey sets _ => exact of_assigns sets
  | deprecatedKey sets _ _ _ => exact of_assigns sets
  | platformMismatch sets _ _ _ _ _ _ => exact of_assigns sets
  | invalidValue sets _ _ _ _ => exact of_assigns sets

namespace Schema

theorem platformFinding_eq_some {options : CheckOptions} {key : Text} {o : OptionDecl}
    {f : Finding} : platformFinding options key o = some f ↔
      ∃ current, options.platform = some current ∧ options.platformHints = true ∧
        o.platforms ≠ [] ∧ CodeText.ofText current.name ∉ o.platforms ∧
        f = .platformMismatch key o.platforms current := by
  unfold platformFinding
  cases options.platform with
  | none => simp
  | some current =>
    simp only [Option.some.injEq, exists_eq_left']
    split
    · next h =>
      simp only [reduceCtorEq, false_iff]
      rintro ⟨hints, limited, elsewhere, -⟩
      rcases h with h | h | h
      · exact limited h
      · simp [hints] at h
      · exact elsewhere h
    · next h =>
      simp only [not_or] at h
      obtain ⟨limited, hints, elsewhere⟩ := h
      simp only [Bool.not_eq_true', Bool.not_eq_false] at hints
      constructor
      · intro hf
        exact ⟨hints, limited, elsewhere, (Option.some.inj hf).symm⟩
      · rintro ⟨-, -, -, rfl⟩
        rfl

/-! ## What is due, by kind of line -/

section
variable [Interpreter] {s : Schema} {options : CheckOptions} {raw key value : Text} {f : Finding}
  {severity : Severity}

theorem due_iff_of_invalid (visible : ¬ IsBlankText raw) (noComment : ¬ IsComment raw)
    (noKey : ∀ lead key gap value, ¬ IsAssignment raw lead key gap value) :
    Due s options raw f severity ↔ f = .invalidLine ∧ severity = .error := by
  have no_assigns : ∀ {key value}, ¬ Assigns raw key value := by
    rintro key value ⟨-, lead, gap, h⟩
    exact noKey lead key gap value h
  constructor
  · intro h
    cases h with
    | invalidLine _ _ _ => exact ⟨rfl, rfl⟩
    | unknownKey sets _ => exact absurd sets no_assigns
    | deprecatedKey sets _ _ _ => exact absurd sets no_assigns
    | platformMismatch sets _ _ _ _ _ _ => exact absurd sets no_assigns
    | invalidValue sets _ _ _ _ => exact absurd sets no_assigns
  · rintro ⟨rfl, rfl⟩
    exact .invalidLine visible noComment noKey

theorem due_iff_of_unknown (sets : Assigns raw key value)
    (unknown : s.lookup key = none) :
    Due s options raw f severity ↔
      f = .unknownKey key ∧ severity = options.unknownKeySeverity := by
  have not_known : ∀ {key' value' o}, Assigns raw key' value' → s.lookup key' ≠ some o := by
    intro key' value' o sets' known
    rw [← (sets.unique sets').1, unknown] at known
    cases known
  constructor
  · intro h
    cases h with
    | invalidLine _ noComment noKey =>
      obtain ⟨-, lead, gap, h⟩ := sets
      exact absurd h (noKey lead key gap value)
    | unknownKey sets' _ => exact ⟨by rw [(sets.unique sets').1], rfl⟩
    | deprecatedKey sets' known _ _ => exact absurd known (not_known sets')
    | platformMismatch sets' known _ _ _ _ _ => exact absurd known (not_known sets')
    | invalidValue sets' known _ _ _ => exact absurd known (not_known sets')
  · rintro ⟨rfl, rfl⟩
    exact .unknownKey sets unknown

theorem due_iff_of_known {o : OptionDecl} (sets : Assigns raw key value)
    (known : s.lookup key = some o) :
    Due s options raw f severity ↔
      (HasVerdict s o value ∧ o.deprecated = true ∧ f = .deprecatedKey key ∧ severity = .hint) ∨
      (HasVerdict s o value ∧ platformFinding options key o = some f ∧ severity = .info) ∨
      (¬ IsBlankText value ∧ ∃ problem, s.checkOption o value = .ok (some problem) ∧
        f = .invalidValue value.trim problem ∧
        Severity.IsChosen .error o.constraints.severity severity) := by
  have same : ∀ {key' value' o'}, Assigns raw key' value' → s.lookup key' = some o' →
      key' = key ∧ value' = value ∧ o' = o := by
    intro key' value' o' sets' known'
    obtain ⟨hkey, hvalue⟩ := sets'.unique sets
    rw [hkey, known, Option.some.injEq] at known'
    exact ⟨hkey, hvalue, known'.symm⟩
  constructor
  · intro h
    cases h with
    | invalidLine _ noComment noKey =>
      obtain ⟨-, lead, gap, h⟩ := sets
      exact absurd h (noKey lead key gap value)
    | unknownKey sets' unknown =>
      rw [← (sets.unique sets').1, known] at unknown
      cases unknown
    | deprecatedKey sets' known' verdict deprecated =>
      obtain ⟨rfl, rfl, rfl⟩ := same sets' known'
      exact .inl ⟨verdict, deprecated, rfl, rfl⟩
    | platformMismatch sets' known' verdict hints here limited elsewhere =>
      obtain ⟨rfl, rfl, rfl⟩ := same sets' known'
      exact .inr (.inl ⟨verdict,
        platformFinding_eq_some.2 ⟨_, here, hints, limited, elsewhere, rfl⟩, rfl⟩)
    | invalidValue sets' known' visible wrong grave =>
      obtain ⟨rfl, rfl, rfl⟩ := same sets' known'
      exact .inr (.inr ⟨visible, _, wrong, rfl, grave⟩)
  · rintro (⟨verdict, deprecated, rfl, rfl⟩ | ⟨verdict, hplatform, rfl⟩ |
      ⟨visible, problem, wrong, rfl, grave⟩)
    · exact .deprecatedKey sets known verdict deprecated
    · obtain ⟨current, here, hints, limited, elsewhere, rfl⟩ := platformFinding_eq_some.1 hplatform
      exact .platformMismatch sets known verdict hints here limited elsewhere
    · exact .invalidValue sets known visible wrong grave

end

/-! ## What the check of a line reports -/

section
variable {s : Schema} {options : CheckOptions} {line : Line} {key value : Text} {o : OptionDecl}

/-- The reports about a line with a known key whose value has the verdict `verdict`. -/
def knownReports (options : CheckOptions) (line : Line) (key : Text) (o : OptionDecl)
    (verdict : Option Diagnostic) : List Diagnostic :=
  (if o.deprecated then [(Finding.deprecatedKey key).diagnostic .hint line line.keySpan] else []) ++
    (platformFinding options key o).toList.map (·.diagnostic .info line line.keySpan) ++
    verdict.toList

theorem mem_knownReports {verdict : Option Diagnostic} {d : Diagnostic} :
    d ∈ knownReports options line key o verdict ↔
      (o.deprecated = true ∧ d = (Finding.deprecatedKey key).diagnostic .hint line line.keySpan) ∨
      (∃ f, platformFinding options key o = some f ∧ d = f.diagnostic .info line line.keySpan) ∨
      verdict = some d := by
  rw [knownReports, List.mem_append, List.mem_append, or_assoc]
  refine or_congr ?_ (or_congr ?_ ?_)
  · cases o.deprecated <;> simp
  · cases platformFinding options key o <;> simp
  · exact Option.mem_toList

theorem span_of_platformFinding {f : Finding} (h : platformFinding options key o = some f) :
    f.span line = line.keySpan := by
  obtain ⟨_, _, _, _, _, rfl⟩ := platformFinding_eq_some.1 h
  rfl

variable [Interpreter]

theorem checkValue_of_blank (hvalue : line.value = some value) (h : IsBlankText value) :
    s.checkValue o line = .ok none := by
  simp only [checkValue, hvalue, Option.getD_some, trim_eq_nil.2 h, if_true]

theorem checkValue_of_visible (hvalue : line.value = some value)
    (h : ¬ IsBlankText value) :
    s.checkValue o line = (s.checkOption o value).map fun problem => problem.map fun p =>
      (Finding.invalidValue value.trim p).diagnostic o.problemSeverity line line.valueSpan := by
  simp only [checkValue, hvalue, Option.getD_some, mt trim_eq_nil.1 h, if_false]

theorem foundAt_of_invalid (hkind : line.kind = .invalid) :
    s.foundAt options line = [Finding.invalidLine.diagnostic .error line none] := by
  simp only [foundAt, checkLine, if_pos hkind]
  rfl

theorem foundAt_of_no_key (hkind : line.kind ≠ .invalid) (hkey : line.key? = none) :
    s.foundAt options line = [] := by
  simp only [foundAt, checkLine, if_neg hkind, hkey]
  rfl

theorem foundAt_of_unknown (hkind : line.kind ≠ .invalid) (hkey : line.key? = some key)
    (unknown : s.lookup key = none) :
    s.foundAt options line =
      [(Finding.unknownKey key).diagnostic options.unknownKeySeverity line line.keySpan] := by
  simp only [foundAt, checkLine, if_neg hkind, hkey, unknown]
  rfl

theorem foundAt_of_known (hkind : line.kind ≠ .invalid) (hkey : line.key? = some key)
    (known : s.lookup key = some o) :
    s.foundAt options line =
      ((s.checkValue o line).map (knownReports options line key o)).toOption.getD [] := by
  simp only [foundAt, checkLine, if_neg hkind, hkey, known]
  rfl

theorem mem_foundAt_of_known (hkind : line.kind ≠ .invalid) (hkey : line.key? = some key)
    (hvalue : line.value = some value) (known : s.lookup key = some o) {d : Diagnostic} :
    d ∈ s.foundAt options line ↔
      (HasVerdict s o value ∧ o.deprecated = true ∧
        d = (Finding.deprecatedKey key).diagnostic .hint line line.keySpan) ∨
      (HasVerdict s o value ∧ ∃ f, platformFinding options key o = some f ∧
        d = f.diagnostic .info line line.keySpan) ∨
      (¬ IsBlankText value ∧ ∃ problem, s.checkOption o value = .ok (some problem) ∧
        d = (Finding.invalidValue value.trim problem).diagnostic o.problemSeverity line
          line.valueSpan) := by
  rw [foundAt_of_known hkind hkey known]
  by_cases hblank : IsBlankText value
  · have hverdict : HasVerdict s o value := .inl hblank
    rw [checkValue_of_blank hvalue hblank]
    simp only [Except.map, Except.toOption, Option.getD_some, mem_knownReports]
    simp [hverdict, hblank]
  · rw [checkValue_of_visible hvalue hblank]
    cases hcheck : s.checkOption o value with
    | error fault =>
      -- no verdict, no report: even those that do not look at the value are given up
      have hverdict : ¬ HasVerdict s o value := by
        rintro (h | ⟨verdict, h⟩)
        · exact hblank h
        · rw [hcheck] at h
          cases h
      simp [Except.map, Except.toOption, hverdict]
    | ok verdict =>
      have hverdict : HasVerdict s o value := .inr ⟨verdict, hcheck⟩
      simp only [Except.map, Except.toOption, Option.getD_some, mem_knownReports, hverdict, hblank,
        true_and, not_false_eq_true, Except.ok.injEq, Option.map_eq_some_iff]
      refine or_congr Iff.rfl (or_congr Iff.rfl ?_)
      constructor
      · rintro ⟨problem, hproblem, hd⟩
        exact ⟨problem, hproblem, hd.symm⟩
      · rintro ⟨problem, hproblem, hd⟩
        exact ⟨problem, hproblem, hd.symm⟩

end

/-- The check of a line reports exactly what is due about the line. -/
theorem mem_foundAt [Interpreter] (s : Schema) (options : CheckOptions) (raw : Text) (number : Int)
    (d : Diagnostic) :
    d ∈ s.foundAt options (Line.read raw number) ↔
      ∃ f severity, Due s options raw f severity ∧
        d = f.diagnostic severity (Line.read raw number) (f.span (Line.read raw number)) := by
  rcases Line.read_cases raw number with ⟨hblank, hread⟩ | ⟨-, hcomment, hread⟩ |
    ⟨noComment, lead, key, gap, value, hassign, hread⟩ | ⟨visible, noComment, noKey, hread⟩
  · have hkind : (Line.read raw number).kind ≠ .invalid := by rw [hread]; simp
    have hkey : (Line.read raw number).key? = none := by rw [hread]; rfl
    simp only [foundAt_of_no_key hkind hkey, List.not_mem_nil, false_iff]
    rintro ⟨f, severity, hdue, -⟩
    exact hdue.visible.1 hblank
  · have hkind : (Line.read raw number).kind ≠ .invalid := by rw [hread]; simp
    have hkey : (Line.read raw number).key? = none := by rw [hread]; rfl
    simp only [foundAt_of_no_key hkind hkey, List.not_mem_nil, false_iff]
    rintro ⟨f, severity, hdue, -⟩
    exact hdue.visible.2 hcomment
  · have sets : Assigns raw key value := ⟨noComment, lead, gap, hassign⟩
    have hkind : (Line.read raw number).kind ≠ .invalid := by rw [hread]; simp [Line.assigned]
    have hkey : (Line.read raw number).key? = some key := by
      rw [hread, Line.key?_eq_some]
      exact ⟨rfl, rfl, hassign.key_ne⟩
    have hvalue : (Line.read raw number).value = some value := by rw [hread]; rfl
    -- from here on only the kind, the key and the value of the line matter
    generalize Line.read raw number = line at hkind hkey hvalue
    cases known : s.lookup key with
    | none =>
      simp only [foundAt_of_unknown hkind hkey known, List.mem_singleton,
        due_iff_of_unknown sets known]
      constructor
      · intro hd
        exact ⟨_, _, ⟨rfl, rfl⟩, hd⟩
      · rintro ⟨_, _, ⟨rfl, rfl⟩, hd⟩
        exact hd
    | some o =>
      simp only [mem_foundAt_of_known hkind hkey hvalue known, due_iff_of_known sets known]
      constructor
      · rintro (⟨hverdict, deprecated, hd⟩ | ⟨hverdict, f, hf, hd⟩ | ⟨hvisible, p, hp, hd⟩)
        · exact ⟨_, _, .inl ⟨hverdict, deprecated, rfl, rfl⟩, hd⟩
        · exact ⟨f, _, .inr (.inl ⟨hverdict, hf, rfl⟩), by rw [span_of_platformFinding hf, hd]⟩
        · exact ⟨_, _, .inr (.inr ⟨hvisible, p, hp, rfl, Severity.ofText_eq_iff.1 rfl⟩), hd⟩
      · rintro ⟨f, severity, ⟨hverdict, deprecated, rfl, rfl⟩ | ⟨hverdict, hf, rfl⟩ |
          ⟨hvisible, p, hp, rfl, hgrave⟩, hd⟩
        · exact .inl ⟨hverdict, deprecated, hd⟩
        · exact .inr (.inl ⟨hverdict, f, hf, by rw [hd, span_of_platformFinding hf]⟩)
        · have hseverity : o.problemSeverity = severity := Severity.ofText_eq_iff.2 hgrave
          exact .inr (.inr ⟨hvisible, p, hp, by rw [hd, hseverity]; rfl⟩)
  · have hkind : (Line.read raw number).kind = .invalid := by rw [hread]
    simp only [foundAt_of_invalid hkind, List.mem_singleton, due_iff_of_invalid visible noComment noKey]
    constructor
    · intro hd
      exact ⟨_, _, ⟨rfl, rfl⟩, hd⟩
    · rintro ⟨_, _, ⟨rfl, rfl⟩, hd⟩
      exact hd

/-! ## No code twice -/

/-- The codes of a line in the order in which its checks are made. -/
def lineCodes : List DiagnosticCode :=
  [.invalidLine, .unknownKey, .deprecatedKey, .platformMismatch, .invalidValue]

theorem code_of_checkValue [Interpreter] {s : Schema} {o : OptionDecl} {line : Line}
    {d : Diagnostic} (h : s.checkValue o line = .ok (some d)) : d.code = .invalidValue := by
  unfold checkValue at h
  by_cases hblank : Text.trim (line.value.getD []) = []
  · simp [hblank] at h
  · simp only [if_neg hblank] at h
    cases hcheck : s.checkOption o (line.value.getD []) with
    | error fault => simp [hcheck, Except.map] at h
    | ok problem =>
      simp only [hcheck, Except.map, Except.ok.injEq, Option.map_eq_some_iff] at h
      obtain ⟨p, -, rfl⟩ := h
      rfl

theorem codes_knownReports (options : CheckOptions) (line : Line) (key : Text) (o : OptionDecl)
    {verdict : Option Diagnostic} (h : ∀ d ∈ verdict, d.code = .invalidValue) :
    ((knownReports options line key o verdict).map Diagnostic.code).Sublist
      [.deprecatedKey, .platformMismatch, .invalidValue] := by
  have hdeprecated : ((if o.deprecated then
      [(Finding.deprecatedKey key).diagnostic .hint line line.keySpan] else []).map
        Diagnostic.code).Sublist [.deprecatedKey] := by
    cases o.deprecated <;> simp [Finding.diagnostic, Finding.code]
  have hplatform : (((platformFinding options key o).toList.map
      (·.diagnostic .info line line.keySpan)).map Diagnostic.code).Sublist [.platformMismatch] := by
    cases hf : platformFinding options key o with
    | none => simp
    | some f =>
      obtain ⟨_, _, _, _, _, rfl⟩ := platformFinding_eq_some.1 hf
      simp [Finding.diagnostic, Finding.code]
  have hverdict : (verdict.toList.map Diagnostic.code).Sublist [.invalidValue] := by
    cases verdict with
    | none => simp
    | some d => simp [h d rfl]
  rw [knownReports, List.map_append, List.map_append]
  exact (hdeprecated.append hplatform).append hverdict

/-- The codes of the reports about a line: an invalid line and an unknown key stand alone, and what
    is found about a known key comes in the order of its checks. -/
theorem codes_foundAt_cases [Interpreter] (s : Schema) (options : CheckOptions) (line : Line) :
    (s.foundAt options line).map Diagnostic.code = [.invalidLine] ∨
      (s.foundAt options line).map Diagnostic.code = [.unknownKey] ∨
      ((s.foundAt options line).map Diagnostic.code).Sublist
        [.deprecatedKey, .platformMismatch, .invalidValue] := by
  by_cases hkind : line.kind = .invalid
  · rw [foundAt_of_invalid hkind]
    exact .inl rfl
  cases hkey : line.key? with
  | none =>
    rw [foundAt_of_no_key hkind hkey]
    exact .inr (.inr (List.nil_sublist _))
  | some key =>
    cases known : s.lookup key with
    | none =>
      rw [foundAt_of_unknown hkind hkey known]
      exact .inr (.inl rfl)
    | some o =>
      rw [foundAt_of_known hkind hkey known]
      cases hvalue : s.checkValue o line with
      | error fault => exact .inr (.inr (List.nil_sublist _))
      | ok verdict =>
        have hcode : ∀ d ∈ verdict, d.code = .invalidValue := by
          rintro d rfl
          exact code_of_checkValue hvalue
        exact .inr (.inr (codes_knownReports options line key o hcode))

theorem codes_foundAt [Interpreter] (s : Schema) (options : CheckOptions) (line : Line) :
    ((s.foundAt options line).map Diagnostic.code).Sublist lineCodes := by
  rcases codes_foundAt_cases s options line with h | h | h
  · rw [h]
    exact List.singleton_sublist.2 (by decide)
  · rw [h]
    exact List.singleton_sublist.2 (by decide)
  · exact h.trans (List.drop_sublist 2 lineCodes)

theorem code_of_mem_foundAt [Interpreter] {s : Schema} {options : CheckOptions} {line : Line}
    {d : Diagnostic} (h : d ∈ s.foundAt options line) : d.code ≠ .duplicateKey := by
  have hcode : d.code ∈ lineCodes := (codes_foundAt s options line).subset (List.mem_map_of_mem h)
  intro hduplicate
  rw [hduplicate] at hcode
  exact absurd hcode (by decide)

/-! ## Whole documents -/

/-- The diagnostics of lines: what is found about each, and then the reports of repeated keys. -/
def diagnosticsOf [Interpreter] (s : Schema) (options : CheckOptions) (lines : List Line) :
    List Diagnostic :=
  lines.flatMap (s.foundAt options) ++ s.checkDuplicates lines

theorem diagnostics_of_enabled [Interpreter] {options : CheckOptions}
    (enabled : options.enabled = true) (s : Schema) (text : Text) :
    (s.checkDocument options text).diagnostics = s.diagnosticsOf options (readDocument text) := by
  simp only [checkDocument, enabled, Bool.not_true, Bool.false_eq_true, if_false]
  rfl

theorem diagnostics_of_disabled [Interpreter] {options : CheckOptions}
    (disabled : options.enabled = false)
    (s : Schema) (text : Text) : (s.checkDocument options text).diagnostics = [] := by
  simp only [checkDocument, disabled, Bool.not_false, if_true]

theorem foundAt_of_mem [Interpreter] {s : Schema} {options : CheckOptions} {raw : Text}
    {number : Int} {d : Diagnostic} (h : d ∈ s.foundAt options (Line.read raw number)) :
    d.line = number ∧ d.code ≠ .duplicateKey := by
  obtain ⟨f, severity, hdue, rfl⟩ := (mem_foundAt s options raw number d).1 h
  refine ⟨Line.read_number raw number, ?_⟩
  cases hdue <;> simp [Finding.diagnostic, Finding.code]

theorem code_of_mem_checkDuplicates {s : Schema} {lines : List Line} {d : Diagnostic}
    (h : d ∈ s.checkDuplicates lines) : d.code = .duplicateKey := by
  obtain ⟨line, -, key, first, -, rfl⟩ := mem_checkDuplicates h
  rfl

theorem filter_line_flatMap {found : Line → List Diagnostic}
    (hfound : ∀ raw number, ∀ d ∈ found (Line.read raw number), d.line = number)
    (raws : List Text) : ∀ (start i : Nat) (raw : Text), raws[i]? = some raw →
      ((readLinesFrom start raws).flatMap found).filter
          (fun d => d.line = ((start + i : Nat) : Int)) =
        found (Line.read raw (start + i : Nat)) := by
  induction raws with
  | nil => intro start i raw hraw; simp at hraw
  | cons head rest ih =>
    intro start i raw hraw
    rw [readLinesFrom_cons, List.flatMap_cons, List.filter_append]
    cases i with
    | zero =>
      -- all reports about the first line stay, those about later lines have greater numbers
      rw [List.getElem?_cons_zero, Option.some.injEq] at hraw
      have hhead : (found (Line.read head start)).filter
          (fun d => d.line = ((start + 0 : Nat) : Int)) = found (Line.read head start) := by
        rw [List.filter_eq_self]
        intro d hd
        simpa using hfound head start d hd
      have hrest : ((readLinesFrom (start + 1) rest).flatMap found).filter
          (fun d => d.line = ((start + 0 : Nat) : Int)) = [] := by
        rw [List.filter_eq_nil_iff]
        intro d hd
        obtain ⟨line, hline, hd⟩ := List.mem_flatMap.1 hd
        obtain ⟨j, other, -, rfl⟩ := mem_readLinesFrom.1 hline
        have := hfound _ _ d hd
        simp only [decide_eq_true_eq]
        omega
      rw [hhead, hrest, List.append_nil, hraw, Nat.add_zero]
    | succ i =>
      rw [List.getElem?_cons_succ] at hraw
      have hhead : (found (Line.read head start)).filter
          (fun d => d.line = ((start + (i + 1) : Nat) : Int)) = [] := by
        rw [List.filter_eq_nil_iff]
        intro d hd
        have := hfound head start d hd
        simp only [decide_eq_true_eq]
        omega
      have hrest := ih (start + 1) i raw hraw
      rw [show start + 1 + i = start + (i + 1) by omega] at hrest
      rw [hhead, List.nil_append, hrest]

/-- The diagnostics that a document has at one of its lines, those of repeated keys aside. -/
def lineDiagnostics [Interpreter] (s : Schema) (options : CheckOptions) (text : Text) (i : Nat) :
    List Diagnostic :=
  (s.checkDocument options text).diagnostics.filter fun d =>
    d.line = (i : Int) ∧ d.code ≠ .duplicateKey

theorem lineDiagnostics_eq_foundAt [Interpreter] {s : Schema} {options : CheckOptions}
    {text raw : Text} {i : Nat} (enabled : options.enabled = true) (hraw : text.lines[i]? = some raw) :
    s.lineDiagnostics options text i = s.foundAt options (Line.read raw i) := by
  have hcheck : (s.checkDocument options text).diagnostics =
      (readDocument text).flatMap (s.foundAt options) ++ s.checkDuplicates (readDocument text) := by
    simp only [checkDocument, enabled, Bool.not_true, Bool.false_eq_true, if_false]
    rfl
  have hduplicates : (s.checkDuplicates (readDocument text)).filter
      (fun d => d.line = (i : Int) ∧ d.code ≠ .duplicateKey) = [] := by
    rw [List.filter_eq_nil_iff]
    intro d hd
    simp [code_of_mem_checkDuplicates hd]
  have hlines := @filter_line_flatMap (s.foundAt options)
    (fun raw number d hd => (foundAt_of_mem hd).1) text.lines 0 i raw hraw
  rw [Nat.zero_add] at hlines
  -- first the line, then the code: `filter_line_flatMap` knows about lines only
  have hfilter : ∀ ds : List Diagnostic,
      ds.filter (fun d => d.line = (i : Int) ∧ d.code ≠ .duplicateKey) =
        (ds.filter fun d => d.line = (i : Int)).filter fun d => d.code ≠ .duplicateKey := by
    intro ds
    rw [List.filter_filter]
    congr
    funext d
    rw [Bool.decide_and, Bool.and_comm]
  rw [lineDiagnostics, hcheck, List.filter_append, hduplicates, List.append_nil, hfilter,
    readDocument, hlines, List.filter_eq_self]
  intro d hd
  simp [(foundAt_of_mem hd).2]

/-- The diagnostics at a line of a document are those that are due about it, each of them once. -/
theorem lineDiagnostics_exact [Interpreter] (s : Schema) (options : CheckOptions) (text : Text)
    (enabled : options.enabled = true) (i : Nat) (line : Line)
    (hline : (readDocument text)[i]? = some line) :
    (∀ d, d ∈ s.lineDiagnostics options text i ↔ ∃ f severity, Due s options line.raw f severity ∧
      d = f.diagnostic severity line (f.span line)) ∧
    ((s.lineDiagnostics options text i).map Diagnostic.code).Nodup := by
  obtain ⟨raw, hraw, rfl⟩ := getElem?_readDocument.1 hline
  rw [lineDiagnostics_eq_foundAt enabled hraw, Line.read_raw]
  refine ⟨mem_foundAt s options raw i, ?_⟩
  have hcodes : lineCodes.Nodup := by decide
  exact hcodes.sublist (codes_foundAt s options _)

/-- A schema with one option, a number on one platform that is no longer in use. -/
def gapSchema : Schema :=
  { options := .ofList [(CodeText.ofText "gap".toList,
      { type := CodeText.ofText "number".toList
        deprecated := true
        platforms := [CodeText.ofText "macos".toList] })] }

/-- A host on the other platform, and a comment in front of a value that is no number. -/
theorem lineDiagnostics_exact_gap :
    let options : CheckOptions := { platform := some .linux }
    let text := "# top\n gap = wide".toList
    let line := Line.read " gap = wide".toList 1
    options.enabled = true ∧ (readDocument text)[1]? = some line ∧
      (gapSchema.lineDiagnostics options text 1).map Diagnostic.code =
        [.deprecatedKey, .platformMismatch, .invalidValue] ∧
      ∀ d, d ∈ gapSchema.lineDiagnostics options text 1 ↔
        ∃ f severity, Due gapSchema options line.raw f severity ∧
          d = f.diagnostic severity line (f.span line) := by
  refine ⟨rfl, by decide +kernel, by decide +kernel, ?_⟩
  exact (lineDiagnostics_exact gapSchema { platform := some .linux } "# top\n gap = wide".toList rfl 1
    (Line.read " gap = wide".toList 1) (by decide +kernel)).1

end Schema
end ConfigLint
