import ConfigLint.Proofs.Findings
/-!
What the choices of a host have an effect on. The severity of unknown keys is the severity of the
diagnostics about unknown keys and of no others. The platform, and whether there are hints about it,
decide which diagnostics about platforms there are; they neither add nor take away any other.

What is proved:
  1. `findings_regrade`: with another severity for unknown keys the same is found, and only what is
     found about unknown keys gets the new severity.
  2. `findings_of_mutes`: without hints all is found but what they are about, however they are turned
     off.
  3. `checkDocument_choices`: so it is with whole documents, for repeated keys are reported whatever
     the host chose.
-/
namespace ConfigLint

/-- The diagnostics but those about platforms. -/
def withoutHints (ds : List Diagnostic) : List Diagnostic :=
  ds.filter fun d => d.code ≠ .platformMismatch

/-- The diagnostic, with this severity if it is about an unknown key. -/
def Diagnostic.regrade (severity : Severity) (d : Diagnostic) : Diagnostic :=
  if d.code = .unknownKey then { d with severity := severity } else d

/-- The finding, with this severity if it is about an unknown key. -/
def Finding.regrade (severity : Severity) (f : Finding × Severity) : Finding × Severity :=
  if f.1.code = .unknownKey then (f.1, severity) else f

/-- The choices `options'` are `options`, but there are no hints about platforms. -/
structure CheckOptions.Mutes (options options' : CheckOptions) : Prop where
  enabled : options'.enabled = options.enabled
  severity : options'.unknownKeySeverity = options.unknownKeySeverity
  quiet : ∀ key o, Schema.platformFinding options' key o = none

theorem CheckOptions.mutes_hints (options : CheckOptions) :
    options.Mutes { options with platformHints := false } := by
  refine ⟨rfl, rfl, fun key o => ?_⟩
  rw [Option.eq_none_iff_forall_ne_some]
  intro f hf
  obtain ⟨_, _, hhints, _⟩ := Schema.platformFinding_eq_some.1 hf
  cases hhints

theorem CheckOptions.mutes_platform (options : CheckOptions) :
    options.Mutes { options with platform := none } := ⟨rfl, rfl, fun _ _ => rfl⟩

theorem Line.place_regrade (line : Line) (severity : Severity) (f : Finding × Severity) :
    line.place (Finding.regrade severity f) = (line.place f).regrade severity := by
  have hcode : (line.place f).code = f.1.code := rfl
  rw [Finding.regrade, Diagnostic.regrade, hcode]
  split <;> rfl

namespace Schema

section
variable {options options' : CheckOptions} {key value : Text} {o : OptionDecl}
  {verdict : Option ValueProblem}

/-! ## One line -/

theorem code_of_mem_knownFindings {f : Finding × Severity}
    (h : f ∈ knownFindings options key value o verdict) : f.1.code ≠ .unknownKey := by
  rw [knownFindings, List.mem_append, List.mem_append, List.mem_map, List.mem_map] at h
  rcases h with (h | ⟨found, hfound, rfl⟩) | ⟨problem, -, rfl⟩
  · by_cases hdeprecated : o.deprecated = true
    · rw [if_pos hdeprecated, List.mem_singleton] at h
      rw [h]
      simp [Finding.code]
    · rw [if_neg hdeprecated] at h
      cases h
  · obtain ⟨_, _, _, _, _, rfl⟩ := platformFinding_eq_some.1 (Option.mem_toList.1 hfound)
    simp [Finding.code]
  · simp [Finding.code]

theorem knownFindings_regrade (severity : Severity) :
    knownFindings { options with unknownKeySeverity := severity } key value o verdict =
      (knownFindings options key value o verdict).map (Finding.regrade severity) := by
  have hstays : ∀ f ∈ knownFindings options key value o verdict, Finding.regrade severity f = f :=
    fun f hf => if_neg (code_of_mem_knownFindings hf)
  rw [List.map_congr_left hstays, List.map_id']
  rfl

theorem knownFindings_of_mutes (h : options.Mutes options') :
    knownFindings options' key value o verdict =
      (knownFindings options key value o verdict).filter fun f => f.1.code ≠ .platformMismatch := by
  have hhints : ((platformFinding options key o).toList.map (·, Severity.info)).filter
      (fun f => f.1.code ≠ .platformMismatch) = [] := by
    rw [List.filter_eq_nil_iff]
    intro f hf
    obtain ⟨found, hfound, rfl⟩ := List.mem_map.1 hf
    obtain ⟨_, _, _, _, _, rfl⟩ := platformFinding_eq_some.1 (Option.mem_toList.1 hfound)
    simp [Finding.code]
  rw [knownFindings, knownFindings, h.quiet, List.filter_append, List.filter_append, hhints]
  congr 1
  · cases o.deprecated <;> rfl
  · cases verdict <;> rfl

end

section
variable [Interpreter] {s : Schema} {options options' : CheckOptions}

theorem findings_regrade (severity : Severity) (line : Line) :
    s.findings { options with unknownKeySeverity := severity } line =
      (s.findings options line).map (Finding.regrade severity) := by
  unfold findings
  split
  · rfl
  split
  · rfl
  · split
    · rfl
    · extract_lets value
      split
      · exact knownFindings_regrade severity
      · rfl

theorem findings_of_mutes (h : options.Mutes options') (line : Line) :
    s.findings options' line =
      (s.findings options line).filter fun f => f.1.code ≠ .platformMismatch := by
  unfold findings
  split
  · rfl
  split
  · rfl
  · split
    · rw [h.severity]
      rfl
    · extract_lets value
      split
      · exact knownFindings_of_mutes h
      · rfl

/-! ## Many lines -/

theorem diagnosticsOf_regrade (severity : Severity) (lines : List Line) :
    s.diagnosticsOf { options with unknownKeySeverity := severity } lines =
      (s.diagnosticsOf options lines).map (Diagnostic.regrade severity) := by
  have hline : s.foundAt { options with unknownKeySeverity := severity } =
      fun line => (s.foundAt options line).map (Diagnostic.regrade severity) := by
    funext line
    rw [foundAt_eq_map, foundAt_eq_map, findings_regrade, List.map_map, List.map_map]
    exact List.map_congr_left fun f _ => line.place_regrade severity f
  have hrepeated : (s.checkDuplicates lines).map (Diagnostic.regrade severity) =
      s.checkDuplicates lines := by
    refine (List.map_congr_left fun d hd => ?_).trans (List.map_id' _)
    rw [Diagnostic.regrade, code_of_mem_checkDuplicates hd]
    rfl
  rw [diagnosticsOf, diagnosticsOf, hline, List.map_append, List.map_flatMap, hrepeated]

theorem diagnosticsOf_of_mutes (h : options.Mutes options') (lines : List Line) :
    s.diagnosticsOf options' lines = withoutHints (s.diagnosticsOf options lines) := by
  have hline : s.foundAt options' = fun line => withoutHints (s.foundAt options line) := by
    funext line
    rw [foundAt_eq_map, foundAt_eq_map, findings_of_mutes h, withoutHints,
      List.filter_map]
    rfl
  have hrepeated : withoutHints (s.checkDuplicates lines) = s.checkDuplicates lines := by
    rw [withoutHints, List.filter_eq_self]
    intro d hd
    simp [code_of_mem_checkDuplicates hd]
  calc s.diagnosticsOf options' lines
      = lines.flatMap (fun line => withoutHints (s.foundAt options line)) ++
          s.checkDuplicates lines := by rw [diagnosticsOf, hline]
    _ = withoutHints (lines.flatMap (s.foundAt options)) ++
          withoutHints (s.checkDuplicates lines) := by
        rw [hrepeated, withoutHints, List.filter_flatMap]
        rfl
    _ = withoutHints (s.diagnosticsOf options lines) := (List.filter_append _ _).symm

/-- What other choices make of the diagnostics of lines, they make of those of a document. -/
theorem diagnostics_of_choices {f : List Diagnostic → List Diagnostic}
    (henabled : options'.enabled = options.enabled) (hnil : f [] = [])
    (hlines : ∀ lines, s.diagnosticsOf options' lines = f (s.diagnosticsOf options lines))
    (text : Text) :
    (s.checkDocument options' text).diagnostics = f (s.checkDocument options text).diagnostics := by
  cases enabled : options.enabled with
  | false =>
    rw [diagnostics_of_disabled enabled, diagnostics_of_disabled (henabled.trans enabled), hnil]
  | true =>
    rw [diagnostics_of_enabled enabled, diagnostics_of_enabled (henabled.trans enabled), hlines]

theorem checkDocument_regrade (severity : Severity) (text : Text) :
    (s.checkDocument { options with unknownKeySeverity := severity } text).diagnostics =
      (s.checkDocument options text).diagnostics.map (Diagnostic.regrade severity) := by
  apply diagnostics_of_choices (f := fun ds => ds.map (Diagnostic.regrade severity))
  · rfl
  · rfl
  · exact diagnosticsOf_regrade severity

theorem checkDocument_of_mutes (h : options.Mutes options') (text : Text) :
    (s.checkDocument options' text).diagnostics =
      withoutHints (s.checkDocument options text).diagnostics := by
  apply diagnostics_of_choices h.enabled
  · rfl
  · exact diagnosticsOf_of_mutes h

end

/-- Each choice of a host affects its own diagnostics only. Another severity for unknown keys is that
    of the diagnostics about them, all else staying position by position. Without hints, or without a
    platform, the diagnostics are those there were but the ones about platforms. Between any two
    platforms only these differ. -/
theorem checkDocument_choices [Interpreter] (s : Schema) (options : CheckOptions) (text : Text) :
    (∀ severity,
      (s.checkDocument { options with unknownKeySeverity := severity } text).diagnostics =
        (s.checkDocument options text).diagnostics.map (Diagnostic.regrade severity)) ∧
    (s.checkDocument { options with platformHints := false } text).diagnostics =
      withoutHints (s.checkDocument options text).diagnostics ∧
    (s.checkDocument { options with platform := none } text).diagnostics =
      withoutHints (s.checkDocument options text).diagnostics ∧
    ∀ platform platform',
      withoutHints (s.checkDocument { options with platform := platform } text).diagnostics =
        withoutHints (s.checkDocument { options with platform := platform' } text).diagnostics := by
  refine ⟨fun severity => checkDocument_regrade severity text,
    checkDocument_of_mutes options.mutes_hints text,
    checkDocument_of_mutes options.mutes_platform text, fun platform platform' => ?_⟩
  -- without their platforms the two choices are one
  have hone := checkDocument_of_mutes (s := s)
    { options with platform := platform }.mutes_platform text
  have hother := checkDocument_of_mutes (s := s)
    { options with platform := platform' }.mutes_platform text
  rw [← hone, ← hother]

end Schema
end ConfigLint
