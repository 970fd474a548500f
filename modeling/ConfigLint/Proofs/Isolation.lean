import ConfigLint.Proofs.Composition
/-!
Lines whose check fails. The check of such a line has no verdict, and what it found up to there is given
up. The line still sets its key, so it takes part in the search for repeated keys, and there is one
record about it.

What is proved:
  1. `flatMap_foundAt_silenced`: what is found about the lines of a document by themselves is what is
     found with a comment in the place of every line that fails.
  2. `isSilenced_silence`: every text has such a copy.
  3. `pairwise_failures` and `mem_failures`: the failures of a document stand in the order of its lines,
     one for each line that fails.
  4. `checkDocument_isolates`: all of this about the report of a document, its records included.
-/
namespace ConfigLint
open Text

section
variable [Interpreter]

def FailsAt (s : Schema) (options : CheckOptions) (text : Text) (i : Nat) : Prop :=
  ∃ line fault, (readDocument text)[i]? = some line ∧ s.checkLine options line = .error fault

/-- `text'` is `text` with a comment in the place of every line whose check fails. -/
structure IsSilenced (s : Schema) (options : CheckOptions) (text text' : Text) : Prop where
  length : text'.lines.length = text.lines.length
  silenced : ∀ i raw, FailsAt s options text i → text'.lines[i]? = some raw → IsComment raw
  same : ∀ i, ¬ FailsAt s options text i → text'.lines[i]? = text.lines[i]?

namespace Schema

section
variable {s : Schema} {options : CheckOptions} {text text' : Text}

/-! ## Silenced lines -/

theorem foundAt_of_error {line : Line} {fault : CheckFault}
    (h : s.checkLine options line = .error fault) : s.foundAt options line = [] := by
  rw [foundAt, h]
  rfl

theorem foundAt_of_comment {raw : Text} (h : IsComment raw) (number : Int) :
    s.foundAt options (Line.read raw number) = [] := by
  obtain ⟨hkind, hkey⟩ := read_of_mute (.inr h) number
  exact foundAt_of_no_key hkind hkey

/-- Nothing is found about a line that fails, and no more about a comment. -/
theorem flatMap_foundAt_silenced (h : IsSilenced s options text text') :
    (readDocument text').flatMap (s.foundAt options) =
      (readDocument text).flatMap (s.foundAt options) := by
  have hmap : (readDocument text').map (s.foundAt options) =
      (readDocument text).map (s.foundAt options) := by
    apply List.ext_getElem?
    intro i
    rw [List.getElem?_map, List.getElem?_map]
    by_cases hfails : FailsAt s options text i
    · -- line `i` is there in both texts, and nothing is found about it in either
      obtain ⟨line, fault, hline, hcheck⟩ := hfails
      obtain ⟨raw, hraw, -⟩ := getElem?_readDocument.1 hline
      have hlt : i < text'.lines.length := h.length ▸ (List.getElem?_eq_some_iff.1 hraw).1
      have hraw' : text'.lines[i]? = some text'.lines[i] := List.getElem?_eq_getElem hlt
      have hcomment := h.silenced i _ ⟨line, fault, hline, hcheck⟩ hraw'
      rw [hline, getElem?_readDocument_eq_map, hraw', Option.map_some, Option.map_some,
        Option.map_some, foundAt_of_error hcheck, foundAt_of_comment hcomment]
    · rw [getElem?_readDocument_eq_map, getElem?_readDocument_eq_map, h.same i hfails]
  rw [List.flatMap_def, List.flatMap_def, hmap]

/-- A comment if the check of line `i` fails, and otherwise the line. -/
def silenceLine (s : Schema) (options : CheckOptions) (i : Nat) (raw : Text) : Text :=
  match s.checkLine options (Line.read raw i) with
  | .ok _ => raw
  | .error _ => ['#']

/-- A copy of the text with a comment in the place of every line whose check fails. The mark in front
    is there for a first line that starts with one. -/
def silence (s : Schema) (options : CheckOptions) (text : Text) : Text :=
  byteOrderMark :: join ['\n'] (text.lines.mapIdx (s.silenceLine options))

theorem onOneLine_silenceLine {i : Nat} {raw : Text} (h : OnOneLine raw) :
    OnOneLine (s.silenceLine options i raw) := by
  unfold silenceLine
  split
  · exact h
  · exact ⟨by decide, by decide⟩

theorem lines_silence (s : Schema) (options : CheckOptions) (text : Text) :
    (s.silence options text).lines = text.lines.mapIdx (s.silenceLine options) := by
  refine lines_mark_join ?_ ?_
  · rw [ne_eq, List.mapIdx_eq_nil_iff]
    exact lines_ne_nil text
  · intro raw hraw
    obtain ⟨i, hi, rfl⟩ := List.mem_mapIdx.1 hraw
    exact onOneLine_silenceLine (onOneLine_of_mem_lines (List.getElem_mem hi))

theorem failsAt_iff {i : Nat} {raw : Text} (hraw : text.lines[i]? = some raw) :
    FailsAt s options text i ↔ ∃ fault, s.checkLine options (Line.read raw i) = .error fault := by
  simp only [FailsAt, getElem?_readDocument_eq_map, hraw, Option.map_some, Option.some.injEq]
  constructor
  · rintro ⟨_, fault, rfl, hcheck⟩
    exact ⟨fault, hcheck⟩
  · rintro ⟨fault, hcheck⟩
    exact ⟨_, fault, rfl, hcheck⟩

theorem isSilenced_silence (s : Schema) (options : CheckOptions) (text : Text) :
    IsSilenced s options text (s.silence options text) := by
  have hlines : ∀ i : Nat, (s.silence options text).lines[i]? =
      text.lines[i]?.map (s.silenceLine options i) := by
    intro i
    rw [lines_silence, List.getElem?_mapIdx]
  refine ⟨by rw [lines_silence, List.length_mapIdx], ?_, ?_⟩
  · intro i raw' hfails hraw'
    rw [hlines] at hraw'
    obtain ⟨raw, hraw, rfl⟩ := Option.map_eq_some_iff.1 hraw'
    obtain ⟨fault, hcheck⟩ := (failsAt_iff hraw).1 hfails
    rw [silenceLine, hcheck]
    exact ⟨[], [], rfl, isBlankText_nil⟩
  · intro i hfails
    rw [hlines]
    cases hraw : text.lines[i]? with
    | none => rfl
    | some raw =>
      rw [Option.map_some, silenceLine]
      split
      · rfl
      · next fault hcheck => exact absurd ((failsAt_iff hraw).2 ⟨fault, hcheck⟩) hfails

/-! ## Failures -/

/-- The number of a line whose check fails, and why it does. -/
def failure? (s : Schema) (options : CheckOptions) (line : Line) : Option (Int × CheckFault) :=
  match s.checkLine options line with
  | .ok _ => none
  | .error fault => some (line.number, fault)

/-- The numbers of the lines whose checks fail, and why they do. -/
def failures (s : Schema) (options : CheckOptions) (lines : List Line) : List (Int × CheckFault) :=
  lines.filterMap (s.failure? options)

theorem failure?_eq_some {line : Line} {row : Int × CheckFault} :
    s.failure? options line = some row ↔
      row.1 = line.number ∧ s.checkLine options line = .error row.2 := by
  obtain ⟨number, fault⟩ := row
  rw [failure?]
  cases s.checkLine options line <;> simp [eq_comm]

theorem skippedLines_eq (s : Schema) (options : CheckOptions) (lines : List Line) :
    s.skippedLines options lines =
      (s.failures options lines).map fun row => .skippedLine row.1 row.2 := by
  rw [skippedLines, failures, List.map_filterMap]
  apply List.filterMap_congr
  intro line _
  rw [failure?]
  cases s.checkLine options line <;> rfl

theorem mem_failures {number : Int} {fault : CheckFault} :
    (number, fault) ∈ s.failures options (readDocument text) ↔ ∃ (i : Nat) (line : Line),
      number = i ∧ (readDocument text)[i]? = some line ∧ s.checkLine options line = .error fault := by
  rw [failures, List.mem_filterMap]
  constructor
  · rintro ⟨line, hline, hrow⟩
    obtain ⟨rfl, hcheck⟩ := failure?_eq_some.1 hrow
    obtain ⟨i, hi⟩ := List.mem_iff_getElem?.1 hline
    obtain ⟨raw, -, hread⟩ := getElem?_readDocument.1 hi
    exact ⟨i, line, by rw [hread, Line.read_number], hi, hcheck⟩
  · rintro ⟨i, line, rfl, hi, hcheck⟩
    obtain ⟨raw, -, hread⟩ := getElem?_readDocument.1 hi
    have hnumber : (i : Int) = line.number := by rw [hread, Line.read_number]
    exact ⟨line, List.mem_of_getElem? hi, failure?_eq_some.2 ⟨hnumber, hcheck⟩⟩

theorem pairwise_failures (s : Schema) (options : CheckOptions) (text : Text) :
    (s.failures options (readDocument text)).Pairwise fun row row' => row.1 < row'.1 := by
  rw [failures, List.pairwise_filterMap]
  refine (pairwise_readDocument text).imp fun {line line'} hlt row hrow row' hrow' => ?_
  rw [(failure?_eq_some.1 hrow).1, (failure?_eq_some.1 hrow').1]
  exact hlt

end

/-! ## Whole documents -/

theorem duplicates_of_enabled {options : CheckOptions} (enabled : options.enabled = true) (s : Schema)
    (text : Text) :
    (s.checkDocument options text).diagnostics.filter (fun d => d.code = .duplicateKey) =
      s.checkDuplicates (readDocument text) := by
  have hfound : ((readDocument text).flatMap (s.foundAt options)).filter
      (fun d => d.code = .duplicateKey) = [] := by
    rw [List.filter_eq_nil_iff]
    intro d hd
    obtain ⟨line, -, hd⟩ := List.mem_flatMap.1 hd
    simpa using code_of_mem_foundAt hd
  have hrepeated : (s.checkDuplicates (readDocument text)).filter
      (fun d => d.code = .duplicateKey) = s.checkDuplicates (readDocument text) := by
    rw [List.filter_eq_self]
    intro d hd
    simpa using code_of_mem_checkDuplicates hd
  rw [diagnostics_of_enabled enabled, diagnosticsOf, List.filter_append, hfound, hrepeated,
    List.nil_append]

theorem log_of_enabled {options : CheckOptions} (enabled : options.enabled = true) (s : Schema)
    (text : Text) :
    (s.checkDocument options text).log =
      (s.failures options (readDocument text)).map (fun row => .skippedLine row.1 row.2) ++
        [.checkedDocument (readDocument text).length
          (s.checkDocument options text).diagnostics.length] := by
  rw [← skippedLines_eq]
  simp only [checkDocument, enabled, Bool.not_true, Bool.false_eq_true, if_false]

/-- A line whose check fails is skipped, and nothing else changes. The diagnostics but those of repeated
    keys are the ones of the text with a comment in the place of every such line. Repeated keys are
    reported of all lines, the skipped ones among them. The records are one error for each skipped line,
    in the order of the lines and with the number of the line, and then one summary. -/
theorem checkDocument_isolates (s : Schema) (options : CheckOptions) (text : Text)
    (enabled : options.enabled = true) :
    let report := s.checkDocument options text
    (∃ text', IsSilenced s options text text') ∧
    (∀ text', IsSilenced s options text text' →
      unrepeated report.diagnostics = unrepeated (s.checkDocument options text').diagnostics) ∧
    report.diagnostics.filter (fun d => d.code = .duplicateKey) =
      s.checkDuplicates (readDocument text) ∧
    ∃ rows : List (Int × CheckFault), rows.Pairwise (fun row row' => row.1 < row'.1) ∧
      (∀ number fault, (number, fault) ∈ rows ↔ ∃ (i : Nat) (line : Line), number = i ∧
        (readDocument text)[i]? = some line ∧ s.checkLine options line = .error fault) ∧
      report.log = rows.map (fun row => LogEvent.skippedLine row.1 row.2) ++
        [.checkedDocument (readDocument text).length report.diagnostics.length] ∧
      report.log.map (fun e => (e.level, e.message)) =
        rows.map (fun row => (LogLevel.error, CodeText.ofText ("Skipping line ".toList ++
          Text.ofInt row.1 ++ " after an unexpected error".toList))) ++
        [(LogLevel.debug, CodeText.ofText ("Validated ".toList ++
          Text.ofNat (readDocument text).length ++ " lines: ".toList ++
          Text.ofNat report.diagnostics.length ++ " diagnostics".toList))] := by
  intro report
  have hlog := log_of_enabled enabled s text
  refine ⟨⟨_, isSilenced_silence s options text⟩, ?_, duplicates_of_enabled enabled s text,
    s.failures options (readDocument text), pairwise_failures s options text,
    fun number fault => mem_failures, hlog, ?_⟩
  · intro text' h
    rw [diagnostics_of_enabled enabled, diagnostics_of_enabled enabled, unrepeated_diagnosticsOf,
      unrepeated_diagnosticsOf, flatMap_foundAt_silenced h]
  · rw [hlog, List.map_append, List.map_map]
    simp [LogEvent.level, LogEvent.message, CodeText.ofText, report]

end Schema
end

namespace Schema

/-- A schema with two deprecated options. No check of the first one has a verdict, as the pattern of its
    type repeats a character more often than any pattern may. -/
def doomed : Schema :=
  { options := .ofList [
      ("k".toList, { type := "p".toList, deprecated := true }),
      ("n".toList, { type := "number".toList, deprecated := true })]
    types := .ofList [
      ("p".toList, { pattern := some ("a\x7b4294967295\x7d".toList : CodeText) })] }

/-- Two lines whose checks fail, and one between them with findings. Only that one is reported as
    deprecated, and still the last line repeats a key. -/
theorem checkDocument_isolates_doomed :
    let text := "k = b\nn = x\nk = c".toList
    let text' := "\ufeff#\nn = x\n#".toList
    let report := doomed.checkDocument {} text
    ({} : CheckOptions).enabled = true ∧ IsSilenced doomed {} text text' ∧
    report.diagnostics.map (fun d => (d.line, d.code)) =
      [(1, .deprecatedKey), (1, .invalidValue), (2, .duplicateKey)] ∧
    unrepeated report.diagnostics = unrepeated (doomed.checkDocument {} text').diagnostics ∧
    report.diagnostics.filter (fun d => d.code = .duplicateKey) =
      doomed.checkDuplicates (readDocument text) ∧
    report.log = [.skippedLine 0 .repeatTooLarge, .skippedLine 2 .repeatTooLarge,
      .checkedDocument 3 3] := by
  intro text text' report
  have enabled : ({} : CheckOptions).enabled = true := rfl
  have hsilence : doomed.silence {} text = text' := by decide +kernel
  have hsilenced : IsSilenced doomed {} text text' := hsilence ▸ isSilenced_silence doomed {} text
  have hfound : report.diagnostics.map (fun d => (d.line, d.code)) =
      [(1, .deprecatedKey), (1, .invalidValue), (2, .duplicateKey)] := by decide +kernel
  have hlog : report.log = [.skippedLine 0 .repeatTooLarge, .skippedLine 2 .repeatTooLarge,
      .checkedDocument 3 3] := by decide +kernel
  obtain ⟨-, hsame, hrepeated, -⟩ := checkDocument_isolates doomed {} text enabled
  exact ⟨enabled, hsilenced, hfound, hsame text' hsilenced, hrepeated, hlog⟩

end Schema
end ConfigLint
