import ConfigLint.Proofs.LineFindings
/-!
Where diagnostics point. `Marks` says which part of its line a diagnostic is about, by its code,
and how the messages about keys quote the key.

What is proved:
  1. `holdsAt_keySpan`, `holdsAt_valueSpan` and `holdsAt_wholeSpan`: the spans of a line hold its
     key, its value and all of it, and none of them is empty where it is used.
  2. `checkDocument_marks`: every diagnostic of a document stands at one of its lines and marks a
     part of that line which is not empty.
-/
namespace ConfigLint
open Text

/-- The characters of a text from offset `start` up to, not including, offset `stop`. -/
def Text.slice (t : Text) (start stop : Nat) : Text := (t.take stop).drop start

theorem Text.slice_middle (front middle back : Text) :
    (front ++ middle ++ back).slice front.length (front ++ middle).length = middle := by
  rw [Text.slice, List.take_left, List.drop_left]

/-- The span holds `part`, which is not empty, and lies within the line. -/
def HoldsAt (line : Line) (span : Option Span) (part : Text) : Prop :=
  ∃ start stop : Nat, span.getD line.wholeSpan = ⟨start, stop⟩ ∧ start < stop ∧
    stop ≤ line.raw.length ∧ line.raw.slice start stop = part

/-- The line sets `key`, which its text and what was read of it agree on. -/
def HasKey (line : Line) (key : Text) : Prop :=
  line.key = some key ∧ ∃ value, Assigns line.raw key value

/-- What a diagnostic marks of a line, by its code: the whole line, all that follows its first
    separator, or its key, which the message then quotes. -/
def Marks (line : Line) (part : Text) (d : Diagnostic) : Prop :=
  match d.code with
  | .invalidLine => part = line.raw
  | .invalidValue => ∃ sep, IsFirstSeparator line.raw sep ∧ part = line.raw.drop (sep + 1)
  | .unknownKey => HasKey line part ∧
      d.message = "Unknown configuration key: '".toList ++ part ++ "'".toList
  | .deprecatedKey => HasKey line part ∧
      d.message = "'".toList ++ part ++
        "' is deprecated and may be removed in future versions".toList
  | .platformMismatch => HasKey line part ∧ ∃ rest : CodeText,
      d.message = CodeText.ofText ("'".toList ++ part ++ "' is only available on ".toList) ++ rest
  | .duplicateKey => HasKey line part ∧ ∃ first : Int,
      d.message = "Duplicate key '".toList ++ part ++ "' (first defined on line ".toList ++
        Text.ofInt first ++ ")".toList

/-! ## The spans of a line -/

namespace IsAssignment
variable {raw lead key gap value : Text}

theorem slice_key (h : IsAssignment raw lead key gap value) :
    raw.slice lead.length (lead.length + key.length) = key := by
  rw [h.text, List.append_assoc, ← List.length_append]
  exact Text.slice_middle lead key _

/-- Between the key and the value stand white space and the separator. -/
theorem slice_gap (h : IsAssignment raw lead key gap value) :
    raw.slice (lead ++ key).length ((lead ++ key ++ gap).length + 1) = gap ++ ['='] := by
  have htext : raw = lead ++ key ++ (gap ++ ['=']) ++ value := by
    rw [h.text]
    simp
  have hlength : (lead ++ key ++ gap).length + 1 = (lead ++ key ++ (gap ++ ['='])).length := by
    simp
    omega
  rw [htext, hlength]
  exact Text.slice_middle (lead ++ key) (gap ++ ['=']) value

theorem slice_value (h : IsAssignment raw lead key gap value) :
    raw.slice ((lead ++ key ++ gap).length + 1) raw.length = value := by
  rw [Text.slice, List.take_length]
  exact h.drop_eq

end IsAssignment

section
variable {raw key value : Text}

theorem Assigns.read_eq (sets : Assigns raw key value) (number : Int) :
    ∃ lead gap, IsAssignment raw lead key gap value ∧
      Line.read raw number = Line.assigned raw lead key gap value number := by
  obtain ⟨noComment, lead, gap, hassign⟩ := sets
  exact ⟨lead, gap, hassign, Line.read_of_isAssignment noComment hassign number⟩

theorem holdsAt_keySpan (sets : Assigns raw key value) (number : Int) :
    HoldsAt (Line.read raw number) (Line.read raw number).keySpan key := by
  obtain ⟨lead, gap, hassign, hread⟩ := sets.read_eq number
  have hpos : 0 < key.length := List.length_pos_iff.2 hassign.key_ne
  have hlength := hassign.length_eq
  rw [hread]
  refine ⟨lead.length, lead.length + key.length, rfl, by omega, ?_, hassign.slice_key⟩
  simp only [Line.assigned]
  omega

theorem holdsAt_valueSpan (sets : Assigns raw key value) (visible : ¬ IsBlankText value)
    (number : Int) :
    HoldsAt (Line.read raw number) (Line.read raw number).valueSpan value := by
  obtain ⟨lead, gap, hassign, hread⟩ := sets.read_eq number
  have hpos := length_pos_of_not_blank visible
  have hlength := hassign.length_eq
  rw [hread]
  refine ⟨(lead ++ key ++ gap).length + 1, raw.length, ?_, ?_, le_rfl, hassign.slice_value⟩
  · simp only [Line.assigned, Option.getD_some, List.length_append]
    rfl
  · simp only [List.length_append]
    omega

theorem holdsAt_wholeSpan (visible : ¬ IsBlankText raw) (number : Int) :
    HoldsAt (Line.read raw number) none raw := by
  refine ⟨0, raw.length, ?_, length_pos_of_not_blank visible, ?_, ?_⟩
  · simp [Line.wholeSpan, Line.read_raw]
  · rw [Line.read_raw]
  · rw [Line.read_raw, Text.slice, List.take_length, List.drop_zero]

theorem Assigns.hasKey (sets : Assigns raw key value) (number : Int) :
    HasKey (Line.read raw number) key := by
  obtain ⟨lead, gap, -, hread⟩ := sets.read_eq number
  refine ⟨by rw [hread]; rfl, value, ?_⟩
  rw [Line.read_raw]
  exact sets

end

/-! ## What findings mark -/

/-- A finding that is due about a line marks its part of it. -/
theorem Due.marks [Interpreter] {s : Schema} {options : CheckOptions} {raw : Text} {f : Finding}
    {severity : Severity} (h : Due s options raw f severity) (number : Int) :
    ∃ part, HoldsAt (Line.read raw number) (f.span (Line.read raw number)) part ∧
      Marks (Line.read raw number) part (f.diagnostic severity (Line.read raw number)
        (f.span (Line.read raw number))) := by
  cases h with
  | invalidLine visible _ _ =>
    exact ⟨raw, holdsAt_wholeSpan visible number, (Line.read_raw raw number).symm⟩
  | @unknownKey key _ sets _ =>
    refine ⟨key, holdsAt_keySpan sets number, sets.hasKey number, ?_⟩
    simp [Finding.diagnostic, Finding.message, ValueProblem.inQuotes, CodeText.ofText]
  | @deprecatedKey key _ _ sets _ _ _ =>
    refine ⟨key, holdsAt_keySpan sets number, sets.hasKey number, ?_⟩
    simp [Finding.diagnostic, Finding.message, ValueProblem.inQuotes, CodeText.ofText]
  | @platformMismatch key _ o current sets _ _ _ _ _ _ =>
    refine ⟨key, holdsAt_keySpan sets number, sets.hasKey number,
      CodeText.join ", ".toList o.platforms ++
        CodeText.ofText (" (current: ".toList ++ current.name ++ [')']), ?_⟩
    simp [Finding.diagnostic, Finding.message, ValueProblem.inQuotes, CodeText.ofText]
  | @invalidValue key value _ _ _ sets _ visible _ _ =>
    refine ⟨value, holdsAt_valueSpan sets visible number, ?_⟩
    obtain ⟨-, lead, gap, hassign⟩ := sets
    refine ⟨(lead ++ key ++ gap).length, ?_, ?_⟩
    · rw [Line.read_raw]
      exact hassign.first
    · rw [Line.read_raw, hassign.drop_eq]

namespace Schema

theorem assigns_of_key? {raw key : Text} {number : Int}
    (h : (Line.read raw number).key? = some key) : ∃ value, Assigns raw key value := by
  obtain ⟨hkind, hkey, -⟩ := Line.key?_eq_some.1 h
  rcases Line.read_cases raw number with ⟨-, hread⟩ | ⟨-, -, hread⟩ |
    ⟨noComment, lead, key', gap, value, hassign, hread⟩ | ⟨-, -, -, hread⟩ <;>
    rw [hread] at hkind hkey
  · cases hkind
  · cases hkind
  · cases hkey
    exact ⟨value, noComment, lead, gap, hassign⟩
  · cases hkind

theorem marks_of_duplicate {raw key : Text} {number : Int} (first : Int)
    (h : (Line.read raw number).key? = some key) :
    ∃ part, HoldsAt (Line.read raw number) (Line.read raw number).keySpan part ∧
      Marks (Line.read raw number) part ((Finding.duplicateKey key first).diagnostic .warning
        (Line.read raw number) (Line.read raw number).keySpan) := by
  obtain ⟨value, sets⟩ := assigns_of_key? h
  refine ⟨key, holdsAt_keySpan sets number, sets.hasKey number, first + 1, ?_⟩
  simp [Finding.diagnostic, Finding.message, ValueProblem.inQuotes, CodeText.ofText]

/-- Every diagnostic of a document is that of a finding about one of its lines, and marks a part
    of the line. -/
theorem exists_finding [Interpreter] {s : Schema} {options : CheckOptions} {text : Text}
    {d : Diagnostic} (h : d ∈ (s.checkDocument options text).diagnostics) :
    ∃ (i : Nat) (line : Line) (f : Finding) (severity : Severity) (span : Option Span) (part : Text),
      (readDocument text)[i]? = some line ∧ line.number = i ∧
      d = f.diagnostic severity line span ∧ HoldsAt line span part ∧ Marks line part d := by
  -- without checks there are no diagnostics, with them there are two sorts
  have hparts : d ∈ (readDocument text).flatMap (s.foundAt options) ∨
      d ∈ s.checkDuplicates (readDocument text) := by
    rw [← List.mem_append]
    cases henabled : options.enabled with
    | false => simp [checkDocument, henabled] at h
    | true =>
      simp only [checkDocument, henabled, Bool.not_true, Bool.false_eq_true, if_false] at h
      exact h
  rcases hparts with hd | hd
  · obtain ⟨line, hline, hd⟩ := List.mem_flatMap.1 hd
    obtain ⟨i, hi⟩ := List.mem_iff_getElem?.1 hline
    obtain ⟨raw, -, rfl⟩ := getElem?_readDocument.1 hi
    obtain ⟨f, severity, hdue, rfl⟩ := (mem_foundAt s options raw i d).1 hd
    obtain ⟨part, hholds, hmarks⟩ := hdue.marks i
    exact ⟨i, _, f, severity, _, part, hi, Line.read_number raw i, rfl, hholds, hmarks⟩
  · obtain ⟨line, hline, key, first, hkey, rfl⟩ := mem_checkDuplicates hd
    obtain ⟨i, hi⟩ := List.mem_iff_getElem?.1 hline
    obtain ⟨raw, -, rfl⟩ := getElem?_readDocument.1 hi
    obtain ⟨part, hholds, hmarks⟩ := marks_of_duplicate first hkey
    exact ⟨i, _, _, _, _, part, hi, Line.read_number raw i, rfl, hholds, hmarks⟩

/-- Every diagnostic of a document stands at one of its lines, and its offsets enclose characters
    of that line: those that its code is about. -/
theorem checkDocument_marks [Interpreter] (s : Schema) (options : CheckOptions) (text : Text)
    (d : Diagnostic) (hd : d ∈ (s.checkDocument options text).diagnostics) :
    ∃ (i : Nat) (line : Line) (start stop : Nat), (readDocument text)[i]? = some line ∧
      d.line = i ∧ d.start = start ∧ d.stop = stop ∧ start < stop ∧ stop ≤ line.raw.length ∧
      Marks line (line.raw.slice start stop) d := by
  obtain ⟨i, line, f, severity, span, part, hi, hnumber, hdiagnostic,
    ⟨start, stop, hspan, hlt, hle, rfl⟩, hmarks⟩ := exists_finding hd
  have hstart : d.start = (span.getD line.wholeSpan).start := by rw [hdiagnostic]; rfl
  have hstop : d.stop = (span.getD line.wholeSpan).stop := by rw [hdiagnostic]; rfl
  have hline : d.line = line.number := by rw [hdiagnostic]; rfl
  rw [hspan] at hstart hstop
  exact ⟨i, line, start, stop, hi, hline.trans hnumber, hstart, hstop, hlt, hle, hmarks⟩

/-- A key with an escaped equals sign, behind white space and in front of more of it. -/
theorem checkDocument_marks_escaped :
    let d : Diagnostic :=
      { line := 0
        start := 2
        stop := 6
        message := "Unknown configuration key: 'a\\=b'".toList
        severity := .warning
        code := .unknownKey }
    d ∈ (Schema.checkDocument {} {} "  a\\=b = 1".toList).diagnostics ∧
      ∃ (i : Nat) (line : Line) (start stop : Nat),
        (readDocument "  a\\=b = 1".toList)[i]? = some line ∧ d.line = i ∧ d.start = start ∧
        d.stop = stop ∧ start < stop ∧ stop ≤ line.raw.length ∧
        Marks line (line.raw.slice start stop) d := by
  intro d
  have hd : d ∈ (Schema.checkDocument {} {} "  a\\=b = 1".toList).diagnostics := by decide +kernel
  exact ⟨hd, checkDocument_marks {} {} _ d hd⟩

end Schema
end ConfigLint
