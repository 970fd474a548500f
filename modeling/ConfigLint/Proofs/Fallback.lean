import ConfigLint.Libraries.Own
import ConfigLint.Proofs.Building
import ConfigLint.Proofs.FileTree
import ConfigLint.Proofs.LineEnds
import ConfigLint.Workspace
/-!
Falling back to an empty schema. Two entry points promise to give a schema whatever their path
leads to: the reading that falls back, and the handle. `Degrades` says what they and the strict
reading promise, and `Stops` where the promise is broken: the path has a null character, or a library
raises something else than the faults that it promises.

What is proved of any libraries:
  1. `readSource_eq_ok` and `readSource_eq_raised`: reading a path gives the schema that the path
     holds, or stops where `Stops` says, or is refused.
  2. `degrades_iff`: the promise is kept exactly where nothing stops the reading. What stops it
     comes out of all three entry points.
What is proved of those that are defined here:
  3. `not_degrades_badDate`: there are artifacts that stop the reading.
  4. `Stops.blamed`: what stops it is to be blamed on the path, on an escape, or on a culprit among
     the nodes of the artifact.
-/
namespace ConfigLint
namespace Workspace

def warnings (log : List LogEvent) : List LogEvent := log.filter fun e => e.level = .warning

section
variable [Libraries]

/-- The path leads to the artifact of a schema: a file in UTF-8, not too long, that parses to a
    mapping which types as the schema. -/
def Holds (w : Workspace) (given : Text) (s : Schema) : Prop :=
  '\x00' ∉ given ∧ ∃ t data, w.files.readText (.ofText given) = .ok t ∧
    t.length ≤ maxArtifactLength ∧ Libraries.parse t = .ok data ∧
    Libraries.isMapping data = true ∧ Libraries.validate data = .ok s

/-- Parsing or typing the text of an artifact raises something unpromised. -/
inductive Raises (t : Text) : Raised → Prop where
  | parse {e : Raised} (short : t.length ≤ maxArtifactLength)
      (raised : Libraries.parse t = .error (.raised e)) : Raises t e
  | validate {data : Libraries.Parsed} {e : Raised} (short : t.length ≤ maxArtifactLength)
      (parsed : Libraries.parse t = .ok data) (mapping : Libraries.isMapping data = true)
      (raised : Libraries.validate data = .error (.raised e)) : Raises t e

/-- The reading of a path stops: the path has a null character, or its artifact raises something. -/
inductive Stops (w : Workspace) (given : Text) : Raised → Prop where
  | path (null : '\x00' ∈ given) : Stops w given .nullInPath
  | artifact {t : Text} {e : Raised} (noNull : '\x00' ∉ given)
      (file : w.files.readText (.ofText given) = .ok t) (raises : Raises t e) : Stops w given e

/-- A load ends well: with the schema that the path holds and no warning, or, where it holds none,
    with the empty schema and one warning. -/
def EndsWell (w : Workspace) (given : Text) (result : Except LoadFault SchemaInstance)
    (log : List LogEvent) : Prop :=
  ∃ i, result = .ok i ∧
    ((w.Holds given i.schema ∧ warnings log = []) ∨
      ((∀ s, ¬ w.Holds given s) ∧ i.schema = Schema.fallback ∧ (warnings log).length = 1))

/-- What the entry points promise about a path. -/
structure Degrades (w : Workspace) (given : Text) : Prop where
  /-- The strict reading gives the schema that the path holds, or refuses it if it holds none. -/
  strict : (∃ i, (w.readSchema (.ofText given)).result = .ok i ∧ w.Holds given i.schema) ∨
    ∃ r, (w.readSchema (.ofText given)).result = .error (.refused r) ∧ ∀ s, ¬ w.Holds given s
  /-- The reading that falls back ends well. -/
  direct : w.EndsWell given (w.readOrFallBack given).result (w.readOrFallBack given).log
  /-- A new handle ends well. -/
  handle : w.EndsWell given (w.fetch (.onSource (some (.ofText given)))).result
    (w.fetch (.onSource (some (.ofText given)))).log

end

/-! ## Reading a path -/

/-- The steps of a path hold a null character if its text does. -/
theorem hasNull_ofText {t : Text} : (Path.ofText t).hasNull = true ↔ '\x00' ∈ t := by
  have hslash : '\x00' ≠ '/' := by decide
  have hparts := Text.mem_splitOn '\x00' '/' t
  rw [and_iff_right hslash] at hparts
  rw [← hparts, Path.hasNull, List.any_eq_true]
  simp only [Path.ofText, List.mem_filter, List.contains_iff_mem]
  constructor
  · rintro ⟨step, ⟨hstep, -⟩, hnull⟩
    exact ⟨step, hstep, hnull⟩
  · rintro ⟨part, hpart, hnull⟩
    refine ⟨part, ⟨hpart, ?_⟩, hnull⟩
    -- the steps that a path leaves out are empty or a point, and hold no null character
    have hne : part ≠ [] := List.ne_nil_of_mem hnull
    have hdot : part ≠ ['.'] := by
      rintro rfl
      revert hnull
      decide
    simp [Path.isStep, hne, hdot]

theorem hasNull_ofText_eq_false {t : Text} :
    (Path.ofText t).hasNull = false ↔ '\x00' ∉ t := by
  rw [← Bool.not_eq_true, hasNull_ofText]

section
variable [Libraries] {w : Workspace} {given : Text} {s : Schema} {e : Raised}

theorem ofArtifact_eq_ok {name t : Text} :
    Schema.ofArtifact name t = .ok s ↔ t.length ≤ maxArtifactLength ∧
      ∃ data, Libraries.parse t = .ok data ∧ Libraries.isMapping data = true ∧
        Libraries.validate data = .ok s := by
  unfold Schema.ofArtifact
  -- the checks in their order: the length, the format, the mapping, the typing
  by_cases hlong : maxArtifactLength < t.length
  · simp [hlong, Nat.not_le.2 hlong]
  rw [if_neg hlong, and_iff_right (Nat.not_lt.1 hlong)]
  cases hparse : Libraries.parse t with
  | error fault => cases fault <;> simp
  | ok data =>
    by_cases hmapping : Libraries.isMapping data = true
    · cases hvalidate : Libraries.validate data with
      | error fault => cases fault <;> simp [hmapping, hvalidate]
      | ok s' => simp [hmapping, hvalidate]
    · simp [hmapping]

theorem ofArtifact_eq_raised {name t : Text} :
    Schema.ofArtifact name t = .error (.raised e) ↔ Raises t e := by
  unfold Schema.ofArtifact
  constructor
  · intro h
    by_cases hlong : maxArtifactLength < t.length
    · simp [hlong] at h
    rw [if_neg hlong] at h
    have hshort := Nat.not_lt.1 hlong
    cases hparse : Libraries.parse t with
    | error fault =>
      rw [hparse] at h
      cases fault <;> cases h
      exact .parse hshort hparse
    | ok data =>
      by_cases hmapping : Libraries.isMapping data = true
      · simp only [hparse, hmapping, Bool.not_true, Bool.false_eq_true, if_false] at h
        cases hvalidate : Libraries.validate data with
        | error fault =>
          rw [hvalidate] at h
          cases fault <;> cases h
          exact .validate hshort hparse hmapping hvalidate
        | ok s' =>
          rw [hvalidate] at h
          cases h
      · simp [hparse, hmapping] at h
  · intro h
    cases h with
    | parse short raised => simp only [if_neg (Nat.not_lt.2 short), raised]
    | validate short parsed mapping raised =>
      simp only [if_neg (Nat.not_lt.2 short), parsed, mapping, raised, Bool.not_true,
        Bool.false_eq_true, if_false]

theorem readSource_of_readText {t : Text} (noNull : '\x00' ∉ given)
    (file : w.files.readText (.ofText given) = .ok t) :
    w.readSource (some (.ofText given)) = Schema.ofArtifact (Path.ofText given).text t := by
  simp only [readSource, hasNull_ofText_eq_false.2 noNull, Bool.false_eq_true, if_false, file]

theorem readSource_eq_ok : w.readSource (some (.ofText given)) = .ok s ↔ w.Holds given s := by
  unfold Holds
  by_cases hnull : '\x00' ∈ given
  · simp [readSource, hasNull_ofText.2 hnull, hnull]
  cases hfile : w.files.readText (.ofText given) with
  | error fault => simp [readSource, hasNull_ofText_eq_false.2 hnull, hfile]
  | ok t => simp [readSource_of_readText hnull hfile, ofArtifact_eq_ok, hnull]

theorem readSource_eq_raised :
    w.readSource (some (.ofText given)) = .error (.raised e) ↔ w.Stops given e := by
  constructor
  · intro h
    by_cases hnull : '\x00' ∈ given
    · simp only [readSource, hasNull_ofText.2 hnull, if_true, Except.error.injEq,
        LoadFault.raised.injEq] at h
      exact h ▸ .path hnull
    · cases hfile : w.files.readText (.ofText given) with
      | error fault => simp [readSource, hasNull_ofText_eq_false.2 hnull, hfile] at h
      | ok t =>
        rw [readSource_of_readText hnull hfile, ofArtifact_eq_raised] at h
        exact .artifact hnull hfile h
  · intro h
    cases h with
    | path null => simp only [readSource, hasNull_ofText.2 null, if_true]
    | artifact noNull file raises =>
      rw [readSource_of_readText noNull file, ofArtifact_eq_raised]
      exact raises

/-! ## The entry points -/

theorem degrades_of_holds (h : w.Holds given s) : w.Degrades given := by
  have hread := readSource_eq_ok.2 h
  constructor
  · exact .inl ⟨⟨w.readings, s⟩, by simp only [readSchema, hread], h⟩
  · refine ⟨⟨w.readings, s⟩, by simp only [readOrFallBack, hread], .inl ⟨h, ?_⟩⟩
    simp [readOrFallBack, hread, warnings, LogEvent.level]
  · refine ⟨⟨w.readings, s⟩, by simp only [fetch, SchemaHandle.onSource, hread], .inl ⟨h, ?_⟩⟩
    simp [fetch, SchemaHandle.onSource, hread, warnings, LogEvent.level]

/-- Where the artifact is refused, the strict one says why and the other two fall back. -/
theorem degrades_of_refused {r : Refusal}
    (hread : w.readSource (some (.ofText given)) = .error (.refused r)) : w.Degrades given := by
  have hnone : ∀ s, ¬ w.Holds given s := by
    intro s hs
    rw [readSource_eq_ok.2 hs] at hread
    cases hread
  constructor
  · exact .inr ⟨r, by simp only [readSchema, hread], hnone⟩
  · refine ⟨⟨w.readings, Schema.fallback⟩, by simp only [readOrFallBack, hread],
      .inr ⟨hnone, rfl, ?_⟩⟩
    simp [readOrFallBack, hread, warnings, LogEvent.level]
  · refine ⟨⟨w.readings, Schema.fallback⟩, by simp only [fetch, SchemaHandle.onSource, hread],
      .inr ⟨hnone, rfl, ?_⟩⟩
    simp [fetch, SchemaHandle.onSource, hread, warnings, LogEvent.level]

/-- What stops the reading comes out of all three entry points. -/
theorem results_of_stops (h : w.Stops given e) :
    (w.readSchema (.ofText given)).result = .error (.raised e) ∧
      (w.readOrFallBack given).result = .error (.raised e) ∧
      (w.fetch (.onSource (some (.ofText given)))).result = .error (.raised e) := by
  have hread := readSource_eq_raised.2 h
  refine ⟨?_, ?_, ?_⟩
  · simp only [readSchema, hread]
  · simp only [readOrFallBack, hread]
  · simp only [fetch, SchemaHandle.onSource, hread]

/-- The entry points keep their promise exactly where nothing stops the reading. What stops it
    comes out of each of them. -/
theorem degrades_iff (w : Workspace) (given : Text) :
    (w.Degrades given ↔ ∀ e, ¬ w.Stops given e) ∧
      ∀ e, w.Stops given e →
        (w.readSchema (.ofText given)).result = .error (.raised e) ∧
        (w.readOrFallBack given).result = .error (.raised e) ∧
        (w.fetch (.onSource (some (.ofText given)))).result = .error (.raised e) := by
  refine ⟨⟨?_, ?_⟩, fun e => results_of_stops⟩
  · intro h e hstops
    obtain ⟨i, hi, -⟩ := h.direct
    rw [(results_of_stops hstops).2.1] at hi
    cases hi
  · intro hgoes
    cases hread : w.readSource (some (.ofText given)) with
    | ok s => exact degrades_of_holds (readSource_eq_ok.1 hread)
    | error fault =>
      cases fault with
      | refused r => exact degrades_of_refused hread
      | raised e => exact absurd (readSource_eq_raised.1 hread) (hgoes e)

end

/-! ## With the libraries that are defined here -/

def faultOf {ε α : Type} : Except ε α → Option ε
  | .error e => some e
  | .ok _ => none

theorem faultOf_eq_some {ε α : Type} {r : Except ε α} {e : ε} :
    faultOf r = some e ↔ r = .error e := by
  cases r with
  | error e' => simp [faultOf]
  | ok a => simp [faultOf]

/-- An artifact with a date that has no month. -/
def badDateText : Text := "version: 2024-13-01\n".toList

/-- A workspace with this artifact as its one file. -/
def badDate : Workspace :=
  { files := Files.write {} (.ofText "s.yaml".toList) (.text badDateText) }

/-- What the date raises. -/
def noMonth : Raised := ⟨"ValueError".toList, "month must be in 1..12".toList⟩

theorem stops_badDate : badDate.Stops "s.yaml".toList noMonth := by
  have hfile : badDate.files.readText (.ofText "s.yaml".toList) = .ok badDateText :=
    Files.readText_write (by decide) rfl (by decide)
  exact .artifact (by decide) hfile (.parse (by decide) (faultOf_eq_some.1 (by decide +kernel)))

/-- A path that leads nowhere and one that leads to a date without a month. -/
theorem degrades_iff_missing_badDate :
    Degrades {} "s.yaml".toList ∧ badDate.Stops "s.yaml".toList noMonth ∧
      (badDate.readSchema (.ofText "s.yaml".toList)).result = .error (.raised noMonth) ∧
      (badDate.readOrFallBack "s.yaml".toList).result = .error (.raised noMonth) ∧
      (badDate.fetch (.onSource (some (.ofText "s.yaml".toList)))).result =
        .error (.raised noMonth) := by
  have hmissing : readSource {} (some (.ofText "s.yaml".toList)) =
      .error (.refused ⟨"s.yaml".toList, .file .missing⟩) :=
    faultOf_eq_some.1 (by decide +kernel)
  have hgoes : ∀ e, ¬ Stops {} "s.yaml".toList e := by
    intro e hstops
    rw [readSource_eq_raised.2 hstops] at hmissing
    cases hmissing
  exact ⟨(degrades_iff {} "s.yaml".toList).1.2 hgoes, stops_badDate,
    (degrades_iff badDate "s.yaml".toList).2 noMonth stops_badDate⟩

/-- The promise is not kept everywhere: a month that no calendar has goes through. -/
theorem not_degrades_badDate : ¬ badDate.Degrades "s.yaml".toList := by
  intro h
  obtain ⟨i, hi, -⟩ := h.direct
  rw [(results_of_stops stops_badDate).2.1] at hi
  cases hi

/-- What a stop is to be blamed on: a null character in the path, an escape in the artifact that
    names no code point, or a culprit among its nodes. -/
inductive Blamed (w : Workspace) (given : Text) : Raised → Prop where
  | path (null : '\x00' ∈ given) : Blamed w given .nullInPath
  | escape {t : Text} {f : ScalarFault} (file : w.files.readText (.ofText given) = .ok t)
      (broken : .broken (.scalar f) ∈ Artifact.tokens t) (wrong : Artifact.IsEscapeFault f) :
      Blamed w given f.raised
  | node {t : Text} {g : Artifact.NodeGraph} {f : ScalarFault}
      (file : w.files.readText (.ofText given) = .ok t)
      (nodes : Artifact.NodeGraph.ofTokens (Artifact.tokens t) = .ok g)
      (culprit : Artifact.Culprit g f) : Blamed w given f.raised

end Workspace
end ConfigLint
