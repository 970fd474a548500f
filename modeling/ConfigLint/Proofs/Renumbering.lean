import ConfigLint.Proofs.Findings
/-!
Line numbers. No check looks at the number of a line: it only says where a diagnostic stands, and,
of the first line of a repeated key, what the message cites. So lines under new numbers have the
same diagnostics at the new places.

What is proved:
  1. `Line.read_renumber` and `readLinesFrom_renumber`: the number of a line has no effect on what
     is read of it.
  2. `foundAt_renumber` and `checkDuplicates_renumber`: what is found about lines under new numbers,
     each by itself and all together.
-/
namespace ConfigLint

def Line.renumber (f : Int → Int) (line : Line) : Line := { line with number := f line.number }

/-- The diagnostic at the new number of its line. -/
def Diagnostic.renumber (f : Int → Int) (d : Diagnostic) : Diagnostic := { d with line := f d.line }

/-- `d'` is what becomes of `d` when line `i` becomes line `f i`: it stands at the new line, and the
    message of a repeated key cites the new number of the line that sets the key first. Lines are
    numbered from zero; messages count them from one. -/
structure IsRenumbered (f : Int → Int) (d d' : Diagnostic) : Prop where
  line : d'.line = f d.line
  start : d'.start = d.start
  stop : d'.stop = d.stop
  severity : d'.severity = d.severity
  code : d'.code = d.code
  message : d.code ≠ .duplicateKey → d'.message = d.message
  cites : d.code = .duplicateKey → ∃ key first,
    d.message = (Finding.duplicateKey key first).message ∧
      d'.message = (Finding.duplicateKey key (f first)).message

theorem isRenumbered_renumber (f : Int → Int) {d : Diagnostic} (h : d.code ≠ .duplicateKey) :
    IsRenumbered f d (d.renumber f) :=
  ⟨rfl, rfl, rfl, rfl, rfl, fun _ => rfl, fun hcode => absurd hcode h⟩

/-! ## Reading -/

theorem Line.read_renumber (f : Int → Int) (raw : Text) (number : Int) :
    (Line.read raw number).renumber f = Line.read raw (f number) := by
  -- every branch of the reading hands the number on and does not ask for it
  unfold Line.read
  extract_lets visible
  by_cases hblank : visible = []
  · rw [if_pos hblank, if_pos hblank]
    rfl
  rw [if_neg hblank, if_neg hblank]
  by_cases hcomment : visible.head? = some '#'
  · rw [if_pos hcomment, if_pos hcomment]
    rfl
  rw [if_neg hcomment, if_neg hcomment]
  cases separatorIndex? raw with
  | none => rfl
  | some separator =>
    rw [Option.bind_some, Option.bind_some]
    unfold Line.assignment?
    extract_lets lead key start
    by_cases hkey : key = []
    · rw [if_pos hkey, if_pos hkey]
      rfl
    · rw [if_neg hkey, if_neg hkey]
      rfl

theorem readLinesFrom_append (start : Nat) (raws raws' : List Text) :
    readLinesFrom start (raws ++ raws') =
      readLinesFrom start raws ++ readLinesFrom (start + raws.length) raws' := by
  rw [readLinesFrom, List.mapIdx_append, readLinesFrom, readLinesFrom]
  simp only [Nat.add_assoc, Nat.add_comm raws.length]

theorem readLinesFrom_renumber {f : Int → Int} {raws : List Text} {start start' : Nat}
    (h : ∀ i < raws.length, f (start + i : Nat) = (start' + i : Nat)) :
    (readLinesFrom start raws).map (Line.renumber f) = readLinesFrom start' raws := by
  apply List.ext_getElem?
  intro i
  rw [readLinesFrom, readLinesFrom, List.getElem?_map, List.getElem?_mapIdx, List.getElem?_mapIdx,
    Option.map_map]
  cases hraw : raws[i]? with
  | none => rfl
  | some raw =>
    obtain ⟨hi, -⟩ := List.getElem?_eq_some_iff.1 hraw
    simp only [Option.map_some, Function.comp_apply, Line.read_renumber, h i hi]

namespace Schema

/-! ## What is found about lines under new numbers -/

theorem alike_renumber (f : Int → Int) (line : Line) : line.Alike (line.renumber f) := ⟨rfl, rfl, rfl⟩

theorem foundAt_renumber [Interpreter] (s : Schema) (options : CheckOptions) (f : Int → Int)
    (line : Line) :
    s.foundAt options (line.renumber f) = (s.foundAt options line).map (Diagnostic.renumber f) := by
  rw [foundAt_eq_map, foundAt_eq_map, findings_congr s options (alike_renumber f line), List.map_map]
  rfl

theorem flatMap_foundAt_renumber [Interpreter] (s : Schema) (options : CheckOptions) (f : Int → Int)
    (lines : List Line) :
    (lines.map (Line.renumber f)).flatMap (s.foundAt options) =
      (lines.flatMap (s.foundAt options)).map (Diagnostic.renumber f) := by
  simp only [List.flatMap_map, List.map_flatMap, foundAt_renumber]

theorem forall₂_renumber (f : Int → Int) (lines : List Line) :
    List.Forall₂ (fun line line' => line' = line.renumber f) lines
      (lines.map (Line.renumber f)) := by
  rw [List.forall₂_map_right_iff, List.forall₂_same]
  exact fun line _ => rfl

/-- The report of a repeated key moves with its line, and cites the new number of the first one. -/
theorem isRenumbered_repeat (f : Int → Int) (key : Text) {first first' line line' : Line}
    (hfirst : first' = first.renumber f) (hline : line' = line.renumber f) :
    IsRenumbered f
      ((Finding.duplicateKey key first.number).diagnostic .warning line line.keySpan)
      ((Finding.duplicateKey key first'.number).diagnostic .warning line' line'.keySpan) := by
  subst hfirst hline
  refine ⟨rfl, rfl, rfl, rfl, rfl, fun hcode => absurd rfl hcode, fun _ => ?_⟩
  exact ⟨key, first.number, rfl, rfl⟩

theorem checkDuplicates_renumber (s : Schema) (f : Int → Int) (lines : List Line) :
    List.Forall₂ (IsRenumbered f) (s.checkDuplicates lines)
      (s.checkDuplicates (lines.map (Line.renumber f))) := by
  refine rel_checkDuplicates s ?_ ?_ (forall₂_renumber f lines)
  · rintro line _ rfl
    rfl
  · intro key first first' line line' hfirst hline
    exact isRenumbered_repeat f key hfirst hline

/-- All diagnostics of lines, with the lines under new numbers. -/
theorem diagnosticsOf_renumber [Interpreter] (s : Schema) (options : CheckOptions) (f : Int → Int)
    (lines : List Line) :
    List.Forall₂ (IsRenumbered f) (s.diagnosticsOf options lines)
      (s.diagnosticsOf options (lines.map (Line.renumber f))) := by
  refine rel_diagnosticsOf s options ?_ ?_ ?_ (forall₂_renumber f lines)
  · rintro line _ rfl
    exact alike_renumber f line
  · rintro line _ finding rfl hcode
    exact isRenumbered_renumber f hcode
  · intro key first first' line line' hfirst hline
    exact isRenumbered_repeat f key hfirst hline

end Schema
end ConfigLint
