import Mathlib.Data.List.Infix
import ConfigLint.Files
/-!
What is written to a path is read from every path that names the same place until it is removed, and
neither changes anything elsewhere in the tree.

What is proved:
  1. `at?_enter_of_not_suffix`, `at?_enter_of_suffix` and `at?_enter_self`: what is entered stands at
     its place, the places that lead there are directories, and nothing else changes.
  2. `walk_of_directories`: a walk without steps back goes on as long as it meets directories.
  3. `readText_write`: so a file is read as it was written.
  4. `readText_remove`: once it is removed, it is missing.
-/
namespace ConfigLint
namespace Files

variable {fs : Files} {entry : FileEntry} {place other : Place} {name : Text}

/-! ## Entering -/

theorem at?_root (fs : Files) : fs.at? [] = some .directory := by
  simp [at?]

theorem base_enter (entry : FileEntry) (place : Place) (fs : Files) :
    (enter entry place fs).base = fs.base := by
  induction place generalizing entry with
  | nil => rfl
  | cons name rest ih =>
    simp only [enter]
    split <;> exact ih .directory

theorem at?_insert_of_ne (h : other ≠ place) :
    at? { fs with entries := fs.entries.insert place entry } other = fs.at? other := by
  simp only [at?, Table.get?_insert_of_ne _ _ _ _ h]

/-- A directory that is there is known to be one, so only another entry has to be looked up. -/
theorem at?_insert_self (hfree : fs.at? place ≠ some .directory) :
    at? { fs with entries := fs.entries.insert place entry } place = some entry := by
  by_cases hbase : place.isSuffixOf fs.base
  · exact absurd (if_pos hbase) hfree
  · simp only [at?, hbase, Bool.false_eq_true, if_false, Table.get?_insert_self]

/-- Nothing changes but at the place and where one passes on the way there. -/
theorem at?_enter_of_not_suffix (h : ¬ other <:+ place) :
    (enter entry place fs).at? other = fs.at? other := by
  induction place generalizing entry with
  | nil => rfl
  | cons name rest ih =>
    rw [List.suffix_cons_iff, not_or] at h
    simp only [enter]
    split
    · exact ih h.2
    · rw [at?_insert_of_ne h.1, ih h.2]

theorem at?_enter_directory (h : other <:+ place) :
    (enter .directory place fs).at? other = some .directory := by
  induction place with
  | nil => rw [List.suffix_nil.1 h, at?_root]
  | cons name rest ih =>
    simp only [enter]
    split
    · next hthere =>
      rcases List.suffix_cons_iff.1 h with rfl | hrest
      · exact hthere
      · exact ih hrest
    · next hfree =>
      by_cases hself : other = name :: rest
      · rw [hself, at?_insert_self hfree]
      · rw [at?_insert_of_ne hself, ih ((List.suffix_cons_iff.1 h).resolve_left hself)]

theorem at?_enter_of_suffix (h : other <:+ place) (hne : other ≠ place) :
    (enter entry place fs).at? other = some .directory := by
  cases place with
  | nil => exact absurd (List.suffix_nil.1 h) hne
  | cons name rest =>
    have hrest : other <:+ rest := (List.suffix_cons_iff.1 h).resolve_left hne
    simp only [enter]
    split
    · exact at?_enter_directory hrest
    · rw [at?_insert_of_ne hne, at?_enter_directory hrest]

theorem at?_enter_self (hfree : fs.at? place ≠ some .directory) :
    (enter entry place fs).at? place = some entry := by
  cases place with
  | nil => exact absurd (at?_root fs) hfree
  | cons name rest =>
    have hsame : (enter .directory rest fs).at? (name :: rest) = fs.at? (name :: rest) :=
      at?_enter_of_not_suffix fun h => absurd h.length_le (by simp)
    simp only [enter]
    split
    · next hthere => exact absurd (hsame.symm.trans hthere) hfree
    · next hfree' => exact at?_insert_self hfree'

/-! ## Walking -/

/-- A step is taken from directories alone. -/
theorem walk_cons_eq_ok {rest : List Text} {origin : Place} :
    (name :: rest).foldlM fs.step origin = .ok place ↔
      fs.at? origin = some .directory ∧ rest.foldlM fs.step (origin.next name) = .ok place := by
  rw [List.foldlM_cons, step]
  cases fs.at? origin with
  | none => simp [bind, Except.bind]
  | some entry => cases entry <;> simp [bind, Except.bind]

/-- A walk that arrives is at the place that its steps name. -/
theorem eq_of_walk {steps : List Text} {origin : Place}
    (h : steps.foldlM fs.step origin = .ok place) : steps.foldl Place.next origin = place := by
  induction steps generalizing origin with
  | nil => exact Except.ok.inj h
  | cons name rest ih => exact ih (walk_cons_eq_ok.1 h).2

theorem foldl_next_of_plain {steps : List Text} (hplain : Path.parentStep ∉ steps) (origin : Place) :
    steps.foldl Place.next origin = steps.reverse ++ origin := by
  induction steps generalizing origin with
  | nil => rfl
  | cons name rest ih =>
    rw [List.mem_cons, not_or] at hplain
    rw [List.foldl_cons, Place.next, if_neg (Ne.symm hplain.1), ih hplain.2,
      List.reverse_cons, List.append_assoc, List.singleton_append]

/-- Such a walk arrives if all that it passes are directories. -/
theorem walk_of_directories {steps : List Text} (hplain : Path.parentStep ∉ steps) {origin : Place}
    (hpass : ∀ place, place <:+ steps.reverse ++ origin → place ≠ steps.reverse ++ origin →
      fs.at? place = some .directory) :
    steps.foldlM fs.step origin = .ok (steps.reverse ++ origin) := by
  induction steps generalizing origin with
  | nil => rfl
  | cons name rest ih =>
    rw [List.mem_cons, not_or] at hplain
    rw [List.reverse_cons, List.append_assoc, List.singleton_append] at hpass ⊢
    have hhere : fs.at? origin = some .directory := by
      refine hpass origin ⟨rest.reverse ++ [name], by simp⟩ fun h => ?_
      have := congrArg List.length h
      simp at this
      omega
    rw [walk_cons_eq_ok, Place.next, if_neg (Ne.symm hplain.1)]
    exact ⟨hhere, ih hplain.2 hpass⟩

theorem find_eq_ok {p : Path} : fs.find p = .ok entry ↔
    p.steps.foldlM fs.step (fs.start p) = .ok (fs.placeOf p) ∧
      fs.at? (fs.placeOf p) = some entry := by
  cases hwalk : p.steps.foldlM fs.step (fs.start p) with
  | error fault => simp [find, hwalk, bind, Except.bind]
  | ok place =>
    obtain rfl : fs.placeOf p = place := eq_of_walk hwalk
    cases hthere : fs.at? (fs.placeOf p) <;>
      simp [find, hwalk, hthere, bind, Except.bind, pure, Except.pure]

/-! ## Writing -/

variable {p q : Path} {content : Content}

theorem find_write (hplain : Path.parentStep ∉ q.steps) (hsame : fs.placeOf q = fs.placeOf p)
    (hfree : fs.at? (fs.placeOf p) ≠ some .directory) :
    (fs.write p content).find q = .ok (.file content) := by
  have hstart : (fs.write p content).start q = fs.start q := by
    simp only [start, write, base_enter]
  have hplace : q.steps.reverse ++ fs.start q = fs.placeOf p := by
    rw [← hsame, placeOf, foldl_next_of_plain hplain]
  rw [find_eq_ok, placeOf, hstart, foldl_next_of_plain hplain, hplace]
  refine ⟨?_, at?_enter_self hfree⟩
  rw [walk_of_directories hplain, hplace]
  rw [hplace]
  exact fun place h hne => at?_enter_of_suffix h hne

/-- A file is read as it was written, with line feeds for line ends. -/
theorem readText_write {t : Text} (hplain : Path.parentStep ∉ q.steps)
    (hsame : fs.placeOf q = fs.placeOf p) (hfree : fs.at? (fs.placeOf p) ≠ some .directory) :
    (fs.write p (.text t)).readText q = .ok t.unifyLineEnds := by
  rw [readText, find_write hplain hsame hfree]
  rfl

/-! ## Removing -/

theorem base_remove (fs : Files) (p : Path) : (fs.remove p).base = fs.base := by
  rw [remove]
  split <;> rfl

theorem at?_remove_of_ne (h : place ≠ fs.placeOf p) : (fs.remove p).at? place = fs.at? place := by
  rw [remove]
  split
  · simp only [at?, Table.get?_erase, if_neg h]
  · rfl

theorem at?_remove_self (hfile : fs.at? (fs.placeOf p) = some (.file content)) :
    (fs.remove p).at? (fs.placeOf p) = none := by
  have hbase : ¬ (fs.placeOf p).isSuffixOf fs.base := by
    intro h
    rw [at?, if_pos h] at hfile
    cases hfile
  rw [remove, hfile]
  simp only [at?, if_neg hbase, Table.get?_erase, if_true]

/-- No directory goes with the file, so a walk takes the same steps as before. -/
theorem walk_remove {steps : List Text} {origin : Place}
    (hfile : fs.at? (fs.placeOf p) = some (.file content))
    (h : steps.foldlM fs.step origin = .ok place) :
    steps.foldlM (fs.remove p).step origin = .ok place := by
  induction steps generalizing origin with
  | nil => exact h
  | cons name rest ih =>
    obtain ⟨hdirectory, hrest⟩ := walk_cons_eq_ok.1 h
    -- what the walk passes is a directory, and a file was removed
    have hne : origin ≠ fs.placeOf p := by
      rintro rfl
      rw [hfile] at hdirectory
      cases hdirectory
    exact walk_cons_eq_ok.2 ⟨(at?_remove_of_ne hne).trans hdirectory, ih hrest⟩

/-- A file that was found is missing once it is removed. -/
theorem readText_remove (hsame : fs.placeOf q = fs.placeOf p)
    (hfile : fs.find q = .ok (.file content)) : (fs.remove p).readText q = .error .missing := by
  obtain ⟨hwalk, hthere⟩ := find_eq_ok.1 hfile
  rw [hsame] at hwalk hthere
  have hstart : (fs.remove p).start q = fs.start q := by
    simp only [start, base_remove]
  simp only [readText, find, hstart, walk_remove hthere hwalk, bind, Except.bind,
    at?_remove_self hthere]

end Files
end ConfigLint
