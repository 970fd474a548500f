import ConfigLint.Proofs.Quoting
/-!
Paths and the question mark in front of them, which marks a file that may be missing. The quotes are
taken off first and the mark second, so the mark is known inside of quotes and not in front of them: with
a mark in front, the first quote is a character of the path and the last one is a quote on one side.

What is proved:
  1. `checkPath_eq_none`: a text is a path if something is left of what it holds without the mark.
  2. `isContent_marked`: a marked text holds itself, if no quote ends it, and nothing otherwise.
  3. `accepts_marked_iff`: so the mark makes no difference to values that do not start with a quote. To
     the others it makes one, unless they are no path either way.
  4. `not_accepts_marked`: there are values to which that happens.
-/
namespace ConfigLint
open Text

/-- Something is left of a path without the mark at its front. -/
def NamesFile (path : Text) : Prop := ¬ IsBlankText (path.dropLead ['?'])

section
variable {t u : Text}

theorem checkPath_eq_none : checkPath t = none ↔ ∃ path, IsContent t path ∧ NamesFile path := by
  have hnamed : ∀ path, rejectUnless (trim (path.dropLead ['?']) ≠ []) .emptyPath = none ↔
      NamesFile path := by
    intro path
    rw [rejectUnless_eq_none, decide_eq_true_eq, ne_eq, trim_eq_nil, NamesFile]
  simp only [← unquote_eq_some]
  rw [checkPath]
  cases unquote t with
  | none => simp
  | some path =>
    simp only [Option.some.injEq, exists_eq_left']
    exact hnamed path

theorem dropLead_mark_cons (t : Text) : dropLead ('?' :: t) ['?'] = t := by
  simp [dropLead]

theorem namesFile_marked : NamesFile ('?' :: t) ↔ ¬ IsBlankText t := by
  rw [NamesFile, dropLead_mark_cons]

theorem namesFile_of_unmarked (h : t.head? ≠ some '?') : NamesFile t ↔ ¬ IsBlankText t := by
  have hkept : t.dropLead ['?'] = t := by
    cases t with
    | nil => rfl
    | cons c t =>
      have hc : '?' ≠ c := fun heq => h (by rw [heq, List.head?_cons])
      simp [dropLead, hc]
  rw [NamesFile, hkept]

theorem isContent_marked : IsContent ('?' :: t) u ↔ u = '?' :: t ∧ t.getLast? ≠ some '"' := by
  have hlast : ('?' :: t).getLast? = some '"' ↔ t.getLast? = some '"' := by
    rw [List.getLast?_cons]
    cases t.getLast? <;> simp
  constructor
  · rintro (hquoted | ⟨rfl, hbare⟩)
    · cases hquoted
    · exact ⟨rfl, fun h => hbare.last (hlast.2 h)⟩
  · rintro ⟨rfl, h⟩
    exact .inr ⟨rfl, by simp, fun h' => h (hlast.1 h')⟩

theorem head?_quoted (t : Text) : (quoted t).head? = some '"' := rfl

theorem getLast?_quoted (t : Text) : (quoted t).getLast? = some '"' := by
  rw [quoted, ← List.cons_append, List.getLast?_concat]

theorem quoted_inj : quoted t = quoted u ↔ t = u := by
  simp [quoted]

/-- A text with a quote at either end is a pair of quotes, if it is not the quote alone. -/
theorem exists_quoted (hhead : t.head? = some '"') (hlast : t.getLast? = some '"') :
    t = ['"'] ∨ ∃ u, t = quoted u := by
  obtain ⟨rest, rfl⟩ := List.head?_eq_some_iff.1 hhead
  cases hrest : rest.getLast? with
  | none =>
    rw [List.getLast?_eq_none_iff] at hrest
    exact .inl (by rw [hrest])
  | some c =>
    rw [List.getLast?_cons, hrest, Option.getD_some, Option.some.injEq] at hlast
    subst hlast
    exact .inr ⟨rest.dropLast, by rw [quoted, List.dropLast_append_getLast? '"' hrest]⟩

theorem isContent_of_no_quote (hhead : t.head? ≠ some '"') :
    IsContent t u ↔ t = u ∧ t.getLast? ≠ some '"' := by
  constructor
  · rintro (rfl | ⟨rfl, hbare⟩)
    · exact absurd (head?_quoted u) hhead
    · exact ⟨rfl, hbare.last⟩
  · rintro ⟨rfl, hlast⟩
    exact .inr ⟨rfl, hhead, hlast⟩

theorem isContent_of_quote (hhead : t.head? = some '"') : IsContent t u ↔ t = quoted u := by
  constructor
  · rintro (hquoted | ⟨rfl, hbare⟩)
    · exact hquoted
    · exact absurd hhead hbare.head
  · exact .inl

theorem lead_of_quote (h : t.head? = some '"') : ∀ c ∈ t.head?, isBlank c = false := by
  intro c hc
  rw [h, Option.mem_some_iff] at hc
  rw [← hc]
  rfl

/-- Where the mark makes no difference. -/
theorem marked_iff (trimmed : IsTrimmed t) (unmarked : t.head? ≠ some '?') :
    ((t ≠ [] ∧ t.getLast? ≠ some '"' ↔ ∃ path, IsContent t path ∧ NamesFile path) ↔
      (t.head? = some '"' → t = ['"'] ∨ ∃ path, t = quoted path ∧ ¬ NamesFile path)) := by
  by_cases hhead : t.head? = some '"'
  · have hne : t ≠ [] := by
      rintro rfl
      cases hhead
    simp only [isContent_of_quote hhead, hhead, true_implies]
    by_cases hlast : t.getLast? = some '"'
    · rcases exists_quoted hhead hlast with rfl | ⟨path, rfl⟩
      · simp [quoted]
      · have hpair : quoted path ≠ ['"'] := by simp [quoted]
        simp [getLast?_quoted, quoted_inj, hpair]
    · -- the text is no pair of quotes, so it is no path without the mark
      have hpair : ∀ path, t ≠ quoted path := by
        rintro path rfl
        exact hlast (getLast?_quoted path)
      have hlone : t ≠ ['"'] := by
        rintro rfl
        exact hlast rfl
      simp [hne, hlast, hpair, hlone]
  · have hblank : IsBlankText t ↔ t = [] := by
      rw [← trim_eq_nil, trimmed.trim_eq]
    simp only [isContent_of_no_quote hhead, hhead, false_implies, iff_true]
    constructor
    · rintro ⟨hne, hlast⟩
      exact ⟨t, ⟨rfl, hlast⟩, (namesFile_of_unmarked unmarked).2 (hblank.not.2 hne)⟩
    · rintro ⟨path, ⟨rfl, hlast⟩, hnamed⟩
      exact ⟨hblank.not.1 ((namesFile_of_unmarked unmarked).1 hnamed), hlast⟩

end

namespace Schema

theorem accepts_path_iff [Interpreter] {s : Schema} {o : OptionDecl} {value : Text}
    (kind : o.type = ValueKind.path.name) (plain : o.HasNoPattern) :
    s.Accepts o value ↔ ∃ path, IsContent value.trim path ∧ NamesFile path := by
  rw [Accepts, checkOption_of_no_pattern plain]
  simp only [OptionDecl.checkType, kind, ValueKind.ofName?_name, Except.ok.injEq, checkPath_eq_none]

/-- With a mark in front, an option for paths that has no pattern accepts what is not empty and has no
    quote at its end; without it, what names a file once its quotes are taken off. These agree on the
    values that do not start with a quote, and of the others on those that are rejected either way: a
    quote alone, and quotes around no name. -/
theorem accepts_marked_iff [Interpreter] (s : Schema) (o : OptionDecl) (v : Text)
    (kind : o.type = ValueKind.path.name) (plain : o.HasNoPattern)
    (lead : ∀ c ∈ v.head?, isBlank c = false) (unmarked : v.head? ≠ some '?') :
    (s.Accepts o ('?' :: v) ↔ v.trim ≠ [] ∧ v.trim.getLast? ≠ some '"') ∧
    (s.Accepts o v ↔ ∃ path, IsContent v.trim path ∧ NamesFile path) ∧
    ((s.Accepts o ('?' :: v) ↔ s.Accepts o v) ↔
      (v.trim.head? = some '"' → v.trim = ['"'] ∨ ∃ path, v.trim = quoted path ∧ ¬ NamesFile path)) := by
  have hmarked : s.Accepts o ('?' :: v) ↔ v.trim ≠ [] ∧ v.trim.getLast? ≠ some '"' := by
    have hblank : ¬ IsBlankText v.trim ↔ v.trim ≠ [] := by
      rw [← trim_eq_nil, trim_trim]
    rw [accepts_path_iff kind plain, trim_cons rfl lead]
    simp only [isContent_marked, and_assoc, exists_eq_left, namesFile_marked, hblank]
    exact and_comm
  have hplain : s.Accepts o v ↔ ∃ path, IsContent v.trim path ∧ NamesFile path :=
    accepts_path_iff kind plain
  have hfront : v.trim.head? ≠ some '?' := by
    intro hmark
    obtain ⟨tail, hv, -⟩ := exists_trimEnd v
    rw [trim, trimStart_of_head lead] at hmark
    apply unmarked
    rw [hv, List.head?_append, hmark, Option.some_or]
  refine ⟨hmarked, hplain, ?_⟩
  rw [hmarked, hplain]
  exact marked_iff (isTrimmed_trim v) hfront

def onePath : OptionDecl := { type := "path".toList }

/-- A value with a quote at its front only is rejected, and is accepted with a mark. -/
theorem accepts_marked_iff_open :
    let v : Text := "\"themes\" dark\t".toList
    onePath.type = ValueKind.path.name ∧ onePath.HasNoPattern ∧
      (∀ c ∈ v.head?, isBlank c = false) ∧ v.head? ≠ some '?' ∧
      fallback.Accepts onePath ('?' :: v) ∧ ¬ fallback.Accepts onePath v := by
  intro v
  have hplain : onePath.HasNoPattern := .inl rfl
  have hlead : ∀ c ∈ v.head?, isBlank c = false := lead_of_quote (by decide)
  have hunmarked : v.head? ≠ some '?' := by decide
  obtain ⟨hmarked, -, hsame⟩ := accepts_marked_iff fallback onePath v rfl hplain hlead hunmarked
  have haccepted : fallback.Accepts onePath ('?' :: v) := hmarked.2 (by decide)
  refine ⟨rfl, hplain, hlead, hunmarked, haccepted, ?_⟩
  intro hboth
  rcases hsame.1 (iff_of_true haccepted hboth) (by decide) with hlone | ⟨path, hpath, -⟩
  · exact absurd hlone (by decide)
  · have hlast : v.trim.getLast? = some '"' := by
      rw [hpath, getLast?_quoted]
    exact absurd hlast (by decide)

/-- Not every path is still accepted with a mark in front. -/
theorem not_accepts_marked : ¬ ∀ (s : Schema) (o : OptionDecl) (v : Text),
    o.type = ValueKind.path.name → o.HasNoPattern → (∀ c ∈ v.head?, isBlank c = false) →
      v.head? ≠ some '?' → (s.Accepts o ('?' :: v) ↔ s.Accepts o v) := by
  intro h
  have haccepted : fallback.Accepts onePath "\"abc\"".toList := by
    rw [Accepts]
    decide +kernel
  have hrejected :
      fallback.checkOption onePath "?\"abc\"".toList = .ok (some .unbalancedPathQuotes) := by
    decide +kernel
  have hmarked : fallback.Accepts onePath "?\"abc\"".toList :=
    (h fallback onePath "\"abc\"".toList rfl (.inl rfl) (lead_of_quote (by decide))
      (by decide)).2 haccepted
  rw [Accepts, hrejected] at hmarked
  cases hmarked

end Schema
end ConfigLint
