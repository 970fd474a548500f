import ConfigLint.Proofs.Acceptance
import ConfigLint.Proofs.Trim
/-!
Values in double quotes. Texts, choices, colours, font families and paths may stand in a pair of double
quotes, and their types ask for what is between the quotes. The pattern of an option does not: it is
tried on the value as it is written, quotes included.

What is proved:
  1. `unquote_quoted` and `IsBare.unquote_eq`: a bare text and the same text in quotes are one value
     to the types (`checkType_eq_of_unquote_eq`).
  2. `accepts_quoted_iff`: so quotes change the verdict exactly where a value of the type is taken by
     the pattern with its quotes or without them, but not both. Without a pattern they never do.
  3. `not_accepts_quoted`: there are values to which that happens.
-/
namespace ConfigLint

namespace Text

def quoted (t : Text) : Text := '"' :: (t ++ ['"'])

/-- A text with no double quote at either end. -/
structure IsBare (t : Text) : Prop where
  head : t.head? ≠ some '"'
  last : t.getLast? ≠ some '"'

instance (t : Text) : Decidable (IsBare t) :=
  decidable_of_iff (t.head? ≠ some '"' ∧ t.getLast? ≠ some '"')
    ⟨fun h => ⟨h.1, h.2⟩, fun h => ⟨h.head, h.last⟩⟩

theorem unquote_quoted (t : Text) : unquote (quoted t) = some t := by
  have hlast : (t ++ ['"']).getLast? = some '"' := List.getLast?_concat
  have hfront : (t ++ ['"']).dropLast = t := List.dropLast_concat
  rw [quoted, unquote, if_pos hlast, hfront]

theorem IsBare.unquote_eq {t : Text} (h : IsBare t) : unquote t = some t := by
  unfold unquote
  split
  · exact absurd rfl h.head
  · exact if_neg h.last

/-- `u` is what a text holds: what stands in its pair of quotes, or the text itself if it is bare. -/
def IsContent (t u : Text) : Prop := t = quoted u ∨ (t = u ∧ IsBare u)

theorem unquote_eq_some {t u : Text} : unquote t = some u ↔ IsContent t u := by
  constructor
  · intro h
    unfold unquote at h
    split at h
    · next rest =>
      split at h
      · next hlast =>
        left
        rw [← Option.some.inj h, quoted, List.dropLast_append_getLast? '"' hlast]
      · cases h
    · next hhead =>
      split at h
      · cases h
      · next hlast =>
        have hsame : t = u := Option.some.inj h
        right
        refine ⟨hsame, hsame ▸ ⟨?_, hlast⟩⟩
        intro hquote
        obtain ⟨rest, rfl⟩ := List.head?_eq_some_iff.1 hquote
        exact hhead rest rfl
  · rintro (rfl | ⟨rfl, hbare⟩)
    · exact unquote_quoted u
    · exact hbare.unquote_eq

theorem isTrimmed_quoted (t : Text) : IsTrimmed (quoted t) := by
  have hlast : (quoted t).getLast? = some '"' := by
    rw [quoted, ← List.cons_append, List.getLast?_concat]
  constructor
  · intro c hc
    rw [quoted, List.head?_cons, Option.mem_some_iff] at hc
    rw [← hc]
    rfl
  · intro c hc
    rw [hlast, Option.mem_some_iff] at hc
    rw [← hc]
    rfl

end Text

open Text

/-- The kinds of value that may stand in double quotes. -/
def ValueKind.quotable : List ValueKind := [string, enum, color, fontFamily, path]

section
variable {s : Schema} {o : OptionDecl} {k : ValueKind} {t t' v : Text}

/-- The types of such values look at what is between the quotes, and at nothing else. -/
theorem checkType_eq_of_unquote_eq [Interpreter] (quotable : k ∈ ValueKind.quotable)
    (kind : o.type = k.name) (h : unquote t = unquote t') (type : Option TypeDecl) :
    o.checkType type t = o.checkType type t' := by
  simp only [OptionDecl.checkType, kind, ValueKind.ofName?_name]
  simp only [ValueKind.quotable, List.mem_cons, List.not_mem_nil, or_false] at quotable
  rcases quotable with rfl | rfl | rfl | rfl | rfl
  · simp only [h]
  · simp only [checkListed, h]
  · simp only [h]
  · simp only [h]
  · simp only [checkPath, h]

theorem hasType_quoted [Interpreter] (quotable : k ∈ ValueKind.quotable) (kind : o.type = k.name)
    (trimmed : IsTrimmed v) (bare : IsBare v) : s.HasType o (quoted v) ↔ s.HasType o v := by
  have hsame : unquote (quoted v) = unquote v := by rw [unquote_quoted, bare.unquote_eq]
  rw [Schema.HasType, Schema.HasType, (isTrimmed_quoted v).trim_eq, trimmed.trim_eq,
    checkType_eq_of_unquote_eq quotable kind hsame]

namespace Schema

/-- Quotes around a value make no difference to its type. They make one to the verdict exactly where
    the value is of its type and the pattern takes it only with the quotes, or only without them. So
    without a pattern they make none. -/
theorem accepts_quoted_iff [Interpreter] (s : Schema) (o : OptionDecl) (k : ValueKind) (v : Text)
    (quotable : k ∈ ValueKind.quotable) (kind : o.type = k.name) (trimmed : IsTrimmed v)
    (bare : IsBare v) :
    (s.HasType o (quoted v) ↔ s.HasType o v) ∧
    ((s.Accepts o (quoted v) ↔ s.Accepts o v) ↔
      (s.HasType o v → (o.Takes (quoted v) ↔ o.Takes v))) ∧
    (o.HasNoPattern → (s.Accepts o (quoted v) ↔ s.Accepts o v)) := by
  have htype : s.HasType o (quoted v) ↔ s.HasType o v := hasType_quoted quotable kind trimmed bare
  refine ⟨htype, ?_, ?_⟩
  · rw [accepts_iff, accepts_iff, htype]
    exact and_congr_right_iff
  · intro plain
    rw [accepts_of_no_pattern plain, accepts_of_no_pattern plain, htype]

def smallLetters : OptionDecl :=
  { type := "string".toList, constraints := { pattern := some ("[a-z]+".toList : CodeText) } }

/-- An option for one of two choices, the longer of which has a space in it. -/
def twoChoices : OptionDecl :=
  { type := "enum".toList, values := ["on".toList, "not now".toList] }

/-- A choice with a space in it, with and without its quotes. -/
theorem accepts_quoted_iff_twoChoices :
    let v := "not now".toList
    ValueKind.enum ∈ ValueKind.quotable ∧ twoChoices.type = ValueKind.enum.name ∧ IsTrimmed v ∧
      IsBare v ∧ twoChoices.HasNoPattern ∧ fallback.Accepts twoChoices v ∧
      fallback.Accepts twoChoices "\"not now\"".toList := by
  intro v
  have hquotable : ValueKind.enum ∈ ValueKind.quotable := by decide
  have htrimmed : IsTrimmed v := isTrimmed_trim v
  have hbare : IsBare v := by decide
  have hplain : twoChoices.HasNoPattern := .inl rfl
  have haccepted : fallback.Accepts twoChoices v := by
    rw [Accepts]
    decide +kernel
  obtain ⟨-, -, hsame⟩ := accepts_quoted_iff fallback twoChoices .enum v hquotable rfl htrimmed hbare
  exact ⟨hquotable, rfl, htrimmed, hbare, hplain, haccepted, (hsame hplain).2 haccepted⟩

/-- Not every value that is accepted is accepted in quotes. -/
theorem not_accepts_quoted : ¬ ∀ (s : Schema) (o : OptionDecl) (k : ValueKind) (v : Text),
    k ∈ ValueKind.quotable → o.type = k.name → IsTrimmed v → IsBare v →
      (s.Accepts o (quoted v) ↔ s.Accepts o v) := by
  intro h
  have haccepted : fallback.Accepts smallLetters "abc".toList := by
    rw [Accepts]
    decide +kernel
  have hrejected : fallback.checkOption smallLetters "\"abc\"".toList = .ok (some .notOfPattern) := by
    decide +kernel
  have hquoted : fallback.Accepts smallLetters "\"abc\"".toList :=
    (h fallback smallLetters .string "abc".toList (by decide) rfl (isTrimmed_trim "abc".toList)
      (by decide)).2 haccepted
  rw [Accepts, hrejected] at hquoted
  cases hquoted

end Schema
end
end ConfigLint
