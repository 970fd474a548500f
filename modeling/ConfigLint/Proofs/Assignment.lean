import ConfigLint.Proofs.Separator
import ConfigLint.Proofs.Trim
/-!
The lines of a document by what they are made of. `IsAssignment` is the grammar of a key/value
line: white space, a key, white space, the first separator, a value. `IsComment` is that of a
comment.

What is proved:
  1. `IsAssignment.unique` and `IsAssignment.unique_blanks`: a line is an assignment in one way.
  2. `Line.read_cases`: what reading makes of a line of any kind. Proofs about lines start from it
     and do not open `Line.read`.
  3. `Line.read_exact`: reading recognises exactly the grammar, with the places of key and value.
-/
namespace ConfigLint
open Text

/-- A line whose first visible character is `#`. -/
def IsComment (raw : Text) : Prop :=
  ∃ lead rest, raw = lead ++ '#' :: rest ∧ IsBlankText lead

/-- A line that reads `lead key gap = value`, split at its first separator. -/
structure IsAssignment (raw lead key gap value : Text) : Prop where
  text : raw = lead ++ key ++ gap ++ '=' :: value
  lead_blank : IsBlankText lead
  gap_blank : IsBlankText gap
  key_ne : key ≠ []
  key_trimmed : IsTrimmed key
  first : IsFirstSeparator raw (lead ++ key ++ gap).length

theorem isComment_iff {raw : Text} : raw.trim.head? = some '#' ↔ IsComment raw := by
  constructor
  · intro h
    obtain ⟨lead, tail, hraw, hlead, -⟩ := exists_trim raw
    obtain ⟨rest, hrest⟩ := List.head?_eq_some_iff.1 h
    refine ⟨lead, rest ++ tail, ?_, hlead⟩
    rw [hrest] at hraw
    rw [hraw]
    simp
  · rintro ⟨lead, rest, rfl, hlead⟩
    have hhash : isBlank '#' = false := by decide
    have hstart : trimStart ('#' :: rest) = '#' :: rest := by simp [trimStart, hhash]
    obtain ⟨tail, hend, htail⟩ := exists_trimEnd ('#' :: rest)
    rw [trim, hlead.trimStart_append, hstart]
    cases hkept : trimEnd ('#' :: rest) with
    | nil =>
      -- then all of it were white space, the hash too
      rw [hkept, List.nil_append] at hend
      rw [htail '#' (hend ▸ List.mem_cons_self)] at hhash
      cases hhash
    | cons c kept =>
      rw [hkept, List.cons_append, List.cons.injEq] at hend
      rw [← hend.1]
      rfl

namespace IsAssignment
variable {raw lead key gap value : Text}

theorem take_eq (h : IsAssignment raw lead key gap value) :
    raw.take (lead ++ key ++ gap).length = lead ++ key ++ gap := by
  rw [h.text]
  exact List.take_left

theorem drop_eq (h : IsAssignment raw lead key gap value) :
    raw.drop ((lead ++ key ++ gap).length + 1) = value := by
  rw [h.text, ← List.drop_drop, List.drop_left]
  rfl

theorem trim_eq (h : IsAssignment raw lead key gap value) : trim (lead ++ key ++ gap) = key :=
  trim_append h.lead_blank h.gap_blank h.key_trimmed

theorem trimStart_eq (h : IsAssignment raw lead key gap value) :
    trimStart (lead ++ key ++ gap) = key ++ gap := by
  have hhead : ∀ c ∈ (key ++ gap).head?, isBlank c = false := by
    intro c hc
    rw [List.head?_append_of_ne_nil _ h.key_ne] at hc
    exact h.key_trimmed.head c hc
  rw [List.append_assoc, h.lead_blank.trimStart_append, trimStart_of_head hhead]

theorem length_eq (h : IsAssignment raw lead key gap value) :
    raw.length = lead.length + key.length + gap.length + 1 + value.length := by
  rw [h.text]
  simp only [List.length_append, List.length_cons]
  omega

theorem unique {lead' key' gap' value' : Text} (h : IsAssignment raw lead key gap value)
    (h' : IsAssignment raw lead' key' gap' value') : key = key' ∧ value = value' := by
  have hlength := h.first.unique h'.first
  constructor
  · rw [← h.trim_eq, ← h.take_eq, hlength, h'.take_eq, h'.trim_eq]
  · rw [← h.drop_eq, hlength, h'.drop_eq]

theorem unique_blanks {lead' key' gap' value' : Text} (h : IsAssignment raw lead key gap value)
    (h' : IsAssignment raw lead' key' gap' value') : lead = lead' ∧ gap = gap' := by
  have hfront : lead ++ key ++ gap = lead' ++ key' ++ gap' := by
    rw [← h.take_eq, h.first.unique h'.first, h'.take_eq]
  have hrest : key ++ gap = key' ++ gap' := by rw [← h.trimStart_eq, hfront, h'.trimStart_eq]
  constructor
  · rw [List.append_assoc, List.append_assoc, hrest] at hfront
    exact List.append_cancel_right hfront
  · rw [(h.unique h').1] at hrest
    exact List.append_cancel_left hrest

theorem not_blank (h : IsAssignment raw lead key gap value) : ¬ IsBlankText raw := by
  intro hblank
  obtain ⟨c, rest, hkey⟩ := List.exists_cons_of_ne_nil h.key_ne
  have hvisible := h.key_trimmed.head c (by rw [hkey]; rfl)
  rw [hblank c (by rw [h.text, hkey]; simp)] at hvisible
  cases hvisible

/-- An assignment is a comment if its key starts with a hash. -/
theorem isComment_iff_head (h : IsAssignment raw lead key gap value) :
    IsComment raw ↔ key.head? = some '#' := by
  obtain ⟨c, rest, rfl⟩ := List.exists_cons_of_ne_nil h.key_ne
  have hc : isBlank c = false := h.key_trimmed.head c rfl
  have hraw : raw = lead ++ c :: (rest ++ gap ++ '=' :: value) := by rw [h.text]; simp
  rw [List.head?_cons, Option.some.injEq]
  constructor
  · -- white space is taken from both sides, and the first visible characters are left
    rintro ⟨lead', rest', hcomment, hlead'⟩
    have hhash : isBlank '#' = false := by decide
    have hstart := congrArg trimStart (hraw.symm.trans hcomment)
    rw [h.lead_blank.trimStart_append, hlead'.trimStart_append, trimStart_of_head (by simpa using hc),
      trimStart_of_head (by simpa using hhash)] at hstart
    exact (List.cons.inj hstart).1
  · rintro rfl
    exact ⟨lead, _, hraw, h.lead_blank⟩

end IsAssignment

theorem IsComment.not_blank {raw : Text} (h : IsComment raw) : ¬ IsBlankText raw := by
  intro hblank
  obtain ⟨lead, rest, rfl, -⟩ := h
  have hhash : isBlank '#' = true := hblank '#' (by simp)
  exact absurd hhash (by decide)

theorem exists_isAssignment {raw : Text} {sep : Nat} (h : IsFirstSeparator raw sep)
    (hkey : (trim (raw.take sep)) ≠ []) :
    ∃ lead key gap value, IsAssignment raw lead key gap value := by
  obtain ⟨lead, gap, htake, hlead, hgap⟩ := exists_trim (raw.take sep)
  have hraw : raw = raw.take sep ++ '=' :: raw.drop (sep + 1) := by
    obtain ⟨hlt, heq⟩ := List.getElem?_eq_some_iff.1 h.1.1
    rw [← heq, ← List.drop_eq_getElem_cons hlt, List.take_append_drop]
  have hlength : (raw.take sep).length = sep := List.length_take_of_le h.lt_length.le
  refine ⟨lead, trim (raw.take sep), gap, raw.drop (sep + 1), ?_, hlead, hgap, hkey,
    isTrimmed_trim _, ?_⟩
  · rw [← htake]
    exact hraw
  · rw [← htake, hlength]
    exact h

namespace Line

/-- The line that reading makes of an assignment. -/
def assigned (raw lead key gap value : Text) (number : Int) : Line :=
  { number := number
    raw := raw
    kind := .keyValue
    key := some key
    value := some value
    keySpan := some ⟨lead.length, lead.length + key.length⟩
    valueSpan := some ⟨lead.length + key.length + gap.length + 1, raw.length⟩ }

theorem assignment?_of_isAssignment {raw lead key gap value : Text} (number : Int)
    (h : IsAssignment raw lead key gap value) :
    assignment? raw number (lead ++ key ++ gap).length =
      some (assigned raw lead key gap value number) := by
  have hstart : (lead ++ key ++ gap).length - (key ++ gap).length = lead.length := by
    simp only [List.length_append]
    omega
  simp only [assignment?, h.take_eq, h.trim_eq, h.trimStart_eq, h.drop_eq, if_neg h.key_ne, hstart]
  simp only [assigned, List.length_append, Int.natCast_add]

/-- A line with nothing visible in front of its first separator is no assignment. -/
theorem assignment?_of_no_isAssignment {raw : Text} {sep : Nat} (number : Int)
    (h : IsFirstSeparator raw sep)
    (hno : ∀ lead key gap value, ¬ IsAssignment raw lead key gap value) :
    assignment? raw number sep = none := by
  by_cases hkey : trim (raw.take sep) = []
  · simp only [assignment?, hkey, if_true]
  · obtain ⟨lead, key, gap, value, hassign⟩ := exists_isAssignment h hkey
    exact absurd hassign (hno lead key gap value)

/-- What reading makes of a line: blank lines, comments, assignments, and all others. -/
theorem read_cases (raw : Text) (number : Int) :
    (IsBlankText raw ∧ read raw number = { number := number, raw := raw, kind := .empty }) ∨
    (¬ IsBlankText raw ∧ IsComment raw ∧
      read raw number = { number := number, raw := raw, kind := .comment }) ∨
    (¬ IsComment raw ∧ ∃ lead key gap value, IsAssignment raw lead key gap value ∧
      read raw number = assigned raw lead key gap value number) ∨
    (¬ IsBlankText raw ∧ ¬ IsComment raw ∧
      (∀ lead key gap value, ¬ IsAssignment raw lead key gap value) ∧
      read raw number = { number := number, raw := raw, kind := .invalid }) := by
  by_cases hblank : IsBlankText raw
  · exact .inl ⟨hblank, by simp only [read, trim_eq_nil.2 hblank, if_true]⟩
  by_cases hcomment : IsComment raw
  · refine .inr (.inl ⟨hblank, hcomment, ?_⟩)
    simp only [read, mt trim_eq_nil.1 hblank, isComment_iff.2 hcomment, if_true, if_false]
  -- what is left depends on the first separator and on what stands in front of it
  have hread : read raw number = ((separatorIndex? raw).bind (assignment? raw number)).getD
      { number := number, raw := raw, kind := .invalid } := by
    simp only [read, mt trim_eq_nil.1 hblank, mt isComment_iff.1 hcomment, if_false]
  refine .inr (.inr ?_)
  by_cases hsome : ∃ lead key gap value, IsAssignment raw lead key gap value
  · obtain ⟨lead, key, gap, value, h⟩ := hsome
    refine .inl ⟨hcomment, lead, key, gap, value, h, ?_⟩
    rw [hread, separatorIndex?_eq_some.2 h.first, Option.bind_some,
      assignment?_of_isAssignment number h, Option.getD_some]
  · have hno : ∀ lead key gap value, ¬ IsAssignment raw lead key gap value :=
      fun lead key gap value h => hsome ⟨lead, key, gap, value, h⟩
    refine .inr ⟨hblank, hcomment, hno, ?_⟩
    rw [hread]
    cases hsep : separatorIndex? raw with
    | none => rfl
    | some sep =>
      rw [Option.bind_some,
        assignment?_of_no_isAssignment number (separatorIndex?_eq_some.1 hsep) hno]
      rfl

theorem read_number (raw : Text) (number : Int) : (read raw number).number = number := by
  rcases read_cases raw number with ⟨-, h⟩ | ⟨-, -, h⟩ | ⟨-, _, _, _, _, -, h⟩ | ⟨-, -, -, h⟩ <;>
    exact congrArg Line.number h

theorem read_raw (raw : Text) (number : Int) : (read raw number).raw = raw := by
  rcases read_cases raw number with ⟨-, h⟩ | ⟨-, -, h⟩ | ⟨-, _, _, _, _, -, h⟩ | ⟨-, -, -, h⟩ <;>
    exact congrArg Line.raw h

/-- Reading an assignment that is no comment finds the key, the value and their places. -/
theorem read_of_isAssignment {raw lead key gap value : Text} (noComment : ¬ IsComment raw)
    (h : IsAssignment raw lead key gap value) (number : Int) :
    read raw number = assigned raw lead key gap value number := by
  rcases read_cases raw number with ⟨hblank, -⟩ | ⟨-, hcomment, -⟩ |
    ⟨-, lead', key', gap', value', h', hread⟩ | ⟨-, -, noKey, -⟩
  · exact absurd hblank h.not_blank
  · exact absurd hcomment noComment
  · obtain ⟨rfl, rfl⟩ := h.unique h'
    obtain ⟨rfl, rfl⟩ := h.unique_blanks h'
    exact hread
  · exact absurd h (noKey lead key gap value)

/-! ## The kinds of line -/

section
variable {raw : Text} {number : Int}

theorem kind_read_eq_empty : (read raw number).kind = .empty ↔ IsBlankText raw := by
  rcases read_cases raw number with ⟨hblank, hread⟩ | ⟨visible, -, hread⟩ |
    ⟨-, _, _, _, _, h, hread⟩ | ⟨visible, -, -, hread⟩
  · simp [hread, hblank]
  · simp [hread, visible]
  · simp [hread, assigned, h.not_blank]
  · simp [hread, visible]

theorem kind_read_eq_comment : (read raw number).kind = .comment ↔ IsComment raw := by
  rcases read_cases raw number with ⟨hblank, hread⟩ | ⟨-, hcomment, hread⟩ |
    ⟨noComment, _, _, _, _, -, hread⟩ | ⟨-, noComment, -, hread⟩
  · simp [hread, mt IsComment.not_blank (not_not.2 hblank)]
  · simp [hread, hcomment]
  · simp [hread, assigned, noComment]
  · simp [hread, noComment]

theorem kind_read_eq_invalid : (read raw number).kind = .invalid ↔
    ¬ IsBlankText raw ∧ ¬ IsComment raw ∧
      ∀ lead key gap value, ¬ IsAssignment raw lead key gap value := by
  rcases read_cases raw number with ⟨hblank, hread⟩ | ⟨-, hcomment, hread⟩ |
    ⟨-, lead, key, gap, value, h, hread⟩ | ⟨visible, noComment, noKey, hread⟩
  · simp [hread, hblank]
  · simp [hread, hcomment]
  · simp only [hread, assigned, reduceCtorEq, false_iff]
    rintro ⟨-, -, noKey⟩
    exact noKey lead key gap value h
  · simp [hread, visible, noComment, noKey]

theorem read_of_no_key : (read raw number).kind = .keyValue ∨
    read raw number = { number := number, raw := raw, kind := (read raw number).kind } := by
  rcases read_cases raw number with ⟨-, hread⟩ | ⟨-, -, hread⟩ |
    ⟨-, _, _, _, _, -, hread⟩ | ⟨-, -, -, hread⟩
  · exact .inr (by rw [hread])
  · exact .inr (by rw [hread])
  · exact .inl (by rw [hread]; rfl)
  · exact .inr (by rw [hread])

theorem read_eq_keyValue {key value : Text} {start sep : Int} :
    read raw number =
        { number := number
          raw := raw
          kind := .keyValue
          key := some key
          value := some value
          keySpan := some ⟨start, start + key.length⟩
          valueSpan := some ⟨sep + 1, raw.length⟩ } ↔
      ∃ lead gap, IsAssignment raw lead key gap value ∧ key.head? ≠ some '#' ∧
        start = lead.length ∧ sep = (lead ++ key ++ gap).length := by
  constructor
  · intro hline
    rcases read_cases raw number with ⟨-, hread⟩ | ⟨-, -, hread⟩ |
      ⟨noComment, lead, key', gap, value', h, hread⟩ | ⟨-, -, -, hread⟩ <;> rw [hread] at hline
    · cases hline
    · cases hline
    · simp only [assigned, Line.mk.injEq, Option.some.injEq, Span.mk.injEq, true_and] at hline
      obtain ⟨rfl, rfl, ⟨hstart, -⟩, hsep, -⟩ := hline
      refine ⟨lead, gap, h, mt h.isComment_iff_head.2 noComment, hstart.symm, ?_⟩
      simp only [List.length_append]
      omega
    · cases hline
  · rintro ⟨lead, gap, h, hhead, rfl, rfl⟩
    rw [read_of_isAssignment (mt h.isComment_iff_head.1 hhead) h, assigned]
    simp only [List.length_append, Int.natCast_add]

end

/-- Reading recognises exactly the grammar of a line. It finds a key, a value and these places just
    where the line is white space up to `start`, the key, white space up to its first separator at
    `sep`, and the value. Otherwise a line of white space is empty, one whose first visible
    character is a hash is a comment, all others are invalid, and of these three nothing is set. -/
theorem read_exact (raw : Text) (number : Int) :
    (∀ (key value : Text) (start sep : Int),
      read raw number =
          { number := number
            raw := raw
            kind := .keyValue
            key := some key
            value := some value
            keySpan := some ⟨start, start + key.length⟩
            valueSpan := some ⟨sep + 1, raw.length⟩ } ↔
        ∃ lead gap, IsAssignment raw lead key gap value ∧ key.head? ≠ some '#' ∧
          start = lead.length ∧ sep = (lead ++ key ++ gap).length) ∧
    ((read raw number).kind = .empty ↔ IsBlankText raw) ∧
    ((read raw number).kind = .comment ↔ IsComment raw) ∧
    ((read raw number).kind = .invalid ↔ ¬ IsBlankText raw ∧ ¬ IsComment raw ∧
      ∀ lead key gap value, ¬ IsAssignment raw lead key gap value) ∧
    ((read raw number).kind = .keyValue ∨
      read raw number = { number := number, raw := raw, kind := (read raw number).kind }) :=
  ⟨fun _ _ _ _ => read_eq_keyValue, kind_read_eq_empty, kind_read_eq_comment,
    kind_read_eq_invalid, read_of_no_key⟩

end Line

/-! ## Documents -/

theorem readLinesFrom_cons (start : Nat) (raw : Text) (raws : List Text) :
    readLinesFrom start (raw :: raws) = Line.read raw start :: readLinesFrom (start + 1) raws := by
  rw [readLinesFrom, List.mapIdx_cons, readLinesFrom]
  simp only [Nat.add_zero, Nat.add_assoc, Nat.add_comm 1]

theorem mem_readLinesFrom {start : Nat} {raws : List Text} {line : Line} :
    line ∈ readLinesFrom start raws ↔
      ∃ i raw, raws[i]? = some raw ∧ line = Line.read raw (start + i : Nat) := by
  rw [readLinesFrom, List.mem_iff_getElem?]
  simp only [List.getElem?_mapIdx, Option.map_eq_some_iff, @eq_comm _ _ line]

theorem getElem?_readDocument_eq_map (t : Text) (i : Nat) :
    (readDocument t)[i]? = t.lines[i]?.map fun raw => Line.read raw i := by
  rw [readDocument, readLinesFrom, List.getElem?_mapIdx]
  simp only [Nat.zero_add]

theorem getElem?_readDocument {t : Text} {i : Nat} {line : Line} :
    (readDocument t)[i]? = some line ↔
      ∃ raw, t.lines[i]? = some raw ∧ line = Line.read raw i := by
  rw [getElem?_readDocument_eq_map, Option.map_eq_some_iff]
  simp only [@eq_comm _ _ line]

end ConfigLint
