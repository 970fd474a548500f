import ConfigLint.Proofs.LineFindings
/-!
The order of the diagnostics of a document. What is found about the lines by themselves comes
first, in the order of the lines and of the checks of one line. The reports of repeated keys
follow, in the order of the lines that set the keys first.

What is proved:
  1. `pairwise_foundAt`: what is found about the lines is in order, strictly. `CodeBefore` relates
     the codes that can stand together at one line, so an invalid line and an unknown key stand
     alone.
  2. `pairwise_firsts`: the keys of any lines come in the order of their first lines, whatever
     stands between the lines of one key.
  3. `checkDocument_ordered`: so the diagnostics of a document are two strictly ordered lists one
     behind the other, and no two of them share both line and code.
-/
namespace ConfigLint

/-- Of two findings about one line, the one with this code comes first. -/
inductive CodeBefore : DiagnosticCode → DiagnosticCode → Prop where
  | deprecated_platform : CodeBefore .deprecatedKey .platformMismatch
  | deprecated_value : CodeBefore .deprecatedKey .invalidValue
  | platform_value : CodeBefore .platformMismatch .invalidValue

/-- The order of what is found about lines by themselves: by line, then by check. -/
def FoundBefore (d d' : Diagnostic) : Prop :=
  d.line < d'.line ∨ (d.line = d'.line ∧ CodeBefore d.code d'.code)

/-- The diagnostic reports that its line repeats a key, which line `first` sets for the first
    time. -/
def ReportsRepeat (s : Schema) (lines : List Line) (first : Nat) (d : Diagnostic) : Prop :=
  ∃ (key : Text) (i : Nat), d.line = i ∧ Repeats s lines key first i ∧
    IsRepeatReport lines key first i d

/-- The order of reports of repeated keys: by the first line of the key, then by line. -/
def RepeatBefore (s : Schema) (lines : List Line) (d d' : Diagnostic) : Prop :=
  ∃ first first', ReportsRepeat s lines first d ∧ ReportsRepeat s lines first' d' ∧
    (first < first' ∨ (first = first' ∧ d.line < d'.line))

/-- Position `first` is the first one that sets `key`. -/
structure IsFirst (lines : List Line) (key : Text) (first : Nat) : Prop where
  sets : SetsKey lines key first
  leads : ∀ j, SetsKey lines key j → first ≤ j

theorem CodeBefore.irrefl {c : DiagnosticCode} : ¬ CodeBefore c c := by
  intro h
  cases h

theorem FoundBefore.ne {d d' : Diagnostic} (h : FoundBefore d d') :
    (d.line, d.code) ≠ (d'.line, d'.code) := by
  intro heq
  obtain ⟨hline, hcode⟩ := Prod.mk.inj heq
  rcases h with h | ⟨-, h⟩
  · omega
  · exact CodeBefore.irrefl (hcode ▸ h)

theorem Repeats.isFirst {s : Schema} {lines : List Line} {key : Text} {first i : Nat}
    (h : Repeats s lines key first i) : IsFirst lines key first := ⟨h.there, h.leads⟩

theorem IsFirst.unique {lines : List Line} {key : Text} {first first' : Nat}
    (h : IsFirst lines key first) (h' : IsFirst lines key first') : first = first' :=
  Nat.le_antisymm (h.leads first' h'.sets) (h'.leads first h.sets)

theorem exists_left_of_forall₂ {α β : Type} {R : α → β → Prop} {xs : List α} {ys : List β}
    (h : List.Forall₂ R xs ys) {y : β} (hy : y ∈ ys) : ∃ x ∈ xs, R x y := by
  induction h with
  | nil => cases hy
  | @cons x z xs ys hxz _ ih =>
    rcases List.mem_cons.1 hy with rfl | hy
    · exact ⟨x, List.mem_cons_self, hxz⟩
    · obtain ⟨x', hx', hxy⟩ := ih hy
      exact ⟨x', List.mem_cons_of_mem x hx', hxy⟩

/-- Of two related lists both are in order if one is. -/
theorem pairwise_of_forall₂ {α β : Type} {R : α → β → Prop} {S : α → α → Prop} {T : β → β → Prop}
    {xs : List α} {ys : List β} (hrel : List.Forall₂ R xs ys)
    (hST : ∀ x y x' y', R x y → R x' y' → S x x' → T y y') (h : xs.Pairwise S) :
    ys.Pairwise T := by
  induction hrel with
  | nil => exact List.Pairwise.nil
  | @cons x y xs ys hxy hrest ih =>
    rw [List.pairwise_cons] at h
    refine List.pairwise_cons.2 ⟨?_, ih h.2⟩
    intro y' hy'
    obtain ⟨x', hx', hxy'⟩ := exists_left_of_forall₂ hrest hy'
    exact hST x y x' y' hxy hxy' (h.1 x' hx')

/-! ## First lines of keys -/

theorem setsKey_concat {lines : List Line} {line : Line} {key : Text} {i : Nat} :
    SetsKey (lines ++ [line]) key i ↔
      SetsKey lines key i ∨ (i = lines.length ∧ line.key? = some key) := by
  simp only [setsKey_iff, List.getElem?_append]
  by_cases hi : i < lines.length
  · have hne : i ≠ lines.length := by omega
    simp [hi, hne]
  · simp only [hi, if_false, List.getElem?_singleton]
    have hnone : lines[i]? = none := List.getElem?_eq_none (by omega)
    by_cases heq : i = lines.length
    · simp [heq]
    · have hsub : i - lines.length ≠ 0 := by omega
      simp [hnone, heq, hsub]

theorem SetsKey.lt_length {lines : List Line} {key : Text} {i : Nat} (h : SetsKey lines key i) :
    i < lines.length := by
  obtain ⟨line, hline, -⟩ := h
  exact (List.getElem?_eq_some_iff.1 hline).1

/-- A key that some lines set is set first where it was, whatever line comes behind them. -/
theorem IsFirst.of_concat {lines : List Line} {line : Line} {key : Text} {first : Nat}
    (h : IsFirst (lines ++ [line]) key first)
    (hmem : key ∈ (lines.filterMap Line.key?).eraseDups) : IsFirst lines key first := by
  rw [List.mem_eraseDups, List.mem_filterMap] at hmem
  obtain ⟨old, hold, hkey⟩ := hmem
  obtain ⟨i, hi⟩ := List.mem_iff_getElem?.1 hold
  have hsets : SetsKey lines key i := setsKey_iff.2 ⟨old, hi, hkey⟩
  have hle : first ≤ i := h.leads i (setsKey_concat.2 (.inl hsets))
  refine ⟨?_, fun j hj => h.leads j (setsKey_concat.2 (.inl hj))⟩
  refine (setsKey_concat.1 h.sets).resolve_right ?_
  rintro ⟨hlast, -⟩
  have := hsets.lt_length
  omega

theorem Repeats.unique {s : Schema} {lines : List Line} {key key' : Text} {first first' i : Nat}
    (h : Repeats s lines key first i) (h' : Repeats s lines key' first' i) :
    key = key' ∧ first = first' := by
  obtain rfl := h.here.unique h'.here
  exact ⟨rfl, h.isFirst.unique h'.isFirst⟩

namespace Schema

/-! ## What is found about the lines -/

theorem pairwise_codes_foundAt [Interpreter] (s : Schema) (options : CheckOptions) (line : Line) :
    (s.foundAt options line).Pairwise fun d d' => CodeBefore d.code d'.code := by
  rw [← List.pairwise_map (f := Diagnostic.code)]
  rcases codes_foundAt_cases s options line with h | h | h
  · rw [h]
    exact List.pairwise_singleton ..
  · rw [h]
    exact List.pairwise_singleton ..
  · refine List.Pairwise.sublist h ?_
    simp [CodeBefore.deprecated_platform, CodeBefore.deprecated_value, CodeBefore.platform_value]

theorem pairwise_readDocument (t : Text) :
    (readDocument t).Pairwise fun line line' => line.number < line'.number := by
  rw [List.pairwise_iff_getElem]
  intro i j hi hj hij
  obtain ⟨raw, -, hline⟩ := getElem?_readDocument.1 (List.getElem?_eq_getElem hi)
  obtain ⟨raw', -, hline'⟩ := getElem?_readDocument.1 (List.getElem?_eq_getElem hj)
  rw [hline, hline', Line.read_number, Line.read_number]
  omega

theorem line_of_mem_foundAt [Interpreter] {s : Schema} {options : CheckOptions} {text : Text}
    {line : Line}
    {d : Diagnostic} (hline : line ∈ readDocument text) (hd : d ∈ s.foundAt options line) :
    d.line = line.number ∧ d.code ≠ .duplicateKey := by
  obtain ⟨i, hi⟩ := List.mem_iff_getElem?.1 hline
  obtain ⟨raw, -, rfl⟩ := getElem?_readDocument.1 hi
  rw [Line.read_number]
  exact foundAt_of_mem hd

theorem pairwise_foundAt [Interpreter] (s : Schema) (options : CheckOptions) (text : Text) :
    ((readDocument text).flatMap (s.foundAt options)).Pairwise FoundBefore := by
  rw [List.pairwise_flatMap]
  constructor
  · -- at one line the codes decide
    intro line hline
    refine (pairwise_codes_foundAt s options line).imp_of_mem ?_
    intro d d' hd hd' hcodes
    refine .inr ⟨?_, hcodes⟩
    rw [(line_of_mem_foundAt hline hd).1, (line_of_mem_foundAt hline hd').1]
  · refine (pairwise_readDocument text).imp_of_mem ?_
    intro line line' hline hline' hlt d hd d' hd'
    refine .inl ?_
    rw [(line_of_mem_foundAt hline hd).1, (line_of_mem_foundAt hline' hd').1]
    exact hlt

/-! ## Repeated keys -/

/-- The keys of the groups stand in the order of the positions that set them first. -/
theorem pairwise_firsts (lines : List Line) :
    ((lines.filterMap Line.key?).eraseDups).Pairwise fun key key' =>
      ∀ first first', IsFirst lines key first → IsFirst lines key' first' → first < first' := by
  induction lines using List.reverseRecOn with
  | nil => exact List.Pairwise.nil
  | append_singleton lines line ih =>
    -- the keys that were there stay where they were
    have hold : ((lines.filterMap Line.key?).eraseDups).Pairwise fun key key' =>
        ∀ first first', IsFirst (lines ++ [line]) key first →
          IsFirst (lines ++ [line]) key' first' → first < first' := by
      refine ih.imp_of_mem ?_
      intro key key' hkey hkey' hlt first first' hfirst hfirst'
      exact hlt first first' (hfirst.of_concat hkey) (hfirst'.of_concat hkey')
    rw [List.filterMap_append]
    cases hkey : line.key? with
    | none => simpa [hkey] using hold
    | some key =>
      have hlast : [line].filterMap Line.key? = [key] := by simp [hkey]
      rw [hlast, eraseDups_concat]
      split
      · exact hold
      · next hnew =>
        -- a new key is set first by the last line, behind the first lines of all others
        refine List.pairwise_append.2 ⟨hold, List.pairwise_singleton .., ?_⟩
        intro other hother key' hkey' first first' hfirst hfirst'
        obtain rfl := List.mem_singleton.1 hkey'
        have hlt := (hfirst.of_concat hother).sets.lt_length
        rcases setsKey_concat.1 hfirst'.sets with hsets | ⟨rfl, -⟩
        · exact absurd (List.mem_eraseDups.1 (mem_keys_of_spot hsets)) hnew
        · exact hlt

/-- The positions that repeat a key are in order of the first positions of the keys. -/
theorem pairwise_repeatPositions (s : Schema) (lines : List Line) :
    (repeatPositions s lines).Pairwise fun i i' => ∃ key first key' first',
      Repeats s lines key first i ∧ Repeats s lines key' first' i' ∧
        (first < first' ∨ (first = first' ∧ i < i')) := by
  rw [repeatPositions, List.pairwise_flatMap]
  constructor
  · intro key _
    -- the positions of one key have one first position, and they are in order
    have hlt : (if s.isRepeatable key then []
        else ((keySpots lines key).map Prod.snd).tail).Pairwise (· < ·) := by
      split
      · exact List.Pairwise.nil
      · exact (pairwise_keySpots lines key).tail
    refine hlt.imp_of_mem ?_
    intro i i' hi hi' hii'
    obtain ⟨first, h⟩ := mem_repeatsOfKey.1 hi
    obtain ⟨first', h'⟩ := mem_repeatsOfKey.1 hi'
    exact ⟨key, first, key, first', h, h', .inr ⟨h.isFirst.unique h'.isFirst, hii'⟩⟩
  · refine (pairwise_firsts lines).imp ?_
    intro key key' hlt i hi i' hi'
    obtain ⟨first, h⟩ := mem_repeatsOfKey.1 hi
    obtain ⟨first', h'⟩ := mem_repeatsOfKey.1 hi'
    exact ⟨key, first, key', first', h, h', .inl (hlt first first' h.isFirst h'.isFirst)⟩

theorem forall₂_checkDuplicates (s : Schema) (text : Text) :
    List.Forall₂ (fun (i : Nat) (d : Diagnostic) => d.line = i ∧ ∃ key first,
        Repeats s (readDocument text) key first i ∧
        IsRepeatReport (readDocument text) key first i d)
      (repeatPositions s (readDocument text)) (s.checkDuplicates (readDocument text)) := by
  rw [checkDuplicates_eq, repeatPositions]
  refine List.rel_flatMap (R := (· = ·)) (by rw [List.forall₂_eq_eq_eq]) ?_
  rintro key _ rfl
  refine (reports_of_key s (readDocument text) key).imp ?_
  rintro i d ⟨first, hrepeats, hreport⟩
  refine ⟨?_, key, first, hrepeats, hreport⟩
  obtain ⟨line, opening, hline, -, rfl⟩ := hreport
  obtain ⟨raw, -, rfl⟩ := getElem?_readDocument.1 hline
  exact Line.read_number raw i

theorem pairwise_checkDuplicates (s : Schema) (text : Text) :
    (s.checkDuplicates (readDocument text)).Pairwise (RepeatBefore s (readDocument text)) := by
  refine pairwise_of_forall₂ (forall₂_checkDuplicates s text) ?_
    (pairwise_repeatPositions s (readDocument text))
  rintro i d i' d' ⟨hline, hd⟩ ⟨hline', hd'⟩ ⟨key, first, key', first', h, h', hlt⟩
  obtain ⟨_, _, hreport, hreportOf⟩ := hd
  obtain ⟨_, _, hreport', hreportOf'⟩ := hd'
  obtain ⟨rfl, rfl⟩ := h.unique hreport
  obtain ⟨rfl, rfl⟩ := h'.unique hreport'
  refine ⟨first, first', ⟨key, i, hline, h, hreportOf⟩, ⟨key', i', hline', h', hreportOf'⟩, ?_⟩
  rw [hline, hline']
  omega

theorem RepeatBefore.ne {s : Schema} {lines : List Line} {d d' : Diagnostic}
    (h : RepeatBefore s lines d d') : (d.line, d.code) ≠ (d'.line, d'.code) := by
  intro heq
  have hline : d.line = d'.line := (Prod.mk.inj heq).1
  obtain ⟨first, first', ⟨key, i, hi, hrepeats, -⟩, ⟨key', i', hi', hrepeats', -⟩, hlt⟩ := h
  obtain rfl : i = i' := by omega
  have hfirst := (hrepeats.unique hrepeats').2
  omega

/-! ## Whole documents -/

/-- The diagnostics of a document are what is found about its lines, in the order of lines and
    checks, and then the reports of repeated keys, in the order of the first lines of the keys. No
    two of them have the same code at the same line. -/
theorem checkDocument_ordered [Interpreter] (s : Schema) (options : CheckOptions) (text : Text) :
    ∃ found repeated, (s.checkDocument options text).diagnostics = found ++ repeated ∧
      (∀ d ∈ found, d.code ≠ .duplicateKey) ∧
      (∀ d ∈ repeated, d.code = .duplicateKey ∧
        ∃ first, ReportsRepeat s (readDocument text) first d) ∧
      found.Pairwise FoundBefore ∧
      repeated.Pairwise (RepeatBefore s (readDocument text)) ∧
      ((s.checkDocument options text).diagnostics.map fun d => (d.line, d.code)).Nodup := by
  cases enabled : options.enabled with
  | false =>
    refine ⟨[], [], ?_⟩
    simp [checkDocument, enabled]
  | true =>
    have hcheck : (s.checkDocument options text).diagnostics =
        (readDocument text).flatMap (s.foundAt options) ++
          s.checkDuplicates (readDocument text) := by
      simp only [checkDocument, enabled, Bool.not_true, Bool.false_eq_true, if_false]
      rfl
    have hfound : ∀ d ∈ (readDocument text).flatMap (s.foundAt options),
        d.code ≠ .duplicateKey := by
      intro d hd
      obtain ⟨line, hline, hd⟩ := List.mem_flatMap.1 hd
      exact (line_of_mem_foundAt hline hd).2
    have hrepeated : ∀ d ∈ s.checkDuplicates (readDocument text), d.code = .duplicateKey :=
      fun d hd => code_of_mem_checkDuplicates hd
    refine ⟨_, _, hcheck, hfound, ?_, pairwise_foundAt s options text,
      pairwise_checkDuplicates s text, ?_⟩
    · intro d hd
      refine ⟨hrepeated d hd, ?_⟩
      obtain ⟨i, -, hi, key, first, h⟩ :=
        exists_left_of_forall₂ (forall₂_checkDuplicates s text) hd
      exact ⟨first, key, i, hi, h⟩
    · rw [hcheck, List.Nodup, List.pairwise_map, List.pairwise_append]
      refine ⟨(pairwise_foundAt s options text).imp FoundBefore.ne,
        (pairwise_checkDuplicates s text).imp RepeatBefore.ne, ?_⟩
      -- a report of a repeated key has a code of its own
      intro d hd d' hd' heq
      exact hfound d hd ((Prod.mk.inj heq).2.trans (hrepeated d' hd'))

/-- The key that is set first is reported first, though its repetition comes last. -/
example : (Schema.fallback.checkDuplicates
    (readDocument "b = 1\na = 1\na = 2\nb = 2".toList)).map Diagnostic.line = [3, 2] := by
  decide +kernel

end Schema
end ConfigLint
