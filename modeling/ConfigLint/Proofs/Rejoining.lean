import ConfigLint.Proofs.LineEnds
import ConfigLint.Proofs.Spans
/-!
Nothing is lost when a document is read. Its lines, put together again, are its text but for the
spelling of line ends and a byte order mark in front; the parts of a key/value line, put together
again, are the line.

What is proved:
  1. `unifyLineEnds_eq_replaceAll`: one pass over a text unifies its line ends as two passes do, of
     which the first replaces the line ends of two characters and the second the carriage returns
     that are left.
  2. `length_lines`: there is one line more than there are line ends in the text.
  3. `Line.isTiled_read`: the spans of a key/value line and what stands between them make up the
     line.
  4. `readDocument_lossless`: so the text of a document can be had back from its lines, and reading
     it again gives the same lines.
-/
namespace ConfigLint
namespace Text

/-- The number of line ends of a text. A carriage return with a line feed behind it is one line end,
    and so is any other carriage return or line feed. -/
def countLineEnds : Text → Nat
  | '\r' :: '\n' :: t => countLineEnds t + 1
  | '\r' :: t => countLineEnds t + 1
  | '\n' :: t => countLineEnds t + 1
  | _ :: t => countLineEnds t
  | [] => 0

/-- The text with `new` in the place of `old`, which is not empty, wherever it stands. Of two places
    that overlap the one in front counts. -/
def replaceAll (old new : Text) : Text → Text
  | [] => []
  | c :: t =>
    if old.isPrefixOf (c :: t) then new ++ replaceAll old new (t.drop (old.length - 1))
    else c :: replaceAll old new t
termination_by t => t.length
decreasing_by all_goals simp only [List.length_drop, List.length_cons]; omega

/-! ## Unified line ends -/

section
variable {old new t : Text} {c : Char}

theorem unifyLineEnds_pair (t : Text) :
    unifyLineEnds ('\r' :: '\n' :: t) = '\n' :: unifyLineEnds t := by
  simp [unifyLineEnds_cons]

theorem unifyLineEnds_return (h : ∀ rest, t ≠ '\n' :: rest) :
    unifyLineEnds ('\r' :: t) = '\n' :: unifyLineEnds t := by
  have hhead : t.head? ≠ some '\n' := by
    intro hfeed
    obtain ⟨rest, hrest⟩ := List.head?_eq_some_iff.1 hfeed
    exact h rest hrest
  rw [unifyLineEnds_cons, if_pos rfl, if_neg hhead]

theorem unifyLineEnds_of_ne (hc : c ≠ '\r') (t : Text) :
    unifyLineEnds (c :: t) = c :: unifyLineEnds t := by
  rw [unifyLineEnds_cons, if_neg hc]

theorem replaceAll_append (h : old ≠ []) (t : Text) :
    replaceAll old new (old ++ t) = new ++ replaceAll old new t := by
  obtain ⟨c, rest, hold⟩ := List.exists_cons_of_ne_nil h
  have htext : old ++ t = c :: (rest ++ t) := by rw [hold, List.cons_append]
  have hprefix : old.isPrefixOf (c :: (rest ++ t)) = true := by simp [hold]
  have hdrop : (rest ++ t).drop (old.length - 1) = t := by simp [hold]
  rw [htext, replaceAll, if_pos hprefix, hdrop]

theorem replaceAll_cons (h : ¬ old <+: c :: t) :
    replaceAll old new (c :: t) = c :: replaceAll old new t := by
  rw [replaceAll, if_neg (mt List.isPrefixOf_iff_prefix.1 h)]

theorem replaceAll_return (t : Text) :
    replaceAll ['\r'] ['\n'] ('\r' :: t) = '\n' :: replaceAll ['\r'] ['\n'] t :=
  replaceAll_append (List.cons_ne_nil _ _) t

theorem replaceAll_of_ne_return (hc : c ≠ '\r') (t : Text) :
    replaceAll ['\r'] ['\n'] (c :: t) = c :: replaceAll ['\r'] ['\n'] t := by
  apply replaceAll_cons
  rw [List.cons_prefix_cons]
  exact fun h => hc h.1.symm

/-- Line ends are unified by replacing those of two characters, and then the carriage returns that
    are left. -/
theorem unifyLineEnds_eq_replaceAll (t : Text) :
    unifyLineEnds t = replaceAll ['\r'] ['\n'] (replaceAll ['\r', '\n'] ['\n'] t) := by
  -- along the first pass: it replaces what is in front of the text, or keeps the first character
  induction t using replaceAll.induct ['\r', '\n'] with
  | case1 => simp [replaceAll, unifyLineEnds]
  | case2 c t hpair ih =>
    obtain ⟨rest, hrest⟩ := List.isPrefixOf_iff_prefix.1 hpair
    obtain ⟨rfl, rfl⟩ := List.cons.inj hrest
    have hfeed : '\n' ≠ '\r' := by decide
    have hfirst : replaceAll ['\r', '\n'] ['\n'] ('\r' :: '\n' :: rest) =
        '\n' :: replaceAll ['\r', '\n'] ['\n'] rest :=
      replaceAll_append (List.cons_ne_nil _ _) rest
    calc unifyLineEnds ('\r' :: '\n' :: rest)
        = '\n' :: unifyLineEnds rest := unifyLineEnds_pair rest
      _ = '\n' :: replaceAll ['\r'] ['\n'] (replaceAll ['\r', '\n'] ['\n'] rest) :=
          congrArg (List.cons '\n') ih
      _ = replaceAll ['\r'] ['\n'] (replaceAll ['\r', '\n'] ['\n'] ('\r' :: '\n' :: rest)) := by
          rw [hfirst, replaceAll_of_ne_return hfeed]
  | case3 c t hpair ih =>
    rw [List.isPrefixOf_iff_prefix] at hpair
    rw [replaceAll_cons hpair]
    by_cases hc : c = '\r'
    · have hlone : ∀ rest, t ≠ '\n' :: rest := by
        intro rest hrest
        apply hpair
        exact ⟨rest, by rw [hc, hrest]; rfl⟩
      rw [hc, unifyLineEnds_return hlone, replaceAll_return, ih]
    · rw [unifyLineEnds_of_ne hc, replaceAll_of_ne_return hc, ih]

/-! ## The number of lines -/

theorem countLineEnds_of_ne (hreturn : c ≠ '\r') (hfeed : c ≠ '\n') (t : Text) :
    countLineEnds (c :: t) = countLineEnds t :=
  countLineEnds.eq_4 c t (fun _ hc _ => hreturn hc) hreturn hfeed

theorem count_unifyLineEnds (t : Text) : (unifyLineEnds t).count '\n' = countLineEnds t := by
  induction t using countLineEnds.induct with
  | case1 t ih => rw [unifyLineEnds_pair, List.count_cons_self, ih, countLineEnds]
  | case2 t hlone ih =>
    rw [unifyLineEnds_return hlone, List.count_cons_self, ih, countLineEnds.eq_2 t hlone]
  | case3 t ih =>
    rw [unifyLineEnds_of_ne (by decide), List.count_cons_self, ih, countLineEnds]
  | case4 c t _ hreturn hfeed ih =>
    rw [unifyLineEnds_of_ne hreturn, List.count_cons_of_ne hfeed, ih,
      countLineEnds_of_ne hreturn hfeed]
  | case5 => rfl

theorem countLineEnds_dropLead (t : Text) :
    countLineEnds (t.dropLead [byteOrderMark]) = countLineEnds t := by
  by_cases hmark : t.head? = some byteOrderMark
  · obtain ⟨rest, rfl⟩ := List.head?_eq_some_iff.1 hmark
    rw [dropLead_mark, countLineEnds_of_ne (by decide) (by decide)]
  · rw [dropLead_of_no_mark hmark]

theorem length_splitOn (sep : Char) (t : Text) : (t.splitOn sep).length = t.count sep + 1 := by
  induction t with
  | nil => rfl
  | cons c t ih =>
    rw [List.splitOn] at ih ⊢
    rw [List.splitOnP_cons_eq_if_modifyHead, List.count_cons]
    by_cases hc : (c == sep) = true
    · rw [if_pos hc, if_pos hc, List.length_cons, ih]
    · rw [if_neg hc, if_neg hc, List.length_modifyHead, ih]

theorem length_lines (t : Text) : (lines t).length = countLineEnds t + 1 := by
  rw [lines, length_splitOn, count_unifyLineEnds, countLineEnds_dropLead]

/-- The lines of a text with a line feed between neighbours are the text, but for its line ends and a
    mark in front. -/
theorem join_lines (t : Text) :
    join ['\n'] (lines t) = unifyLineEnds (t.dropLead [byteOrderMark]) :=
  List.intercalate_splitOn '\n'

end
end Text

open Text

/-! ## The parts of a line -/

/-- The spans of the key and the value lie one behind the other, and what stands in front of the key,
    the key, what stands up to the value, and the value make up the line. -/
def Line.IsTiled (line : Line) : Prop :=
  ∃ (key value : Text) (start stop next : Nat),
    line.key = some key ∧ line.value = some value ∧ line.keySpan = some ⟨start, stop⟩ ∧
    line.valueSpan = some ⟨next, line.raw.length⟩ ∧
    start ≤ stop ∧ stop ≤ next ∧ next ≤ line.raw.length ∧
    line.raw.take start ++ key ++ line.raw.slice stop next ++ value = line.raw

theorem IsAssignment.isTiled {raw lead key gap value : Text}
    (h : IsAssignment raw lead key gap value) (number : Int) :
    (Line.assigned raw lead key gap value number).IsTiled := by
  have hlength := h.length_eq
  have hlead : raw.take lead.length = lead := by
    rw [h.text, List.append_assoc, List.append_assoc]
    exact List.take_left
  have hgap := h.slice_gap
  simp only [List.length_append] at hgap
  refine ⟨key, value, lead.length, lead.length + key.length,
    lead.length + key.length + gap.length + 1, rfl, rfl, rfl, rfl, ?_, ?_, ?_, ?_⟩
  · omega
  · omega
  · show _ ≤ raw.length
    omega
  · show raw.take _ ++ key ++ raw.slice _ _ ++ value = raw
    rw [hlead, hgap, h.text]
    simp

/-- A key/value line is made up of the parts that reading finds in it. -/
theorem Line.isTiled_read {raw : Text} {number : Int} (h : (read raw number).kind = .keyValue) :
    (read raw number).IsTiled := by
  rcases read_cases raw number with ⟨-, hread⟩ | ⟨-, -, hread⟩ |
    ⟨-, lead, key, gap, value, hassign, hread⟩ | ⟨-, -, -, hread⟩ <;> rw [hread] at h ⊢
  · cases h
  · cases h
  · exact hassign.isTiled number
  · cases h

/-! ## Documents -/

/-- The text of lines: one behind the other, with a line feed between neighbours. -/
def rejoin (lines : List Line) : Text := join ['\n'] (lines.map Line.raw)

theorem map_raw_readDocument (t : Text) : (readDocument t).map Line.raw = t.lines := by
  apply List.ext_getElem?
  intro i
  rw [List.getElem?_map, getElem?_readDocument_eq_map, Option.map_map]
  simp [Function.comp_def, Line.read_raw]

/-- Reading a document loses nothing. Its lines, joined by line feeds, are its text without a mark in
    front and with all line ends replaced by line feeds. No line holds a line end, the lines are
    numbered from zero, and there is one more of them than there are line ends in the text. The
    spans of a key/value line and what stands between them make up the line. Unless the first line
    starts with a mark, the joined lines are read back as they were. -/
theorem readDocument_lossless (t : Text) :
    rejoin (readDocument t) = unifyLineEnds (t.dropLead [byteOrderMark]) ∧
    rejoin (readDocument t) = replaceAll ['\r'] ['\n']
      (replaceAll ['\r', '\n'] ['\n'] (t.dropLead [byteOrderMark])) ∧
    (∀ line ∈ readDocument t, OnOneLine line.raw) ∧
    (∀ (i : Nat) (line : Line), (readDocument t)[i]? = some line → line.number = i) ∧
    (readDocument t).length = countLineEnds t + 1 ∧
    (∀ line ∈ readDocument t, line.kind = .keyValue → line.IsTiled) ∧
    ((∀ line ∈ (readDocument t).head?, line.raw.head? ≠ some byteOrderMark) →
      readDocument (rejoin (readDocument t)) = readDocument t) := by
  have hraws : (readDocument t).map Line.raw = t.lines := map_raw_readDocument t
  have hjoin : rejoin (readDocument t) = unifyLineEnds (t.dropLead [byteOrderMark]) := by
    rw [rejoin, hraws, join_lines]
  have honeLine : ∀ line ∈ readDocument t, OnOneLine line.raw := by
    intro line hline
    apply onOneLine_of_mem_lines (t := t)
    rw [← hraws]
    exact List.mem_map_of_mem hline
  refine ⟨hjoin, hjoin.trans (unifyLineEnds_eq_replaceAll _), honeLine, ?_, ?_, ?_, ?_⟩
  · intro i line hline
    obtain ⟨raw, -, rfl⟩ := getElem?_readDocument.1 hline
    exact Line.read_number raw i
  · rw [← length_lines, ← hraws, List.length_map]
  · intro line hline hkind
    obtain ⟨i, hi⟩ := List.mem_iff_getElem?.1 hline
    obtain ⟨raw, -, rfl⟩ := getElem?_readDocument.1 hi
    exact Line.isTiled_read hkind
  · intro hmark
    have hlines : lines (rejoin (readDocument t)) = t.lines := by
      rw [rejoin, hraws]
      apply lines_join (lines_ne_nil t) (fun raw hraw => onOneLine_of_mem_lines hraw)
      intro raw hraw
      rw [← hraws, List.head?_map, Option.mem_def, Option.map_eq_some_iff] at hraw
      obtain ⟨line, hline, rfl⟩ := hraw
      exact hmark line hline
    rw [readDocument, hlines, ← readDocument]

/-- A mark, all three line ends, and a key with an escaped equals sign. -/
theorem readDocument_lossless_mixed :
    let t : Text := "\ufeff a\\=b = 1\r\n\r# c\n".toList
    let line := Line.read " a\\=b = 1".toList 0
    line ∈ readDocument t ∧ line.kind = .keyValue ∧ line.IsTiled ∧ OnOneLine line.raw ∧
      (readDocument t)[0]? = some line ∧ line.number = (0 : Nat) ∧
      rejoin (readDocument t) = " a\\=b = 1\n\n# c\n".toList ∧ (readDocument t).length = 3 + 1 ∧
      (∀ first ∈ (readDocument t).head?, first.raw.head? ≠ some byteOrderMark) ∧
      readDocument (rejoin (readDocument t)) = readDocument t := by
  intro t line
  obtain ⟨hjoin, -, honeLine, hnumber, hlength, htiled, hagain⟩ := readDocument_lossless t
  have hfirst : (readDocument t)[0]? = some line := by decide +kernel
  have hmem : line ∈ readDocument t := List.mem_of_getElem? hfirst
  have hkind : line.kind = .keyValue := by decide +kernel
  have hmark : ∀ first ∈ (readDocument t).head?, first.raw.head? ≠ some byteOrderMark := by
    decide +kernel
  exact ⟨hmem, hkind, htiled line hmem hkind, honeLine line hmem, hfirst, hnumber 0 line hfirst,
    hjoin, hlength, hmark, hagain hmark⟩

end ConfigLint
