import Mathlib.Data.List.Flatten
import ConfigLint.Proofs.LineEnds
import ConfigLint.Proofs.Order
import ConfigLint.Proofs.Renumbering
/-!
Documents that are put together from parts. What is found about the lines of a part, each by itself,
is found about them in the whole too, under the numbers they have there. Of repeated keys more may
be found, for the parts may share keys.

What is proved:
  1. `sublist_checkDuplicates_append` and `mem_checkDuplicates_append`: lines behind others leave
     the reports of repeated keys as they are and only add to them, and lines in front can only
     change which line a report cites as the first.
  2. `checkDocument_append`: the diagnostics of two texts with a line feed between them.
  3. `diagnosticsOf_mute`: blank lines and comments have no diagnostics and set no keys.
  4. `checkDocument_insert`: such lines between those of a document only move what is behind them.
-/
namespace ConfigLint
open Text

/-- The diagnostics other than those of repeated keys. -/
def unrepeated (ds : List Diagnostic) : List Diagnostic :=
  ds.filter fun d => d.code ≠ .duplicateKey

/-- A line that is blank or a comment. -/
def IsMute (raw : Text) : Prop := IsBlankText raw ∨ IsComment raw

/-- The number that line `i` has once `added` lines stand in front of line `spot`. -/
def numberBehind (spot added : Nat) (i : Int) : Int := if spot ≤ i then i + added else i

namespace Schema

theorem unrepeated_diagnosticsOf [Interpreter] (s : Schema) (options : CheckOptions)
    (lines : List Line) :
    unrepeated (s.diagnosticsOf options lines) = lines.flatMap (s.foundAt options) := by
  have hfound : (lines.flatMap (s.foundAt options)).filter (fun d => d.code ≠ .duplicateKey) =
      lines.flatMap (s.foundAt options) := by
    rw [List.filter_eq_self]
    intro d hd
    obtain ⟨line, -, hd⟩ := List.mem_flatMap.1 hd
    simpa using code_of_mem_foundAt hd
  have hrepeated : (s.checkDuplicates lines).filter (fun d => d.code ≠ .duplicateKey) = [] := by
    rw [List.filter_eq_nil_iff]
    intro d hd
    simp [code_of_mem_checkDuplicates hd]
  rw [unrepeated, diagnosticsOf, List.filter_append, hfound, hrepeated, List.append_nil]

theorem mem_diagnosticsOf_of_duplicate [Interpreter] {s : Schema} {options : CheckOptions}
    {lines : List Line} {d : Diagnostic} (hcode : d.code = .duplicateKey) :
    d ∈ s.diagnosticsOf options lines ↔ d ∈ s.checkDuplicates lines := by
  rw [diagnosticsOf, List.mem_append]
  refine or_iff_right ?_
  intro hd
  obtain ⟨line, -, hd⟩ := List.mem_flatMap.1 hd
  exact code_of_mem_foundAt hd hcode

/-! ## Repeated keys among more lines -/

theorem sublist_repeatedLines_append (key : Text) (front back : List Line) :
    (repeatedLines key front).Sublist (repeatedLines key (front ++ back)) := by
  cases front with
  | nil => exact List.nil_sublist _
  | cons opening rest =>
    rw [List.cons_append, repeatedLines, repeatedLines, List.map_append]
    exact List.sublist_append_left _ _

/-- Lines behind others take nothing away from the reports of repeated keys, nor do they change the
    order of these. -/
theorem sublist_checkDuplicates_append (s : Schema) (front back : List Line) :
    (s.checkDuplicates front).Sublist (s.checkDuplicates (front ++ back)) := by
  rw [checkDuplicates_eq, checkDuplicates_eq, List.filterMap_append, List.eraseDups_append,
    List.flatMap_append]
  -- the keys of the lines in front come first, and each of them keeps its reports
  refine (List.Sublist.flatMap_right _ ?_).trans (List.sublist_append_left _ _)
  intro key _
  rw [List.filter_append]
  split
  · exact List.Sublist.refl _
  · exact sublist_repeatedLines_append key _ _

theorem mem_repeatedLines_append {key : Text} {back : List Line} {d : Diagnostic}
    (front : List Line) (h : d ∈ repeatedLines key back) :
    ∃ message, { d with message := message } ∈ repeatedLines key (front ++ back) := by
  cases back with
  | nil => cases h
  | cons opening rest =>
    obtain ⟨line, hline, rfl⟩ := List.mem_map.1 h
    cases front with
    | nil => exact ⟨_, h⟩
    | cons opening' rest' =>
      refine ⟨(Finding.duplicateKey key opening'.number).message, List.mem_map.2 ⟨line, ?_, rfl⟩⟩
      exact List.mem_append_right _ (List.mem_cons_of_mem _ hline)

/-- A line that repeats a key does so too when more lines stand in front, and its report stays but
    for the line that the message cites. -/
theorem mem_checkDuplicates_append {s : Schema} {back : List Line} {d : Diagnostic}
    (front : List Line) (h : d ∈ s.checkDuplicates back) :
    ∃ message, { d with message := message } ∈ s.checkDuplicates (front ++ back) := by
  rw [checkDuplicates_eq, List.mem_flatMap] at h
  obtain ⟨key, hkey, hd⟩ := h
  have hkey' : key ∈ ((front ++ back).filterMap Line.key?).eraseDups := by
    rw [List.mem_eraseDups] at hkey ⊢
    rw [List.filterMap_append]
    exact List.mem_append_right _ hkey
  cases hrepeatable : s.isRepeatable key with
  | true => simp [hrepeatable] at hd
  | false =>
    simp only [hrepeatable, Bool.false_eq_true, if_false] at hd
    obtain ⟨message, hmessage⟩ :=
      mem_repeatedLines_append (front.filter fun line => line.key? == some key) hd
    refine ⟨message, ?_⟩
    rw [checkDuplicates_eq, List.mem_flatMap]
    refine ⟨key, hkey', ?_⟩
    simp only [hrepeatable, Bool.false_eq_true, if_false]
    rwa [List.filter_append]

/-! ## Two texts -/

theorem readDocument_append {a b : Text} (ha : a.getLast? ≠ some '\r')
    (hb : b.head? ≠ some byteOrderMark) :
    readDocument (a ++ '\n' :: b) =
      readDocument a ++ (readDocument b).map (Line.renumber (· + (readDocument a).length)) := by
  have hlength : (readDocument a).length = a.lines.length := by
    rw [readDocument, readLinesFrom, List.length_mapIdx]
  have hback : (readLinesFrom 0 b.lines).map (Line.renumber (· + (readDocument a).length)) =
      readLinesFrom (0 + a.lines.length) b.lines := by
    apply readLinesFrom_renumber
    intro i _
    rw [hlength]
    omega
  rw [readDocument, lines_append ha hb, readLinesFrom_append, ← hback]
  rfl

/-- The diagnostics of two texts with a line feed between them. Those of the lines by themselves are
    the ones of the first text and then those of the second, further down. None of the first text
    is lost, and every line that repeats a key in the second text does so in the whole. -/
theorem checkDocument_append [Interpreter] (s : Schema) (options : CheckOptions) (a b : Text)
    (ha : a.getLast? ≠ some '\r') (hb : b.head? ≠ some byteOrderMark) :
    let n : Int := (readDocument a).length
    let front := (s.checkDocument options a).diagnostics
    let back := (s.checkDocument options b).diagnostics
    let whole := (s.checkDocument options (a ++ '\n' :: b)).diagnostics
    unrepeated whole =
        unrepeated front ++ (unrepeated back).map (fun d => { d with line := d.line + n }) ∧
      front.Sublist whole ∧
      ∀ d ∈ back, d.code = .duplicateKey → ∃ d' ∈ whole, d'.code = .duplicateKey ∧
        d'.line = d.line + n ∧ d'.start = d.start ∧ d'.stop = d.stop := by
  intro n front back whole
  cases enabled : options.enabled with
  | false =>
    have hnone : ∀ text, (s.checkDocument options text).diagnostics = [] :=
      diagnostics_of_disabled enabled s
    simp only [front, back, whole, hnone]
    exact ⟨rfl, List.Sublist.refl _, fun d hd => by cases hd⟩
  | true =>
    have hreport := diagnostics_of_enabled enabled s
    simp only [front, back, whole, hreport, unrepeated_diagnosticsOf, readDocument_append ha hb]
    refine ⟨?_, ?_, ?_⟩
    · rw [List.flatMap_append, flatMap_foundAt_renumber]
      rfl
    · rw [diagnosticsOf, diagnosticsOf, List.flatMap_append]
      exact (List.sublist_append_left _ _).append (sublist_checkDuplicates_append s _ _)
    · intro d hd hcode
      rw [mem_diagnosticsOf_of_duplicate hcode] at hd
      -- first the lines of the second text move down, then those of the first are put in front
      obtain ⟨moved, hmoved, hrenumbered⟩ := exists_left_of_forall₂
        (checkDuplicates_renumber s (· + n) (readDocument b)).flip hd
      obtain ⟨message, hmessage⟩ := mem_checkDuplicates_append (readDocument a) hmoved
      have hcode' : moved.code = .duplicateKey := hrenumbered.code.trans hcode
      have hwhole : { moved with message := message } ∈ s.diagnosticsOf options
          (readDocument a ++ (readDocument b).map (Line.renumber (· + n))) :=
        (mem_diagnosticsOf_of_duplicate (d := { moved with message := message }) hcode').2 hmessage
      exact ⟨_, hwhole, hcode', hrenumbered.line, hrenumbered.start, hrenumbered.stop⟩

/-- Two texts that share a key, which the second one repeats by itself: its line 1 is line 3 of the
    whole, where its line 0 repeats the key too. -/
theorem checkDocument_append_shared :
    let a := "k = 1\n!".toList
    let b := "k = 2\nk = 3".toList
    let whole := (fallback.checkDocument {} (a ++ '\n' :: b)).diagnostics
    a.getLast? ≠ some '\r' ∧ b.head? ≠ some byteOrderMark ∧
      (unrepeated whole).map Diagnostic.line = [0, 1, 2, 3] ∧
      (fallback.checkDocument {} a).diagnostics.Sublist whole ∧
      ∃ d ∈ (fallback.checkDocument {} b).diagnostics, d.code = .duplicateKey ∧ d.line = 1 ∧
        ∃ d' ∈ whole, d'.code = .duplicateKey ∧ d'.line = 3 := by
  intro a b whole
  have ha : a.getLast? ≠ some '\r' := by decide
  have hb : b.head? ≠ some byteOrderMark := by decide
  obtain ⟨-, hfront, hback⟩ := checkDocument_append fallback {} a b ha hb
  have hrepeat : ∃ d ∈ (fallback.checkDocument {} b).diagnostics,
      d.code = .duplicateKey ∧ d.line = 1 := by decide +kernel
  have hlength : (readDocument a).length = 2 := by decide +kernel
  obtain ⟨d, hd, hcode, hline⟩ := hrepeat
  obtain ⟨d', hd', hcode', hline', -⟩ := hback d hd hcode
  refine ⟨ha, hb, by decide +kernel, hfront, d, hd, hcode, hline, d', hd', hcode', ?_⟩
  rw [hline', hline, hlength]
  rfl

/-! ## Lines without diagnostics -/

theorem read_of_mute {raw : Text} (h : IsMute raw) (number : Int) :
    (Line.read raw number).kind ≠ .invalid ∧ (Line.read raw number).key? = none := by
  rcases Line.read_cases raw number with ⟨-, hread⟩ | ⟨-, -, hread⟩ |
    ⟨noComment, lead, key, gap, value, hassign, -⟩ | ⟨visible, noComment, -, -⟩
  · rw [hread]
    exact ⟨by simp, rfl⟩
  · rw [hread]
    exact ⟨by simp, rfl⟩
  · exact (h.elim hassign.not_blank noComment).elim
  · exact (h.elim visible noComment).elim

theorem mute_readLinesFrom {added : List Text} (h : ∀ raw ∈ added, IsMute raw) (start : Nat) :
    ∀ line ∈ readLinesFrom start added, line.kind ≠ .invalid ∧ line.key? = none := by
  intro line hline
  obtain ⟨i, raw, hraw, rfl⟩ := mem_readLinesFrom.1 hline
  exact read_of_mute (h raw (List.mem_of_getElem? hraw)) _

/-- Lines that are not invalid and set no key make no difference, wherever they stand. -/
theorem diagnosticsOf_mute [Interpreter] {s : Schema} {options : CheckOptions} {added : List Line}
    (h : ∀ line ∈ added, line.kind ≠ .invalid ∧ line.key? = none) (front back : List Line) :
    s.diagnosticsOf options (front ++ added ++ back) = s.diagnosticsOf options (front ++ back) := by
  have hfound : added.flatMap (s.foundAt options) = [] := by
    rw [List.flatMap_eq_nil_iff]
    intro line hline
    exact foundAt_of_no_key (h line hline).1 (h line hline).2
  have hkeys : added.filterMap Line.key? = [] := by
    rw [List.filterMap_eq_nil_iff]
    exact fun line hline => (h line hline).2
  have hgroup : ∀ key, added.filter (fun line => line.key? == some key) = [] := by
    intro key
    rw [List.filter_eq_nil_iff]
    intro line hline
    simp [(h line hline).2]
  simp only [diagnosticsOf, checkDuplicates_eq, List.flatMap_append, List.filterMap_append,
    List.filter_append, hfound, hkeys, hgroup, List.append_nil]

theorem diagnosticsOf_insert [Interpreter] (s : Schema) (options : CheckOptions)
    {before added behind : List Text} (hmute : ∀ raw ∈ added, IsMute raw) :
    s.diagnosticsOf options (readLinesFrom 0 (before ++ added ++ behind)) =
      s.diagnosticsOf options ((readLinesFrom 0 (before ++ behind)).map
        (Line.renumber (numberBehind before.length added.length))) := by
  have hbefore : (readLinesFrom 0 before).map
      (Line.renumber (numberBehind before.length added.length)) = readLinesFrom 0 before := by
    apply readLinesFrom_renumber
    intro i hi
    rw [numberBehind, if_neg (by omega)]
  have hbehind : (readLinesFrom (0 + before.length) behind).map
      (Line.renumber (numberBehind before.length added.length)) =
        readLinesFrom (0 + (before ++ added).length) behind := by
    apply readLinesFrom_renumber
    intro i _
    rw [numberBehind, if_pos (by omega), List.length_append]
    omega
  rw [readLinesFrom_append, readLinesFrom_append, diagnosticsOf_mute (mute_readLinesFrom hmute _),
    readLinesFrom_append, List.map_append, hbefore, hbehind]

/-- Blank lines and comments between the lines of a document move the diagnostics behind them down,
    and have no other effect: order, codes, severities, spans and messages stay, but for the
    numbers of first lines in the messages about repeated keys, which move too. -/
theorem checkDocument_insert [Interpreter] (s : Schema) (options : CheckOptions)
    (before added behind : List Text) (hne : before ++ behind ≠ [])
    (hlines : ∀ raw ∈ before ++ added ++ behind, OnOneLine raw ∧ raw.head? ≠ some byteOrderMark)
    (hmute : ∀ raw ∈ added, IsMute raw) :
    List.Forall₂ (IsRenumbered (numberBehind before.length added.length))
      (s.checkDocument options (join ['\n'] (before ++ behind))).diagnostics
      (s.checkDocument options (join ['\n'] (before ++ added ++ behind))).diagnostics := by
  have hparts : ∀ raw ∈ before ++ behind, raw ∈ before ++ added ++ behind := by
    intro raw hraw
    rcases List.mem_append.1 hraw with hraw | hraw <;> simp [hraw]
  have hne' : before ++ added ++ behind ≠ [] := by
    obtain ⟨raw, hraw⟩ := List.exists_mem_of_ne_nil _ hne
    exact List.ne_nil_of_mem (hparts raw hraw)
  have hread : ∀ raws, raws ≠ [] → (∀ raw ∈ raws, raw ∈ before ++ added ++ behind) →
      readDocument (join ['\n'] raws) = readLinesFrom 0 raws := by
    intro raws hraws hmem
    rw [readDocument, lines_join hraws (fun raw hraw => (hlines raw (hmem raw hraw)).1)]
    intro raw hraw
    exact (hlines raw (hmem raw (List.mem_of_head? hraw))).2
  have hwhole := hread _ hne' fun raw hraw => hraw
  have hrest := hread _ hne hparts
  cases enabled : options.enabled with
  | false =>
    rw [diagnostics_of_disabled enabled, diagnostics_of_disabled enabled]
    exact List.Forall₂.nil
  | true =>
    rw [diagnostics_of_enabled enabled, diagnostics_of_enabled enabled, hwhole, hrest,
      diagnosticsOf_insert s options hmute]
    exact diagnosticsOf_renumber s options _ _

/-- A blank line and a comment between the two lines of a key. -/
theorem checkDocument_insert_comment :
    let before := ["k = 1".toList, "k = 2".toList]
    let added := ["\t".toList, " # note".toList]
    let behind := ["k = 3".toList]
    before ++ behind ≠ [] ∧
      (∀ raw ∈ before ++ added ++ behind, OnOneLine raw ∧ raw.head? ≠ some byteOrderMark) ∧
      (∀ raw ∈ added, IsMute raw) ∧
      List.Forall₂ (IsRenumbered (numberBehind 2 2))
        (fallback.checkDocument {} "k = 1\nk = 2\nk = 3".toList).diagnostics
        (fallback.checkDocument {} "k = 1\nk = 2\n\t\n # note\nk = 3".toList).diagnostics := by
  intro before added behind
  have hlines : ∀ raw ∈ before ++ added ++ behind,
      OnOneLine raw ∧ raw.head? ≠ some byteOrderMark := by decide
  have hmute : ∀ raw ∈ added, IsMute raw := by
    intro raw hraw
    rcases List.mem_pair.1 hraw with rfl | rfl
    · exact .inl (trim_eq_nil.1 (by decide))
    · exact .inr ⟨" ".toList, " note".toList, rfl, trim_eq_nil.1 (by decide)⟩
  exact ⟨by decide, hlines, hmute,
    checkDocument_insert fallback {} before added behind (by decide) hlines hmute⟩

end Schema
end ConfigLint
