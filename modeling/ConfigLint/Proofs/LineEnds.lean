import Mathlib.Data.List.Chain
import ConfigLint.Diagnostic.Check
import ConfigLint.Proofs.Assignment
/-!
Line ends and the lines between them. A `Layout` is a text put together from its lines: a byte
order mark or none in front, and between two lines any of the three line ends.

What is proved:
  1. `unifyLineEnds_append`: line ends are unified part by part, wherever the text is cut, except
     between a carriage return and a line feed. All else about line ends follows from it.
  2. `lines_append`, `lines_join`: the lines of two texts with a line feed between them are those
     of the first and then those of the second; lines joined by line feeds are read back. No line
     holds a line end (`onOneLine_of_mem_lines`).
  3. `readDocument_text`: the lines of a layout are read back too, whatever its line ends are and
     with or without the mark. Only one mark is taken off: joined by line feeds, the same lines read
     otherwise when the first of them starts with a mark (`checkDocument_join_ne`).
-/
namespace ConfigLint
namespace Text

/-- A text without line ends. -/
structure OnOneLine (t : Text) : Prop where
  noReturn : '\r' ∉ t
  noFeed : '\n' ∉ t

instance (t : Text) : Decidable (OnOneLine t) :=
  decidable_of_iff ('\r' ∉ t ∧ '\n' ∉ t) ⟨fun h => ⟨h.1, h.2⟩, fun h => ⟨h.noReturn, h.noFeed⟩⟩

/-! ## Unifying line ends -/

theorem foldr_consLineEnd_snd (t : Text) :
    (t.foldr consLineEnd ([], false)).2 = (t.head? == some '\n') := by
  cases t with
  | nil => rfl
  | cons c t =>
    rw [List.foldr_cons, consLineEnd]
    by_cases hc : c = '\r'
    · subst hc
      rfl
    · simp [hc]

theorem unifyLineEnds_cons (c : Char) (t : Text) :
    unifyLineEnds (c :: t) =
      if c = '\r' then (if t.head? = some '\n' then unifyLineEnds t else '\n' :: unifyLineEnds t)
      else c :: unifyLineEnds t := by
  rw [unifyLineEnds, List.foldr_cons, consLineEnd, foldr_consLineEnd_snd]
  by_cases hc : c = '\r' <;> simp [hc, unifyLineEnds]

/-- Line ends are unified part by part, unless the cut lies within one of them. -/
theorem unifyLineEnds_append {s t : Text}
    (h : ¬ (s.getLast? = some '\r' ∧ t.head? = some '\n')) :
    unifyLineEnds (s ++ t) = unifyLineEnds s ++ unifyLineEnds t := by
  induction s with
  | nil => rfl
  | cons c s ih =>
    rw [List.cons_append, unifyLineEnds_cons, unifyLineEnds_cons]
    cases s with
    | nil =>
      by_cases hc : c = '\r'
      · have ht : t.head? ≠ some '\n' := fun ht => h ⟨by rw [hc]; rfl, ht⟩
        simp [hc, ht, unifyLineEnds]
      · simp [hc, unifyLineEnds]
    | cons d s =>
      -- what stands next to `c` is the same with and without `t`
      have hrest := ih (by rwa [List.getLast?_cons_cons] at h)
      rw [hrest, List.cons_append, List.head?_cons, List.head?_cons]
      by_cases hc : c = '\r'
      · rw [if_pos hc, if_pos hc]
        split <;> rfl
      · rw [if_neg hc, if_neg hc]
        rfl

theorem unifyLineEnds_of_noReturn {t : Text} (h : '\r' ∉ t) : unifyLineEnds t = t := by
  induction t with
  | nil => rfl
  | cons c t ih =>
    rw [List.mem_cons, not_or] at h
    rw [unifyLineEnds_cons, if_neg (Ne.symm h.1), ih h.2]

theorem OnOneLine.unifyLineEnds_append {raw : Text} (h : OnOneLine raw) (t : Text) :
    unifyLineEnds (raw ++ t) = raw ++ unifyLineEnds t := by
  rw [Text.unifyLineEnds_append, unifyLineEnds_of_noReturn h.noReturn]
  rintro ⟨hlast, -⟩
  exact h.noReturn (List.mem_of_getLast? hlast)

theorem noReturn_unifyLineEnds (t : Text) : '\r' ∉ unifyLineEnds t := by
  induction t with
  | nil => exact List.not_mem_nil
  | cons c t ih =>
    rw [unifyLineEnds_cons]
    by_cases hc : c = '\r'
    · rw [if_pos hc]
      split
      · exact ih
      · rw [List.mem_cons, not_or]
        exact ⟨by decide, ih⟩
    · rw [if_neg hc, List.mem_cons, not_or]
      exact ⟨Ne.symm hc, ih⟩

/-! ## The lines of a text -/

theorem mem_splitOn (c sep : Char) (t : Text) :
    (∃ part ∈ t.splitOn sep, c ∈ part) ↔ c ≠ sep ∧ c ∈ t := by
  induction t with
  | nil => simp
  | cons x t ih =>
    obtain ⟨head, rest, hparts⟩ := List.exists_cons_of_ne_nil (List.splitOnP_ne_nil (· == sep) t)
    rw [List.splitOn, hparts] at ih
    rw [List.splitOn, List.splitOnP_cons_eq_if_modifyHead, hparts]
    by_cases hx : x = sep
    · subst hx
      simp only [beq_self_eq_true, if_true, List.exists_mem_cons_iff] at ih ⊢
      rw [ih, List.mem_cons]
      grind
    · simp only [beq_iff_eq, hx, if_false, List.modifyHead_cons, List.mem_cons] at ih ⊢
      grind

theorem lines_ne_nil (t : Text) : lines t ≠ [] := List.splitOnP_ne_nil _ _

theorem onOneLine_of_mem_lines {t raw : Text} (h : raw ∈ lines t) : OnOneLine raw := by
  have hfree : ∀ c ∈ raw, c ≠ '\n' ∧ c ∈ unifyLineEnds (t.dropLead [byteOrderMark]) :=
    fun c hc => (mem_splitOn c '\n' _).1 ⟨raw, h, hc⟩
  exact ⟨fun hc => noReturn_unifyLineEnds _ (hfree _ hc).2, fun hc => (hfree _ hc).1 rfl⟩

theorem dropLead_mark (t : Text) : dropLead (byteOrderMark :: t) [byteOrderMark] = t := by
  simp [dropLead]

theorem dropLead_of_no_mark {t : Text} (h : t.head? ≠ some byteOrderMark) :
    t.dropLead [byteOrderMark] = t := by
  cases t with
  | nil => rfl
  | cons c t =>
    have hc : byteOrderMark ≠ c := fun hc => h (by rw [hc]; rfl)
    simp [dropLead, hc]

theorem lines_cons_mark (t : Text) :
    lines (byteOrderMark :: t) = (unifyLineEnds t).splitOn '\n' := by
  rw [lines, dropLead_mark]

theorem lines_of_no_mark {t : Text} (h : t.head? ≠ some byteOrderMark) :
    lines t = (unifyLineEnds t).splitOn '\n' := by
  rw [lines, dropLead_of_no_mark h]

/-- A line feed between two texts separates their lines. -/
theorem splitOn_unifyLineEnds_append {a : Text} (ha : a.getLast? ≠ some '\r') (b : Text) :
    (unifyLineEnds (a ++ '\n' :: b)).splitOn '\n' =
      (unifyLineEnds a).splitOn '\n' ++ (unifyLineEnds b).splitOn '\n' := by
  have hfeed : unifyLineEnds ('\n' :: b) = '\n' :: unifyLineEnds b := by
    rw [unifyLineEnds_cons, if_neg (by decide)]
  rw [unifyLineEnds_append (fun h => ha h.1), hfeed, List.splitOn_append_cons_self]

theorem lines_append {a b : Text} (ha : a.getLast? ≠ some '\r')
    (hb : b.head? ≠ some byteOrderMark) : lines (a ++ '\n' :: b) = lines a ++ lines b := by
  rw [lines_of_no_mark hb]
  by_cases hmark : a.head? = some byteOrderMark
  · -- the mark in front of `a` is also in front of the whole
    obtain ⟨rest, rfl⟩ := List.head?_eq_some_iff.1 hmark
    have hrest : rest.getLast? ≠ some '\r' := by
      intro h
      rw [List.getLast?_cons, h] at ha
      exact ha rfl
    rw [List.cons_append, lines_cons_mark, lines_cons_mark, splitOn_unifyLineEnds_append hrest]
  · have hwhole : (a ++ '\n' :: b).head? ≠ some byteOrderMark := by
      cases a with
      | nil => simp [byteOrderMark]
      | cons c a => exact hmark
    rw [lines_of_no_mark hwhole, lines_of_no_mark hmark, splitOn_unifyLineEnds_append ha]

theorem join_cons (raw : Text) (raws : List Text) :
    join ['\n'] (raw :: raws) = raw ++ raws.flatMap fun next => '\n' :: next := by
  induction raws generalizing raw with
  | nil => simp [join]
  | cons next raws ih =>
    have hrest := ih next
    rw [join] at hrest ⊢
    rw [List.intercalate_cons_cons, hrest, List.flatMap_cons]
    simp

theorem noReturn_join {raws : List Text} (h : ∀ raw ∈ raws, OnOneLine raw) :
    '\r' ∉ join ['\n'] raws := by
  cases raws with
  | nil => exact List.not_mem_nil
  | cons raw raws =>
    rw [List.forall_mem_cons] at h
    rw [join_cons, List.mem_append, List.mem_flatMap, not_or]
    refine ⟨h.1.noReturn, ?_⟩
    rintro ⟨next, hnext, hmem⟩
    rcases List.mem_cons.1 hmem with hfeed | hmem
    · exact absurd hfeed (by decide)
    · exact (h.2 next hnext).noReturn hmem

theorem head?_join_of_no_mark {raw : Text} (h : raw.head? ≠ some byteOrderMark)
    (raws : List Text) : (join ['\n'] (raw :: raws)).head? ≠ some byteOrderMark := by
  rw [join_cons]
  cases raw with
  | nil => cases raws <;> simp [byteOrderMark]
  | cons c raw => exact h

/-- Lines that are joined by line feeds are read back, behind a mark. -/
theorem lines_mark_join {raws : List Text} (hne : raws ≠ []) (h : ∀ raw ∈ raws, OnOneLine raw) :
    lines (byteOrderMark :: join ['\n'] raws) = raws := by
  rw [lines_cons_mark, unifyLineEnds_of_noReturn (noReturn_join h)]
  exact List.splitOn_intercalate '\n' (fun raw hraw => (h raw hraw).noFeed) hne

theorem lines_join {raws : List Text} (hne : raws ≠ []) (h : ∀ raw ∈ raws, OnOneLine raw)
    (hmark : ∀ raw ∈ raws.head?, raw.head? ≠ some byteOrderMark) :
    lines (join ['\n'] raws) = raws := by
  obtain ⟨raw, rest, rfl⟩ := List.exists_cons_of_ne_nil hne
  have hhead := head?_join_of_no_mark (hmark raw rfl) rest
  rw [lines_of_no_mark hhead, ← lines_cons_mark, lines_mark_join hne h]

end Text

open Text

theorem readDocument_join {raws : List Text} (hne : raws ≠ [])
    (h : ∀ raw ∈ raws, OnOneLine raw ∧ raw.head? ≠ some byteOrderMark) :
    readDocument (join ['\n'] raws) = readLinesFrom 0 raws := by
  rw [readDocument, lines_join hne (fun raw hraw => (h raw hraw).1)]
  exact fun raw hraw => (h raw (List.mem_of_head? hraw)).2

/-! ## Layouts -/

inductive LineEnd where
  | lineFeed | carriageReturn | both
deriving Repr, DecidableEq

def LineEnd.text : LineEnd → Text
  | lineFeed => ['\n']
  | carriageReturn => ['\r']
  | both => ['\r', '\n']

/-- A text put together from lines: behind a byte order mark or none the first line, and then each
    further line behind the end of the one before it. -/
structure Layout where
  marked : Bool
  first : Text
  rest : List (LineEnd × Text)
deriving Repr, DecidableEq

/-- A check looks at the lines of a text only. -/
theorem checkDocument_of_lines_eq [Interpreter] {t t' : Text} (h : t.lines = t'.lines) (s : Schema)
    (options : CheckOptions) : s.checkDocument options t = s.checkDocument options t' := by
  simp only [Schema.checkDocument, readDocument, h]

namespace Layout

def raws (l : Layout) : List Text := l.first :: l.rest.map Prod.snd

/-- Lines, each behind a line end. -/
def tailText (rest : List (LineEnd × Text)) : Text := rest.flatMap fun part => part.1.text ++ part.2

def text (l : Layout) : Text :=
  (if l.marked then [byteOrderMark] else []) ++ l.first ++ tailText l.rest

/-- No empty line stands between a carriage return and a line feed, which would be one line end. -/
def Apart (rest : List (LineEnd × Text)) : Prop :=
  rest.IsChain fun part next => ¬ (part = (.carriageReturn, []) ∧ next.1 = .lineFeed)

instance (rest : List (LineEnd × Text)) : Decidable (Apart rest) :=
  inferInstanceAs (Decidable (rest.IsChain _))

/-- A layout whose lines hold no line ends, whose line ends do not run together, and whose first
    line does not start with a mark unless there is one in front of it. -/
structure IsPlain (l : Layout) : Prop where
  onOneLine : ∀ raw ∈ l.raws, OnOneLine raw
  apart : Apart l.rest
  unmarked : l.marked = false → l.first.head? ≠ some byteOrderMark

theorem Apart.head?_ne {raw : Text} {rest : List (LineEnd × Text)}
    (h : Apart ((.carriageReturn, raw) :: rest)) (hraw : OnOneLine raw) :
    (raw ++ tailText rest).head? ≠ some '\n' := by
  cases raw with
  | cons c raw =>
    intro hc
    rw [List.cons_append, List.head?_cons, Option.some.injEq] at hc
    exact hraw.noFeed (hc ▸ List.mem_cons_self)
  | nil =>
    cases rest with
    | nil => simp [tailText]
    | cons part rest =>
      obtain ⟨ending, next⟩ := part
      cases ending with
      | lineFeed => exact absurd ⟨rfl, rfl⟩ h.rel
      | carriageReturn => simp [tailText, LineEnd.text]
      | both => simp [tailText, LineEnd.text]

theorem unifyLineEnds_tailText {rest : List (LineEnd × Text)} (hrest : Apart rest)
    (hlines : ∀ part ∈ rest, OnOneLine part.2) :
    unifyLineEnds (tailText rest) = (rest.map Prod.snd).flatMap fun next => '\n' :: next := by
  induction rest with
  | nil => rfl
  | cons part rest ih =>
    obtain ⟨ending, raw⟩ := part
    rw [List.forall_mem_cons] at hlines
    have hraw : OnOneLine raw := hlines.1
    have hbehind : unifyLineEnds (raw ++ tailText rest) =
        raw ++ (rest.map Prod.snd).flatMap fun next => '\n' :: next := by
      rw [hraw.unifyLineEnds_append, ih hrest.of_cons hlines.2]
    have htext : tailText ((ending, raw) :: rest) = ending.text ++ (raw ++ tailText rest) := by
      simp [tailText]
    rw [htext, List.map_cons, List.flatMap_cons, List.cons_append, ← hbehind]
    cases ending with
    | lineFeed => rfl
    | carriageReturn =>
      -- the only line end that reads otherwise in front of a line feed
      rw [LineEnd.text, List.singleton_append, unifyLineEnds_cons, if_pos rfl,
        if_neg (hrest.head?_ne hraw)]
    | both => rfl

theorem lines_text {l : Layout} (h : l.IsPlain) : lines l.text = l.raws := by
  have hlines : ∀ part ∈ l.rest, OnOneLine part.2 := fun part hpart =>
    h.onOneLine part.2 (List.mem_cons_of_mem _ (List.mem_map_of_mem hpart))
  have hfirst : OnOneLine l.first := h.onOneLine l.first List.mem_cons_self
  -- without its mark, the text is unified to its lines joined by line feeds
  have hbody : unifyLineEnds (l.first ++ tailText l.rest) = join ['\n'] l.raws := by
    rw [hfirst.unifyLineEnds_append, unifyLineEnds_tailText h.apart hlines, raws, join_cons]
  have hsplit : (join ['\n'] l.raws).splitOn '\n' = l.raws :=
    List.splitOn_intercalate '\n' (fun raw hraw => (h.onOneLine raw hraw).noFeed)
      (List.cons_ne_nil _ _)
  cases hmarked : l.marked with
  | true =>
    have htext : l.text = byteOrderMark :: (l.first ++ tailText l.rest) := by simp [text, hmarked]
    rw [htext, lines_cons_mark, hbody, hsplit]
  | false =>
    have htext : l.text = l.first ++ tailText l.rest := by simp [text, hmarked]
    have hhead : (l.first ++ tailText l.rest).head? ≠ some byteOrderMark := by
      have hunmarked := h.unmarked hmarked
      cases hraw : l.first with
      | cons c raw => rwa [hraw] at hunmarked
      | nil =>
        cases l.rest with
        | nil => simp [tailText]
        | cons part rest =>
          cases hend : part.1 <;> simp [tailText, LineEnd.text, byteOrderMark, hend]
    rw [htext, lines_of_no_mark hhead, hbody, hsplit]

/-- The lines of a plain layout are read one by one, whatever its line ends are and with or without
    a mark. So a check finds what it finds in the same lines joined by line feeds. If the first of
    them starts with a mark, it takes another one in front to keep it. -/
theorem readDocument_text [Interpreter] (l : Layout) (h : l.IsPlain) :
    readDocument l.text = l.raws.mapIdx (fun i raw => Line.read raw i) ∧
      ∀ (s : Schema) (options : CheckOptions),
        s.checkDocument options l.text =
          s.checkDocument options (byteOrderMark :: join ['\n'] l.raws) ∧
        (l.first.head? ≠ some byteOrderMark →
          s.checkDocument options l.text = s.checkDocument options (join ['\n'] l.raws)) := by
  have hlines := lines_text h
  have hne : l.raws ≠ [] := List.cons_ne_nil _ _
  refine ⟨by simp only [readDocument, readLinesFrom, hlines, Nat.zero_add], fun s options => ⟨?_, ?_⟩⟩
  · exact checkDocument_of_lines_eq (hlines.trans (lines_mark_join hne h.onOneLine).symm) s options
  · intro hmark
    have hfirst : ∀ raw ∈ l.raws.head?, raw.head? ≠ some byteOrderMark := by
      rintro raw hraw
      obtain rfl : l.first = raw := Option.some.inj hraw
      exact hmark
    exact checkDocument_of_lines_eq (hlines.trans (lines_join hne h.onOneLine hfirst).symm) s options

/-- A mark, all three line ends, and a carriage return in front of another line end. -/
theorem readDocument_text_mixed :
    let l : Layout := ⟨true, "a = 1".toList,
      [(.carriageReturn, []), (.both, "# b".toList), (.lineFeed, " a = 2".toList)]⟩
    l.IsPlain ∧ l.text = "\ufeffa = 1\r\r\n# b\n a = 2".toList ∧
      readDocument l.text = l.raws.mapIdx (fun i raw => Line.read raw i) := by
  intro l
  have h : l.IsPlain := ⟨by decide, by decide, by decide⟩
  exact ⟨h, by decide, (readDocument_text l h).1⟩

/-- A first line that starts with a mark, behind another one: joined by line feeds, the lines lose
    the mark that belongs to them. -/
theorem checkDocument_join_ne :
    let l : Layout := ⟨true, "\ufeffk = 1".toList, []⟩
    l.IsPlain ∧ (Schema.checkDocument {} {} l.text).diagnostics ≠
      (Schema.checkDocument {} {} (join ['\n'] l.raws)).diagnostics := by
  intro l
  exact ⟨⟨by decide, by decide, by decide⟩, by decide +kernel⟩

end Layout

end ConfigLint
