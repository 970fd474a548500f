import Mathlib.Data.List.Forall2
import Mathlib.Data.List.Induction
import Mathlib.Data.List.Nodup
import ConfigLint.Diagnostic.Check
/-!
Keys that are set more than once. The check sorts the lines into groups, one line after the other,
and then reports every line of a group but its first. `Repeats` says what a repeated line is by
positions of the list alone, without groups.

What is proved:
  1. `names_groupByKey` and `getD_groupByKey`: after any lines, the groups are those of the keys
     in the order of their first lines, and each holds the lines of its key in their order.
  2. `checkDuplicates_exact`: the reports are those of the positions that repeat a key, each once,
     and a key with `n` lines has `n - 1` of them, or none if it may be repeated.
-/
namespace ConfigLint

/-- Position `i` holds a key/value line with the key `key`, which is not empty. -/
def SetsKey (lines : List Line) (key : Text) (i : Nat) : Prop :=
  ∃ line, lines[i]? = some line ∧ line.kind = .keyValue ∧ line.key = some key ∧ key ≠ []

/-- Position `i` sets `key` again, which position `first` sets for the first time and which the
    schema does not let repeat. -/
structure Repeats (s : Schema) (lines : List Line) (key : Text) (first i : Nat) : Prop where
  unlisted : CodeText.ofText key ∉ s.repeatableKeys
  undeclared : ∀ o, s.lookup key = some o → o.repeatable = false
  here : SetsKey lines key i
  before : first < i
  there : SetsKey lines key first
  leads : ∀ j, SetsKey lines key j → first ≤ j

/-- `d` is the report about position `i`, which sets `key` again after position `first`. -/
def IsRepeatReport (lines : List Line) (key : Text) (first i : Nat) (d : Diagnostic) : Prop :=
  ∃ line opening, lines[i]? = some line ∧ lines[first]? = some opening ∧
    d = { line := line.number
          start := (line.keySpan.getD ⟨0, line.raw.length⟩).start
          stop := (line.keySpan.getD ⟨0, line.raw.length⟩).stop
          message := "Duplicate key '".toList ++ key ++ "' (first defined on line ".toList ++
            Text.ofInt (opening.number + 1) ++ ")".toList
          severity := .warning
          code := .duplicateKey }

theorem Line.key?_eq_some {line : Line} {key : Text} :
    line.key? = some key ↔ line.kind = .keyValue ∧ line.key = some key ∧ key ≠ [] := by
  unfold Line.key?
  by_cases hk : line.kind = .keyValue
  · simp [hk, Option.filter_eq_some_iff]
  · simp [hk]

theorem setsKey_iff {lines : List Line} {key : Text} {i : Nat} :
    SetsKey lines key i ↔ ∃ line, lines[i]? = some line ∧ line.key? = some key := by
  simp only [SetsKey, Line.key?_eq_some]

theorem SetsKey.unique {lines : List Line} {key other : Text} {i : Nat}
    (h : SetsKey lines key i) (h' : SetsKey lines other i) : key = other := by
  obtain ⟨line, hline, -, hkey, -⟩ := h
  obtain ⟨line', hline', -, hkey', -⟩ := h'
  rw [hline, Option.some.injEq] at hline'
  rw [hline', hkey', Option.some.injEq] at hkey
  exact hkey.symm

theorem Schema.isRepeatable_eq_false {s : Schema} {key : Text} :
    s.isRepeatable key = false ↔ CodeText.ofText key ∉ s.repeatableKeys ∧
      ∀ o, s.lookup key = some o → o.repeatable = false := by
  unfold Schema.isRepeatable
  cases s.lookup key <;> simp

namespace Schema

/-! ## Groups -/

theorem get?_addToGroup (groups : Table Text (List Line)) (line : Line) (key : Text) :
    (addToGroup groups line).get? key =
      if line.key? = some key then some ((groups.get? key).getD [] ++ [line])
      else groups.get? key := by
  unfold addToGroup
  cases hline : line.key? with
  | none => simp
  | some own =>
    by_cases hown : own = key
    · subst hown
      rw [if_pos rfl]
      exact Table.get?_insert_self _ _ _
    · rw [if_neg (by simpa using hown)]
      exact Table.get?_insert_of_ne _ _ _ _ (Ne.symm hown)

theorem names_addToGroup_of_key {groups : Table Text (List Line)} {line : Line} {key : Text}
    (h : line.key? = some key) :
    (addToGroup groups line).names =
      if key ∈ groups.names then groups.names else groups.names ++ [key] := by
  simp only [addToGroup, h, Table.names_insert]
  congr

theorem groupByKey_concat (lines : List Line) (line : Line) :
    groupByKey (lines ++ [line]) = addToGroup (groupByKey lines) line := by
  rw [groupByKey, List.foldl_append]
  rfl

/-- The group of a key holds the lines of the key, in their order. -/
theorem getD_groupByKey (lines : List Line) (key : Text) :
    ((groupByKey lines).get? key).getD [] = lines.filter fun line => line.key? == some key := by
  induction lines using List.reverseRecOn with
  | nil => rfl
  | append_singleton lines line ih =>
    rw [groupByKey_concat, get?_addToGroup, List.filter_append]
    by_cases h : line.key? = some key
    · simp [h, ih]
    · simp [h, ih]

theorem eraseDups_concat (keys : List Text) (key : Text) :
    (keys ++ [key]).eraseDups = if key ∈ keys then keys.eraseDups else keys.eraseDups ++ [key] := by
  rw [List.eraseDups_append]
  by_cases h : key ∈ keys <;> simp [List.removeAll, List.eraseDups_cons, h]

/-- The groups stand in the order of the first lines of their keys. -/
theorem names_groupByKey (lines : List Line) :
    (groupByKey lines).names = (lines.filterMap Line.key?).eraseDups := by
  induction lines using List.reverseRecOn with
  | nil => rfl
  | append_singleton lines line ih =>
    rw [groupByKey_concat, List.filterMap_append]
    cases hkey : line.key? with
    | none => simp [addToGroup, hkey, ih]
    | some key =>
      have hlast : [line].filterMap Line.key? = [key] := by simp [hkey]
      rw [names_addToGroup_of_key hkey, hlast, eraseDups_concat, ih]
      simp only [List.mem_eraseDups]

/-- The reports, key by key and without groups. -/
theorem checkDuplicates_eq (s : Schema) (lines : List Line) :
    s.checkDuplicates lines = (lines.filterMap Line.key?).eraseDups.flatMap fun key =>
      if s.isRepeatable key then []
      else repeatedLines key (lines.filter fun line => line.key? == some key) := by
  rw [checkDuplicates, ← names_groupByKey, Table.names, List.flatMap_map]
  apply List.flatMap_congr
  intro group hgroup
  have hfound : (groupByKey lines).get? group.1 = some group.2 := Table.get?_of_mem _ hgroup
  rw [← getD_groupByKey, hfound, Option.getD_some]

theorem mem_checkDuplicates {s : Schema} {lines : List Line} {d : Diagnostic}
    (h : d ∈ s.checkDuplicates lines) :
    ∃ line ∈ lines, ∃ key first, line.key? = some key ∧
      d = (Finding.duplicateKey key first).diagnostic .warning line line.keySpan := by
  rw [checkDuplicates_eq, List.mem_flatMap] at h
  obtain ⟨key, -, hd⟩ := h
  split at hd
  · cases hd
  · have hgroup : ∀ line ∈ lines.filter (fun line => line.key? == some key),
        line ∈ lines ∧ line.key? = some key := by
      intro line hline
      rw [List.mem_filter, beq_iff_eq] at hline
      exact hline
    generalize lines.filter (fun line => line.key? == some key) = group at hd hgroup
    cases group with
    | nil => cases hd
    | cons opening rest =>
      obtain ⟨line, hline, rfl⟩ := List.mem_map.1 hd
      obtain ⟨hmem, hkey⟩ := hgroup line (List.mem_cons_of_mem _ hline)
      exact ⟨line, hmem, key, opening.number, hkey, rfl⟩

/-! ## Lines that go together -/

section
variable {R : Line → Line → Prop} {S : Diagnostic → Diagnostic → Prop}

theorem rel_repeatedLines {key : Text}
    (hreport : ∀ first first' l l', R first first' → R l l' →
      S ((Finding.duplicateKey key first.number).diagnostic .warning l l.keySpan)
        ((Finding.duplicateKey key first'.number).diagnostic .warning l' l'.keySpan))
    {group group' : List Line} (h : List.Forall₂ R group group') :
    List.Forall₂ S (repeatedLines key group) (repeatedLines key group') := by
  cases h with
  | nil => exact List.Forall₂.nil
  | cons hfirst hrest =>
    -- all reports of the group cite its first line
    rw [repeatedLines, repeatedLines, List.forall₂_map_left_iff, List.forall₂_map_right_iff]
    exact hrest.imp fun l l' hl => hreport _ _ l l' hfirst hl

/-- Lines that go together and set the same keys have reports that go together. -/
theorem rel_checkDuplicates (s : Schema) (hkey : ∀ l l', R l l' → l'.key? = l.key?)
    (hreport : ∀ key first first' l l', R first first' → R l l' →
      S ((Finding.duplicateKey key first.number).diagnostic .warning l l.keySpan)
        ((Finding.duplicateKey key first'.number).diagnostic .warning l' l'.keySpan))
    {lines lines' : List Line} (h : List.Forall₂ R lines lines') :
    List.Forall₂ S (s.checkDuplicates lines) (s.checkDuplicates lines') := by
  have hkeys : lines'.filterMap Line.key? = lines.filterMap Line.key? := by
    induction h with
    | nil => rfl
    | cons hl _ ih => rw [List.filterMap_cons, List.filterMap_cons, hkey _ _ hl, ih]
  rw [checkDuplicates_eq, checkDuplicates_eq, hkeys]
  -- the keys come in the same order, so the reports are compared key by key
  refine List.rel_flatMap (R := (· = ·)) (by rw [List.forall₂_eq_eq_eq]) ?_
  rintro key _ rfl
  dsimp only
  split
  · exact List.Forall₂.nil
  · refine rel_repeatedLines (hreport key) (List.rel_filter ?_ h)
    intro l l' hl
    simp only [hkey l l' hl]

end

/-! ## Positions -/

/-- The lines of a key with their positions. -/
def keySpots (lines : List Line) (key : Text) : List (Line × Nat) :=
  lines.zipIdx.filter fun spot => spot.1.key? == some key

theorem mem_keySpots {lines : List Line} {key : Text} {spot : Line × Nat} :
    spot ∈ keySpots lines key ↔ lines[spot.2]? = some spot.1 ∧ spot.1.key? = some key := by
  rw [keySpots, List.mem_filter, List.mem_zipIdx_iff_getElem?, beq_iff_eq]

theorem map_fst_keySpots (lines : List Line) (key : Text) :
    (keySpots lines key).map Prod.fst = lines.filter fun line => line.key? == some key := by
  have h := List.filter_map (f := Prod.fst) (p := fun line : Line => line.key? == some key)
    (l := lines.zipIdx)
  rw [List.zipIdx_map_fst] at h
  exact h.symm

theorem pairwise_keySpots (lines : List Line) (key : Text) :
    ((keySpots lines key).map Prod.snd).Pairwise (· < ·) := by
  have hsub : ((keySpots lines key).map Prod.snd).Sublist (lines.zipIdx.map Prod.snd) :=
    List.filter_sublist.map Prod.snd
  rw [List.zipIdx_map_snd] at hsub
  exact List.Pairwise.sublist hsub List.pairwise_lt_range'

theorem mem_map_snd_keySpots {lines : List Line} {key : Text} {i : Nat} :
    i ∈ (keySpots lines key).map Prod.snd ↔ SetsKey lines key i := by
  rw [setsKey_iff, List.mem_map]
  constructor
  · rintro ⟨spot, hspot, rfl⟩
    exact ⟨spot.1, mem_keySpots.1 hspot⟩
  · rintro ⟨line, hline⟩
    exact ⟨(line, i), mem_keySpots.2 hline, rfl⟩

/-- The repeated positions of a key are those behind its first one. -/
theorem repeats_iff {s : Schema} {lines : List Line} {key : Text} {first i : Nat} :
    Repeats s lines key first i ↔ s.isRepeatable key = false ∧
      ∃ rest, (keySpots lines key).map Prod.snd = first :: rest ∧ i ∈ rest := by
  have hmem := fun j => @mem_map_snd_keySpots lines key j
  have hlt := pairwise_keySpots lines key
  rw [isRepeatable_eq_false]
  constructor
  · rintro ⟨hl, ho, here, before, there, leads⟩
    refine ⟨⟨hl, ho⟩, ?_⟩
    cases hspots : (keySpots lines key).map Prod.snd with
    | nil => simp [hspots] at hmem; exact absurd here (hmem i)
    | cons head rest =>
      rw [hspots, List.pairwise_cons] at hlt
      simp only [hspots, List.mem_cons] at hmem
      -- the head of the positions is the first one, for they are in order
      have hhead : head = first := by
        have hle := leads head ((hmem head).1 (.inl rfl))
        rcases (hmem first).2 there with h | h
        · exact h.symm
        · have := hlt.1 first h; omega
      subst hhead
      refine ⟨rest, rfl, ?_⟩
      rcases (hmem i).2 here with h | h
      · omega
      · exact h
  · rintro ⟨⟨hl, ho⟩, rest, hspots, hi⟩
    rw [hspots, List.pairwise_cons] at hlt
    simp only [hspots, List.mem_cons] at hmem
    refine ⟨hl, ho, (hmem i).1 (.inr hi), hlt.1 i hi, (hmem first).1 (.inl rfl), ?_⟩
    intro j hj
    rcases (hmem j).2 hj with h | h
    · omega
    · have := hlt.1 j h; omega

/-- The positions that repeat a key, key by key. -/
def repeatPositions (s : Schema) (lines : List Line) : List Nat :=
  (lines.filterMap Line.key?).eraseDups.flatMap fun key =>
    if s.isRepeatable key then [] else ((keySpots lines key).map Prod.snd).tail

theorem mem_keys_of_spot {lines : List Line} {key : Text} {i : Nat} (h : SetsKey lines key i) :
    key ∈ (lines.filterMap Line.key?).eraseDups := by
  obtain ⟨line, hline, hkey⟩ := setsKey_iff.1 h
  exact List.mem_eraseDups.2 (List.mem_filterMap.2 ⟨line, List.mem_of_getElem? hline, hkey⟩)

theorem mem_repeatsOfKey {s : Schema} {lines : List Line} {key : Text} {i : Nat} :
    i ∈ (if s.isRepeatable key then [] else ((keySpots lines key).map Prod.snd).tail) ↔
      ∃ first, Repeats s lines key first i := by
  simp only [repeats_iff]
  cases s.isRepeatable key
  · cases (keySpots lines key).map Prod.snd <;> simp
  · simp

theorem mem_repeatPositions {s : Schema} {lines : List Line} {i : Nat} :
    i ∈ repeatPositions s lines ↔ ∃ key first, Repeats s lines key first i := by
  rw [repeatPositions, List.mem_flatMap]
  constructor
  · rintro ⟨key, -, hi⟩
    exact ⟨key, mem_repeatsOfKey.1 hi⟩
  · rintro ⟨key, first, h⟩
    exact ⟨key, mem_keys_of_spot h.here, mem_repeatsOfKey.2 ⟨first, h⟩⟩

theorem nodup_repeatPositions (s : Schema) (lines : List Line) :
    (repeatPositions s lines).Nodup := by
  rw [repeatPositions, List.nodup_flatMap]
  refine ⟨?_, ?_⟩
  · intro key _
    split
    · exact List.nodup_nil
    · exact ((pairwise_keySpots lines key).imp Nat.ne_of_lt).tail
  · -- the keys are the names of the groups, and a table names nothing twice
    have hkeys : (lines.filterMap Line.key?).eraseDups.Nodup :=
      names_groupByKey lines ▸ (groupByKey lines).distinct
    refine List.Pairwise.imp ?_ hkeys
    intro key other hne i hi hi'
    obtain ⟨first, h⟩ := mem_repeatsOfKey.1 hi
    obtain ⟨first', h'⟩ := mem_repeatsOfKey.1 hi'
    exact hne (h.here.unique h'.here)

theorem length_repeatPositions (s : Schema) (lines : List Line) (key : Text) :
    ((repeatPositions s lines).filter fun i => (lines[i]?.bind Line.key?) == some key).length =
      if s.isRepeatable key then 0 else (lines.countP fun line => line.key? == some key) - 1 := by
  -- other keys have other positions, so that only those of the one key are left
  have hperm : ((repeatPositions s lines).filter fun i => (lines[i]?.bind Line.key?) == some key).Perm
      (if s.isRepeatable key then [] else ((keySpots lines key).map Prod.snd).tail) := by
    refine (List.perm_ext_iff_of_nodup ((nodup_repeatPositions s lines).filter _) ?_).2 ?_
    · split
      · exact List.nodup_nil
      · exact ((pairwise_keySpots lines key).imp Nat.ne_of_lt).tail
    · intro i
      rw [List.mem_filter, mem_repeatPositions, mem_repeatsOfKey, beq_iff_eq,
        Option.bind_eq_some_iff, ← setsKey_iff]
      constructor
      · rintro ⟨⟨other, first, h⟩, hkey⟩
        exact ⟨first, h.here.unique hkey ▸ h⟩
      · rintro ⟨first, h⟩
        exact ⟨⟨key, first, h⟩, h.here⟩
  rw [hperm.length_eq]
  split
  · rfl
  · rw [List.length_tail, List.length_map, ← List.length_map (f := Prod.fst), map_fst_keySpots,
      List.countP_eq_length_filter]

theorem reports_of_key (s : Schema) (lines : List Line) (key : Text) :
    List.Forall₂ (fun i d => ∃ first, Repeats s lines key first i ∧
        IsRepeatReport lines key first i d)
      (if s.isRepeatable key then [] else ((keySpots lines key).map Prod.snd).tail)
      (if s.isRepeatable key then []
        else repeatedLines key (lines.filter fun line => line.key? == some key)) := by
  cases hrep : s.isRepeatable key with
  | true => exact List.Forall₂.nil
  | false =>
    rw [← map_fst_keySpots]
    cases hspots : keySpots lines key with
    | nil => exact List.Forall₂.nil
    | cons opening rest =>
      -- both sides go through the same spots, so they are compared spot by spot
      simp only [Bool.false_eq_true, if_false, List.map_cons, List.tail_cons, repeatedLines,
        List.map_map]
      rw [List.forall₂_map_left_iff, List.forall₂_map_right_iff, List.forall₂_same]
      intro spot hspot
      have hfound : ∀ found ∈ opening :: rest, lines[found.2]? = some found.1 := by
        intro found hfound
        exact (mem_keySpots.1 (hspots ▸ hfound)).1
      refine ⟨opening.2, repeats_iff.2 ⟨hrep, rest.map Prod.snd, by rw [hspots]; rfl,
        List.mem_map_of_mem hspot⟩, spot.1, opening.1, hfound _ (List.mem_cons_of_mem _ hspot),
        hfound _ List.mem_cons_self, ?_⟩
      simp [Finding.diagnostic, Finding.message, Finding.code, Line.wholeSpan,
        ValueProblem.inQuotes, CodeText.ofText]

/-- The reports are those of the positions that set a key again which may not be repeated: each
    such position has one, which points at its line and names the first line of the key. So a key
    with `n` lines has `n - 1` reports, or none if it may be repeated. -/
theorem checkDuplicates_exact (s : Schema) (lines : List Line) :
    ∃ positions : List Nat, positions.Nodup ∧
      (∀ i, i ∈ positions ↔ ∃ key first, Repeats s lines key first i) ∧
      List.Forall₂ (fun i d => ∃ key first, Repeats s lines key first i ∧
        IsRepeatReport lines key first i d) positions (s.checkDuplicates lines) ∧
      ∀ key, (positions.filter fun i => (lines[i]?.bind Line.key?) == some key).length =
        if s.isRepeatable key then 0
        else (lines.countP fun line => line.key? == some key) - 1 := by
  refine ⟨repeatPositions s lines, nodup_repeatPositions s lines, fun i => mem_repeatPositions,
    ?_, length_repeatPositions s lines⟩
  rw [checkDuplicates_eq, repeatPositions]
  -- positions and reports are put together from the same keys in the same order
  refine List.rel_flatMap (R := (· = ·)) (by rw [List.forall₂_eq_eq_eq]) ?_
  rintro key _ rfl
  refine (reports_of_key s lines key).imp ?_
  rintro i d ⟨first, h⟩
  exact ⟨key, first, h⟩

end Schema
end ConfigLint
