import Mathlib.Order.Nat
import Mathlib.Tactic.Common
import ConfigLint.Document
/-!
The separator of a line. `IsFirstSeparator` says what the first equals sign is that no backslash
escapes; the scan goes through the line once and counts backslashes on the way.

What is proved:
  1. `separatorIndex?_eq_some` and `separatorIndex?_eq_none`: the scan finds the first separator and
     finds none only where there is none. The invariant is `separatorFrom_eq_some`: what lies behind
     the scan holds no separator, and its count is the run of backslashes there.
  2. `isEscapeRun_endEscapes`: that count is the length of the longest run of backslashes up to a
     position, said of the single positions of the line.
  3. `separatorIndex?_exact`: so the scan finds the first position with an equals sign behind such a
     run of even length, and nothing where there is no such position.
-/
namespace ConfigLint

/-- The number of backslashes that a text ends with. -/
def endEscapes (t : Text) : Nat := (t.reverse.takeWhile (· == '\\')).length

/-- Position `i` holds an equals sign behind an even number of backslashes. -/
def IsSeparator (t : Text) (i : Nat) : Prop :=
  t[i]? = some '=' ∧ endEscapes (t.take i) % 2 = 0

/-- Position `i` holds the first separator. -/
def IsFirstSeparator (t : Text) (i : Nat) : Prop :=
  IsSeparator t i ∧ ∀ j < i, ¬ IsSeparator t j

theorem endEscapes_concat_escape (t : Text) : endEscapes (t ++ ['\\']) = endEscapes t + 1 := by
  simp [endEscapes]

theorem endEscapes_concat_of_ne (t : Text) {c : Char} (h : c ≠ '\\') :
    endEscapes (t ++ [c]) = 0 := by
  simp [endEscapes, h]

/-- The character behind `before` is a separator if it is an equals sign and `before` ends with an
    even number of backslashes. -/
theorem isSeparator_append_cons (before rest : Text) (c : Char) :
    IsSeparator (before ++ c :: rest) before.length ↔ c = '=' ∧ endEscapes before % 2 = 0 := by
  simp [IsSeparator]

theorem IsFirstSeparator.unique {t : Text} {i j : Nat} (hi : IsFirstSeparator t i)
    (hj : IsFirstSeparator t j) : i = j := by
  rcases Nat.lt_trichotomy i j with h | h | h
  · exact absurd hi.1 (hj.2 i h)
  · exact h
  · exact absurd hj.1 (hi.2 j h)

theorem IsFirstSeparator.lt_length {t : Text} {i : Nat} (h : IsFirstSeparator t i) :
    i < t.length := by
  obtain ⟨hlt, -⟩ := List.getElem?_eq_some_iff.1 h.1.1
  exact hlt

/-- A scan that has passed over `before` without a separator finds the first one of the whole. -/
theorem separatorFrom_eq_some (rest : Text) : ∀ before : Text,
    (∀ j < before.length, ¬ IsSeparator (before ++ rest) j) → ∀ i,
      (separatorFrom before.length (endEscapes before) rest = some i ↔
        IsFirstSeparator (before ++ rest) i) := by
  induction rest with
  | nil =>
    intro before hnone i
    simp only [separatorFrom, reduceCtorEq, false_iff]
    intro h
    have hlt := h.lt_length
    rw [List.append_nil] at hlt
    exact hnone i hlt h.1
  | cons c rest ih =>
    intro before hnone i
    -- a character that is no separator joins what is passed over, with whatever count comes of it
    have hstep : ∀ escapes, endEscapes (before ++ [c]) = escapes →
        ¬ (c = '=' ∧ endEscapes before % 2 = 0) →
        (separatorFrom (before.length + 1) escapes rest = some i ↔
          IsFirstSeparator (before ++ c :: rest) i) := by
      intro escapes hescapes hc
      have hpassed : ∀ j < (before ++ [c]).length, ¬ IsSeparator ((before ++ [c]) ++ rest) j := by
        intro j hj
        rw [List.append_assoc, List.singleton_append]
        rw [List.length_append, List.length_singleton] at hj
        rcases Nat.lt_succ_iff_lt_or_eq.1 hj with h | h
        · exact hnone j h
        · rw [h, isSeparator_append_cons]
          exact hc
      have h := ih (before ++ [c]) hpassed i
      rwa [List.length_append, List.length_singleton, hescapes, List.append_assoc,
        List.singleton_append] at h
    by_cases hesc : c = '\\'
    · subst hesc
      rw [separatorFrom]
      exact hstep _ (endEscapes_concat_escape before) (by simp)
    · rw [separatorFrom.eq_3 _ _ _ _ (fun h => hesc h)]
      by_cases hsep : c = '=' ∧ endEscapes before % 2 = 0
      · rw [if_pos hsep, Option.some.injEq]
        have hfirst : IsFirstSeparator (before ++ c :: rest) before.length :=
          ⟨(isSeparator_append_cons before rest c).2 hsep, hnone⟩
        constructor
        · rintro rfl
          exact hfirst
        · exact hfirst.unique
      · rw [if_neg hsep]
        exact hstep _ (endEscapes_concat_of_ne before hesc) hsep

theorem separatorIndex?_eq_some {t : Text} {i : Nat} :
    separatorIndex? t = some i ↔ IsFirstSeparator t i :=
  separatorFrom_eq_some t [] (by simp) i

theorem separatorIndex?_eq_none {t : Text} :
    separatorIndex? t = none ↔ ∀ i, ¬ IsSeparator t i := by
  constructor
  · intro hnone i
    induction i using Nat.strong_induction_on with
    | _ i ih =>
      intro hi
      have := separatorIndex?_eq_some.2 ⟨hi, ih⟩
      rw [hnone] at this
      cases this
  · intro hall
    cases h : separatorIndex? t with
    | none => rfl
    | some i => exact absurd (separatorIndex?_eq_some.1 h).1 (hall i)

/-! ## Runs of backslashes -/

/-- The positions from `start` up to, not including, `stop` hold backslashes, and the run could not
    start any earlier. It may be empty. -/
structure IsEscapeRun (t : Text) (start stop : Nat) : Prop where
  le : start ≤ stop
  escapes : ∀ j, start ≤ j → j < stop → t[j]? = some '\\'
  maximal : ∀ j, j + 1 = start → t[j]? ≠ some '\\'

/-- Position `i` holds an equals sign, and the longest run of backslashes that ends just before it
    is of even length. -/
def IsUnescaped (t : Text) (i : Nat) : Prop :=
  t[i]? = some '=' ∧ ∃ start, IsEscapeRun t start i ∧ (i - start) % 2 = 0

namespace IsEscapeRun
variable {t : Text} {start start' stop : Nat}

theorem start_le (h : IsEscapeRun t start stop) (h' : IsEscapeRun t start' stop) :
    start ≤ start' := by
  by_contra hlt
  have hle : start ≤ stop := h.le
  have hbefore : t[start - 1]? = some '\\' := h'.escapes (start - 1) (by omega) (by omega)
  exact h.maximal (start - 1) (by omega) hbefore

theorem unique (h : IsEscapeRun t start stop) (h' : IsEscapeRun t start' stop) : start = start' :=
  Nat.le_antisymm (h.start_le h') (h'.start_le h)

theorem concat (h : IsEscapeRun t start stop) (hesc : t[stop]? = some '\\') :
    IsEscapeRun t start (stop + 1) := by
  refine ⟨Nat.le_succ_of_le h.le, ?_, h.maximal⟩
  intro j hstart hstop
  rcases Nat.lt_succ_iff_lt_or_eq.1 hstop with hlt | heq
  · exact h.escapes j hstart hlt
  · rw [heq]
    exact hesc

end IsEscapeRun

/-- Behind any other character, and at the front, the run is empty. -/
theorem isEscapeRun_self {t : Text} {i : Nat} (h : ∀ j, j + 1 = i → t[j]? ≠ some '\\') :
    IsEscapeRun t i i := by
  refine ⟨Nat.le_refl i, ?_, h⟩
  intro j hstart hstop
  omega

theorem endEscapes_le_length (t : Text) : endEscapes t ≤ t.length := by
  have hle := (List.takeWhile_prefix (· == '\\') (l := t.reverse)).length_le
  rwa [List.length_reverse] at hle

/-- The count of backslashes in front of a position is the length of the run that ends there. -/
theorem isEscapeRun_endEscapes (t : Text) {i : Nat} (h : i ≤ t.length) :
    IsEscapeRun t (i - endEscapes (t.take i)) i := by
  induction i with
  | zero =>
    apply isEscapeRun_self
    intro j hj
    omega
  | succ i ih =>
    have hlt : i < t.length := h
    have hrun : IsEscapeRun t (i - endEscapes (t.take i)) i := ih (Nat.le_of_lt hlt)
    have hget : t[i]? = some t[i] := List.getElem?_eq_getElem hlt
    rw [List.take_succ_eq_append_getElem hlt]
    by_cases hesc : t[i] = '\\'
    · rw [hesc, endEscapes_concat_escape, Nat.add_sub_add_right]
      apply hrun.concat
      rw [hget, hesc]
    · rw [endEscapes_concat_of_ne _ hesc, Nat.sub_zero]
      apply isEscapeRun_self
      intro j hj
      obtain rfl : j = i := by omega
      rw [hget]
      exact fun heq => hesc (Option.some.inj heq)

theorem isSeparator_iff_isUnescaped {t : Text} {i : Nat} : IsSeparator t i ↔ IsUnescaped t i := by
  apply and_congr_right
  intro hget
  obtain ⟨hlt, -⟩ := List.getElem?_eq_some_iff.1 hget
  have hrun := isEscapeRun_endEscapes t (Nat.le_of_lt hlt)
  -- the start of the run and the count determine each other
  have hle : endEscapes (t.take i) ≤ i :=
    Nat.le_trans (endEscapes_le_length _) (List.length_take_le i t)
  have hlength : i - (i - endEscapes (t.take i)) = endEscapes (t.take i) := Nat.sub_sub_self hle
  refine ⟨fun heven => ⟨_, hrun, by rw [hlength]; exact heven⟩, ?_⟩
  intro hsome
  obtain ⟨start, hstart, heven⟩ := hsome
  rwa [hstart.unique hrun, hlength] at heven

/-- The scan finds a position just where it holds an equals sign, the longest run of backslashes that
    ends before it is of even length, and no earlier position is like that. It finds nothing just
    where no position is. -/
theorem separatorIndex?_exact (t : Text) :
    (∀ i, separatorIndex? t = some i ↔ IsUnescaped t i ∧ ∀ j < i, ¬ IsUnescaped t j) ∧
      (separatorIndex? t = none ↔ ∀ i, ¬ IsUnescaped t i) := by
  have hsame : IsSeparator t = IsUnescaped t := by
    funext i
    exact propext isSeparator_iff_isUnescaped
  rw [← hsame]
  exact ⟨fun i => separatorIndex?_eq_some, separatorIndex?_eq_none⟩

/-- Behind two backslashes the equals sign separates, behind one or three it does not. -/
example : separatorIndex? "a\\=\\\\\\=\\\\=b".toList = some 9 := by decide

end ConfigLint
