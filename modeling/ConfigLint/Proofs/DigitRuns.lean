import Mathlib.Data.Nat.Digits.Defs
import ConfigLint.Proofs.Trim
import ConfigLint.Text.Digit
/-!
Runs of decimal digits. A run is a text of digits of any script, and stands for the number that the
values of its digits write in base ten.

What is proved:
  1. `exists_run` and `spanDigits_append`: reading digits takes the whole run at the front of a text.
  2. `digitsValue_eq`: reading from the first digit on comes to the number in base ten.
  3. `digitValue?_of_blank`: white space is no digit.
-/
namespace ConfigLint

/-- A text is a run of digits with these values. -/
def IsRun (run : Text) (digits : List Nat) : Prop := run.map digitValue? = digits.map some

/-- The number that digits write in base ten, the most significant one first. -/
def numberOf (digits : List Nat) : Nat := Nat.ofDigits 10 digits.reverse

/-- No digit stands at the front of a text. -/
def NoDigitAhead (t : Text) : Prop := ∀ c ∈ t.head?, digitValue? c = none

theorem noDigitAhead_nil : NoDigitAhead [] := by
  simp [NoDigitAhead]

theorem noDigitAhead_cons {c : Char} (h : digitValue? c = none) (rest : Text) :
    NoDigitAhead (c :: rest) := by
  intro d hd
  rw [List.head?_cons, Option.mem_some_iff] at hd
  rwa [← hd]

theorem isRun_nil : IsRun [] [] := rfl

theorem isRun_cons {c : Char} {run : Text} {d : Nat} {digits : List Nat} :
    IsRun (c :: run) (d :: digits) ↔ digitValue? c = some d ∧ IsRun run digits := by
  simp [IsRun]

section
variable {run rest t : Text} {digits : List Nat}

theorem IsRun.length_eq (h : IsRun run digits) : run.length = digits.length := by
  have hlength := congrArg List.length h
  rwa [List.length_map, List.length_map] at hlength

theorem IsRun.ne_nil_iff (h : IsRun run digits) : run ≠ [] ↔ digits ≠ [] := by
  rw [← List.length_pos_iff, ← List.length_pos_iff, h.length_eq]

/-- A text starts with the run of digits that reading takes, and goes on without one. -/
theorem exists_run (t : Text) : ∃ run, t = run ++ (spanDigits t).2 ∧ IsRun run (spanDigits t).1 ∧
    NoDigitAhead (spanDigits t).2 := by
  induction t with
  | nil => exact ⟨[], rfl, isRun_nil, noDigitAhead_nil⟩
  | cons c t ih =>
    rw [spanDigits]
    cases hc : digitValue? c with
    | none => exact ⟨[], rfl, isRun_nil, noDigitAhead_cons hc t⟩
    | some d =>
      obtain ⟨run, htext, hrun, hrest⟩ := ih
      exact ⟨c :: run, congrArg (c :: ·) htext, isRun_cons.2 ⟨hc, hrun⟩, hrest⟩

theorem spanDigits_append (hrun : IsRun run digits) (hrest : NoDigitAhead rest) :
    spanDigits (run ++ rest) = (digits, rest) := by
  induction run generalizing digits with
  | nil =>
    have hnil : digits = [] := by
      rw [← List.length_eq_zero_iff, ← hrun.length_eq]
      rfl
    subst hnil
    cases rest with
    | nil => rfl
    | cons c rest =>
      have hc : digitValue? c = none := hrest c rfl
      rw [List.nil_append, spanDigits, hc]
  | cons c run ih =>
    cases digits with
    | nil => cases hrun
    | cons d digits =>
      obtain ⟨hc, hrun⟩ := isRun_cons.1 hrun
      rw [List.cons_append, spanDigits, hc, ih hrun]

theorem spanDigits_run (hrun : IsRun run digits) : spanDigits run = (digits, []) := by
  have hspan : spanDigits (run ++ []) = (digits, []) :=
    spanDigits_append hrun noDigitAhead_nil
  rwa [List.append_nil] at hspan

theorem length_spanDigits (t : Text) :
    (spanDigits t).1.length = (t.takeWhile isDecimalDigit).length := by
  induction t with
  | nil => rfl
  | cons c t ih =>
    rw [spanDigits, List.takeWhile_cons, isDecimalDigit]
    cases hc : digitValue? c with
    | none => rfl
    | some d => exact congrArg (· + 1) ih

theorem spanDigits_snd (t : Text) : (spanDigits t).2 = t.dropWhile isDecimalDigit := by
  induction t with
  | nil => rfl
  | cons c t ih =>
    rw [spanDigits, List.dropWhile_cons, isDecimalDigit]
    cases hc : digitValue? c with
    | none => rfl
    | some d => exact ih

theorem spanDigits_fst_eq_nil {t : Text} :
    (spanDigits t).1 = [] ↔ t.takeWhile isDecimalDigit = [] := by
  rw [← List.length_eq_zero_iff, length_spanDigits, List.length_eq_zero_iff]

theorem digitsValue_eq (digits : List Nat) (high : Nat) :
    digitsValue high digits = high * 10 ^ digits.length + numberOf digits := by
  induction digits generalizing high with
  | nil => simp [digitsValue, numberOf]
  | cons d digits ih =>
    have hnumber : numberOf (d :: digits) = numberOf digits + 10 ^ digits.length * d := by
      rw [numberOf, List.reverse_cons, Nat.ofDigits_append, Nat.ofDigits_singleton,
        List.length_reverse]
      rfl
    calc digitsValue high (d :: digits)
        = (10 * high + d) * 10 ^ digits.length + numberOf digits := ih (10 * high + d)
      _ = high * 10 ^ (digits.length + 1) + (numberOf digits + 10 ^ digits.length * d) := by ring
      _ = high * 10 ^ (d :: digits).length + numberOf (d :: digits) := by
        rw [hnumber, List.length_cons]

/-- Digits in front of others count as many times more as the others have places. -/
theorem numberOf_append (front behind : List Nat) :
    numberOf (front ++ behind) = numberOf front * 10 ^ behind.length + numberOf behind := by
  rw [numberOf, List.reverse_append, Nat.ofDigits_append, List.length_reverse, add_comm, mul_comm]
  rfl

theorem digitValue?_of_blank {c : Char} (h : isBlank c = true) : digitValue? c = none :=
  Text.of_blank (p := fun c => digitValue? c = none) (by decide +kernel) h

theorem IsRun.digit_of_mem (h : IsRun run digits) {c : Char} (hc : c ∈ run) :
    ∃ d, digitValue? c = some d := by
  have hmem : digitValue? c ∈ digits.map some := h ▸ List.mem_map_of_mem hc
  obtain ⟨d, -, hd⟩ := List.mem_map.1 hmem
  exact ⟨d, hd.symm⟩

theorem IsRun.not_blank (h : IsRun run digits) : ∀ c ∈ run, isBlank c = false := by
  intro c hc
  obtain ⟨d, hd⟩ := h.digit_of_mem hc
  cases hblank : isBlank c with
  | false => rfl
  | true =>
    rw [digitValue?_of_blank hblank] at hd
    cases hd

end
end ConfigLint
