import ConfigLint.Decimal.Numeral
import ConfigLint.Proofs.DecimalRounding
import ConfigLint.Proofs.DigitRuns
/-!
The grammar of numbers as they are written in a configuration: a sign if need be, and decimal digits with
a point among them, behind them or in front of them, or with none.

What is proved:
  1. `ofText?_eq_some_iff`: a text is read as the number that it writes, and is not read if it writes
     none.
  2. `isRounding_toBinary64`: the floating-point number that is made of it is what the written number is
     rounded to.
-/
namespace ConfigLint
namespace Numeral

/-- What may stand in front of a number, and whether it makes it negative. -/
inductive IsSign : Text → Bool → Prop where
  | none : IsSign [] false
  | plus : IsSign ['+'] false
  | minus : IsSign ['-'] true

/-- A number without sign, by the values of its digits before and after the point: digits, a point
    behind them if need be and digits behind that, or a point and digits. -/
inductive IsUnsigned : Text → List Nat → List Nat → Prop where
  | whole {run : Text} {whole : List Nat} (isRun : IsRun run whole) (ne : run ≠ []) :
      IsUnsigned run whole []
  | point {run run' : Text} {whole fraction : List Nat} (isRun : IsRun run whole) (ne : run ≠ [])
      (isRun' : IsRun run' fraction) : IsUnsigned (run ++ '.' :: run') whole fraction
  | fraction {run' : Text} {fraction : List Nat} (isRun' : IsRun run' fraction) (ne : run' ≠ []) :
      IsUnsigned ('.' :: run') [] fraction

/-- A text writes a number. -/
def IsWritten (t : Text) (n : Numeral) : Prop :=
  ∃ front body, t = front ++ body ∧ IsSign front n.negative ∧ IsUnsigned body n.whole n.fraction

theorem exists_sign (t : Text) : ∃ front, t = front ++ (sign t).2 ∧ IsSign front (sign t).1 := by
  rw [sign.eq_def]
  split
  · exact ⟨['-'], rfl, .minus⟩
  · exact ⟨['+'], rfl, .plus⟩
  · exact ⟨[], rfl, .none⟩

theorem sign_append {front body : Text} {negative : Bool} (h : IsSign front negative)
    (hbody : ∀ c ∈ body.head?, c ≠ '+' ∧ c ≠ '-') : sign (front ++ body) = (negative, body) := by
  cases h with
  | plus => rfl
  | minus => rfl
  | none =>
    rw [List.nil_append, sign.eq_def]
    split
    · exact absurd rfl (hbody '-' rfl).2
    · exact absurd rfl (hbody '+' rfl).1
    · rfl

theorem ne_of_isRun {run : Text} {digits : List Nat} (h : IsRun run digits) {c : Char}
    (hc : c ∈ run.head?) : c ≠ '+' ∧ c ≠ '-' := by
  cases run with
  | nil => cases hc
  | cons d run =>
    cases digits with
    | nil => cases h
    | cons x digits =>
      have hdigit : digitValue? c = some x := by
        rw [List.head?_cons, Option.mem_some_iff] at hc
        exact hc ▸ (isRun_cons.1 h).1
      have hplus : digitValue? '+' = none := rfl
      have hminus : digitValue? '-' = none := rfl
      constructor
      · rintro rfl
        rw [hplus] at hdigit
        cases hdigit
      · rintro rfl
        rw [hminus] at hdigit
        cases hdigit

theorem IsSign.not_blank {front : Text} {negative : Bool} (h : IsSign front negative) :
    ∀ c ∈ front, isBlank c = false := by
  cases h with
  | none => exact List.forall_mem_nil _
  | plus => exact List.forall_mem_singleton.2 rfl
  | minus => exact List.forall_mem_singleton.2 rfl

theorem IsUnsigned.head {body : Text} {whole fraction : List Nat} (h : IsUnsigned body whole fraction)
    {c : Char} (hc : c ∈ body.head?) : c ≠ '+' ∧ c ≠ '-' := by
  cases h with
  | whole isRun ne => exact ne_of_isRun isRun hc
  | point isRun ne isRun' => exact ne_of_isRun isRun (List.head?_append_of_ne_nil _ ne ▸ hc)
  | fraction isRun' ne =>
    rw [List.head?_cons, Option.mem_some_iff] at hc
    rw [← hc]
    decide

theorem noDigitAhead_point (rest : Text) : NoDigitAhead ('.' :: rest) := noDigitAhead_cons rfl rest

section
variable {t body : Text} {negative : Bool} {whole fraction : List Nat} {n : Numeral}

/-- What is read behind the sign is a number without sign. -/
theorem IsUnsigned.of_ofText? (hsign : sign t = (negative, body)) (h : ofText? t = some n) :
    n.negative = negative ∧ IsUnsigned body n.whole n.fraction := by
  obtain ⟨run, hbody, hrun, -⟩ := exists_run body
  rw [ofText?, hsign] at h
  simp only [] at h
  generalize spanDigits body = p at h hbody hrun
  obtain ⟨whole, behind⟩ := p
  subst hbody
  simp only [] at h
  split at h
  · split at h
    · cases h
    · next hne =>
      cases h
      rw [List.append_nil]
      exact ⟨rfl, .whole hrun (hrun.ne_nil_iff.2 hne)⟩
  · next rest =>
    obtain ⟨run', hrest, hrun', -⟩ := exists_run rest
    generalize spanDigits rest = p at h hrest hrun'
    obtain ⟨fraction, behind'⟩ := p
    subst hrest
    simp only [] at h
    split at h
    · next hends =>
      obtain ⟨rfl, hsome⟩ := hends
      cases h
      rw [List.append_nil]
      refine ⟨rfl, ?_⟩
      by_cases hwhole : whole = []
      · have hnil : run = [] := by
          by_contra hne
          exact hrun.ne_nil_iff.1 hne hwhole
        subst hnil hwhole
        exact .fraction hrun' (hrun'.ne_nil_iff.2 fun hnone => hsome ⟨rfl, hnone⟩)
      · exact .point hrun (hrun.ne_nil_iff.2 hwhole) hrun'
    · cases h
  · cases h

theorem IsUnsigned.ofText? (hsign : sign t = (negative, body)) (h : IsUnsigned body whole fraction) :
    ofText? t = some ⟨negative, whole, fraction⟩ := by
  rw [Numeral.ofText?, hsign]
  cases h with
  | whole isRun ne => simp [spanDigits_run isRun, isRun.ne_nil_iff.1 ne]
  | point isRun ne isRun' =>
    simp [spanDigits_append isRun (noDigitAhead_point _), spanDigits_run isRun', isRun.ne_nil_iff.1 ne]
  | fraction isRun' ne =>
    have hspan : ∀ rest, spanDigits ('.' :: rest) = ([], '.' :: rest) :=
      fun rest => spanDigits_append isRun_nil (noDigitAhead_point rest)
    simp [hspan, spanDigits_run isRun', isRun'.ne_nil_iff.1 ne]

theorem ofText?_eq_some_iff : ofText? t = some n ↔ n.IsWritten t := by
  constructor
  · intro h
    obtain ⟨front, htext, hfront⟩ := exists_sign t
    obtain ⟨hnegative, hbody⟩ := IsUnsigned.of_ofText? (Prod.mk.eta (p := sign t)).symm h
    exact ⟨front, _, htext, hnegative ▸ hfront, hbody⟩
  · rintro ⟨front, body, rfl, hfront, hbody⟩
    exact hbody.ofText? (sign_append hfront fun _ => hbody.head)

theorem IsUnsigned.not_blank (h : IsUnsigned body whole fraction) :
    ∀ c ∈ body, isBlank c = false := by
  have hpoint : ∀ {run : Text} {digits : List Nat}, IsRun run digits →
      ∀ c ∈ '.' :: run, isBlank c = false :=
    fun hrun => List.forall_mem_cons.2 ⟨rfl, hrun.not_blank⟩
  cases h with
  | whole isRun ne => exact isRun.not_blank
  | point isRun ne isRun' => exact List.forall_mem_append.2 ⟨isRun.not_blank, hpoint isRun'⟩
  | fraction isRun' ne => exact hpoint isRun'

/-- What writes a number has no white space in it, so nothing of it is trimmed. -/
theorem IsWritten.trim_eq (h : n.IsWritten t) : t.trim = t := by
  obtain ⟨front, body, rfl, hfront, hbody⟩ := h
  exact (Text.isTrimmed_of_not_blank
    (List.forall_mem_append.2 ⟨hfront.not_blank, hbody.not_blank⟩)).trim_eq

end

def value (n : Numeral) : ℚ :=
  Binary64.signed n.negative (numberOf n.whole + numberOf n.fraction / 10 ^ n.fraction.length)

/-- The floating-point number of a written number is what that number is rounded to. -/
theorem isRounding_toBinary64 (n : Numeral) : (n.toBinary64 0).IsRounding n.value := by
  have hdigits : n.digits = numberOf n.whole * 10 ^ n.fraction.length + numberOf n.fraction := by
    rw [digits, digitsValue_eq, Nat.zero_mul, Nat.zero_add, numberOf_append]
  have hpow : (10 : ℚ) ^ n.fraction.length ≠ 0 := by positivity
  have hvalue : (n.digits : ℚ) * 10 ^ (0 - n.fraction.length : ℤ) =
      numberOf n.whole + numberOf n.fraction / 10 ^ n.fraction.length := by
    rw [hdigits, zero_sub, zpow_neg, zpow_natCast, ← div_eq_mul_inv]
    push_cast
    rw [add_div, mul_div_cancel_right₀ _ hpow]
  rw [value, ← hvalue]
  exact Binary64.isRounding_ofDecimal _ _ _

end Numeral
end ConfigLint
