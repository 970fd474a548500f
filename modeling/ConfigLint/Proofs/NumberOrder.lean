import ConfigLint.Proofs.Limits
/-!
The order of written numbers. An option for numbers sees what a written number is rounded to, and of
that only how it compares with the limits and whether it is an integer. Rounding keeps the order, so
the verdicts follow the numbers that are written.

What is proved:
  1. `checkNumber_congr`: floating-point numbers that stand for one number get one verdict, such as the
     two zeros.
  2. `Admits.of_between`: what lies between two numbers that keep to the limits keeps to them.
  3. `accepts_number_between`: so texts that write one number get the same verdict, and the accepted
     numbers have no gap, whatever the limits are.
-/
namespace ConfigLint
namespace Binary64

variable {x x' y y' : Binary64}

theorem less_congr (hx : x.value? = x'.value?) (hy : y.value? = y'.value?) : x.less y = x'.less y' := by
  rw [Bool.eq_iff_iff, less_iff, less_iff, hx, hy]

theorem isWhole_congr (hx : x.value? = x'.value?) : x.isWhole = x'.isWhole := by
  rw [Bool.eq_iff_iff, isWhole_iff, isWhole_iff, hx]

theorem IsRounding.value?_eq {q : ℚ} (h : x.IsRounding q) (h' : x'.IsRounding q) :
    x.value? = x'.value? := by
  obtain ⟨v, hv, hrounds⟩ := h
  obtain ⟨v', hv', hrounds'⟩ := h'
  rw [hv, hv', hrounds.unique hrounds']

end Binary64

open Binary64

namespace Constraints

variable {c : Constraints}

theorem checkNumber_congr {x x' : Binary64} (h : x.value? = x'.value?) :
    c.checkNumber x = c.checkNumber x' := by
  have hbelow : x.less = x'.less := funext fun m => less_congr h rfl
  have habove : (Binary64.less · x) = (Binary64.less · x') := funext fun m => less_congr rfl h
  rw [checkNumber, checkNumber, isWhole_congr h, hbelow, habove]

/-- Between two numbers that keep to the limits there is none that does not, unless only integers
    do. -/
theorem Admits.of_between {u v w : WithBot (WithTop ℚ)} (hu : c.Admits u) (hw : c.Admits w)
    (fractional : c.integer = false) (huv : u ≤ v) (hvw : v ≤ w) : c.Admits v where
  whole hinteger := absurd hinteger (by rw [fractional]; exact Bool.false_ne_true)
  min m hm l hl := (hu.min m hm l hl).trans huv
  max m hm l hl := hvw.trans (hw.max m hm l hl)

/-- A written number passes the check if what it is rounded to keeps to the constraints. -/
theorem checkNumber_toBinary64_eq_none {n : Numeral} {v : WithBot (WithTop ℚ)}
    (hv : Rounds n.value v) : c.checkNumber (n.toBinary64 0) = none ↔ c.Admits v := by
  obtain ⟨v', hvalue, hrounds⟩ := n.isRounding_toBinary64
  rw [hv.unique hrounds]
  exact checkNumber_eq_none hvalue

theorem checkNumber_ne_notNumber (x : Binary64) : c.checkNumber x ≠ some .notNumber := by
  rw [checkNumber]
  split
  · simp
  · split
    · simp
    · simp [Option.map_eq_some_iff]

end Constraints

namespace Schema

variable {s : Schema} {o : OptionDecl} {t : Text} {n : Numeral}

theorem checkOption_of_isWritten [Interpreter] (kind : o.type = ValueKind.number.name)
    (plain : o.HasNoPattern)
    (h : n.IsWritten t) : s.checkOption o t = .ok (o.constraints.checkNumber (n.toBinary64 0)) := by
  rw [checkOption_of_no_pattern plain, h.trim_eq]
  simp only [OptionDecl.checkType, kind, ValueKind.ofName?_name, ConfigLint.checkNumber,
    Numeral.ofText?_eq_some_iff.2 h]

theorem accepts_iff_of_isWritten [Interpreter] (kind : o.type = ValueKind.number.name)
    (plain : o.HasNoPattern) (h : n.IsWritten t) {v : WithBot (WithTop ℚ)} (hv : Rounds n.value v) :
    s.Accepts o t ↔ o.constraints.Admits v := by
  rw [Accepts, checkOption_of_isWritten kind plain h, Except.ok.injEq,
    Constraints.checkNumber_toBinary64_eq_none hv]

/-- An option for numbers that has no pattern and does not ask for integers has a verdict on every text
    that writes a number, by the number nearest to what is written; it has the same verdict on texts that
    write the same number; and with two numbers it accepts all between them. -/
theorem accepts_number_between [Interpreter] (s : Schema) (o : OptionDecl) (x y z : Text)
    (nx ny nz : Numeral) (kind : o.type = ValueKind.number.name) (plain : o.HasNoPattern)
    (fractional : o.constraints.integer = false) (hx : nx.IsWritten x) (hy : ny.IsWritten y)
    (hz : nz.IsWritten z) :
    (Numeral.ofText? x = some nx ∧ (nx.toBinary64 0).IsRounding nx.value ∧
      ∃ verdict, s.checkOption o x = .ok verdict ∧ verdict ≠ some .notNumber) ∧
    (nx.value = ny.value → s.checkOption o x = s.checkOption o y) ∧
    (s.Accepts o x → s.Accepts o z → nx.value ≤ ny.value → ny.value ≤ nz.value → s.Accepts o y) := by
  refine ⟨⟨Numeral.ofText?_eq_some_iff.2 hx, nx.isRounding_toBinary64, ?_⟩, ?_, ?_⟩
  · exact ⟨_, checkOption_of_isWritten kind plain hx, Constraints.checkNumber_ne_notNumber _⟩
  · intro hsame
    have hvalue : (nx.toBinary64 0).value? = (ny.toBinary64 0).value? :=
      nx.isRounding_toBinary64.value?_eq (hsame ▸ ny.isRounding_toBinary64)
    rw [checkOption_of_isWritten kind plain hx, checkOption_of_isWritten kind plain hy,
      Constraints.checkNumber_congr hvalue]
  · intro hacceptsx hacceptsz hxy hyz
    obtain ⟨u, -, hu⟩ := nx.isRounding_toBinary64
    obtain ⟨v, -, hv⟩ := ny.isRounding_toBinary64
    obtain ⟨w, -, hw⟩ := nz.isRounding_toBinary64
    rw [accepts_iff_of_isWritten kind plain hx hu] at hacceptsx
    rw [accepts_iff_of_isWritten kind plain hz hw] at hacceptsz
    rw [accepts_iff_of_isWritten kind plain hy hv]
    exact hacceptsx.of_between hacceptsz fractional (hu.mono hv hxy) (hv.mono hw hyz)

/-- A tenth, another tenth, and a number beyond all finite floating-point numbers. -/
theorem accepts_number_between_tenths :
    let x : Text := "0.1".toList
    let y : Text := "+.1\u0660".toList
    let z : Text := '1' :: List.replicate 400 '0'
    let nx : Numeral := ⟨false, [0], [1]⟩
    let ny : Numeral := ⟨false, [], [1, 0]⟩
    let nz : Numeral := ⟨false, 1 :: List.replicate 400 0, []⟩
    fromTenth.type = ValueKind.number.name ∧ fromTenth.HasNoPattern ∧
      fromTenth.constraints.integer = false ∧ nx.IsWritten x ∧ ny.IsWritten y ∧ nz.IsWritten z ∧
      nx.value = ny.value ∧ fallback.checkOption fromTenth x = fallback.checkOption fromTenth y ∧
      fallback.Accepts fromTenth x ∧ fallback.Accepts fromTenth z ∧ nx.value ≤ ny.value ∧
      ny.value ≤ nz.value ∧ fallback.Accepts fromTenth y := by
  intro x y z nx ny nz
  have hplain : fromTenth.HasNoPattern := .inl rfl
  have hx : nx.IsWritten x := Numeral.ofText?_eq_some_iff.1 (by decide +kernel)
  have hy : ny.IsWritten y := Numeral.ofText?_eq_some_iff.1 (by decide +kernel)
  have hz : nz.IsWritten z := Numeral.ofText?_eq_some_iff.1 (by decide +kernel)
  obtain ⟨-, hsame, hbetween⟩ :=
    accepts_number_between fallback fromTenth x y z nx ny nz rfl hplain rfl hx hy hz
  have hxy : nx.value = ny.value := by decide +kernel
  have hyz : ny.value ≤ nz.value := by decide +kernel
  have hacceptsx : fallback.Accepts fromTenth x := by
    rw [Accepts]
    decide +kernel
  have hacceptsz : fallback.Accepts fromTenth z := by
    rw [Accepts]
    decide +kernel
  exact ⟨rfl, hplain, rfl, hx, hy, hz, hxy, hsame hxy, hacceptsx, hacceptsz, hxy.le, hyz,
    hbetween hacceptsx hacceptsz hxy.le hyz⟩

end Schema
end ConfigLint
