import ConfigLint.Libraries.Own
import ConfigLint.Proofs.Sessions
/-!
The default handle has one source from one reset to the next. A period starts with the session or
after a reset, and lasts to the next reset.

What is proved:
  1. `default_of_unchosen`: as long as no question finds a source, there is no default handle.
  2. `since_of_chooses`: the first question of a period that finds a source fixes it, and the
     default handle keeps the first schema read from there.
  3. `ne_of_reset`: no instance is answered before a reset and after it.
  4. `fixedSource`: what this means for every period of every session.
-/
namespace ConfigLint
namespace Workspace

/-- Step `j` belongs to the period that starts at step `a`, with the session or after a reset. -/
structure InPeriod (steps : List Step) (a j : Nat) : Prop where
  starts : a = 0 ∨ ∃ l, a = l + 1 ∧ steps[l]? = some .resetDefault
  le : a ≤ j
  kept : Unrenewed steps .default a j

structure Uses (steps : List Step) (a j : Nat) (step : Step) : Prop where
  period : InPeriod steps a j
  taken : steps[j]? = some step
  asks : step.asks? = some .default

section
variable [Libraries]

/-- The source that a step chooses for the default handle if this has to be made: its own path, or
    else the one of the settings at that moment. -/
def chosen (w : Workspace) (step : Step) : Except Raised (Option Path) :=
  match step.path? with
  | some path => .ok (some (.ofText path))
  | none => (w.settings []).map Settings.schemaPath

variable [Interpreter] (w : Workspace) (steps : List Step) (a : Nat)

/-- Up to step `j` no question of the period found settings to choose a source with. -/
def Unchosen (j : Nat) : Prop :=
  ∀ k step, k < j → Uses steps a k step → ∃ e, (w.atStep steps k).chosen step = .error e

/-- Step `k` is the first of the period that finds a source. -/
structure Chooses (k : Nat) (source : Option Path) : Prop where
  uses : ∃ step, Uses steps a k step ∧ (w.atStep steps k).chosen step = .ok source
  first : w.Unchosen steps a k

/-- The period that starts at step `a` has one source. -/
structure FixedSource : Prop where
  /-- As long as no question finds a source there is no default handle: a question whose settings
      fail says so and leaves none behind. -/
  unset : ∀ j, InPeriod steps a j → w.Unchosen steps a j → (w.atStep steps j).default = none ∧
    ∀ step e, Uses steps a j step → (w.atStep steps j).chosen step = .error e →
      w.resultAt? steps j = some (.error (.raised e)) ∧
        (w.atStep steps (j + 1)).default = none
  /-- After the first question that finds a source the default handle is on this source. -/
  fixed : ∀ k source, w.Chooses steps a k source → ∀ j, k < j → InPeriod steps a j →
    ∃ h, (w.atStep steps j).default = some h ∧ h.source = source
  /-- As long as nothing has been read from this source, every question reads it at that moment.
      What is refused gives an empty schema that no other step ever answers. -/
  reads : ∀ k source, w.Chooses steps a k source → ∀ j step, k ≤ j → Uses steps a j step →
    w.NoRead steps .default source k j →
    match w.readAt steps source j with
    | .ok s => w.FirstRead steps .default source k j s
    | .error (.refused _) => ∃ i, i.schema = Schema.fallback ∧
      w.resultAt? steps j = some (step.answer (.ok i)) ∧
      ∀ j' i', w.resultAt? steps j' = some (.ok (.schema i')) → i'.number = i.number → j' = j
    | .error (.raised e) => w.resultAt? steps j = some (.error (.load (.raised e)))
  /-- From the first question on that reads a schema, all are answered out of one instance. -/
  kept : ∀ k source, w.Chooses steps a k source → ∀ l s, w.FirstRead steps .default source k l s →
    ∃ i, i.schema = s ∧ ∀ j step, l ≤ j → Uses steps a j step →
      w.resultAt? steps j = some (step.answer (.ok i))
  /-- No step of the period answers an instance that the schema in use had before. -/
  renewed : ∀ j k path i i', j < a → InPeriod steps a k → steps[j]? = some (.loadDefault path) →
    w.resultAt? steps j = some (.ok (.schema i)) → w.resultAt? steps k = some (.ok (.schema i')) →
    i.number ≠ i'.number

end

section
variable {w : Workspace} {steps : List Step} {a j k : Nat} {step : Step} {source : Option Path}

theorem InPeriod.of_le (h : InPeriod steps a j) (hak : a ≤ k) (hkj : k ≤ j) :
    InPeriod steps a k :=
  ⟨h.starts, hak, fun l step hal hlk => h.kept l step hal (Nat.lt_of_lt_of_le hlk hkj)⟩

variable [Libraries]

theorem defaultHandle_eq_chosen (hnone : w.default = none) (step : Step) :
    w.defaultHandle (step.path?.map Path.ofText) =
      (w.chosen step).map SchemaHandle.onSource := by
  simp only [defaultHandle, hnone, chosen]
  cases step.path? with
  | some path => rfl
  | none => cases w.settings [] <;> rfl

theorem askedHandle?_of_chosen (hnone : w.default = none) (hasks : step.asks? = some .default)
    (hchosen : w.chosen step = .ok source) : w.askedHandle? step = some ⟨source, none⟩ := by
  simp only [askedHandle?, hasks, defaultHandle_eq_chosen hnone, hchosen]
  rfl

variable [Interpreter]

theorem Unchosen.of_le (h : w.Unchosen steps a j) (hkj : k ≤ j) : w.Unchosen steps a k :=
  fun l step hlk huses => h l step (Nat.lt_of_lt_of_le hlk hkj) huses

/-- Where no source is found the step says why, and changes nothing. -/
theorem run_of_unchosen {e : Raised} (hnone : w.default = none)
    (hasks : step.asks? = some .default) (he : w.chosen step = .error e) :
    (w.run step).result = .error (.raised e) ∧ (w.run step).workspace = w := by
  have hunasked : w.askedHandle? step = none := by
    simp only [askedHandle?, hasks, defaultHandle_eq_chosen hnone, he]
    rfl
  obtain ⟨fault, ⟨e', he', rfl⟩, hresult, hsame⟩ := run_of_unasked hasks hunasked
  rw [defaultHandle_eq_chosen hnone, he] at he'
  rw [hresult, Except.error.inj he']
  exact ⟨rfl, hsame⟩

theorem default_of_start (hw : w.default = none) (h : InPeriod steps a j) :
    (w.atStep steps a).default = none := by
  rcases h.starts with rfl | ⟨l, rfl, hreset⟩
  · exact hw
  · rw [atStep_succ hreset]
    rfl

theorem default_of_unchosen (hw : w.default = none) (h : InPeriod steps a j)
    (hno : w.Unchosen steps a j) : (w.atStep steps j).default = none := by
  obtain ⟨starts, le, kept⟩ := h
  -- along the period: only a question can make the handle, and none of these finds a source for it
  induction j, le using Nat.le_induction with
  | base => exact default_of_start hw ⟨starts, Nat.le_refl a, kept⟩
  | succ j haj ih =>
    have hperiod : InPeriod steps a j :=
      InPeriod.of_le ⟨starts, Nat.le_succ_of_le haj, kept⟩ haj (Nat.le_succ j)
    have hnone := ih (hno.of_le (Nat.le_succ j)) hperiod.kept
    cases hstep : steps[j]? with
    | none => rw [atStep_of_end hstep, hnone]
    | some step =>
      rw [atStep_succ hstep]
      by_cases hasks : step.asks? = some .default
      · obtain ⟨f, hf⟩ := hno j step (Nat.lt_succ_self j) ⟨hperiod, hstep, hasks⟩
        rw [(run_of_unchosen hnone hasks hf).2, hnone]
      · have hrenews := kept j step haj (Nat.lt_succ_self j) hstep
        have hsame := handleIn_run (w := w.atStep steps j) hasks hrenews
        exact hsame.trans hnone

/-- The first question that finds a source meets an empty handle on it. -/
theorem Chooses.asksHandle (hw : w.default = none) (h : w.Chooses steps a k source) :
    ∃ step, w.AsksHandle steps .default k step ⟨source, none⟩ := by
  obtain ⟨step, huses, hchosen⟩ := h.uses
  have hnone := default_of_unchosen hw huses.period h.first
  exact ⟨step, huses.taken, huses.asks, askedHandle?_of_chosen hnone huses.asks hchosen⟩

theorem Chooses.le (h : w.Chooses steps a k source) : a ≤ k := by
  obtain ⟨_, huses, -⟩ := h.uses
  exact huses.period.le

/-- From then on the default handle is on this source, and keeps the first schema that is read from
    there. -/
theorem since_of_chooses (hw : w.default = none) (h : w.Chooses steps a k source) (hkj : k < j)
    (hperiod : InPeriod steps a j) :
    ∃ handle, (w.atStep steps j).handleIn .default = some handle ∧
      w.Since steps .default source k j handle := by
  obtain ⟨step, hasks⟩ := h.asksHandle hw
  have hempty : w.NoRead steps .default source k k := by
    intro l hkl hlk
    omega
  have hsince := since_fetch (Nat.le_refl k) hasks.asksAt (.inl ⟨hempty, rfl⟩)
  refine since_of_holds (Nat.le_succ k) hkj ?_ hasks.handleIn_succ hsince
  intro l step hkl hlj
  exact hperiod.kept l step (Nat.le_trans h.le (Nat.le_of_succ_le hkl)) hlj

/-- Every question from then on meets such a handle. -/
theorem Uses.asksHandle (hw : w.default = none) (h : w.Chooses steps a k source) (hkj : k ≤ j)
    (huses : Uses steps a j step) :
    ∃ handle, w.AsksHandle steps .default j step handle ∧
      w.Since steps .default source k j handle := by
  rcases Nat.lt_or_eq_of_le hkj with hlt | rfl
  · obtain ⟨handle, hhandle, hsince⟩ := since_of_chooses hw h hlt huses.period
    exact ⟨handle, asksHandle_of_handleIn huses.taken huses.asks hhandle, hsince⟩
  · obtain ⟨first, hasks⟩ := h.asksHandle hw
    obtain rfl := Option.some.inj (hasks.taken.symm.trans huses.taken)
    refine ⟨_, hasks, .inl ⟨?_, rfl⟩⟩
    intro l hkl hlk
    omega

theorem ne_of_reset (hw : w.Sound) {path : Option Text} {i i' : SchemaInstance} {r : Nat}
    (hreset : steps[r]? = some .resetDefault) (hjr : j < r) (hrk : r < k)
    (hstep : steps[j]? = some (.loadDefault path))
    (hi : w.resultAt? steps j = some (.ok (.schema i)))
    (hi' : w.resultAt? steps k = some (.ok (.schema i'))) : i.number ≠ i'.number := by
  intro heq
  obtain ⟨-, slot, ⟨first, hfirst, hasks⟩, -, hkept⟩ :=
    kept_between hw (Nat.lt_trans hjr hrk) hi hi' heq
  obtain rfl := Option.some.inj (hstep.symm.trans hfirst)
  obtain rfl := Option.some.inj hasks
  exact hkept r _ (Nat.succ_le_of_lt hjr) hrk hreset rfl

/-! ## Every session -/

/-- Every period of every session has one source, and after it nothing of it is answered again. -/
theorem fixedSource (files : Files) (environment : Table Text Text) (steps : List Step) (a : Nat) :
    FixedSource { files, environment } steps a := by
  have hw := sound_of_fresh files environment
  constructor
  case unset =>
    intro j hperiod hno
    have hnone := default_of_unchosen rfl hperiod hno
    refine ⟨hnone, ?_⟩
    intro step e huses he
    obtain ⟨hresult, hsame⟩ := run_of_unchosen hnone huses.asks he
    rw [resultAt?_eq huses.taken, atStep_succ huses.taken, hresult, hsame]
    exact ⟨rfl, hnone⟩
  case fixed =>
    intro k source hchooses j hkj hperiod
    obtain ⟨handle, hhandle, hsince⟩ := since_of_chooses rfl hchooses hkj hperiod
    exact ⟨handle, hhandle, hsince.source_eq⟩
  case reads =>
    intro k source hchooses j step hkj huses hno
    obtain ⟨handle, hasks, hsince⟩ := huses.asksHandle rfl hchooses hkj
    obtain rfl := hsince.eq_of_noRead hno
    split
    · next s hread => exact ⟨hkj, hasks.asksAt, hread, hno⟩
    · next r hread =>
      exact ⟨_, rfl, (result_of_refused hasks hread).1,
        fun l i hi hnumber => eq_of_answer_fallback hw hasks hread hi hnumber⟩
    · next f hread => exact (result_of_raised hasks hread).1
  case kept =>
    intro k source hchooses l s hfirst
    refine ⟨instanceAt { files, environment } steps l s, rfl, ?_⟩
    intro j step hlj huses
    obtain ⟨handle, hasks, hsince⟩ := huses.asksHandle rfl hchooses (Nat.le_trans hfirst.le hlj)
    exact result_of_first hasks hsince hfirst hlj
  case renewed =>
    intro j k path i i' hja hperiod hstep hi hi'
    rcases hperiod.starts with rfl | ⟨r, rfl, hreset⟩
    · omega
    · -- the reset itself is no question, so the earlier one stands before it
      rcases Nat.lt_or_eq_of_le (Nat.le_of_lt_succ hja) with hlt | rfl
      · exact ne_of_reset hw hreset hlt (Nat.lt_of_succ_le hperiod.le) hstep hi hi'
      · rw [hreset] at hstep
        cases hstep

end

/-- The path of the second question counts only after a reset, although the first one found no
    file. -/
example : (runAll {}
    [.write "b.yaml".toList (.text "version: '2'".toList), .loadDefault (some "a.yaml".toList),
      .loadDefault (some "b.yaml".toList), .write "a.yaml".toList (.text "version: '1'".toList),
      .loadDefault none, .loadDefault (some "b.yaml".toList), .resetDefault,
      .loadDefault (some "b.yaml".toList)]).map answered? =
    [none, some 0, some 1, none, some 2, some 2, none, some 3] := by
  decide +kernel

end Workspace
end ConfigLint
