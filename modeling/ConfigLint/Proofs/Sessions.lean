import Mathlib.Order.Monotone.Basic
import ConfigLint.Proofs.Slots
/-!
Sessions, step after step: what a slot holds before each step, and which steps answer one instance.

What is proved:
  1. `runAll_getElem?`: step `j` is taken in the workspace that the steps before it lead to.
  2. `since_succ` and `since_of_holds`: a slot that is not renewed holds a handle on one source,
     which keeps the schema of its first reading that succeeded, once there is one.
  3. `result_of_first`, `result_of_refused` and `result_of_raised`: what such a handle gives.
  4. `kept_of_answer` and `kept_between`: an instance is answered again only by the slot that keeps
     it, as long as this is not renewed.
  5. `eq_of_answer_fallback`: the empty schema that stands in for a refused one is answered once.
-/
namespace ConfigLint
namespace Workspace

/-- The number of the instance that a step answers, if it answers one. -/
def answered? (o : Outcome StepFault Reply) : Option Nat :=
  match o.result with
  | .ok (.schema i) => some i.number
  | _ => none

/-- Step `j` of a session asks a slot. -/
def AsksAt (steps : List Step) (slot : Slot) (j : Nat) : Prop :=
  ∃ step, steps[j]? = some step ∧ step.asks? = some slot

/-- From step `a` up to step `j` the slot is not renewed. -/
def Unrenewed (steps : List Step) (slot : Slot) (a j : Nat) : Prop :=
  ∀ l step, a ≤ l → l < j → steps[l]? = some step → step.renews? ≠ some slot

theorem sound_of_fresh (files : Files) (environment : Table Text Text) :
    Sound { files, environment } := by
  have hnone : ∀ slot i, ¬ Stores { files, environment } slot i := by
    rintro (name | _) i ⟨h, hh, -⟩ <;> cases hh
  exact ⟨fun slot i hi => absurd hi (hnone slot i),
    fun slot _ i _ hi _ _ => absurd hi (hnone slot i)⟩

variable [Libraries] [Interpreter]

/-- The workspace in which step `j` of a session is taken. -/
def atStep (w : Workspace) (steps : List Step) (j : Nat) : Workspace :=
  (steps.take j).foldl (fun w step => (w.run step).workspace) w

/-- What step `j` of a session answers. -/
def resultAt? (w : Workspace) (steps : List Step) (j : Nat) : Option (Except StepFault Reply) :=
  (w.runAll steps)[j]?.map Outcome.result

/-- What reading a source gives at step `j` of a session. -/
def readAt (w : Workspace) (steps : List Step) (source : Option Path) (j : Nat) :
    Except LoadFault Schema := (w.atStep steps j).readSource source

/-- From step `a` up to step `j` no question to the slot found a schema at the source. -/
def NoRead (w : Workspace) (steps : List Step) (slot : Slot) (source : Option Path) (a j : Nat) :
    Prop :=
  ∀ k, a ≤ k → k < j → AsksAt steps slot k → ∀ s, w.readAt steps source k ≠ .ok s

/-- Step `k` asks the slot and finds the schema `s` at the source, and no question since step `a`
    found one before. -/
structure FirstRead (w : Workspace) (steps : List Step) (slot : Slot) (source : Option Path)
    (a k : Nat) (s : Schema) : Prop where
  le : a ≤ k
  asks : AsksAt steps slot k
  reads : w.readAt steps source k = .ok s
  first : w.NoRead steps slot source a k

/-- The instance of a schema that is read at step `k`. -/
def instanceAt (w : Workspace) (steps : List Step) (k : Nat) (s : Schema) : SchemaInstance :=
  ⟨(w.atStep steps k).readings, s⟩

/-- What a handle on a source is before step `j`, if it is new at step `a`: empty as long as no
    reading succeeded, and from then on it keeps the instance of the first one that did. -/
def Since (w : Workspace) (steps : List Step) (slot : Slot) (source : Option Path) (a j : Nat)
    (h : SchemaHandle) : Prop :=
  (w.NoRead steps slot source a j ∧ h = ⟨source, none⟩) ∨
  ∃ k s, k < j ∧ w.FirstRead steps slot source a k s ∧
    h = ⟨source, some (w.instanceAt steps k s)⟩

section
variable {w : Workspace} {steps : List Step} {step : Step} {slot : Slot} {source : Option Path}
  {h : SchemaHandle} {a b j k : Nat} {s : Schema}

/-! ## Positions -/

theorem atStep_succ (hstep : steps[j]? = some step) :
    w.atStep steps (j + 1) = ((w.atStep steps j).run step).workspace := by
  simp only [atStep, List.take_add_one, hstep, Option.toList_some, List.foldl_append,
    List.foldl_cons, List.foldl_nil]

theorem atStep_of_end (hend : steps[j]? = none) : w.atStep steps (j + 1) = w.atStep steps j := by
  simp only [atStep, List.take_add_one, hend, Option.toList_none, List.append_nil]

theorem runAll_getElem? (w : Workspace) (steps : List Step) (j : Nat) :
    (w.runAll steps)[j]? = steps[j]?.map (w.atStep steps j).run := by
  induction steps generalizing w j with
  | nil => rfl
  | cons first rest ih =>
    cases j with
    | zero => rfl
    | succ j => exact ih (w.run first).workspace j

theorem resultAt?_eq (hstep : steps[j]? = some step) :
    w.resultAt? steps j = some ((w.atStep steps j).run step).result := by
  simp only [resultAt?, runAll_getElem?, hstep, Option.map_some]

theorem exists_step_of_resultAt? {r : Except StepFault Reply}
    (hr : w.resultAt? steps j = some r) :
    ∃ step, steps[j]? = some step ∧ ((w.atStep steps j).run step).result = r := by
  cases hstep : steps[j]? with
  | none => simp [resultAt?, runAll_getElem?, hstep] at hr
  | some step =>
    rw [resultAt?_eq hstep] at hr
    exact ⟨step, rfl, Option.some.inj hr⟩

theorem readings_atStep_succ (w : Workspace) (steps : List Step) (j : Nat) :
    (w.atStep steps j).readings ≤ (w.atStep steps (j + 1)).readings := by
  cases hstep : steps[j]? with
  | none =>
    rw [atStep_of_end hstep]
  | some step =>
    rw [atStep_succ hstep]
    exact readings_run _ step

theorem readings_atStep_mono (w : Workspace) (steps : List Step) (h : j ≤ k) :
    (w.atStep steps j).readings ≤ (w.atStep steps k).readings :=
  monotone_nat_of_le_succ (readings_atStep_succ w steps) h

theorem sound_atStep (hw : w.Sound) (j : Nat) : (w.atStep steps j).Sound := by
  induction j with
  | zero => exact hw
  | succ j ih =>
    cases hstep : steps[j]? with
    | none =>
      rw [atStep_of_end hstep]
      exact ih
    | some step =>
      rw [atStep_succ hstep]
      exact sound_run ih

/-! ## What a slot holds -/

theorem NoRead.succ_of_no_read (h : w.NoRead steps slot source a j)
    (hno : AsksAt steps slot j → ∀ s, w.readAt steps source j ≠ .ok s) :
    w.NoRead steps slot source a (j + 1) := by
  intro k hak hkj hasks
  rcases Nat.lt_succ_iff_lt_or_eq.1 hkj with hlt | rfl
  · exact h k hak hlt hasks
  · exact hno hasks

theorem FirstRead.unique {k' : Nat} {s' : Schema} (h : w.FirstRead steps slot source a k s)
    (h' : w.FirstRead steps slot source a k' s') : k = k' ∧ s = s' := by
  obtain rfl : k = k' := by
    rcases Nat.lt_trichotomy k k' with hlt | heq | hgt
    · exact absurd h.reads (h'.first k h.le hlt h.asks s)
    · exact heq
    · exact absurd h'.reads (h.first k' h'.le hgt h'.asks s')
  exact ⟨rfl, Except.ok.inj (h.reads.symm.trans h'.reads)⟩

structure AsksHandle (w : Workspace) (steps : List Step) (slot : Slot) (j : Nat) (step : Step)
    (h : SchemaHandle) : Prop where
  taken : steps[j]? = some step
  asks : step.asks? = some slot
  handle : (w.atStep steps j).askedHandle? step = some h

namespace AsksHandle

theorem asksAt (hasks : w.AsksHandle steps slot j step h) : AsksAt steps slot j :=
  ⟨step, hasks.taken, hasks.asks⟩

theorem resultAt? (hasks : w.AsksHandle steps slot j step h) :
    w.resultAt? steps j = some (step.answer ((w.atStep steps j).fetch h).result) := by
  rw [resultAt?_eq hasks.taken, (run_of_asked hasks.asks hasks.handle).1]

theorem handleIn_succ (hasks : w.AsksHandle steps slot j step h) :
    (w.atStep steps (j + 1)).handleIn slot = some ((w.atStep steps j).fetch h).handle := by
  rw [atStep_succ hasks.taken, (run_of_asked hasks.asks hasks.handle).2, handleIn_putHandle,
    if_pos rfl]

end AsksHandle

theorem asksHandle_of_handleIn (hstep : steps[j]? = some step) (hasks : step.asks? = some slot)
    (hh : (w.atStep steps j).handleIn slot = some h) : w.AsksHandle steps slot j step h := by
  refine ⟨hstep, hasks, ?_⟩
  unfold askedHandle?
  rw [hasks]
  cases slot with
  | named name => exact hh
  | default =>
    have hdefault : (w.atStep steps j).default = some h := hh
    simp only [defaultHandle, hdefault]
    rfl

/-- A question leaves a handle as it is to be: the first reading that succeeds is kept. -/
theorem since_fetch (haj : a ≤ j) (hasks : AsksAt steps slot j)
    (hsince : w.Since steps slot source a j h) :
    w.Since steps slot source a (j + 1) ((w.atStep steps j).fetch h).handle := by
  rcases hsince with ⟨hno, rfl⟩ | ⟨k, s, hkj, hfirst, rfl⟩
  · cases hread : w.readAt steps source j with
    | ok s =>
      refine .inr ⟨j, s, Nat.lt_succ_self j, ⟨haj, hasks, hread, hno⟩, ?_⟩
      rw [fetch_of_read hread]
      rfl
    | error fault =>
      refine .inl ⟨hno.succ_of_no_read ?_, ?_⟩
      · intro _ s hs
        rw [hread] at hs
        cases hs
      · cases fault with
        | refused r => rw [fetch_of_refused hread]
        | raised e => rw [fetch_of_raised hread]
  · refine .inr ⟨k, s, Nat.lt_succ_of_lt hkj, hfirst, ?_⟩
    rw [fetch_of_stored rfl]

theorem since_of_no_question (hno : ¬ AsksAt steps slot j)
    (hsince : w.Since steps slot source a j h) : w.Since steps slot source a (j + 1) h := by
  rcases hsince with ⟨hnone, hh⟩ | ⟨k, s, hkj, hfirst, hh⟩
  · exact .inl ⟨hnone.succ_of_no_read fun hasks => absurd hasks hno, hh⟩
  · exact .inr ⟨k, s, Nat.lt_succ_of_lt hkj, hfirst, hh⟩

/-- One step: a slot that is not renewed goes on holding a handle on the source. -/
theorem since_succ (haj : a ≤ j) (hkept : Unrenewed steps slot j (j + 1))
    (hh : (w.atStep steps j).handleIn slot = some h) (hsince : w.Since steps slot source a j h) :
    ∃ h', (w.atStep steps (j + 1)).handleIn slot = some h' ∧
      w.Since steps slot source a (j + 1) h' := by
  cases hstep : steps[j]? with
  | none =>
    refine ⟨h, by rw [atStep_of_end hstep, hh], since_of_no_question ?_ hsince⟩
    rintro ⟨step, hsome, -⟩
    rw [hstep] at hsome
    cases hsome
  | some step =>
    by_cases hasks : step.asks? = some slot
    · have hhandle := asksHandle_of_handleIn hstep hasks hh
      exact ⟨_, hhandle.handleIn_succ, since_fetch haj hhandle.asksAt hsince⟩
    · have hrenews := hkept j step (Nat.le_refl j) (Nat.lt_succ_self j) hstep
      refine ⟨h, by rw [atStep_succ hstep, handleIn_run hasks hrenews, hh],
        since_of_no_question ?_ hsince⟩
      rintro ⟨other, hother, hasks'⟩
      rw [Option.some.inj (hstep.symm.trans hother)] at hasks
      exact hasks hasks'

/-- A slot that is not renewed holds a handle on the source all the time. -/
theorem since_of_holds (hab : a ≤ b) (hbj : b ≤ j) (hkept : Unrenewed steps slot b j)
    (hh : (w.atStep steps b).handleIn slot = some h) (hsince : w.Since steps slot source a b h) :
    ∃ h', (w.atStep steps j).handleIn slot = some h' ∧ w.Since steps slot source a j h' := by
  induction j, hbj using Nat.le_induction with
  | base => exact ⟨h, hh, hsince⟩
  | succ j hbj ih =>
    obtain ⟨h', hh', hsince'⟩ := ih fun l step hl hlj => hkept l step hl (Nat.lt_succ_of_lt hlj)
    refine since_succ (Nat.le_trans hab hbj) ?_ hh' hsince'
    intro l step hl hlj
    exact hkept l step (Nat.le_trans hbj hl) hlj

/-! ## What a handle answers -/

/-- From the first reading that succeeds on, its instance is answered. -/
theorem result_of_first (hasks : w.AsksHandle steps slot j step h)
    (hsince : w.Since steps slot source a j h) (hfirst : w.FirstRead steps slot source a k s)
    (hkj : k ≤ j) :
    w.resultAt? steps j = some (step.answer (.ok (w.instanceAt steps k s))) := by
  rw [hasks.resultAt?]
  rcases hsince with ⟨hno, rfl⟩ | ⟨k', s', -, hfirst', rfl⟩
  · -- nothing was read before, so it is this question that reads
    obtain rfl : k = j := by
      rcases Nat.lt_or_eq_of_le hkj with hlt | heq
      · exact absurd hfirst.reads (hno k hfirst.le hlt hfirst.asks s)
      · exact heq
    rw [fetch_of_read hfirst.reads]
    rfl
  · obtain ⟨rfl, rfl⟩ := hfirst.unique hfirst'
    rw [fetch_of_stored rfl]

theorem Since.eq_of_noRead (hsince : w.Since steps slot source a j h)
    (hno : w.NoRead steps slot source a j) : h = ⟨source, none⟩ := by
  rcases hsince with ⟨-, rfl⟩ | ⟨k, s, hkj, hfirst, -⟩
  · rfl
  · exact absurd hfirst.reads (hno k hfirst.le hkj hfirst.asks s)

theorem Since.source_eq (hsince : w.Since steps slot source a j h) : h.source = source := by
  rcases hsince with ⟨-, rfl⟩ | ⟨k, s, -, -, rfl⟩ <;> rfl

theorem stores_of_read (hasks : w.AsksHandle steps slot j step ⟨source, none⟩)
    (hread : w.readAt steps source j = .ok s) :
    (w.atStep steps (j + 1)).Stores slot (w.instanceAt steps j s) := by
  refine ⟨_, hasks.handleIn_succ, ?_⟩
  rw [fetch_of_read hread]
  rfl

/-- Before that, what is refused gives a new empty schema, and the handle stays empty. -/
theorem result_of_refused {r : Refusal} (hasks : w.AsksHandle steps slot j step ⟨source, none⟩)
    (hread : w.readAt steps source j = .error (.refused r)) :
    w.resultAt? steps j = some (step.answer (.ok (w.instanceAt steps j Schema.fallback))) ∧
      (w.atStep steps (j + 1)).handleIn slot = some ⟨source, none⟩ := by
  rw [hasks.resultAt?, hasks.handleIn_succ, fetch_of_refused hread]
  exact ⟨rfl, rfl⟩

theorem result_of_raised {e : Raised} (hasks : w.AsksHandle steps slot j step ⟨source, none⟩)
    (hread : w.readAt steps source j = .error (.raised e)) :
    w.resultAt? steps j = some (.error (.load (.raised e))) ∧
      (w.atStep steps (j + 1)).handleIn slot = some ⟨source, none⟩ := by
  rw [hasks.resultAt?, hasks.handleIn_succ, fetch_of_raised hread]
  exact ⟨rfl, rfl⟩

/-! ## One instance -/

/-- What a slot keeps later it keeps now, if it has been read by now. -/
theorem stores_of_stores_succ {i : SchemaInstance}
    (hread : i.number < (w.atStep steps j).readings)
    (hi : (w.atStep steps (j + 1)).Stores slot i) : (w.atStep steps j).Stores slot i := by
  cases hstep : steps[j]? with
  | none => rwa [atStep_of_end hstep] at hi
  | some step =>
    rw [atStep_succ hstep] at hi
    rcases stores_run hi with ⟨hold, -⟩ | ⟨-, hnumber, -, -⟩
    · exact hold
    · omega

theorem stores_of_stores_later {i : SchemaInstance} (hbj : b ≤ j)
    (hread : i.number < (w.atStep steps b).readings)
    (hi : (w.atStep steps j).Stores slot i) : (w.atStep steps b).Stores slot i := by
  -- back from step `j`: an instance that is not new was kept one step earlier
  induction j, hbj using Nat.le_induction with
  | base => exact hi
  | succ j hbj ih =>
    refine ih (stores_of_stores_succ ?_ hi)
    exact Nat.lt_of_lt_of_le hread (readings_atStep_mono w steps hbj)

theorem number_lt_succ (hw : w.Sound) {i : SchemaInstance}
    (hi : w.resultAt? steps j = some (.ok (.schema i))) :
    i.number < (w.atStep steps (j + 1)).readings := by
  obtain ⟨step, hstep, hresult⟩ := exists_step_of_resultAt? hi
  rw [atStep_succ hstep]
  rcases number_of_answer hresult with ⟨slot, -, hstores⟩ | ⟨hnumber, hreadings⟩
  · exact Nat.lt_of_lt_of_le ((sound_atStep hw j).read slot i hstores) (readings_run _ step)
  · omega

/-- An instance that has been read by step `b` is answered later only by the slot that keeps it all
    the time. -/
theorem kept_of_answer {i : SchemaInstance} (hread : i.number < (w.atStep steps b).readings)
    (hbk : b ≤ k) (hi : w.resultAt? steps k = some (.ok (.schema i))) :
    ∃ slot, AsksAt steps slot k ∧ ∀ l, b ≤ l → l ≤ k → (w.atStep steps l).Stores slot i := by
  obtain ⟨step, hstep, hresult⟩ := exists_step_of_resultAt? hi
  have hlt : i.number < (w.atStep steps k).readings :=
    Nat.lt_of_lt_of_le hread (readings_atStep_mono w steps hbk)
  rcases number_of_answer hresult with ⟨slot, hasks, hstores⟩ | ⟨hnumber, -⟩
  · refine ⟨slot, ⟨step, hstep, hasks⟩, ?_⟩
    intro l hbl hlk
    refine stores_of_stores_later hlk ?_ hstores
    exact Nat.lt_of_lt_of_le hread (readings_atStep_mono w steps hbl)
  · omega

theorem unrenewed_of_stores {i : SchemaInstance}
    (h : ∀ l, b ≤ l → l ≤ k → (w.atStep steps l).Stores slot i) : Unrenewed steps slot b k := by
  intro l step hbl hlk hstep hrenews
  have hnext := h (l + 1) (by omega) hlk
  rw [atStep_succ hstep] at hnext
  exact not_stores_of_renewed hrenews i hnext

/-- Two steps answer one instance only if both ask one slot, and this keeps it in between. -/
theorem kept_between (hw : w.Sound) {i i' : SchemaInstance} (hjk : j < k)
    (hi : w.resultAt? steps j = some (.ok (.schema i)))
    (hi' : w.resultAt? steps k = some (.ok (.schema i'))) (heq : i.number = i'.number) :
    i = i' ∧ ∃ slot, AsksAt steps slot j ∧ AsksAt steps slot k ∧
      Unrenewed steps slot (j + 1) k := by
  obtain ⟨slot, hasks', hkept⟩ := kept_of_answer (heq ▸ number_lt_succ hw hi) hjk hi'
  -- right after the earlier step the slot keeps it: it did before, or the step put it there
  obtain ⟨step, hstep, hresult⟩ := exists_step_of_resultAt? hi
  have hnext := hkept (j + 1) (Nat.le_refl _) hjk
  rw [atStep_succ hstep] at hnext
  have hearlier : i = i' ∧ step.asks? = some slot := by
    rcases stores_run hnext with ⟨hold, -⟩ | ⟨hasks, hnumber, -, hanswer⟩
    · have hlt := (sound_atStep hw j).read slot i' hold
      rcases number_of_answer hresult with ⟨other, hasks, hstores⟩ | ⟨hnumber, -⟩
      · obtain rfl := (sound_atStep hw j).apart slot other i' i hold hstores heq.symm
        exact ⟨hstores.unique hold, hasks⟩
      · omega
    · rw [hresult] at hanswer
      exact ⟨(Except.ok.inj (eq_of_answer hanswer.symm)).symm, hasks⟩
  exact ⟨hearlier.1, slot, ⟨step, hstep, hearlier.2⟩, hasks', unrenewed_of_stores hkept⟩

theorem le_of_answer (hw : w.Sound) {i : SchemaInstance}
    (hi : w.resultAt? steps j = some (.ok (.schema i)))
    (hnumber : i.number = (w.atStep steps k).readings) : k ≤ j := by
  by_contra hlt
  have hread := number_lt_succ hw hi
  have hmono := readings_atStep_mono w steps (Nat.succ_le_of_lt (Nat.lt_of_not_le hlt))
  exact absurd hread (by rw [hnumber]; exact Nat.not_lt.2 hmono)

/-- No other step answers the empty schema that stands in for a refused one. -/
theorem eq_of_answer_fallback (hw : w.Sound) {r : Refusal}
    (hasks : w.AsksHandle steps slot j step ⟨source, none⟩)
    (hread : w.readAt steps source j = .error (.refused r)) {i : SchemaInstance}
    (hi : w.resultAt? steps k = some (.ok (.schema i)))
    (hnumber : i.number = (w.instanceAt steps j Schema.fallback).number) : k = j := by
  have hjk := le_of_answer hw hi hnumber
  rcases Nat.lt_or_eq_of_le hjk with hlt | heq
  · exfalso
    have hsucc : (w.atStep steps (j + 1)).readings = (w.atStep steps j).readings + 1 := by
      rw [atStep_succ hasks.taken, (run_of_asked hasks.asks hasks.handle).2, readings_putHandle,
        fetch_of_refused hread]
    have hlast : i.number = (w.atStep steps j).readings := hnumber
    obtain ⟨other, -, hkept⟩ := kept_of_answer (b := j + 1) (by omega) hlt hi
    -- a slot that keeps it after step `j` was asked by it, and is still empty
    have hstores := hkept (j + 1) (Nat.le_refl _) hlt
    have hnew : ¬ (w.atStep steps j).Stores other i := by
      intro hold
      have := (sound_atStep hw j).read other i hold
      omega
    rw [atStep_succ hasks.taken] at hstores
    rcases stores_run hstores with ⟨hold, -⟩ | ⟨hother, -, -, -⟩
    · exact hnew hold
    · obtain rfl := Option.some.inj (hasks.asks.symm.trans hother)
      obtain ⟨handle, hhandle, hstored⟩ := hkept (j + 1) (Nat.le_refl _) hlt
      rw [(result_of_refused hasks hread).2] at hhandle
      rw [← Option.some.inj hhandle] at hstored
      cases hstored
  · exact heq.symm

end

end Workspace
end ConfigLint
